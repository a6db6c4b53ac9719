import LibIso15118.Message.Datatypes

set_option autoImplicit false

namespace LibIso15118

/-- `message_20::Type` -/
inductive MessageType where
  | none
  | supportedAppProtocolReq
  | supportedAppProtocolRes
  | sessionSetupReq
  | sessionSetupRes
  | authorizationSetupReq
  | authorizationSetupRes
  | authorizationReq
  | authorizationRes
  | serviceDiscoveryReq
  | serviceDiscoveryRes
  | serviceDetailReq
  | serviceDetailRes
  | serviceSelectionReq
  | serviceSelectionRes
  | dcChargeParameterDiscoveryReq
  | dcChargeParameterDiscoveryRes
  | scheduleExchangeReq
  | scheduleExchangeRes
  | dcCableCheckReq
  | dcCableCheckRes
  | dcPreChargeReq
  | dcPreChargeRes
  | powerDeliveryReq
  | powerDeliveryRes
  | dcChargeLoopReq
  | dcChargeLoopRes
  | dcWeldingDetectionReq
  | dcWeldingDetectionRes
  | sessionStopReq
  | sessionStopRes
  | acChargeParameterDiscoveryReq
  | acChargeParameterDiscoveryRes
  | acChargeLoopReq
  | acChargeLoopRes
  deriving DecidableEq

namespace Datatypes

inductive AuthStatus where
  | accepted
  | pending
  | rejected
  deriving DecidableEq

structure ContractCertificateChain where
  certificate : StdString
  subCertificates : List StdString

inductive AsReqAuthorizationMode where
  | eim
  | pnc (id : StdString) (genChallenge : GenChallenge) (chain : ContractCertificateChain)

inductive AsResAuthorizationMode where
  | eim
  | pnc (genChallenge : GenChallenge) (supportedProviders : Option (List StdString))

structure Service where
  serviceId : ServiceCategory
  freeService : Bool
  deriving DecidableEq

structure VasService where
  serviceId : UInt16
  freeService : Bool
  deriving DecidableEq

inductive ParameterValue where
  | bool (value : Bool)
  | int8 (value : Int8)
  | int16 (value : Int16)
  | int32 (value : Int32)
  | name (value : StdString)
  | rational (value : RationalNumber)
  deriving DecidableEq

structure Parameter where
  name : StdString
  value : ParameterValue
  deriving DecidableEq

structure ParameterSet where
  id : UInt16
  parameter : List Parameter
  deriving DecidableEq

abbrev ServiceParameterList := List ParameterSet

structure SelectedService where
  serviceId : ServiceCategory
  parameterSetId : UInt16
  deriving DecidableEq

structure VasSelectedService where
  serviceId : UInt16
  parameterSetId : UInt16
  deriving DecidableEq

abbrev VasSelectedServiceList := List VasSelectedService

structure DcCpdReqEnergyTransferMode where
  maxChargePower : RationalNumber := {}
  minChargePower : RationalNumber := {}
  maxChargeCurrent : RationalNumber := {}
  minChargeCurrent : RationalNumber := {}
  maxVoltage : RationalNumber := {}
  minVoltage : RationalNumber := {}
  targetSoc : Option UInt8 := none

structure BptDcCpdReqEnergyTransferMode extends DcCpdReqEnergyTransferMode where
  maxDischargePower : RationalNumber := {}
  minDischargePower : RationalNumber := {}
  maxDischargeCurrent : RationalNumber := {}
  minDischargeCurrent : RationalNumber := {}

structure DcCpdResEnergyTransferMode where
  maxChargePower : RationalNumber := {}
  minChargePower : RationalNumber := {}
  maxChargeCurrent : RationalNumber := {}
  minChargeCurrent : RationalNumber := {}
  maxVoltage : RationalNumber := {}
  minVoltage : RationalNumber := {}
  powerRampLimit : Option RationalNumber := none

structure BptDcCpdResEnergyTransferMode extends DcCpdResEnergyTransferMode where
  maxDischargePower : RationalNumber := {}
  minDischargePower : RationalNumber := {}
  maxDischargeCurrent : RationalNumber := {}
  minDischargeCurrent : RationalNumber := {}

inductive DcCpdReqTransferMode where
  | dc (mode : DcCpdReqEnergyTransferMode)
  | bpt (mode : BptDcCpdReqEnergyTransferMode)

inductive DcCpdResTransferMode where
  | dc (mode : DcCpdResEnergyTransferMode)
  | bpt (mode : BptDcCpdResEnergyTransferMode)

structure AcCpdReqEnergyTransferMode where
  maxChargePower : RationalNumber := {}
  maxChargePowerL2 : Option RationalNumber := none
  maxChargePowerL3 : Option RationalNumber := none
  minChargePower : RationalNumber := {}
  minChargePowerL2 : Option RationalNumber := none
  minChargePowerL3 : Option RationalNumber := none

structure BptAcCpdReqEnergyTransferMode extends AcCpdReqEnergyTransferMode where
  maxDischargePower : RationalNumber := {}
  maxDischargePowerL2 : Option RationalNumber := none
  maxDischargePowerL3 : Option RationalNumber := none
  minDischargePower : RationalNumber := {}
  minDischargePowerL2 : Option RationalNumber := none
  minDischargePowerL3 : Option RationalNumber := none

structure EvReactivePowerLimits where
  maxChargeReactivePower : RationalNumber := {}
  maxChargeReactivePowerL2 : Option RationalNumber := none
  maxChargeReactivePowerL3 : Option RationalNumber := none
  minChargeReactivePower : Option RationalNumber := none
  minChargeReactivePowerL2 : Option RationalNumber := none
  minChargeReactivePowerL3 : Option RationalNumber := none
  maxDischargeReactivePower : RationalNumber := {}
  maxDischargeReactivePowerL2 : Option RationalNumber := none
  maxDischargeReactivePowerL3 : Option RationalNumber := none
  minDischargeReactivePower : Option RationalNumber := none
  minDischargeReactivePowerL2 : Option RationalNumber := none
  minDischargeReactivePowerL3 : Option RationalNumber := none

structure DerAcCpdReqEnergyTransferMode extends BptAcCpdReqEnergyTransferMode where
  processing : Processing := .finished
  sessionTotalDischargeEnergyAvailable : Option RationalNumber := none
  reactivePowerLimits : Option EvReactivePowerLimits := none

structure AcCpdResEnergyTransferMode where
  maxChargePower : RationalNumber := {}
  maxChargePowerL2 : Option RationalNumber := none
  maxChargePowerL3 : Option RationalNumber := none
  minChargePower : RationalNumber := {}
  minChargePowerL2 : Option RationalNumber := none
  minChargePowerL3 : Option RationalNumber := none
  nominalFrequency : RationalNumber := {}
  maxPowerAsymmetry : Option RationalNumber := none
  powerRampLimitation : Option RationalNumber := none
  presentActivePower : Option RationalNumber := none
  presentActivePowerL2 : Option RationalNumber := none
  presentActivePowerL3 : Option RationalNumber := none

structure BptAcCpdResEnergyTransferMode extends AcCpdResEnergyTransferMode where
  maxDischargePower : RationalNumber := {}
  maxDischargePowerL2 : Option RationalNumber := none
  maxDischargePowerL3 : Option RationalNumber := none
  minDischargePower : RationalNumber := {}
  minDischargePowerL2 : Option RationalNumber := none
  minDischargePowerL3 : Option RationalNumber := none

inductive EvOperatingMode where
  | gridFollowing
  | gridForming
  deriving DecidableEq

inductive GridConnectionMode where
  | gridConnected
  | gridIslanded
  deriving DecidableEq

structure DerSetpointExcitation where
  setpointValue : RationalNumber := {}
  excitation : Option DerPowerFactorExcitation := none

structure DerCurveDataPoint where
  xValue : RationalNumber
  yValue : DerSetpointExcitation

structure DerCurve where
  xUnit : DerCurveDataUnit
  yUnit : DerCurveDataUnit
  curveDataPoints : List DerCurveDataPoint := []
  minCosPhi : Option RationalNumber := none
  lockValueUnit : Option DerCurveDataUnit := none
  lockInValue : Option RationalNumber := none
  lockOutValue : Option RationalNumber := none
  pt1ResponseReactivePower : Bool := false
  stepResponseTimeConstantReactivePower : RationalNumber := {}
  intentionalDelay : Option RationalNumber := none

structure FrequencyWatt where
  fStart : RationalNumber := {}
  fStop : RationalNumber := {}
  intentionalDelayFStop : Option UInt16 := none
  slope : RationalNumber := {}
  deactivationTime : Option UInt16 := none
  intentionalDelayPowerControl : Option UInt16 := none
  powerReference : DerPowerReference := .maximumDischargePower
  hysteresisControl : Bool := false
  powerUpRamp : Option UInt16 := none
  pt1ResponseActivePower : Bool := false
  stepResponseTimeConstantActivePower : RationalNumber := {}

structure VoltWatt where
  powerReference : DerPowerReference := .maximumDischargePower
  uStart : RationalNumber := {}
  uStop : RationalNumber := {}
  pt1ResponseActivePower : Bool := false
  stepResponseTimeConstantActivePower : RationalNumber := {}
  intentionalDelayPowerControl : Option UInt32 := none

structure FaultRideThrough where
  voltageLimitStartFrt : RationalNumber := {}
  voltageLimitStopFrt : Option RationalNumber := none
  voltageRecoveryLimit : Option RationalNumber := none
  voltageRideThroughPositiveCurveKFactor : Option RationalNumber := none
  voltageRideThroughNegativeCurveKFactor : Option RationalNumber := none
  pt1ResponseActivePower : Bool := false
  stepResponseTimeConstantActivePower : RationalNumber := {}
  pt1ResponseReactivePower : Bool := false
  stepResponseTimeConstantReactivePower : RationalNumber := {}

structure ZeroCurrent where
  overVoltageLimit : Option RationalNumber := none
  underVoltageLimit : Option RationalNumber := none
  overVoltageRecoveryLimit : Option RationalNumber := none
  underVoltageRecoveryLimit : Option RationalNumber := none
  pt1ResponseActivePower : Bool := false
  stepResponseTimeConstantActivePower : RationalNumber := {}
  pt1ResponseReactivePower : Bool := false
  stepResponseTimeConstantReactivePower : RationalNumber := {}

structure ReactivePowerSupport where
  voltVar : Option DerCurve := none
  wattVar : Option DerCurve := none
  wattCosPhi : Option DerCurve := none

structure ActivePowerSupport where
  underFrequencyWatt : Option FrequencyWatt := none
  overFrequencyWatt : Option FrequencyWatt := none
  voltWatt : Option VoltWatt := none

structure DerControl where
  overvoltageFaultRideThrough : Option FaultRideThrough := none
  undervoltageFaultRideThrough : Option FaultRideThrough := none
  zeroCurrent : Option ZeroCurrent := none
  reactivePowerSupport : Option ReactivePowerSupport := none
  activePowerSupport : Option ActivePowerSupport := none
  maximumLevelDcInjection : Option RationalNumber := none

structure DerAcCpdResEnergyTransferMode extends AcCpdResEnergyTransferMode where
  nominalChargePower : RationalNumber := {}
  nominalChargePowerL2 : Option RationalNumber := none
  nominalChargePowerL3 : Option RationalNumber := none
  nominalDischargePower : RationalNumber := {}
  nominalDischargePowerL2 : Option RationalNumber := none
  nominalDischargePowerL3 : Option RationalNumber := none
  maxDischargePower : RationalNumber := {}
  maxDischargePowerL2 : Option RationalNumber := none
  maxDischargePowerL3 : Option RationalNumber := none
  operatingMode : EvOperatingMode := .gridFollowing
  gridConnectionMode : GridConnectionMode := .gridConnected
  derControl : DerControl := {}

inductive AcCpdReqTransferMode where
  | ac (mode : AcCpdReqEnergyTransferMode)
  | bpt (mode : BptAcCpdReqEnergyTransferMode)
  | der (mode : DerAcCpdReqEnergyTransferMode)

inductive AcCpdResTransferMode where
  | ac (mode : AcCpdResEnergyTransferMode)
  | bpt (mode : BptAcCpdResEnergyTransferMode)
  | der (mode : DerAcCpdResEnergyTransferMode)

structure TaxRule where
  taxRuleId : UInt32
  taxRuleName : Option StdString := none
  taxRate : RationalNumber
  taxIncludedInPrice : Option Bool := none
  appliesToEnergyFee : Bool
  appliesToParkingFee : Bool
  appliesToOverstayFee : Bool
  appliesToMinimumMaximumCost : Bool

structure PriceRule where
  energyFee : RationalNumber
  parkingFee : Option RationalNumber := none
  parkingFeePeriod : Option UInt32 := none
  carbonDioxideEmission : Option UInt16 := none
  renewableGenerationPercentage : Option UInt8 := none
  powerRangeStart : RationalNumber

structure PriceRuleStack where
  duration : UInt32
  priceRule : Vector PriceRule 8

structure AdditionalService where
  serviceName : StdString
  serviceFee : RationalNumber

structure OverstayRule where
  overstayRuleDescription : Option StdString := none
  startTime : UInt32
  overstayFee : RationalNumber
  overstayFeePeriod : UInt32

structure OverstayRulesList where
  overstayTimeThreshold : Option UInt32 := none
  overstayPowerThreshold : Option RationalNumber := none
  overstayRule : List OverstayRule := []

structure AbsolutePriceSchedule where
  id : Option StdString := none
  timeAnchor : UInt64
  priceScheduleId : UInt32
  priceScheduleDescription : Option StdString := none
  currency : StdString
  language : StdString
  priceAlgorithm : StdString
  minimumCost : Option RationalNumber := none
  maximumCost : Option RationalNumber := none
  taxRules : Option (Vector TaxRule 10) := none
  priceRuleStacks : Vector PriceRuleStack 1024
  overstayRules : Option OverstayRulesList := none
  additionalSelectedServices : Option (Vector AdditionalService 5) := none

structure PriceLevelScheduleEntry where
  duration : UInt32
  priceLevel : UInt8

structure PriceLevelSchedule where
  id : Option StdString := none
  timeAnchor : UInt64
  priceScheduleId : UInt32
  priceScheduleDescription : Option StdString := none
  numberOfPriceLevels : UInt8
  priceLevelScheduleEntries : List PriceLevelScheduleEntry := []

inductive PriceSchedule where
  | none
  | absolute (schedule : AbsolutePriceSchedule)
  | priceLevel (schedule : PriceLevelSchedule)

structure DynamicSeReqControlMode where
  departureTime : UInt32 := 0
  minimumSoc : Option UInt8 := none
  targetSoc : Option UInt8 := none
  targetEnergy : RationalNumber := {}
  maxEnergy : RationalNumber := {}
  minEnergy : RationalNumber := {}
  maxV2xEnergy : Option RationalNumber := none
  minV2xEnergy : Option RationalNumber := none

structure EvPowerScheduleEntry where
  duration : UInt32
  power : RationalNumber

structure EvPowerSchedule where
  timeAnchor : UInt64
  entries : List EvPowerScheduleEntry := []

structure EvPriceRule where
  energyFee : RationalNumber
  powerRangeStart : RationalNumber

structure EvPriceRuleStack where
  duration : UInt32
  priceRules : List EvPriceRule := []

structure EvAbsolutePriceSchedule where
  timeAnchor : UInt64
  currency : StdString
  priceAlgorithm : StdString
  priceRuleStacks : List EvPriceRuleStack := []

structure EvEnergyOffer where
  powerSchedule : EvPowerSchedule
  absolutePriceSchedule : EvAbsolutePriceSchedule

structure ScheduledSeReqControlMode where
  departureTime : Option UInt32 := none
  targetEnergy : Option RationalNumber := none
  maxEnergy : Option RationalNumber := none
  minEnergy : Option RationalNumber := none
  energyOffer : Option EvEnergyOffer := none

structure DynamicSeResControlMode where
  departureTime : Option UInt32 := none
  minimumSoc : Option UInt8 := none
  targetSoc : Option UInt8 := none
  priceSchedule : PriceSchedule := .none

structure PowerSchedule where
  timeAnchor : UInt64 := 0
  availableEnergy : Option RationalNumber := none
  powerTolerance : Option RationalNumber := none
  entries : List PowerScheduleEntry := []

structure ChargingSchedule where
  powerSchedule : PowerSchedule := {}
  priceSchedule : PriceSchedule := .none

structure ScheduleTuple where
  scheduleTupleId : UInt32
  chargingSchedule : ChargingSchedule := {}
  dischargingSchedule : Option ChargingSchedule := none

structure ScheduledSeResControlMode where
  scheduleTuple : List ScheduleTuple := []

inductive SeReqControlMode where
  | dynamic (mode : DynamicSeReqControlMode)
  | scheduled (mode : ScheduledSeReqControlMode)

inductive SeResControlMode where
  | dynamic (mode : DynamicSeResControlMode)
  | scheduled (mode : ScheduledSeResControlMode)

inductive Progress where
  | start
  | stop
  | standby
  | scheduleRenegotiation
  deriving DecidableEq

inductive PowerToleranceAcceptance where
  | notConfirmed
  | confirmed
  deriving DecidableEq

inductive EvpptControlMode where
  | dynamic
  | scheduled (selectedSchedule : UInt32) (acceptance : Option PowerToleranceAcceptance)

structure PowerProfile where
  timeAnchor : UInt64
  controlMode : EvpptControlMode
  entries : List PowerScheduleEntry

inductive ChannelSelection where
  | charge
  | discharge
  deriving DecidableEq

structure ScheduledDcClReqControlMode extends ScheduledClReqControlMode where
  targetCurrent : RationalNumber := {}
  targetVoltage : RationalNumber := {}
  maxChargePower : Option RationalNumber := none
  minChargePower : Option RationalNumber := none
  maxChargeCurrent : Option RationalNumber := none
  maxVoltage : Option RationalNumber := none
  minVoltage : Option RationalNumber := none

structure BptScheduledDcClReqControlMode extends ScheduledDcClReqControlMode where
  maxDischargePower : Option RationalNumber := none
  minDischargePower : Option RationalNumber := none
  maxDischargeCurrent : Option RationalNumber := none

structure DynamicDcClReqControlMode extends DynamicClReqControlMode where
  maxChargePower : RationalNumber := {}
  minChargePower : RationalNumber := {}
  maxChargeCurrent : RationalNumber := {}
  maxVoltage : RationalNumber := {}
  minVoltage : RationalNumber := {}

structure BptDynamicDcClReqControlMode extends DynamicDcClReqControlMode where
  maxDischargePower : RationalNumber := {}
  minDischargePower : RationalNumber := {}
  maxDischargeCurrent : RationalNumber := {}
  maxV2xEnergyRequest : Option RationalNumber := none
  minV2xEnergyRequest : Option RationalNumber := none

inductive DcClReqControlMode where
  | scheduled (mode : ScheduledDcClReqControlMode)
  | bptScheduled (mode : BptScheduledDcClReqControlMode)
  | dynamic (mode : DynamicDcClReqControlMode)
  | bptDynamic (mode : BptDynamicDcClReqControlMode)

structure ScheduledDcClResControlMode where
  maxChargePower : Option RationalNumber := none
  minChargePower : Option RationalNumber := none
  maxChargeCurrent : Option RationalNumber := none
  maxVoltage : Option RationalNumber := none

structure BptScheduledDcClResControlMode extends ScheduledDcClResControlMode where
  maxDischargePower : Option RationalNumber := none
  minDischargePower : Option RationalNumber := none
  maxDischargeCurrent : Option RationalNumber := none
  minVoltage : Option RationalNumber := none

structure DynamicDcClResControlMode extends DynamicClResControlMode where
  maxChargePower : RationalNumber := {}
  minChargePower : RationalNumber := {}
  maxChargeCurrent : RationalNumber := {}
  maxVoltage : RationalNumber := {}

structure BptDynamicDcClResControlMode extends DynamicDcClResControlMode where
  maxDischargePower : RationalNumber := {}
  minDischargePower : RationalNumber := {}
  maxDischargeCurrent : RationalNumber := {}
  minVoltage : RationalNumber := {}

inductive DcClResControlMode where
  | scheduled (mode : ScheduledDcClResControlMode)
  | bptScheduled (mode : BptScheduledDcClResControlMode)
  | dynamic (mode : DynamicDcClResControlMode)
  | bptDynamic (mode : BptDynamicDcClResControlMode)

structure ScheduledAcClReqControlMode extends ScheduledClReqControlMode where
  maxChargePower : Option RationalNumber := none
  maxChargePowerL2 : Option RationalNumber := none
  maxChargePowerL3 : Option RationalNumber := none
  minChargePower : Option RationalNumber := none
  minChargePowerL2 : Option RationalNumber := none
  minChargePowerL3 : Option RationalNumber := none
  presentActivePower : RationalNumber := {}
  presentActivePowerL2 : Option RationalNumber := none
  presentActivePowerL3 : Option RationalNumber := none
  presentReactivePower : Option RationalNumber := none
  presentReactivePowerL2 : Option RationalNumber := none
  presentReactivePowerL3 : Option RationalNumber := none

structure BptScheduledAcClReqControlMode extends ScheduledAcClReqControlMode where
  maxDischargePower : Option RationalNumber := none
  maxDischargePowerL2 : Option RationalNumber := none
  maxDischargePowerL3 : Option RationalNumber := none
  minDischargePower : Option RationalNumber := none
  minDischargePowerL2 : Option RationalNumber := none
  minDischargePowerL3 : Option RationalNumber := none

structure DerScheduledAcClReqControlMode extends BptScheduledAcClReqControlMode where
  maxChargeReactivePower : Option RationalNumber := none
  maxChargeReactivePowerL2 : Option RationalNumber := none
  maxChargeReactivePowerL3 : Option RationalNumber := none
  maxDischargeReactivePower : Option RationalNumber := none
  maxDischargeReactivePowerL2 : Option RationalNumber := none
  maxDischargeReactivePowerL3 : Option RationalNumber := none
  gridEventCondition : UInt8 := 0

structure DynamicAcClReqControlMode extends DynamicClReqControlMode where
  maxChargePower : RationalNumber := {}
  maxChargePowerL2 : Option RationalNumber := none
  maxChargePowerL3 : Option RationalNumber := none
  minChargePower : RationalNumber := {}
  minChargePowerL2 : Option RationalNumber := none
  minChargePowerL3 : Option RationalNumber := none
  presentActivePower : RationalNumber := {}
  presentActivePowerL2 : Option RationalNumber := none
  presentActivePowerL3 : Option RationalNumber := none
  presentReactivePower : RationalNumber := {}
  presentReactivePowerL2 : Option RationalNumber := none
  presentReactivePowerL3 : Option RationalNumber := none

structure BptDynamicAcClReqControlMode extends DynamicAcClReqControlMode where
  maxDischargePower : RationalNumber := {}
  maxDischargePowerL2 : Option RationalNumber := none
  maxDischargePowerL3 : Option RationalNumber := none
  minDischargePower : RationalNumber := {}
  minDischargePowerL2 : Option RationalNumber := none
  minDischargePowerL3 : Option RationalNumber := none
  maxV2xEnergyRequest : Option RationalNumber := none
  minV2xEnergyRequest : Option RationalNumber := none

structure DerDynamicAcClReqControlMode extends BptDynamicAcClReqControlMode where
  maxChargeReactivePower : Option RationalNumber := none
  maxChargeReactivePowerL2 : Option RationalNumber := none
  maxChargeReactivePowerL3 : Option RationalNumber := none
  maxDischargeReactivePower : Option RationalNumber := none
  maxDischargeReactivePowerL2 : Option RationalNumber := none
  maxDischargeReactivePowerL3 : Option RationalNumber := none
  gridEventCondition : UInt8 := 0
  sessionTotalDischargeEnergyAvailable : Option RationalNumber := none

inductive AcClReqControlMode where
  | scheduled (mode : ScheduledAcClReqControlMode)
  | bptScheduled (mode : BptScheduledAcClReqControlMode)
  | derScheduled (mode : DerScheduledAcClReqControlMode)
  | dynamic (mode : DynamicAcClReqControlMode)
  | bptDynamic (mode : BptDynamicAcClReqControlMode)
  | derDynamic (mode : DerDynamicAcClReqControlMode)

structure ScheduledAcClResControlMode where
  targetActivePower : Option RationalNumber := none
  targetActivePowerL2 : Option RationalNumber := none
  targetActivePowerL3 : Option RationalNumber := none
  targetReactivePower : Option RationalNumber := none
  targetReactivePowerL2 : Option RationalNumber := none
  targetReactivePowerL3 : Option RationalNumber := none
  presentActivePower : Option RationalNumber := none
  presentActivePowerL2 : Option RationalNumber := none
  presentActivePowerL3 : Option RationalNumber := none

structure DsoQSetpoint where
  value : RationalNumber := {}
  valueL2 : Option RationalNumber := none
  valueL3 : Option RationalNumber := none
  pt1ResponseReactivePower : Bool := false
  stepResponseTimeConstantReactivePower : RationalNumber := {}

structure DsoCosPhiSetpoint where
  value : RationalNumber := {}
  valueL2 : Option RationalNumber := none
  valueL3 : Option RationalNumber := none
  excitation : DerPowerFactorExcitation := .overExcited
  pt1ResponseReactivePower : Bool := false
  stepResponseTimeConstantReactivePower : RationalNumber := {}

structure DynamicAcClResControlMode extends DynamicClResControlMode where
  targetActivePower : RationalNumber := {}
  targetActivePowerL2 : Option RationalNumber := none
  targetActivePowerL3 : Option RationalNumber := none
  targetReactivePower : Option RationalNumber := none
  targetReactivePowerL2 : Option RationalNumber := none
  targetReactivePowerL3 : Option RationalNumber := none
  presentActivePower : Option RationalNumber := none
  presentActivePowerL2 : Option RationalNumber := none
  presentActivePowerL3 : Option RationalNumber := none

-- The fields that `DER_Scheduled_AC_CLResControlMode` and `DER_Dynamic_AC_CLResControlMode` both
-- add to their base.
structure DerClResLimits where
  maxChargePower : RationalNumber := {}
  maxChargePowerL2 : Option RationalNumber := none
  maxChargePowerL3 : Option RationalNumber := none
  maxDischargePower : RationalNumber := {}
  maxDischargePowerL2 : Option RationalNumber := none
  maxDischargePowerL3 : Option RationalNumber := none
  dsoMaxDischargePower : Option RationalNumber := none
  dsoMaxDischargePowerL2 : Option RationalNumber := none
  dsoMaxDischargePowerL3 : Option RationalNumber := none
  dsoQSetpoint : Option DsoQSetpoint := none
  dsoCosPhiSetpoint : Option DsoCosPhiSetpoint := none

structure DerScheduledAcClResControlMode extends ScheduledAcClResControlMode, DerClResLimits
structure DerDynamicAcClResControlMode extends DynamicAcClResControlMode, DerClResLimits

inductive AcClResControlMode where
  | scheduled (mode : ScheduledAcClResControlMode)
  | bptScheduled (mode : ScheduledAcClResControlMode)
  | derScheduled (mode : DerScheduledAcClResControlMode)
  | dynamic (mode : DynamicAcClResControlMode)
  | bptDynamic (mode : DynamicAcClResControlMode)
  | derDynamic (mode : DerDynamicAcClResControlMode)

end Datatypes

open Datatypes

structure SupportedAppProtocol where
  protocolNamespace : StdString
  versionNumberMajor : UInt32
  versionNumberMinor : UInt32
  schemaId : UInt8
  priority : UInt8
  deriving DecidableEq

structure SupportedAppProtocolRequest where
  appProtocol : List SupportedAppProtocol

inductive SupportedAppProtocolResponseCode where
  | okSuccessfulNegotiation
  | okSuccessfulNegotiationWithMinorDeviation
  | failedNoNegotiation
  deriving DecidableEq

structure SupportedAppProtocolResponse where
  responseCode : SupportedAppProtocolResponseCode := .okSuccessfulNegotiation
  schemaId : Option UInt8 := none

structure SessionSetupRequest where
  header : Header
  evccid : StdString

structure SessionSetupResponse where
  header : Header := {}
  responseCode : ResponseCode := .ok
  evseid : StdString := ""

structure AuthorizationSetupRequest where
  header : Header

structure AuthorizationSetupResponse where
  header : Header := {}
  responseCode : ResponseCode := .ok
  authorizationServices : List Authorization := [.eim]
  certificateInstallationService : Bool := false
  authorizationMode : AsResAuthorizationMode := .eim

structure AuthorizationRequest where
  header : Header
  selectedAuthorizationService : Authorization
  authorizationMode : AsReqAuthorizationMode

structure AuthorizationResponse where
  header : Header := {}
  responseCode : ResponseCode := .ok
  evseProcessing : Processing := .finished

structure ServiceDiscoveryRequest where
  header : Header
  supportedServiceIds : Option (List UInt16)

structure ServiceDiscoveryResponse where
  header : Header := {}
  responseCode : ResponseCode := .ok
  serviceRenegotiationSupported : Bool := false
  energyTransferServiceList : List Service := [⟨.ac, false⟩]
  vasList : Option (List VasService) := none

structure ServiceDetailRequest where
  header : Header
  service : UInt16

structure ServiceDetailResponse where
  header : Header := {}
  responseCode : ResponseCode := .ok
  service : UInt16 := ServiceCategory.dc.value
  serviceParameterList : ServiceParameterList := []

structure ServiceSelectionRequest where
  header : Header
  selectedEnergyTransferService : SelectedService
  selectedVasList : Option VasSelectedServiceList

structure ServiceSelectionResponse where
  header : Header := {}
  responseCode : ResponseCode := .ok

structure DcChargeParameterDiscoveryRequest where
  header : Header
  transferMode : DcCpdReqTransferMode

structure DcChargeParameterDiscoveryResponse where
  header : Header := {}
  responseCode : ResponseCode := .ok
  transferMode : DcCpdResTransferMode := .dc {}

structure AcChargeParameterDiscoveryRequest where
  header : Header
  transferMode : AcCpdReqTransferMode

structure AcChargeParameterDiscoveryResponse where
  header : Header := {}
  responseCode : ResponseCode := .ok
  transferMode : AcCpdResTransferMode := .ac {}

structure ScheduleExchangeRequest where
  header : Header
  maxSupportingPoints : UInt16
  controlMode : SeReqControlMode

structure ScheduleExchangeResponse where
  header : Header := {}
  responseCode : ResponseCode := .ok
  processing : Processing := .finished
  goToPause : Option Bool := none
  controlMode : SeResControlMode := .dynamic {}

structure DcCableCheckRequest where
  header : Header

structure DcCableCheckResponse where
  header : Header := {}
  responseCode : ResponseCode := .ok
  processing : Processing := .ongoing

structure DcPreChargeRequest where
  header : Header
  processing : Processing
  presentVoltage : RationalNumber
  targetVoltage : RationalNumber

structure DcPreChargeResponse where
  header : Header := {}
  responseCode : ResponseCode := .ok
  presentVoltage : RationalNumber := {}

structure PowerDeliveryRequest where
  header : Header := {}
  processing : Processing := .finished
  chargeProgress : Progress := .start
  powerProfile : Option PowerProfile := none
  channelSelection : Option ChannelSelection := none

structure PowerDeliveryResponse where
  header : Header := {}
  responseCode : ResponseCode := .ok
  status : Option EvseStatus := none

structure DcChargeLoopRequest where
  header : Header
  displayParameters : Option DisplayParameters
  meterInfoRequested : Bool
  presentVoltage : RationalNumber
  controlMode : DcClReqControlMode

structure DcChargeLoopResponse where
  header : Header := {}
  responseCode : ResponseCode := .ok
  status : Option EvseStatus := none
  meterInfo : Option MeterInfo := none
  receipt : Option Receipt := none
  presentCurrent : RationalNumber := {}
  presentVoltage : RationalNumber := {}
  powerLimitAchieved : Bool := false
  currentLimitAchieved : Bool := false
  voltageLimitAchieved : Bool := false
  controlMode : DcClResControlMode := .scheduled {}

structure AcChargeLoopRequest where
  header : Header
  displayParameters : Option DisplayParameters
  meterInfoRequested : Bool
  controlMode : AcClReqControlMode

structure AcChargeLoopResponse where
  header : Header := {}
  responseCode : ResponseCode := .ok
  status : Option EvseStatus := none
  meterInfo : Option MeterInfo := none
  receipt : Option Receipt := none
  targetFrequency : Option RationalNumber := none
  controlMode : AcClResControlMode := .scheduled {}

structure DcWeldingDetectionRequest where
  header : Header
  processing : Processing

structure DcWeldingDetectionResponse where
  header : Header := {}
  responseCode : ResponseCode := .ok
  presentVoltage : RationalNumber := {}

structure SessionStopRequest where
  header : Header
  chargingSession : ChargingSession
  evTerminationCode : Option StdString := none
  evTerminationExplanation : Option StdString := none

structure SessionStopResponse where
  header : Header := {}
  responseCode : ResponseCode := .ok

inductive Request where
  | supportedAppProtocol (req : SupportedAppProtocolRequest)
  | sessionSetup (req : SessionSetupRequest)
  | authorizationSetup (req : AuthorizationSetupRequest)
  | authorization (req : AuthorizationRequest)
  | serviceDiscovery (req : ServiceDiscoveryRequest)
  | serviceDetail (req : ServiceDetailRequest)
  | serviceSelection (req : ServiceSelectionRequest)
  | dcChargeParameterDiscovery (req : DcChargeParameterDiscoveryRequest)
  | scheduleExchange (req : ScheduleExchangeRequest)
  | dcCableCheck (req : DcCableCheckRequest)
  | dcPreCharge (req : DcPreChargeRequest)
  | powerDelivery (req : PowerDeliveryRequest)
  | dcChargeLoop (req : DcChargeLoopRequest)
  | dcWeldingDetection (req : DcWeldingDetectionRequest)
  | sessionStop (req : SessionStopRequest)
  | acChargeParameterDiscovery (req : AcChargeParameterDiscoveryRequest)
  | acChargeLoop (req : AcChargeLoopRequest)

inductive Response where
  | supportedAppProtocol (res : SupportedAppProtocolResponse)
  | sessionSetup (res : SessionSetupResponse)
  | authorizationSetup (res : AuthorizationSetupResponse)
  | authorization (res : AuthorizationResponse)
  | serviceDiscovery (res : ServiceDiscoveryResponse)
  | serviceDetail (res : ServiceDetailResponse)
  | serviceSelection (res : ServiceSelectionResponse)
  | dcChargeParameterDiscovery (res : DcChargeParameterDiscoveryResponse)
  | scheduleExchange (res : ScheduleExchangeResponse)
  | dcCableCheck (res : DcCableCheckResponse)
  | dcPreCharge (res : DcPreChargeResponse)
  | powerDelivery (res : PowerDeliveryResponse)
  | dcChargeLoop (res : DcChargeLoopResponse)
  | dcWeldingDetection (res : DcWeldingDetectionResponse)
  | sessionStop (res : SessionStopResponse)
  | acChargeParameterDiscovery (res : AcChargeParameterDiscoveryResponse)
  | acChargeLoop (res : AcChargeLoopResponse)

def Request.type : Request → MessageType
  | .supportedAppProtocol _ => .supportedAppProtocolReq
  | .sessionSetup _ => .sessionSetupReq
  | .authorizationSetup _ => .authorizationSetupReq
  | .authorization _ => .authorizationReq
  | .serviceDiscovery _ => .serviceDiscoveryReq
  | .serviceDetail _ => .serviceDetailReq
  | .serviceSelection _ => .serviceSelectionReq
  | .dcChargeParameterDiscovery _ => .dcChargeParameterDiscoveryReq
  | .scheduleExchange _ => .scheduleExchangeReq
  | .dcCableCheck _ => .dcCableCheckReq
  | .dcPreCharge _ => .dcPreChargeReq
  | .powerDelivery _ => .powerDeliveryReq
  | .dcChargeLoop _ => .dcChargeLoopReq
  | .dcWeldingDetection _ => .dcWeldingDetectionReq
  | .sessionStop _ => .sessionStopReq
  | .acChargeParameterDiscovery _ => .acChargeParameterDiscoveryReq
  | .acChargeLoop _ => .acChargeLoopReq

def Response.type : Response → MessageType
  | .supportedAppProtocol _ => .supportedAppProtocolRes
  | .sessionSetup _ => .sessionSetupRes
  | .authorizationSetup _ => .authorizationSetupRes
  | .authorization _ => .authorizationRes
  | .serviceDiscovery _ => .serviceDiscoveryRes
  | .serviceDetail _ => .serviceDetailRes
  | .serviceSelection _ => .serviceSelectionRes
  | .dcChargeParameterDiscovery _ => .dcChargeParameterDiscoveryRes
  | .scheduleExchange _ => .scheduleExchangeRes
  | .dcCableCheck _ => .dcCableCheckRes
  | .dcPreCharge _ => .dcPreChargeRes
  | .powerDelivery _ => .powerDeliveryRes
  | .dcChargeLoop _ => .dcChargeLoopRes
  | .dcWeldingDetection _ => .dcWeldingDetectionRes
  | .sessionStop _ => .sessionStopRes
  | .acChargeParameterDiscovery _ => .acChargeParameterDiscoveryRes
  | .acChargeLoop _ => .acChargeLoopRes

/-- The header of a request. `SupportedAppProtocolReq` is the only one that carries none. -/
def Request.header? : Request → Option Header
  | .supportedAppProtocol _ => none
  | .sessionSetup req => some req.header
  | .authorizationSetup req => some req.header
  | .authorization req => some req.header
  | .serviceDiscovery req => some req.header
  | .serviceDetail req => some req.header
  | .serviceSelection req => some req.header
  | .dcChargeParameterDiscovery req => some req.header
  | .scheduleExchange req => some req.header
  | .dcCableCheck req => some req.header
  | .dcPreCharge req => some req.header
  | .powerDelivery req => some req.header
  | .dcChargeLoop req => some req.header
  | .dcWeldingDetection req => some req.header
  | .sessionStop req => some req.header
  | .acChargeParameterDiscovery req => some req.header
  | .acChargeLoop req => some req.header

def Response.header? : Response → Option Header
  | .supportedAppProtocol _ => none
  | .sessionSetup res => some res.header
  | .authorizationSetup res => some res.header
  | .authorization res => some res.header
  | .serviceDiscovery res => some res.header
  | .serviceDetail res => some res.header
  | .serviceSelection res => some res.header
  | .dcChargeParameterDiscovery res => some res.header
  | .scheduleExchange res => some res.header
  | .dcCableCheck res => some res.header
  | .dcPreCharge res => some res.header
  | .powerDelivery res => some res.header
  | .dcChargeLoop res => some res.header
  | .dcWeldingDetection res => some res.header
  | .sessionStop res => some res.header
  | .acChargeParameterDiscovery res => some res.header
  | .acChargeLoop res => some res.header

/-- The ISO 15118-20 response code; `SupportedAppProtocolRes` has codes of its own. -/
def Response.code? : Response → Option ResponseCode
  | .supportedAppProtocol _ => none
  | .sessionSetup res => some res.responseCode
  | .authorizationSetup res => some res.responseCode
  | .authorization res => some res.responseCode
  | .serviceDiscovery res => some res.responseCode
  | .serviceDetail res => some res.responseCode
  | .serviceSelection res => some res.responseCode
  | .dcChargeParameterDiscovery res => some res.responseCode
  | .scheduleExchange res => some res.responseCode
  | .dcCableCheck res => some res.responseCode
  | .dcPreCharge res => some res.responseCode
  | .powerDelivery res => some res.responseCode
  | .dcChargeLoop res => some res.responseCode
  | .dcWeldingDetection res => some res.responseCode
  | .sessionStop res => some res.responseCode
  | .acChargeParameterDiscovery res => some res.responseCode
  | .acChargeLoop res => some res.responseCode

/-- FAILED or above, or `Failed_NoNegotiation`. -/
def Response.isFailed : Response → Bool
  | .supportedAppProtocol res => res.responseCode = .failedNoNegotiation
  | res => res.code?.any ResponseCode.isFailed

/-- What `Variant` holds: one of the requests, a message of a response type (only its type is ever
looked at), or nothing when the payload could not be decoded. -/
inductive Variant where
  | request (req : Request)
  | response (res : Response)
  | none

/-- `Variant::get_type` -/
def Variant.getType : Variant → MessageType
  | .request req => req.type
  | .response res => res.type
  | .none => .none

end LibIso15118
