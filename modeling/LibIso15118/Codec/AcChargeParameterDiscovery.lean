import LibIso15118.Codec.DerControl

set_option autoImplicit false

namespace LibIso15118

open Datatypes Codec

instance : Enumeration EvOperatingMode where
  toInt
    | .gridFollowing => 0
    | .gridForming => 1
  enumerators := [.gridFollowing, .gridForming]
  found := by intro value; cases value <;> rfl

instance : Enumeration GridConnectionMode where
  toInt
    | .gridConnected => 0
    | .gridIslanded => 1
  enumerators := [.gridConnected, .gridIslanded]
  found := by intro value; cases value <;> rfl

namespace Iso20.Ac

structure AcCpdReqEnergyTransferModeType where
  evMaximumChargePower : RationalNumberType
  evMaximumChargePowerL2 : Used RationalNumberType
  evMaximumChargePowerL3 : Used RationalNumberType
  evMinimumChargePower : RationalNumberType
  evMinimumChargePowerL2 : Used RationalNumberType
  evMinimumChargePowerL3 : Used RationalNumberType
  deriving Inhabited

structure BptAcCpdReqEnergyTransferModeType extends AcCpdReqEnergyTransferModeType where
  evMaximumDischargePower : RationalNumberType
  evMaximumDischargePowerL2 : Used RationalNumberType
  evMaximumDischargePowerL3 : Used RationalNumberType
  evMinimumDischargePower : RationalNumberType
  evMinimumDischargePowerL2 : Used RationalNumberType
  evMinimumDischargePowerL3 : Used RationalNumberType
  deriving Inhabited

structure EvReactivePowerLimitsType where
  evMaximumChargeReactivePower : RationalNumberType
  evMaximumChargeReactivePowerL2 : Used RationalNumberType
  evMaximumChargeReactivePowerL3 : Used RationalNumberType
  evMinimumChargeReactivePower : Used RationalNumberType
  evMinimumChargeReactivePowerL2 : Used RationalNumberType
  evMinimumChargeReactivePowerL3 : Used RationalNumberType
  evMaximumDischargeReactivePower : RationalNumberType
  evMaximumDischargeReactivePowerL2 : Used RationalNumberType
  evMaximumDischargeReactivePowerL3 : Used RationalNumberType
  evMinimumDischargeReactivePower : Used RationalNumberType
  evMinimumDischargeReactivePowerL2 : Used RationalNumberType
  evMinimumDischargeReactivePowerL3 : Used RationalNumberType
  deriving Inhabited

structure DerAcCpdReqEnergyTransferModeType extends AcCpdReqEnergyTransferModeType where
  evProcessing : Int32
  evMaximumDischargePower : RationalNumberType
  evMaximumDischargePowerL2 : Used RationalNumberType
  evMaximumDischargePowerL3 : Used RationalNumberType
  evMinimumDischargePower : RationalNumberType
  evMinimumDischargePowerL2 : Used RationalNumberType
  evMinimumDischargePowerL3 : Used RationalNumberType
  evSessionTotalDischargeEnergyAvailable : Used RationalNumberType
  evReactivePowerLimits : Used EvReactivePowerLimitsType
  deriving Inhabited

structure AcChargeParameterDiscoveryReqType where
  header : MessageHeaderType
  acCpdReqEnergyTransferMode : Used AcCpdReqEnergyTransferModeType
  bptAcCpdReqEnergyTransferMode : Used BptAcCpdReqEnergyTransferModeType
  derAcCpdReqEnergyTransferMode : Used DerAcCpdReqEnergyTransferModeType
  deriving Inhabited

structure AcCpdResEnergyTransferModeType where
  evseMaximumChargePower : RationalNumberType
  evseMaximumChargePowerL2 : Used RationalNumberType
  evseMaximumChargePowerL3 : Used RationalNumberType
  evseMinimumChargePower : RationalNumberType
  evseMinimumChargePowerL2 : Used RationalNumberType
  evseMinimumChargePowerL3 : Used RationalNumberType
  evseNominalFrequency : RationalNumberType
  maximumPowerAsymmetry : Used RationalNumberType
  evsePowerRampLimitation : Used RationalNumberType
  evsePresentActivePower : Used RationalNumberType
  evsePresentActivePowerL2 : Used RationalNumberType
  evsePresentActivePowerL3 : Used RationalNumberType
  deriving Inhabited

structure BptAcCpdResEnergyTransferModeType extends AcCpdResEnergyTransferModeType where
  evseMaximumDischargePower : RationalNumberType
  evseMaximumDischargePowerL2 : Used RationalNumberType
  evseMaximumDischargePowerL3 : Used RationalNumberType
  evseMinimumDischargePower : RationalNumberType
  evseMinimumDischargePowerL2 : Used RationalNumberType
  evseMinimumDischargePowerL3 : Used RationalNumberType
  deriving Inhabited

structure DerAcCpdResEnergyTransferModeType (capacity : Nat) extends AcCpdResEnergyTransferModeType where
  evseNominalChargePower : RationalNumberType
  evseNominalChargePowerL2 : Used RationalNumberType
  evseNominalChargePowerL3 : Used RationalNumberType
  evseNominalDischargePower : RationalNumberType
  evseNominalDischargePowerL2 : Used RationalNumberType
  evseNominalDischargePowerL3 : Used RationalNumberType
  evseMaximumDischargePower : RationalNumberType
  evseMaximumDischargePowerL2 : Used RationalNumberType
  evseMaximumDischargePowerL3 : Used RationalNumberType
  evOperatingMode : Int32
  gridConnectionMode : Int32
  derControl : DerControlType capacity
  deriving Inhabited

structure AcChargeParameterDiscoveryResType (capacity : Nat) where
  header : MessageHeaderType
  responseCode : Int32
  acCpdResEnergyTransferMode : Used AcCpdResEnergyTransferModeType
  bptAcCpdResEnergyTransferMode : Used BptAcCpdResEnergyTransferModeType
  derAcCpdResEnergyTransferMode : Used (DerAcCpdResEnergyTransferModeType capacity)
  deriving Inhabited

-- The functions `init_iso20_ac_…`.
def AcCpdReqEnergyTransferModeType.init (out : AcCpdReqEnergyTransferModeType) : AcCpdReqEnergyTransferModeType :=
  { out with
    evMaximumChargePowerL2 := out.evMaximumChargePowerL2.clear id
    evMaximumChargePowerL3 := out.evMaximumChargePowerL3.clear id
    evMinimumChargePowerL2 := out.evMinimumChargePowerL2.clear id
    evMinimumChargePowerL3 := out.evMinimumChargePowerL3.clear id }

def BptAcCpdReqEnergyTransferModeType.init (out : BptAcCpdReqEnergyTransferModeType) :
    BptAcCpdReqEnergyTransferModeType :=
  { out with
    toAcCpdReqEnergyTransferModeType := out.toAcCpdReqEnergyTransferModeType.init
    evMaximumDischargePowerL2 := out.evMaximumDischargePowerL2.clear id
    evMaximumDischargePowerL3 := out.evMaximumDischargePowerL3.clear id
    evMinimumDischargePowerL2 := out.evMinimumDischargePowerL2.clear id
    evMinimumDischargePowerL3 := out.evMinimumDischargePowerL3.clear id }

def EvReactivePowerLimitsType.init (out : EvReactivePowerLimitsType) : EvReactivePowerLimitsType :=
  { out with
    evMaximumChargeReactivePowerL2 := out.evMaximumChargeReactivePowerL2.clear id
    evMaximumChargeReactivePowerL3 := out.evMaximumChargeReactivePowerL3.clear id
    evMinimumChargeReactivePower := out.evMinimumChargeReactivePower.clear id
    evMinimumChargeReactivePowerL2 := out.evMinimumChargeReactivePowerL2.clear id
    evMinimumChargeReactivePowerL3 := out.evMinimumChargeReactivePowerL3.clear id
    evMaximumDischargeReactivePowerL2 := out.evMaximumDischargeReactivePowerL2.clear id
    evMaximumDischargeReactivePowerL3 := out.evMaximumDischargeReactivePowerL3.clear id
    evMinimumDischargeReactivePower := out.evMinimumDischargeReactivePower.clear id
    evMinimumDischargeReactivePowerL2 := out.evMinimumDischargeReactivePowerL2.clear id
    evMinimumDischargeReactivePowerL3 := out.evMinimumDischargeReactivePowerL3.clear id }

def DerAcCpdReqEnergyTransferModeType.init (out : DerAcCpdReqEnergyTransferModeType) :
    DerAcCpdReqEnergyTransferModeType :=
  { out with
    toAcCpdReqEnergyTransferModeType := out.toAcCpdReqEnergyTransferModeType.init
    evMaximumDischargePowerL2 := out.evMaximumDischargePowerL2.clear id
    evMaximumDischargePowerL3 := out.evMaximumDischargePowerL3.clear id
    evMinimumDischargePowerL2 := out.evMinimumDischargePowerL2.clear id
    evMinimumDischargePowerL3 := out.evMinimumDischargePowerL3.clear id
    evSessionTotalDischargeEnergyAvailable := out.evSessionTotalDischargeEnergyAvailable.clear id
    evReactivePowerLimits := out.evReactivePowerLimits.clear (·.init) }

def AcChargeParameterDiscoveryReqType.init (out : AcChargeParameterDiscoveryReqType) :
    AcChargeParameterDiscoveryReqType :=
  { out with
    acCpdReqEnergyTransferMode := out.acCpdReqEnergyTransferMode.clear (·.init)
    bptAcCpdReqEnergyTransferMode := out.bptAcCpdReqEnergyTransferMode.clear (·.init)
    derAcCpdReqEnergyTransferMode := out.derAcCpdReqEnergyTransferMode.clear (·.init) }

def AcCpdResEnergyTransferModeType.init (out : AcCpdResEnergyTransferModeType) : AcCpdResEnergyTransferModeType :=
  { out with
    evseMaximumChargePowerL2 := out.evseMaximumChargePowerL2.clear id
    evseMaximumChargePowerL3 := out.evseMaximumChargePowerL3.clear id
    evseMinimumChargePowerL2 := out.evseMinimumChargePowerL2.clear id
    evseMinimumChargePowerL3 := out.evseMinimumChargePowerL3.clear id
    maximumPowerAsymmetry := out.maximumPowerAsymmetry.clear id
    evsePowerRampLimitation := out.evsePowerRampLimitation.clear id
    evsePresentActivePower := out.evsePresentActivePower.clear id
    evsePresentActivePowerL2 := out.evsePresentActivePowerL2.clear id
    evsePresentActivePowerL3 := out.evsePresentActivePowerL3.clear id }

def BptAcCpdResEnergyTransferModeType.init (out : BptAcCpdResEnergyTransferModeType) :
    BptAcCpdResEnergyTransferModeType :=
  { out with
    toAcCpdResEnergyTransferModeType := out.toAcCpdResEnergyTransferModeType.init
    evseMaximumDischargePowerL2 := out.evseMaximumDischargePowerL2.clear id
    evseMaximumDischargePowerL3 := out.evseMaximumDischargePowerL3.clear id
    evseMinimumDischargePowerL2 := out.evseMinimumDischargePowerL2.clear id
    evseMinimumDischargePowerL3 := out.evseMinimumDischargePowerL3.clear id }

variable {capacity : Nat}

def DerAcCpdResEnergyTransferModeType.init (out : DerAcCpdResEnergyTransferModeType capacity) :
    DerAcCpdResEnergyTransferModeType capacity :=
  { out with
    toAcCpdResEnergyTransferModeType := out.toAcCpdResEnergyTransferModeType.init
    evseNominalChargePowerL2 := out.evseNominalChargePowerL2.clear id
    evseNominalChargePowerL3 := out.evseNominalChargePowerL3.clear id
    evseNominalDischargePowerL2 := out.evseNominalDischargePowerL2.clear id
    evseNominalDischargePowerL3 := out.evseNominalDischargePowerL3.clear id
    evseMaximumDischargePowerL2 := out.evseMaximumDischargePowerL2.clear id
    evseMaximumDischargePowerL3 := out.evseMaximumDischargePowerL3.clear id
    derControl := out.derControl.init }

def AcChargeParameterDiscoveryResType.init (out : AcChargeParameterDiscoveryResType capacity) :
    AcChargeParameterDiscoveryResType capacity :=
  { out with
    acCpdResEnergyTransferMode := out.acCpdResEnergyTransferMode.clear (·.init)
    bptAcCpdResEnergyTransferMode := out.bptAcCpdResEnergyTransferMode.clear (·.init)
    derAcCpdResEnergyTransferMode := out.derAcCpdResEnergyTransferMode.clear (·.init) }

-- From the generated records.
def AcCpdReqEnergyTransferModeType.convert (mode : AcCpdReqEnergyTransferModeType) : AcCpdReqEnergyTransferMode :=
  { maxChargePower := mode.evMaximumChargePower.convert
    maxChargePowerL2 := cb2cppConvertIfUsed mode.evMaximumChargePowerL2
    maxChargePowerL3 := cb2cppConvertIfUsed mode.evMaximumChargePowerL3
    minChargePower := mode.evMinimumChargePower.convert
    minChargePowerL2 := cb2cppConvertIfUsed mode.evMinimumChargePowerL2
    minChargePowerL3 := cb2cppConvertIfUsed mode.evMinimumChargePowerL3 }

def BptAcCpdReqEnergyTransferModeType.convert (mode : BptAcCpdReqEnergyTransferModeType) :
    BptAcCpdReqEnergyTransferMode :=
  { toAcCpdReqEnergyTransferMode := mode.toAcCpdReqEnergyTransferModeType.convert
    maxDischargePower := mode.evMaximumDischargePower.convert
    maxDischargePowerL2 := cb2cppConvertIfUsed mode.evMaximumDischargePowerL2
    maxDischargePowerL3 := cb2cppConvertIfUsed mode.evMaximumDischargePowerL3
    minDischargePower := mode.evMinimumDischargePower.convert
    minDischargePowerL2 := cb2cppConvertIfUsed mode.evMinimumDischargePowerL2
    minDischargePowerL3 := cb2cppConvertIfUsed mode.evMinimumDischargePowerL3 }

def EvReactivePowerLimitsType.convert (limits : EvReactivePowerLimitsType) : EvReactivePowerLimits :=
  { maxChargeReactivePower := limits.evMaximumChargeReactivePower.convert
    maxChargeReactivePowerL2 := cb2cppConvertIfUsed limits.evMaximumChargeReactivePowerL2
    maxChargeReactivePowerL3 := cb2cppConvertIfUsed limits.evMaximumChargeReactivePowerL3
    minChargeReactivePower := cb2cppConvertIfUsed limits.evMinimumChargeReactivePower
    minChargeReactivePowerL2 := cb2cppConvertIfUsed limits.evMinimumChargeReactivePowerL2
    minChargeReactivePowerL3 := cb2cppConvertIfUsed limits.evMinimumChargeReactivePowerL3
    maxDischargeReactivePower := limits.evMaximumDischargeReactivePower.convert
    maxDischargeReactivePowerL2 := cb2cppConvertIfUsed limits.evMaximumDischargeReactivePowerL2
    maxDischargeReactivePowerL3 := cb2cppConvertIfUsed limits.evMaximumDischargeReactivePowerL3
    minDischargeReactivePower := cb2cppConvertIfUsed limits.evMinimumDischargeReactivePower
    minDischargeReactivePowerL2 := cb2cppConvertIfUsed limits.evMinimumDischargeReactivePowerL2
    minDischargeReactivePowerL3 := cb2cppConvertIfUsed limits.evMinimumDischargeReactivePowerL3 }

def DerAcCpdReqEnergyTransferModeType.convert (mode : DerAcCpdReqEnergyTransferModeType) :
    Except Fault DerAcCpdReqEnergyTransferMode := do
  let processing ← cppEnum mode.evProcessing
  return {
    toAcCpdReqEnergyTransferMode := mode.toAcCpdReqEnergyTransferModeType.convert
    processing
    maxDischargePower := mode.evMaximumDischargePower.convert
    maxDischargePowerL2 := cb2cppConvertIfUsed mode.evMaximumDischargePowerL2
    maxDischargePowerL3 := cb2cppConvertIfUsed mode.evMaximumDischargePowerL3
    minDischargePower := mode.evMinimumDischargePower.convert
    minDischargePowerL2 := cb2cppConvertIfUsed mode.evMinimumDischargePowerL2
    minDischargePowerL3 := cb2cppConvertIfUsed mode.evMinimumDischargePowerL3
    sessionTotalDischargeEnergyAvailable := cb2cppConvertIfUsed mode.evSessionTotalDischargeEnergyAvailable
    reactivePowerLimits := mode.evReactivePowerLimits.read (·.convert) }

def AcChargeParameterDiscoveryReqType.transferMode (req : AcChargeParameterDiscoveryReqType) :
    Except Fault AcCpdReqTransferMode :=
  -- Without a mode the message keeps the one it is made with.
  if req.acCpdReqEnergyTransferMode.isUsed then
    return .ac req.acCpdReqEnergyTransferMode.value.convert
  else if req.bptAcCpdReqEnergyTransferMode.isUsed then
    return .bpt req.bptAcCpdReqEnergyTransferMode.value.convert
  else if req.derAcCpdReqEnergyTransferMode.isUsed then do
    let mode ← req.derAcCpdReqEnergyTransferMode.value.convert
    return .der mode
  else return .ac {}

def AcChargeParameterDiscoveryReqType.convert (req : AcChargeParameterDiscoveryReqType) :
    Except Fault AcChargeParameterDiscoveryRequest := do
  let header ← req.header.convert
  let transferMode ← req.transferMode
  return { header, transferMode }

def AcCpdResEnergyTransferModeType.convert (mode : AcCpdResEnergyTransferModeType) : AcCpdResEnergyTransferMode :=
  { maxChargePower := mode.evseMaximumChargePower.convert
    maxChargePowerL2 := cb2cppConvertIfUsed mode.evseMaximumChargePowerL2
    maxChargePowerL3 := cb2cppConvertIfUsed mode.evseMaximumChargePowerL3
    minChargePower := mode.evseMinimumChargePower.convert
    minChargePowerL2 := cb2cppConvertIfUsed mode.evseMinimumChargePowerL2
    minChargePowerL3 := cb2cppConvertIfUsed mode.evseMinimumChargePowerL3
    nominalFrequency := mode.evseNominalFrequency.convert
    maxPowerAsymmetry := cb2cppConvertIfUsed mode.maximumPowerAsymmetry
    powerRampLimitation := cb2cppConvertIfUsed mode.evsePowerRampLimitation
    presentActivePower := cb2cppConvertIfUsed mode.evsePresentActivePower
    presentActivePowerL2 := cb2cppConvertIfUsed mode.evsePresentActivePowerL2
    presentActivePowerL3 := cb2cppConvertIfUsed mode.evsePresentActivePowerL3 }

def BptAcCpdResEnergyTransferModeType.convert (mode : BptAcCpdResEnergyTransferModeType) :
    BptAcCpdResEnergyTransferMode :=
  { toAcCpdResEnergyTransferMode := mode.toAcCpdResEnergyTransferModeType.convert
    maxDischargePower := mode.evseMaximumDischargePower.convert
    maxDischargePowerL2 := cb2cppConvertIfUsed mode.evseMaximumDischargePowerL2
    maxDischargePowerL3 := cb2cppConvertIfUsed mode.evseMaximumDischargePowerL3
    minDischargePower := mode.evseMinimumDischargePower.convert
    minDischargePowerL2 := cb2cppConvertIfUsed mode.evseMinimumDischargePowerL2
    minDischargePowerL3 := cb2cppConvertIfUsed mode.evseMinimumDischargePowerL3 }

def DerAcCpdResEnergyTransferModeType.convert (mode : DerAcCpdResEnergyTransferModeType capacity) :
    Except Fault DerAcCpdResEnergyTransferMode := do
  let operatingMode ← cppEnum mode.evOperatingMode
  let gridConnectionMode ← cppEnum mode.gridConnectionMode
  let derControl ← mode.derControl.convert
  return {
    toAcCpdResEnergyTransferMode := mode.toAcCpdResEnergyTransferModeType.convert
    nominalChargePower := mode.evseNominalChargePower.convert
    nominalChargePowerL2 := cb2cppConvertIfUsed mode.evseNominalChargePowerL2
    nominalChargePowerL3 := cb2cppConvertIfUsed mode.evseNominalChargePowerL3
    nominalDischargePower := mode.evseNominalDischargePower.convert
    nominalDischargePowerL2 := cb2cppConvertIfUsed mode.evseNominalDischargePowerL2
    nominalDischargePowerL3 := cb2cppConvertIfUsed mode.evseNominalDischargePowerL3
    maxDischargePower := mode.evseMaximumDischargePower.convert
    maxDischargePowerL2 := cb2cppConvertIfUsed mode.evseMaximumDischargePowerL2
    maxDischargePowerL3 := cb2cppConvertIfUsed mode.evseMaximumDischargePowerL3
    operatingMode
    gridConnectionMode
    derControl }

def AcChargeParameterDiscoveryResType.transferMode (res : AcChargeParameterDiscoveryResType capacity) :
    Except Fault AcCpdResTransferMode :=
  -- Without a mode the message keeps the one it is made with.
  if res.acCpdResEnergyTransferMode.isUsed then
    return .ac res.acCpdResEnergyTransferMode.value.convert
  else if res.bptAcCpdResEnergyTransferMode.isUsed then
    return .bpt res.bptAcCpdResEnergyTransferMode.value.convert
  else if res.derAcCpdResEnergyTransferMode.isUsed then do
    let mode ← res.derAcCpdResEnergyTransferMode.value.convert
    return .der mode
  else return .ac {}

def AcChargeParameterDiscoveryResType.convert (res : AcChargeParameterDiscoveryResType capacity) :
    Except Fault AcChargeParameterDiscoveryResponse := do
  let header ← res.header.convert
  let responseCode ← cppEnum res.responseCode
  let transferMode ← res.transferMode
  return { header, responseCode, transferMode }

end Iso20.Ac

-- To the generated records.

namespace Datatypes

variable {capacity : Nat}

/-- `ModeRequestVisitor::convert_common` -/
def AcCpdReqEnergyTransferMode.convert (mode : AcCpdReqEnergyTransferMode)
    (out : Iso20.Ac.AcCpdReqEnergyTransferModeType) :
    Iso20.Ac.AcCpdReqEnergyTransferModeType :=
  { evMaximumChargePower := mode.maxChargePower.convert
    evMaximumChargePowerL2 := cpp2cbConvertIfUsed mode.maxChargePowerL2 out.evMaximumChargePowerL2
    evMaximumChargePowerL3 := cpp2cbConvertIfUsed mode.maxChargePowerL3 out.evMaximumChargePowerL3
    evMinimumChargePower := mode.minChargePower.convert
    evMinimumChargePowerL2 := cpp2cbConvertIfUsed mode.minChargePowerL2 out.evMinimumChargePowerL2
    evMinimumChargePowerL3 := cpp2cbConvertIfUsed mode.minChargePowerL3 out.evMinimumChargePowerL3 }

def BptAcCpdReqEnergyTransferMode.convert (mode : BptAcCpdReqEnergyTransferMode)
    (out : Iso20.Ac.BptAcCpdReqEnergyTransferModeType) :
    Iso20.Ac.BptAcCpdReqEnergyTransferModeType :=
  { toAcCpdReqEnergyTransferModeType := mode.toAcCpdReqEnergyTransferMode.convert out.toAcCpdReqEnergyTransferModeType
    evMaximumDischargePower := mode.maxDischargePower.convert
    evMaximumDischargePowerL2 :=
      cpp2cbConvertIfUsed mode.maxDischargePowerL2 out.evMaximumDischargePowerL2
    evMaximumDischargePowerL3 :=
      cpp2cbConvertIfUsed mode.maxDischargePowerL3 out.evMaximumDischargePowerL3
    evMinimumDischargePower := mode.minDischargePower.convert
    evMinimumDischargePowerL2 :=
      cpp2cbConvertIfUsed mode.minDischargePowerL2 out.evMinimumDischargePowerL2
    evMinimumDischargePowerL3 :=
      cpp2cbConvertIfUsed mode.minDischargePowerL3 out.evMinimumDischargePowerL3 }

def EvReactivePowerLimits.convert (limits : EvReactivePowerLimits) (out : Iso20.Ac.EvReactivePowerLimitsType) :
    Iso20.Ac.EvReactivePowerLimitsType :=
  let out := out.init
  { evMaximumChargeReactivePower := limits.maxChargeReactivePower.convert
    evMaximumChargeReactivePowerL2 :=
      cpp2cbConvertIfUsed limits.maxChargeReactivePowerL2 out.evMaximumChargeReactivePowerL2
    evMaximumChargeReactivePowerL3 :=
      cpp2cbConvertIfUsed limits.maxChargeReactivePowerL3 out.evMaximumChargeReactivePowerL3
    evMinimumChargeReactivePower :=
      cpp2cbConvertIfUsed limits.minChargeReactivePower out.evMinimumChargeReactivePower
    evMinimumChargeReactivePowerL2 :=
      cpp2cbConvertIfUsed limits.minChargeReactivePowerL2 out.evMinimumChargeReactivePowerL2
    evMinimumChargeReactivePowerL3 :=
      cpp2cbConvertIfUsed limits.minChargeReactivePowerL3 out.evMinimumChargeReactivePowerL3
    evMaximumDischargeReactivePower := limits.maxDischargeReactivePower.convert
    evMaximumDischargeReactivePowerL2 :=
      cpp2cbConvertIfUsed limits.maxDischargeReactivePowerL2 out.evMaximumDischargeReactivePowerL2
    evMaximumDischargeReactivePowerL3 :=
      cpp2cbConvertIfUsed limits.maxDischargeReactivePowerL3 out.evMaximumDischargeReactivePowerL3
    evMinimumDischargeReactivePower :=
      cpp2cbConvertIfUsed limits.minDischargeReactivePower out.evMinimumDischargeReactivePower
    evMinimumDischargeReactivePowerL2 :=
      cpp2cbConvertIfUsed limits.minDischargeReactivePowerL2 out.evMinimumDischargeReactivePowerL2
    evMinimumDischargeReactivePowerL3 :=
      cpp2cbConvertIfUsed limits.minDischargeReactivePowerL3 out.evMinimumDischargeReactivePowerL3 }

def DerAcCpdReqEnergyTransferMode.convert (mode : DerAcCpdReqEnergyTransferMode)
    (out : Iso20.Ac.DerAcCpdReqEnergyTransferModeType) : Iso20.Ac.DerAcCpdReqEnergyTransferModeType :=
  { toAcCpdReqEnergyTransferModeType := mode.toAcCpdReqEnergyTransferMode.convert out.toAcCpdReqEnergyTransferModeType
    evProcessing := cbEnum mode.processing
    evMaximumDischargePower := mode.maxDischargePower.convert
    evMaximumDischargePowerL2 :=
      cpp2cbConvertIfUsed mode.maxDischargePowerL2 out.evMaximumDischargePowerL2
    evMaximumDischargePowerL3 :=
      cpp2cbConvertIfUsed mode.maxDischargePowerL3 out.evMaximumDischargePowerL3
    evMinimumDischargePower := mode.minDischargePower.convert
    evMinimumDischargePowerL2 :=
      cpp2cbConvertIfUsed mode.minDischargePowerL2 out.evMinimumDischargePowerL2
    evMinimumDischargePowerL3 :=
      cpp2cbConvertIfUsed mode.minDischargePowerL3 out.evMinimumDischargePowerL3
    evSessionTotalDischargeEnergyAvailable :=
      cpp2cbConvertIfUsed mode.sessionTotalDischargeEnergyAvailable out.evSessionTotalDischargeEnergyAvailable
    evReactivePowerLimits :=
      out.evReactivePowerLimits.write EvReactivePowerLimits.convert mode.reactivePowerLimits }

/-- `ModeRequestVisitor` -/
def AcCpdReqTransferMode.convert (mode : AcCpdReqTransferMode) (req : Iso20.Ac.AcChargeParameterDiscoveryReqType) :
    Iso20.Ac.AcChargeParameterDiscoveryReqType :=
  match mode with
  | .ac mode =>
      { req with acCpdReqEnergyTransferMode := req.acCpdReqEnergyTransferMode.set (mode.convert ·.init) }
  | .bpt mode =>
      { req with bptAcCpdReqEnergyTransferMode := req.bptAcCpdReqEnergyTransferMode.set (mode.convert ·.init) }
  | .der mode =>
      { req with derAcCpdReqEnergyTransferMode := req.derAcCpdReqEnergyTransferMode.set (mode.convert ·.init) }

/-- `ModeResponseVisitor::convert_common` -/
def AcCpdResEnergyTransferMode.convert (mode : AcCpdResEnergyTransferMode)
    (out : Iso20.Ac.AcCpdResEnergyTransferModeType) :
    Iso20.Ac.AcCpdResEnergyTransferModeType :=
  { evseMaximumChargePower := mode.maxChargePower.convert
    evseMaximumChargePowerL2 := cpp2cbConvertIfUsed mode.maxChargePowerL2 out.evseMaximumChargePowerL2
    evseMaximumChargePowerL3 := cpp2cbConvertIfUsed mode.maxChargePowerL3 out.evseMaximumChargePowerL3
    evseMinimumChargePower := mode.minChargePower.convert
    evseMinimumChargePowerL2 := cpp2cbConvertIfUsed mode.minChargePowerL2 out.evseMinimumChargePowerL2
    evseMinimumChargePowerL3 := cpp2cbConvertIfUsed mode.minChargePowerL3 out.evseMinimumChargePowerL3
    evseNominalFrequency := mode.nominalFrequency.convert
    maximumPowerAsymmetry := cpp2cbConvertIfUsed mode.maxPowerAsymmetry out.maximumPowerAsymmetry
    evsePowerRampLimitation := cpp2cbConvertIfUsed mode.powerRampLimitation out.evsePowerRampLimitation
    evsePresentActivePower := cpp2cbConvertIfUsed mode.presentActivePower out.evsePresentActivePower
    evsePresentActivePowerL2 :=
      cpp2cbConvertIfUsed mode.presentActivePowerL2 out.evsePresentActivePowerL2
    evsePresentActivePowerL3 :=
      cpp2cbConvertIfUsed mode.presentActivePowerL3 out.evsePresentActivePowerL3 }

def BptAcCpdResEnergyTransferMode.convert (mode : BptAcCpdResEnergyTransferMode)
    (out : Iso20.Ac.BptAcCpdResEnergyTransferModeType) :
    Iso20.Ac.BptAcCpdResEnergyTransferModeType :=
  { toAcCpdResEnergyTransferModeType := mode.toAcCpdResEnergyTransferMode.convert out.toAcCpdResEnergyTransferModeType
    evseMaximumDischargePower := mode.maxDischargePower.convert
    evseMaximumDischargePowerL2 :=
      cpp2cbConvertIfUsed mode.maxDischargePowerL2 out.evseMaximumDischargePowerL2
    evseMaximumDischargePowerL3 :=
      cpp2cbConvertIfUsed mode.maxDischargePowerL3 out.evseMaximumDischargePowerL3
    evseMinimumDischargePower := mode.minDischargePower.convert
    evseMinimumDischargePowerL2 :=
      cpp2cbConvertIfUsed mode.minDischargePowerL2 out.evseMinimumDischargePowerL2
    evseMinimumDischargePowerL3 :=
      cpp2cbConvertIfUsed mode.minDischargePowerL3 out.evseMinimumDischargePowerL3 }

def DerAcCpdResEnergyTransferMode.convert (mode : DerAcCpdResEnergyTransferMode)
    (out : Iso20.Ac.DerAcCpdResEnergyTransferModeType capacity) :
    Except Fault (Iso20.Ac.DerAcCpdResEnergyTransferModeType capacity) := do
  let derControl ← mode.derControl.convert out.derControl
  return {
    toAcCpdResEnergyTransferModeType := mode.toAcCpdResEnergyTransferMode.convert out.toAcCpdResEnergyTransferModeType
    evseNominalChargePower := mode.nominalChargePower.convert
    evseNominalChargePowerL2 :=
      cpp2cbConvertIfUsed mode.nominalChargePowerL2 out.evseNominalChargePowerL2
    evseNominalChargePowerL3 :=
      cpp2cbConvertIfUsed mode.nominalChargePowerL3 out.evseNominalChargePowerL3
    evseNominalDischargePower := mode.nominalDischargePower.convert
    evseNominalDischargePowerL2 :=
      cpp2cbConvertIfUsed mode.nominalDischargePowerL2 out.evseNominalDischargePowerL2
    evseNominalDischargePowerL3 :=
      cpp2cbConvertIfUsed mode.nominalDischargePowerL3 out.evseNominalDischargePowerL3
    evseMaximumDischargePower := mode.maxDischargePower.convert
    evseMaximumDischargePowerL2 :=
      cpp2cbConvertIfUsed mode.maxDischargePowerL2 out.evseMaximumDischargePowerL2
    evseMaximumDischargePowerL3 :=
      cpp2cbConvertIfUsed mode.maxDischargePowerL3 out.evseMaximumDischargePowerL3
    evOperatingMode := cbEnum mode.operatingMode
    gridConnectionMode := cbEnum mode.gridConnectionMode
    derControl }

/-- `ModeResponseVisitor` -/
def AcCpdResTransferMode.convert (mode : AcCpdResTransferMode)
    (res : Iso20.Ac.AcChargeParameterDiscoveryResType capacity) :
    Except Fault (Iso20.Ac.AcChargeParameterDiscoveryResType capacity) :=
  match mode with
  | .ac mode => return {
      res with acCpdResEnergyTransferMode := res.acCpdResEnergyTransferMode.set (mode.convert ·.init) }
  | .bpt mode => return {
      res with bptAcCpdResEnergyTransferMode := res.bptAcCpdResEnergyTransferMode.set (mode.convert ·.init) }
  | .der mode => do
      let value ← mode.convert res.derAcCpdResEnergyTransferMode.value.init
      return { res with derAcCpdResEnergyTransferMode := { value, isUsed := true } }

end Datatypes

def AcChargeParameterDiscoveryRequest.convert (req : AcChargeParameterDiscoveryRequest)
    (out : Iso20.Ac.AcChargeParameterDiscoveryReqType) : Iso20.Ac.AcChargeParameterDiscoveryReqType :=
  req.transferMode.convert { out.init with header := req.header.convert }

def AcChargeParameterDiscoveryResponse.convert {capacity : Nat} (res : AcChargeParameterDiscoveryResponse)
    (out : Iso20.Ac.AcChargeParameterDiscoveryResType capacity) :
    Except Fault (Iso20.Ac.AcChargeParameterDiscoveryResType capacity) :=
  res.transferMode.convert
    { out.init with header := res.header.convert, responseCode := cbEnum res.responseCode }

namespace Datatypes

variable {capacity : Nat}

@[simp] theorem AcCpdReqEnergyTransferMode.convert_convert (mode : AcCpdReqEnergyTransferMode)
    (out : Iso20.Ac.AcCpdReqEnergyTransferModeType) : (mode.convert out).convert = mode := by
  simp [AcCpdReqEnergyTransferMode.convert, Iso20.Ac.AcCpdReqEnergyTransferModeType.convert]

@[simp] theorem BptAcCpdReqEnergyTransferMode.convert_convert (mode : BptAcCpdReqEnergyTransferMode)
    (out : Iso20.Ac.BptAcCpdReqEnergyTransferModeType) : (mode.convert out).convert = mode := by
  simp [BptAcCpdReqEnergyTransferMode.convert, Iso20.Ac.BptAcCpdReqEnergyTransferModeType.convert]

@[simp] theorem EvReactivePowerLimits.convert_convert (limits : EvReactivePowerLimits)
    (out : Iso20.Ac.EvReactivePowerLimitsType) : (limits.convert out).convert = limits := by
  simp [EvReactivePowerLimits.convert, Iso20.Ac.EvReactivePowerLimitsType.convert]

@[simp] theorem DerAcCpdReqEnergyTransferMode.convert_convert (mode : DerAcCpdReqEnergyTransferMode)
    (out : Iso20.Ac.DerAcCpdReqEnergyTransferModeType) : (mode.convert out).convert = .ok mode := by
  simp [DerAcCpdReqEnergyTransferMode.convert, Iso20.Ac.DerAcCpdReqEnergyTransferModeType.convert, Used.read_write]

@[simp] theorem AcCpdResEnergyTransferMode.convert_convert (mode : AcCpdResEnergyTransferMode)
    (out : Iso20.Ac.AcCpdResEnergyTransferModeType) : (mode.convert out).convert = mode := by
  simp [AcCpdResEnergyTransferMode.convert, Iso20.Ac.AcCpdResEnergyTransferModeType.convert]

@[simp] theorem BptAcCpdResEnergyTransferMode.convert_convert (mode : BptAcCpdResEnergyTransferMode)
    (out : Iso20.Ac.BptAcCpdResEnergyTransferModeType) : (mode.convert out).convert = mode := by
  simp [BptAcCpdResEnergyTransferMode.convert, Iso20.Ac.BptAcCpdResEnergyTransferModeType.convert]

theorem DerAcCpdResEnergyTransferMode.convert_codes (mode : DerAcCpdResEnergyTransferMode) :
    Codes Fault.isThrown
      (fun mode (out : Iso20.Ac.DerAcCpdResEnergyTransferModeType capacity) => mode.convert out) (·.convert)
      (fun _ => True) (fun mode => ∀ curve ∈ mode.derControl.curves, curve.Fits capacity) mode := by
  intro out
  refine ((mode.derControl.convert_codes out.derControl).bind fun _ back => Outcome.of_ok trivial ?_).mono (by simp)
    fun _ holds => holds
  rw [← back]
  cases mode
  simp [Iso20.Ac.DerAcCpdResEnergyTransferModeType.convert, bind_eq_ok, map_eq_ok]

def AcCpdResTransferMode.curves : AcCpdResTransferMode → List DerCurve
  | .der mode => mode.derControl.curves
  | .ac _ | .bpt _ => []

end Datatypes

theorem AcChargeParameterDiscoveryRequest.convert_convert (req : AcChargeParameterDiscoveryRequest)
    (out : Iso20.Ac.AcChargeParameterDiscoveryReqType) : (req.convert out).convert = .ok req := by
  obtain ⟨header, transferMode⟩ := req
  cases transferMode <;>
    simp [AcChargeParameterDiscoveryRequest.convert, Iso20.Ac.AcChargeParameterDiscoveryReqType.convert,
      AcCpdReqTransferMode.convert, Iso20.Ac.AcChargeParameterDiscoveryReqType.transferMode,
      Iso20.Ac.AcChargeParameterDiscoveryReqType.init, Used.set, bind_eq_ok]

theorem AcChargeParameterDiscoveryResponse.convert_codes {capacity : Nat}
    (res : AcChargeParameterDiscoveryResponse) :
    Codes Fault.isThrown
      (fun res (out : Iso20.Ac.AcChargeParameterDiscoveryResType capacity) => res.convert out) (·.convert)
      (fun _ => True) (fun res => ∀ curve ∈ res.transferMode.curves, curve.Fits capacity) res := by
  intro out
  obtain ⟨header, responseCode, transferMode⟩ := res
  cases transferMode with
  | ac mode =>
      simp [AcChargeParameterDiscoveryResponse.convert, AcCpdResTransferMode.convert, AcCpdResTransferMode.curves,
        Iso20.Ac.AcChargeParameterDiscoveryResType.convert,
        Iso20.Ac.AcChargeParameterDiscoveryResType.transferMode, Used.set, bind_eq_ok, pure_eq_ok]
  | bpt mode =>
      simp [AcChargeParameterDiscoveryResponse.convert, AcCpdResTransferMode.convert, AcCpdResTransferMode.curves,
        Iso20.Ac.AcChargeParameterDiscoveryResType.convert,
        Iso20.Ac.AcChargeParameterDiscoveryResType.transferMode,
        Iso20.Ac.AcChargeParameterDiscoveryResType.init, Used.set, bind_eq_ok, pure_eq_ok]
  | der mode =>
      have inner := mode.convert_codes (out.init.derAcCpdResEnergyTransferMode.value.init)
      refine (inner.bind fun _ back => Outcome.of_ok trivial ?_).mono (by simp) fun _ holds => holds
      simp only [AcCpdResTransferMode.curves] at back ⊢
      rw [← back]
      simp [Iso20.Ac.AcChargeParameterDiscoveryResType.convert,
        Iso20.Ac.AcChargeParameterDiscoveryResType.transferMode,
        Iso20.Ac.AcChargeParameterDiscoveryResType.init, bind_eq_ok, map_eq_ok]

def AcChargeParameterDiscoveryResponse.ComesBack (capacity : Nat) (res : AcChargeParameterDiscoveryResponse) :
    Prop :=
  RoundTrips Fault.isThrown
    (fun res (out : Iso20.Ac.AcChargeParameterDiscoveryResType capacity) => res.convert out) (·.convert) res

/-- A response comes back, or is refused, exactly if every curve has room in the generated array. -/
theorem ac_charge_parameter_discovery_round_trip_iff (capacity : Nat) :
    (∀ (req : AcChargeParameterDiscoveryRequest) (out : Iso20.Ac.AcChargeParameterDiscoveryReqType),
      (req.convert out).convert = .ok req) ∧
      ∀ res : AcChargeParameterDiscoveryResponse,
        res.ComesBack capacity ↔ ∀ curve ∈ res.transferMode.curves, curve.Fits capacity := by
  constructor
  · exact fun req out => req.convert_convert out
  · intro res
    rw [AcChargeParameterDiscoveryResponse.ComesBack,
      res.convert_codes.roundTrips_iff fun _ thrown _ => thrown]
    simp

namespace Sample

def longCurve : DerCurve :=
  { xUnit := .v, yUnit := .var, curveDataPoints := List.replicate 11 { xValue := {}, yValue := {} } }

def longCurveResponse : AcChargeParameterDiscoveryResponse :=
  { transferMode := .der { derControl := { reactivePowerSupport := some { voltVar := some longCurve } } } }

end Sample

theorem ac_charge_parameter_discovery_cut : ¬Sample.longCurveResponse.ComesBack 10 := by
  intro back
  have fits := (Sample.longCurveResponse.convert_codes.roundTrips_iff fun _ thrown _ => thrown).mp back trivial
  have room := (fits Sample.longCurve List.mem_cons_self).1
  simp [Sample.longCurve] at room

end LibIso15118
