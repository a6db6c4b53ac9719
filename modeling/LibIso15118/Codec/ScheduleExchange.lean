import LibIso15118.Codec.PriceSchedule

set_option autoImplicit false

namespace LibIso15118

open Datatypes Codec

structure ScheduleCapacities extends PriceCapacities where
  evCurrency : Nat
  evPriceAlgorithm : Nat
  evPowerEntries : Nat
  evPriceRuleStacks : Nat
  evPriceRules : Nat
  powerEntries : Nat
  scheduleTuples : Nat

namespace Iso20

structure EvPowerScheduleEntryType where
  duration : UInt32
  power : RationalNumberType
  deriving Inhabited

structure EvPowerScheduleType (capacities : ScheduleCapacities) where
  timeAnchor : UInt64
  evPowerScheduleEntries : Bounded capacities.evPowerEntries EvPowerScheduleEntryType
  deriving Inhabited

structure EvPriceRuleType where
  energyFee : RationalNumberType
  powerRangeStart : RationalNumberType
  deriving Inhabited

structure EvPriceRuleStackType (capacities : ScheduleCapacities) where
  duration : UInt32
  evPriceRule : Bounded capacities.evPriceRules EvPriceRuleType
  deriving Inhabited

structure EvAbsolutePriceScheduleType (capacities : ScheduleCapacities) where
  timeAnchor : UInt64
  currency : CbString capacities.evCurrency
  priceAlgorithm : CbString capacities.evPriceAlgorithm
  evPriceRuleStacks : Bounded capacities.evPriceRuleStacks (EvPriceRuleStackType capacities)
  deriving Inhabited

structure EvEnergyOfferType (capacities : ScheduleCapacities) where
  evPowerSchedule : EvPowerScheduleType capacities
  evAbsolutePriceSchedule : EvAbsolutePriceScheduleType capacities
  deriving Inhabited

structure ScheduledSeReqControlModeType (capacities : ScheduleCapacities) where
  departureTime : Used UInt32
  evTargetEnergyRequest : Used RationalNumberType
  evMaximumEnergyRequest : Used RationalNumberType
  evMinimumEnergyRequest : Used RationalNumberType
  evEnergyOffer : Used (EvEnergyOfferType capacities)
  deriving Inhabited

structure DynamicSeReqControlModeType where
  departureTime : UInt32
  minimumSoc : Used UInt8
  targetSoc : Used UInt8
  evTargetEnergyRequest : RationalNumberType
  evMaximumEnergyRequest : RationalNumberType
  evMinimumEnergyRequest : RationalNumberType
  evMaximumV2xEnergyRequest : Used RationalNumberType
  evMinimumV2xEnergyRequest : Used RationalNumberType
  deriving Inhabited

structure ScheduleExchangeReqType (capacities : ScheduleCapacities) where
  header : MessageHeaderType
  maximumSupportingPoints : UInt16
  dynamicSeReqControlMode : Used DynamicSeReqControlModeType
  scheduledSeReqControlMode : Used (ScheduledSeReqControlModeType capacities)
  deriving Inhabited

structure PowerScheduleEntryType where
  duration : UInt32
  power : RationalNumberType
  powerL2 : Used RationalNumberType
  powerL3 : Used RationalNumberType
  deriving Inhabited

structure PowerScheduleType (capacities : ScheduleCapacities) where
  timeAnchor : UInt64
  availableEnergy : Used RationalNumberType
  powerTolerance : Used RationalNumberType
  powerScheduleEntries : Bounded capacities.powerEntries PowerScheduleEntryType
  deriving Inhabited

structure ChargingScheduleType (capacities : ScheduleCapacities)
    extends PriceScheduleMembers capacities.toPriceCapacities where
  powerSchedule : PowerScheduleType capacities
  deriving Inhabited

structure ScheduleTupleType (capacities : ScheduleCapacities) where
  scheduleTupleId : UInt32
  chargingSchedule : ChargingScheduleType capacities
  dischargingSchedule : Used (ChargingScheduleType capacities)
  deriving Inhabited

structure ScheduledSeResControlModeType (capacities : ScheduleCapacities) where
  scheduleTuple : Bounded capacities.scheduleTuples (ScheduleTupleType capacities)
  deriving Inhabited

structure DynamicSeResControlModeType (capacities : ScheduleCapacities)
    extends PriceScheduleMembers capacities.toPriceCapacities where
  departureTime : Used UInt32
  minimumSoc : Used UInt8
  targetSoc : Used UInt8
  deriving Inhabited

structure ScheduleExchangeResType (capacities : ScheduleCapacities) where
  header : MessageHeaderType
  responseCode : Int32
  evseProcessing : Int32
  goToPause : Used Int32
  dynamicSeResControlMode : Used (DynamicSeResControlModeType capacities)
  scheduledSeResControlMode : Used (ScheduledSeResControlModeType capacities)
  deriving Inhabited

variable {capacities : ScheduleCapacities}

-- The functions `init_iso20_…`.
def EvAbsolutePriceScheduleType.init (out : EvAbsolutePriceScheduleType capacities) :
    EvAbsolutePriceScheduleType capacities :=
  { out with
    currency := out.currency.clear
    priceAlgorithm := out.priceAlgorithm.clear
    evPriceRuleStacks := out.evPriceRuleStacks.clear }

def EvEnergyOfferType.init (out : EvEnergyOfferType capacities) : EvEnergyOfferType capacities :=
  { evPowerSchedule :=
      { out.evPowerSchedule with evPowerScheduleEntries := out.evPowerSchedule.evPowerScheduleEntries.clear }
    evAbsolutePriceSchedule := out.evAbsolutePriceSchedule.init }

def ScheduledSeReqControlModeType.init (out : ScheduledSeReqControlModeType capacities) :
    ScheduledSeReqControlModeType capacities :=
  { departureTime := out.departureTime.clear id
    evTargetEnergyRequest := out.evTargetEnergyRequest.clear id
    evMaximumEnergyRequest := out.evMaximumEnergyRequest.clear id
    evMinimumEnergyRequest := out.evMinimumEnergyRequest.clear id
    evEnergyOffer := out.evEnergyOffer.clear (·.init) }

def DynamicSeReqControlModeType.init (out : DynamicSeReqControlModeType) : DynamicSeReqControlModeType :=
  { out with
    minimumSoc := out.minimumSoc.clear id
    targetSoc := out.targetSoc.clear id
    evMaximumV2xEnergyRequest := out.evMaximumV2xEnergyRequest.clear id
    evMinimumV2xEnergyRequest := out.evMinimumV2xEnergyRequest.clear id }

def ScheduleExchangeReqType.init (out : ScheduleExchangeReqType capacities) : ScheduleExchangeReqType capacities :=
  { out with
    dynamicSeReqControlMode := out.dynamicSeReqControlMode.clear (·.init)
    scheduledSeReqControlMode := out.scheduledSeReqControlMode.clear (·.init) }

def PowerScheduleType.init (out : PowerScheduleType capacities) : PowerScheduleType capacities :=
  { out with
    availableEnergy := out.availableEnergy.clear id
    powerTolerance := out.powerTolerance.clear id
    powerScheduleEntries := out.powerScheduleEntries.clear }

def ChargingScheduleType.init (out : ChargingScheduleType capacities) : ChargingScheduleType capacities :=
  { toPriceScheduleMembers := out.toPriceScheduleMembers.init
    powerSchedule := out.powerSchedule.init }

def ScheduleTupleType.init (out : ScheduleTupleType capacities) : ScheduleTupleType capacities :=
  { out with
    chargingSchedule := out.chargingSchedule.init
    dischargingSchedule := out.dischargingSchedule.clear (·.init) }

def ScheduledSeResControlModeType.init (out : ScheduledSeResControlModeType capacities) :
    ScheduledSeResControlModeType capacities :=
  { scheduleTuple := out.scheduleTuple.clear }

def DynamicSeResControlModeType.init (out : DynamicSeResControlModeType capacities) :
    DynamicSeResControlModeType capacities :=
  { toPriceScheduleMembers := out.toPriceScheduleMembers.init
    departureTime := out.departureTime.clear id
    minimumSoc := out.minimumSoc.clear id
    targetSoc := out.targetSoc.clear id }

def ScheduleExchangeResType.init (out : ScheduleExchangeResType capacities) : ScheduleExchangeResType capacities :=
  { out with
    goToPause := out.goToPause.clear id
    dynamicSeResControlMode := out.dynamicSeResControlMode.clear (·.init)
    scheduledSeResControlMode := out.scheduledSeResControlMode.clear (·.init) }

-- From the generated records.
def EvPowerScheduleEntryType.convert (entry : EvPowerScheduleEntryType) : EvPowerScheduleEntry :=
  { duration := entry.duration, power := entry.power.convert }

def EvPowerScheduleType.convert (schedule : EvPowerScheduleType capacities) : Except Fault EvPowerSchedule := do
  let entries ← schedule.evPowerScheduleEntries.entries .outsideArray fun entry => .ok entry.convert
  return { timeAnchor := schedule.timeAnchor, entries }

def EvPriceRuleType.convert (rule : EvPriceRuleType) : EvPriceRule :=
  { energyFee := rule.energyFee.convert, powerRangeStart := rule.powerRangeStart.convert }

def EvPriceRuleStackType.convert (stack : EvPriceRuleStackType capacities) : Except Fault EvPriceRuleStack := do
  let priceRules ← stack.evPriceRule.entries .outsideArray fun rule => .ok rule.convert
  return { duration := stack.duration, priceRules }

def EvAbsolutePriceScheduleType.convert (schedule : EvAbsolutePriceScheduleType capacities) :
    Except Fault EvAbsolutePriceSchedule := do
  let currency ← cb2cppString schedule.currency
  let priceAlgorithm ← cb2cppString schedule.priceAlgorithm
  let priceRuleStacks ← schedule.evPriceRuleStacks.entries .outsideArray (·.convert)
  return { timeAnchor := schedule.timeAnchor, currency, priceAlgorithm, priceRuleStacks }

def EvEnergyOfferType.convert (offer : EvEnergyOfferType capacities) : Except Fault EvEnergyOffer := do
  let powerSchedule ← offer.evPowerSchedule.convert
  let absolutePriceSchedule ← offer.evAbsolutePriceSchedule.convert
  return { powerSchedule, absolutePriceSchedule }

def ScheduledSeReqControlModeType.convert (mode : ScheduledSeReqControlModeType capacities) :
    Except Fault ScheduledSeReqControlMode := do
  let energyOffer ← mode.evEnergyOffer.readM (·.convert)
  return {
    departureTime := cb2cppAssignIfUsed mode.departureTime
    targetEnergy := cb2cppConvertIfUsed mode.evTargetEnergyRequest
    maxEnergy := cb2cppConvertIfUsed mode.evMaximumEnergyRequest
    minEnergy := cb2cppConvertIfUsed mode.evMinimumEnergyRequest
    energyOffer }

def DynamicSeReqControlModeType.convert (mode : DynamicSeReqControlModeType) : DynamicSeReqControlMode :=
  { departureTime := mode.departureTime
    minimumSoc := cb2cppAssignIfUsed mode.minimumSoc
    targetSoc := cb2cppAssignIfUsed mode.targetSoc
    targetEnergy := mode.evTargetEnergyRequest.convert
    maxEnergy := mode.evMaximumEnergyRequest.convert
    minEnergy := mode.evMinimumEnergyRequest.convert
    maxV2xEnergy := cb2cppConvertIfUsed mode.evMaximumV2xEnergyRequest
    minV2xEnergy := cb2cppConvertIfUsed mode.evMinimumV2xEnergyRequest }

def ScheduleExchangeReqType.controlMode (req : ScheduleExchangeReqType capacities) :
    Except Fault SeReqControlMode :=
  if req.dynamicSeReqControlMode.isUsed then return .dynamic req.dynamicSeReqControlMode.value.convert
  else if req.scheduledSeReqControlMode.isUsed then do
    let mode ← req.scheduledSeReqControlMode.value.convert
    return .scheduled mode
  else .error (.runtimeError "No control mode selected in iso20_ScheduleExchangeReqType")

def ScheduleExchangeReqType.convert (req : ScheduleExchangeReqType capacities) :
    Except Fault ScheduleExchangeRequest := do
  let header ← req.header.convert
  let controlMode ← req.controlMode
  return { header, maxSupportingPoints := req.maximumSupportingPoints, controlMode }

def PowerScheduleEntryType.convert (entry : PowerScheduleEntryType) : PowerScheduleEntry :=
  { duration := entry.duration
    power := entry.power.convert
    powerL2 := cb2cppConvertIfUsed entry.powerL2
    powerL3 := cb2cppConvertIfUsed entry.powerL3 }

def PowerScheduleType.convert (schedule : PowerScheduleType capacities) : Except Fault PowerSchedule := do
  let entries ← schedule.powerScheduleEntries.entries .outsideArray fun entry => .ok entry.convert
  return {
    timeAnchor := schedule.timeAnchor
    availableEnergy := cb2cppConvertIfUsed schedule.availableEnergy
    powerTolerance := cb2cppConvertIfUsed schedule.powerTolerance
    entries }

def ChargingScheduleType.convert (schedule : ChargingScheduleType capacities) : Except Fault ChargingSchedule := do
  let priceSchedule ← schedule.toPriceScheduleMembers.convert
  let powerSchedule ← schedule.powerSchedule.convert
  return { powerSchedule, priceSchedule }

def ScheduleTupleType.convert (tuple : ScheduleTupleType capacities) : Except Fault ScheduleTuple := do
  let chargingSchedule ← tuple.chargingSchedule.convert
  let dischargingSchedule ← tuple.dischargingSchedule.readM (·.convert)
  return { scheduleTupleId := tuple.scheduleTupleId, chargingSchedule, dischargingSchedule }

def ScheduledSeResControlModeType.convert (mode : ScheduledSeResControlModeType capacities) :
    Except Fault ScheduledSeResControlMode := do
  let scheduleTuple ← mode.scheduleTuple.entries .outsideArray (·.convert)
  return { scheduleTuple }

def DynamicSeResControlModeType.convert (mode : DynamicSeResControlModeType capacities) :
    Except Fault DynamicSeResControlMode := do
  let priceSchedule ← mode.toPriceScheduleMembers.convert
  return {
    departureTime := cb2cppAssignIfUsed mode.departureTime
    minimumSoc := cb2cppAssignIfUsed mode.minimumSoc
    targetSoc := cb2cppAssignIfUsed mode.targetSoc
    priceSchedule }

def ScheduleExchangeResType.controlMode (res : ScheduleExchangeResType capacities) :
    Except Fault SeResControlMode :=
  if res.dynamicSeResControlMode.isUsed then do
    let mode ← res.dynamicSeResControlMode.value.convert
    return .dynamic mode
  else if res.scheduledSeResControlMode.isUsed then do
    let mode ← res.scheduledSeResControlMode.value.convert
    return .scheduled mode
  else .error (.runtimeError "No control mode selected in iso20_ScheduleExchangeResType")

def ScheduleExchangeResType.convert (res : ScheduleExchangeResType capacities) :
    Except Fault ScheduleExchangeResponse := do
  let header ← res.header.convert
  let responseCode ← cppEnum res.responseCode
  let processing ← cppEnum res.evseProcessing
  let controlMode ← res.controlMode
  return { header, responseCode, processing, goToPause := cb2cppBoolIfUsed res.goToPause, controlMode }

end Iso20

-- To the generated records.

namespace Datatypes

variable {capacities : ScheduleCapacities}

def EvPowerScheduleEntry.convert (entry : EvPowerScheduleEntry) : Iso20.EvPowerScheduleEntryType :=
  { duration := entry.duration, power := entry.power.convert }

def EvPowerSchedule.convert (schedule : EvPowerSchedule) (out : Iso20.EvPowerScheduleType capacities) :
    Except Fault (Iso20.EvPowerScheduleType capacities) := do
  let evPowerScheduleEntries ←
    cpp2cbArray (fun entry _ => .ok (EvPowerScheduleEntry.convert entry)) schedule.entries out.evPowerScheduleEntries
  return { timeAnchor := schedule.timeAnchor, evPowerScheduleEntries }

def EvPriceRule.convert (rule : EvPriceRule) : Iso20.EvPriceRuleType :=
  { energyFee := rule.energyFee.convert, powerRangeStart := rule.powerRangeStart.convert }

def EvPriceRuleStack.convert (stack : EvPriceRuleStack) (out : Iso20.EvPriceRuleStackType capacities) :
    Except Fault (Iso20.EvPriceRuleStackType capacities) := do
  let evPriceRule ← cpp2cbArray (fun rule _ => .ok (EvPriceRule.convert rule)) stack.priceRules out.evPriceRule
  return { duration := stack.duration, evPriceRule }

def EvAbsolutePriceSchedule.convert (schedule : EvAbsolutePriceSchedule)
    (out : Iso20.EvAbsolutePriceScheduleType capacities) :
    Except Fault (Iso20.EvAbsolutePriceScheduleType capacities) := do
  let currency ← cpp2cbString schedule.currency out.currency
  let priceAlgorithm ← cpp2cbString schedule.priceAlgorithm out.priceAlgorithm
  let evPriceRuleStacks ← cpp2cbArray EvPriceRuleStack.convert schedule.priceRuleStacks out.evPriceRuleStacks
  return { timeAnchor := schedule.timeAnchor, currency, priceAlgorithm, evPriceRuleStacks }

def EvEnergyOffer.convert (offer : EvEnergyOffer) (out : Iso20.EvEnergyOfferType capacities) :
    Except Fault (Iso20.EvEnergyOfferType capacities) := do
  let evPowerSchedule ← offer.powerSchedule.convert out.evPowerSchedule
  let evAbsolutePriceSchedule ← offer.absolutePriceSchedule.convert out.evAbsolutePriceSchedule
  return { evPowerSchedule, evAbsolutePriceSchedule }

def DynamicSeReqControlMode.convert (mode : DynamicSeReqControlMode) (out : Iso20.DynamicSeReqControlModeType) :
    Iso20.DynamicSeReqControlModeType :=
  { departureTime := mode.departureTime
    minimumSoc := cpp2cbAssignIfUsed mode.minimumSoc out.minimumSoc
    targetSoc := cpp2cbAssignIfUsed mode.targetSoc out.targetSoc
    evTargetEnergyRequest := mode.targetEnergy.convert
    evMaximumEnergyRequest := mode.maxEnergy.convert
    evMinimumEnergyRequest := mode.minEnergy.convert
    evMaximumV2xEnergyRequest := cpp2cbConvertIfUsed mode.maxV2xEnergy out.evMaximumV2xEnergyRequest
    evMinimumV2xEnergyRequest := cpp2cbConvertIfUsed mode.minV2xEnergy out.evMinimumV2xEnergyRequest }

def ScheduledSeReqControlMode.convert (mode : ScheduledSeReqControlMode)
    (out : Iso20.ScheduledSeReqControlModeType capacities) :
    Except Fault (Iso20.ScheduledSeReqControlModeType capacities) := do
  let evEnergyOffer ← out.evEnergyOffer.writeM EvEnergyOffer.convert mode.energyOffer
  return {
    departureTime := cpp2cbAssignIfUsed mode.departureTime out.departureTime
    evTargetEnergyRequest := cpp2cbConvertIfUsed mode.targetEnergy out.evTargetEnergyRequest
    evMaximumEnergyRequest := cpp2cbConvertIfUsed mode.maxEnergy out.evMaximumEnergyRequest
    evMinimumEnergyRequest := cpp2cbConvertIfUsed mode.minEnergy out.evMinimumEnergyRequest
    evEnergyOffer }

/-- `ModeRequestVisitor` -/
def SeReqControlMode.convert (mode : SeReqControlMode) (req : Iso20.ScheduleExchangeReqType capacities) :
    Except Fault (Iso20.ScheduleExchangeReqType capacities) :=
  match mode with
  | .dynamic mode => return {
      req with dynamicSeReqControlMode := req.dynamicSeReqControlMode.set (mode.convert ·.init) }
  | .scheduled mode => do
      let value ← mode.convert req.scheduledSeReqControlMode.value.init
      return { req with scheduledSeReqControlMode := { value, isUsed := true } }

def PowerScheduleEntry.convert (entry : PowerScheduleEntry) (out : Iso20.PowerScheduleEntryType) :
    Iso20.PowerScheduleEntryType :=
  { duration := entry.duration
    power := entry.power.convert
    powerL2 := cpp2cbConvertIfUsed entry.powerL2 out.powerL2
    powerL3 := cpp2cbConvertIfUsed entry.powerL3 out.powerL3 }

def PowerSchedule.convert (schedule : PowerSchedule) (out : Iso20.PowerScheduleType capacities) :
    Except Fault (Iso20.PowerScheduleType capacities) := do
  let out := out.init
  let powerScheduleEntries ←
    cpp2cbArray (fun entry out => .ok (PowerScheduleEntry.convert entry out))
      schedule.entries out.powerScheduleEntries
  return {
    timeAnchor := schedule.timeAnchor
    availableEnergy := cpp2cbConvertIfUsed schedule.availableEnergy out.availableEnergy
    powerTolerance := cpp2cbConvertIfUsed schedule.powerTolerance out.powerTolerance
    powerScheduleEntries }

def ChargingSchedule.convert (schedule : ChargingSchedule) (out : Iso20.ChargingScheduleType capacities) :
    Except Fault (Iso20.ChargingScheduleType capacities) := do
  let out := out.init
  let powerSchedule ← schedule.powerSchedule.convert out.powerSchedule
  let priceSchedule ← schedule.priceSchedule.convert out.toPriceScheduleMembers
  return { toPriceScheduleMembers := priceSchedule, powerSchedule }

def ScheduleTuple.convert (tuple : ScheduleTuple) (out : Iso20.ScheduleTupleType capacities) :
    Except Fault (Iso20.ScheduleTupleType capacities) := do
  let out := out.init
  let chargingSchedule ← tuple.chargingSchedule.convert out.chargingSchedule
  let dischargingSchedule ← out.dischargingSchedule.writeM ChargingSchedule.convert tuple.dischargingSchedule
  return { scheduleTupleId := tuple.scheduleTupleId, chargingSchedule, dischargingSchedule }

def DynamicSeResControlMode.convert (mode : DynamicSeResControlMode)
    (out : Iso20.DynamicSeResControlModeType capacities) :
    Except Fault (Iso20.DynamicSeResControlModeType capacities) := do
  let priceSchedule ← mode.priceSchedule.convert out.toPriceScheduleMembers
  return {
    toPriceScheduleMembers := priceSchedule
    departureTime := cpp2cbAssignIfUsed mode.departureTime out.departureTime
    minimumSoc := cpp2cbAssignIfUsed mode.minimumSoc out.minimumSoc
    targetSoc := cpp2cbAssignIfUsed mode.targetSoc out.targetSoc }

def ScheduledSeResControlMode.convert (mode : ScheduledSeResControlMode)
    (out : Iso20.ScheduledSeResControlModeType capacities) :
    Except Fault (Iso20.ScheduledSeResControlModeType capacities) := do
  let scheduleTuple ← cpp2cbArray ScheduleTuple.convert mode.scheduleTuple out.scheduleTuple
  return { scheduleTuple }

/-- `ModeResponseVisitor` -/
def SeResControlMode.convert (mode : SeResControlMode) (res : Iso20.ScheduleExchangeResType capacities) :
    Except Fault (Iso20.ScheduleExchangeResType capacities) :=
  match mode with
  | .dynamic mode => do
      let value ← mode.convert res.dynamicSeResControlMode.value.init
      return { res with dynamicSeResControlMode := { value, isUsed := true } }
  | .scheduled mode => do
      let value ← mode.convert res.scheduledSeResControlMode.value.init
      return { res with scheduledSeResControlMode := { value, isUsed := true } }

end Datatypes

variable {capacities : ScheduleCapacities}

def ScheduleExchangeRequest.convert (req : ScheduleExchangeRequest) (out : Iso20.ScheduleExchangeReqType capacities) :
    Except Fault (Iso20.ScheduleExchangeReqType capacities) := do
  let out ← req.controlMode.convert { out.init with maximumSupportingPoints := req.maxSupportingPoints }
  return { out with header := req.header.convert }

def ScheduleExchangeResponse.convert (res : ScheduleExchangeResponse)
    (out : Iso20.ScheduleExchangeResType capacities) : Except Fault (Iso20.ScheduleExchangeResType capacities) :=
  let out := out.init
  res.controlMode.convert
    { out with
      header := res.header.convert
      responseCode := cbEnum res.responseCode
      evseProcessing := cbEnum res.processing
      goToPause := cpp2cbBoolIfUsed res.goToPause out.goToPause }

namespace Datatypes

def EvPriceRuleStack.Fits (capacities : ScheduleCapacities) (stack : EvPriceRuleStack) : Prop :=
  stack.priceRules.length ≤ capacities.evPriceRules

def EvEnergyOffer.Fits (capacities : ScheduleCapacities) (offer : EvEnergyOffer) : Prop :=
  offer.powerSchedule.entries.length ≤ capacities.evPowerEntries ∧
    offer.absolutePriceSchedule.currency.length ≤ capacities.evCurrency ∧
    offer.absolutePriceSchedule.priceAlgorithm.length ≤ capacities.evPriceAlgorithm ∧
    offer.absolutePriceSchedule.priceRuleStacks.length ≤ capacities.evPriceRuleStacks ∧
    ∀ stack ∈ offer.absolutePriceSchedule.priceRuleStacks, stack.Fits capacities

def SeReqControlMode.Fits (capacities : ScheduleCapacities) : SeReqControlMode → Prop
  | .dynamic _ => True
  | .scheduled mode => ∀ offer ∈ mode.energyOffer, offer.Fits capacities

def ChargingSchedule.Fits (capacities : ScheduleCapacities) (schedule : ChargingSchedule) : Prop :=
  schedule.powerSchedule.entries.length ≤ capacities.powerEntries ∧
    schedule.priceSchedule.Fits capacities.toPriceCapacities

def ScheduleTuple.Fits (capacities : ScheduleCapacities) (tuple : ScheduleTuple) : Prop :=
  tuple.chargingSchedule.Fits capacities ∧ ∀ schedule ∈ tuple.dischargingSchedule, schedule.Fits capacities

def SeResControlMode.Fits (capacities : ScheduleCapacities) : SeResControlMode → Prop
  | .dynamic mode => mode.priceSchedule.Fits capacities.toPriceCapacities
  | .scheduled mode =>
      mode.scheduleTuple.length ≤ capacities.scheduleTuples ∧
        ∀ tuple ∈ mode.scheduleTuple, tuple.Fits capacities

def ScheduleTuple.Kept (tuple : ScheduleTuple) : Prop :=
  tuple.chargingSchedule.priceSchedule.Kept ∧
    ∀ schedule ∈ tuple.dischargingSchedule, schedule.priceSchedule.Kept

def SeResControlMode.Kept : SeResControlMode → Prop
  | .dynamic mode => mode.priceSchedule.Kept
  | .scheduled mode => ∀ tuple ∈ mode.scheduleTuple, tuple.Kept

theorem EvPowerScheduleEntry.convert_codes (entry : EvPowerScheduleEntry) :
    Codes Fault.isThrown (fun entry (_ : Iso20.EvPowerScheduleEntryType) => .ok entry.convert)
      (fun entry => .ok entry.convert) (fun _ => True) (fun _ => True) entry :=
  Codes.of_same (fun _ _ => rfl) entry

theorem EvPriceRule.convert_codes (rule : EvPriceRule) :
    Codes Fault.isThrown (fun rule (_ : Iso20.EvPriceRuleType) => .ok rule.convert)
      (fun rule => .ok rule.convert) (fun _ => True) (fun _ => True) rule :=
  Codes.of_same (fun _ _ => rfl) rule

theorem EvPriceRuleStack.convert_codes (stack : EvPriceRuleStack) :
    Codes Fault.isThrown (fun stack (out : Iso20.EvPriceRuleStackType capacities) => stack.convert out) (·.convert)
      (EvPriceRuleStack.Fits capacities) (fun _ => True) stack := by
  intro out
  refine ((cpp2cbArray_codes stack.priceRules (fun rule _ => rule.convert_codes) _).bind fun _ rules =>
    Outcome.of_ok trivial ?_).mono (by simp [Fits]) fun _ holds => holds
  simp only [implies_true, iff_true] at rules
  simp [Iso20.EvPriceRuleStackType.convert, rules]

theorem EvEnergyOffer.convert_codes (offer : EvEnergyOffer) :
    Codes Fault.isThrown (fun offer (out : Iso20.EvEnergyOfferType capacities) => offer.convert out) (·.convert)
      (EvEnergyOffer.Fits capacities) (fun _ => True) offer := by
  intro out
  obtain ⟨power, price⟩ := offer
  have first : Outcome Fault.isThrown (power.entries.length ≤ capacities.evPowerEntries)
      (fun written => written.convert = .ok power) (power.convert out.evPowerSchedule) := by
    refine ((cpp2cbArray_codes power.entries (fun entry _ => entry.convert_codes) _).bind fun _ entries =>
      Outcome.of_ok trivial ?_).mono (by simp) fun _ holds => holds
    simp only [implies_true, iff_true] at entries
    simp [Iso20.EvPowerScheduleType.convert, entries]
  have second : Outcome Fault.isThrown
      (price.currency.length ≤ capacities.evCurrency ∧
        price.priceAlgorithm.length ≤ capacities.evPriceAlgorithm ∧
        price.priceRuleStacks.length ≤ capacities.evPriceRuleStacks ∧
        ∀ stack ∈ price.priceRuleStacks, stack.Fits capacities)
      (fun written => written.convert = .ok price) (price.convert out.evAbsolutePriceSchedule) := by
    refine ((cpp2cbString_codes price.currency _).bind fun _ currency =>
      (cpp2cbString_codes price.priceAlgorithm _).bind fun _ algorithm =>
        (cpp2cbArray_codes price.priceRuleStacks (fun stack _ => stack.convert_codes) _).bind fun _ ruleStacks =>
          Outcome.of_ok trivial ?_).mono (by simp) fun _ holds => holds
    simp only [implies_true, iff_true] at currency algorithm ruleStacks
    simp [Iso20.EvAbsolutePriceScheduleType.convert, currency, algorithm, ruleStacks, bind_eq_ok]
  refine (first.bind fun _ power => second.bind fun _ price => Outcome.of_ok trivial ?_).mono
    (by simp [Fits]) fun _ holds => holds
  simp [Iso20.EvEnergyOfferType.convert, power, price, bind_eq_ok]

@[simp] theorem DynamicSeReqControlMode.convert_convert (mode : DynamicSeReqControlMode)
    (out : Iso20.DynamicSeReqControlModeType) : (mode.convert out).convert = mode := by
  simp [DynamicSeReqControlMode.convert, Iso20.DynamicSeReqControlModeType.convert]

theorem PowerScheduleEntry.convert_codes (entry : PowerScheduleEntry) :
    Codes Fault.isThrown
      (fun entry (out : Iso20.PowerScheduleEntryType) => .ok (PowerScheduleEntry.convert entry out))
      (fun entry => .ok entry.convert) (fun _ => True) (fun _ => True) entry :=
  Codes.of_same (fun entry _ => by simp [PowerScheduleEntry.convert, Iso20.PowerScheduleEntryType.convert]) entry

theorem PowerSchedule.convert_codes (schedule : PowerSchedule) :
    Codes Fault.isThrown (fun schedule (out : Iso20.PowerScheduleType capacities) => schedule.convert out)
      (·.convert) (fun schedule => schedule.entries.length ≤ capacities.powerEntries) (fun _ => True) schedule := by
  intro out
  refine ((cpp2cbArray_codes schedule.entries (fun entry _ => entry.convert_codes) _).bind fun _ entries =>
    Outcome.of_ok trivial ?_).mono (by simp) fun _ holds => holds
  simp only [implies_true, iff_true] at entries
  simp [Iso20.PowerScheduleType.convert, entries]

theorem ChargingSchedule.convert_codes (schedule : ChargingSchedule) :
    Codes Fault.isThrown (fun schedule (out : Iso20.ChargingScheduleType capacities) => schedule.convert out)
      (·.convert) (ChargingSchedule.Fits capacities) (fun schedule => schedule.priceSchedule.Kept) schedule := by
  intro out
  refine ((schedule.powerSchedule.convert_codes _).bind fun _ power =>
    (schedule.priceSchedule.convert_outcome _).bind fun _ price =>
      Outcome.of_ok trivial ?_).mono (by simp [Fits]) fun _ holds => holds
  simp only [iff_true] at power
  cases schedule
  simp [Iso20.ChargingScheduleType.convert, power, ← price, bind_eq_ok]

theorem ScheduleTuple.convert_codes (tuple : ScheduleTuple) :
    Codes Fault.isThrown (fun tuple (out : Iso20.ScheduleTupleType capacities) => tuple.convert out) (·.convert)
      (ScheduleTuple.Fits capacities) ScheduleTuple.Kept tuple := by
  intro out
  refine ((tuple.chargingSchedule.convert_codes _).bind fun _ charging =>
    (Used.codes (fun schedule _ => schedule.convert_codes) _).bind fun _ discharging =>
      Outcome.of_ok trivial ?_).mono (by simp [Fits]) fun _ holds => holds
  simp only [Kept] at charging discharging ⊢
  rw [← charging, ← discharging]
  cases tuple
  simp [Iso20.ScheduleTupleType.convert, bind_eq_ok, map_eq_ok]

theorem ScheduledSeReqControlMode.convert_codes (mode : ScheduledSeReqControlMode) :
    Codes Fault.isThrown (fun mode (out : Iso20.ScheduledSeReqControlModeType capacities) => mode.convert out)
      (·.convert) (fun mode => ∀ offer ∈ mode.energyOffer, offer.Fits capacities) (fun _ => True) mode := by
  intro out
  refine ((Used.codes (fun offer _ => offer.convert_codes) _).bind fun _ offer => Outcome.of_ok trivial ?_).mono
    (by simp) fun _ holds => holds
  simp only [implies_true, iff_true] at offer
  simp [Iso20.ScheduledSeReqControlModeType.convert, offer]

theorem DynamicSeResControlMode.convert_outcome (mode : DynamicSeResControlMode)
    (out : Iso20.DynamicSeResControlModeType capacities) :
    Outcome Fault.isThrown (mode.priceSchedule.Fits capacities.toPriceCapacities)
      (fun written => written.convert = .ok mode ↔ mode.priceSchedule.Kept) (mode.convert out.init) := by
  refine ((mode.priceSchedule.convert_outcome _).bind fun _ price => Outcome.of_ok trivial ?_).mono
    (by simp) fun _ holds => holds
  rw [← price]
  cases mode
  simp [Iso20.DynamicSeResControlModeType.convert, map_eq_ok]

theorem ScheduledSeResControlMode.convert_codes (mode : ScheduledSeResControlMode) :
    Codes Fault.isThrown (fun mode (out : Iso20.ScheduledSeResControlModeType capacities) => mode.convert out)
      (·.convert)
      (fun mode => mode.scheduleTuple.length ≤ capacities.scheduleTuples ∧
        ∀ tuple ∈ mode.scheduleTuple, tuple.Fits capacities)
      (fun mode => ∀ tuple ∈ mode.scheduleTuple, tuple.Kept) mode := by
  intro out
  refine ((cpp2cbArray_codes mode.scheduleTuple (fun tuple _ => tuple.convert_codes) _).bind fun _ tuples =>
    Outcome.of_ok trivial ?_).mono (by simp) fun _ holds => holds
  dsimp only at tuples ⊢
  rw [← tuples]
  cases mode
  simp [Iso20.ScheduledSeResControlModeType.convert, map_eq_ok]

end Datatypes

theorem ScheduleExchangeRequest.convert_codes (req : ScheduleExchangeRequest) :
    Codes Fault.isThrown (fun req (out : Iso20.ScheduleExchangeReqType capacities) => req.convert out) (·.convert)
      (fun req => req.controlMode.Fits capacities) (fun _ => True) req := by
  intro out
  obtain ⟨header, points, controlMode⟩ := req
  cases controlMode with
  | dynamic mode =>
      simp [ScheduleExchangeRequest.convert, SeReqControlMode.convert, SeReqControlMode.Fits,
        Iso20.ScheduleExchangeReqType.convert, Iso20.ScheduleExchangeReqType.controlMode, Used.set]
  | scheduled mode =>
      have inner := mode.convert_codes out.init.scheduledSeReqControlMode.value.init
      simp only [ScheduleExchangeRequest.convert, SeReqControlMode.convert, bind_assoc, pure_bind]
      refine (inner.bind fun _ back => Outcome.of_ok trivial ?_).mono
        (by simp [SeReqControlMode.Fits]) fun _ holds => holds
      simp only [iff_true] at back
      simp [Iso20.ScheduleExchangeReqType.convert, Iso20.ScheduleExchangeReqType.controlMode,
        Iso20.ScheduleExchangeReqType.init, back, bind_eq_ok]

theorem ScheduleExchangeResponse.convert_codes (res : ScheduleExchangeResponse) :
    Codes Fault.isThrown (fun res (out : Iso20.ScheduleExchangeResType capacities) => res.convert out) (·.convert)
      (fun res => res.controlMode.Fits capacities) (fun res => res.controlMode.Kept) res := by
  intro out
  obtain ⟨header, responseCode, processing, goToPause, controlMode⟩ := res
  cases controlMode with
  | dynamic mode =>
      have inner := mode.convert_outcome out.init.dynamicSeResControlMode.value
      refine (inner.bind fun _ back => Outcome.of_ok trivial ?_).mono
        (by simp [SeResControlMode.Fits]) fun _ holds => holds
      simp only [SeResControlMode.Kept]
      rw [← back]
      simp [Iso20.ScheduleExchangeResType.convert, Iso20.ScheduleExchangeResType.controlMode, bind_eq_ok, map_eq_ok]
  | scheduled mode =>
      have inner := mode.convert_codes out.init.scheduledSeResControlMode.value.init
      refine (inner.bind fun _ back => Outcome.of_ok trivial ?_).mono
        (by simp [SeResControlMode.Fits]) fun _ holds => holds
      simp only [SeResControlMode.Kept] at back ⊢
      rw [← back]
      simp [Iso20.ScheduleExchangeResType.convert, Iso20.ScheduleExchangeResType.controlMode,
        Iso20.ScheduleExchangeResType.init, bind_eq_ok, map_eq_ok]

def ScheduleExchangeRequest.ComesBack (capacities : ScheduleCapacities) (req : ScheduleExchangeRequest) : Prop :=
  RoundTrips Fault.isThrown (fun req (out : Iso20.ScheduleExchangeReqType capacities) => req.convert out)
    (·.convert) req

def ScheduleExchangeResponse.ComesBack (capacities : ScheduleCapacities) (res : ScheduleExchangeResponse) : Prop :=
  RoundTrips Fault.isThrown (fun res (out : Iso20.ScheduleExchangeResType capacities) => res.convert out)
    (·.convert) res

theorem ScheduleExchangeResponse.comesBack_iff (res : ScheduleExchangeResponse) :
    res.ComesBack capacities ↔ (res.controlMode.Fits capacities → res.controlMode.Kept) :=
  res.convert_codes.roundTrips_iff fun _ thrown _ => thrown

/-- A response that fits comes back exactly if no price schedule has a minimum cost, or overstay rules
without a time threshold. -/
theorem schedule_exchange_round_trip_iff (capacities : ScheduleCapacities) :
    (∀ req : ScheduleExchangeRequest, req.ComesBack capacities) ∧
      ∀ res : ScheduleExchangeResponse,
        res.ComesBack capacities ↔ (res.controlMode.Fits capacities → res.controlMode.Kept) := by
  constructor
  · intro req
    exact (req.convert_codes.roundTrips_iff fun _ thrown _ => thrown).mpr fun _ => trivial
  · exact fun res => res.comesBack_iff

namespace Sample

def scheduleCapacities : ScheduleCapacities :=
  { absoluteId := 255, absoluteDescription := 160, currency := 3, language := 3, priceAlgorithm := 255
    taxRules := 10, taxRuleName := 80, priceRuleStacks := 1024, priceRules := 8, overstayRules := 5
    overstayRuleDescription := 160, additionalServices := 5, serviceName := 80, levelId := 255
    levelDescription := 160, priceLevels := 1024, evCurrency := 3, evPriceAlgorithm := 255
    evPowerEntries := 1024, evPriceRuleStacks := 1024, evPriceRules := 8, powerEntries := 1024
    scheduleTuples := 3 }

def pricedResponse (minimumCost : Option RationalNumber) (overstayRules : Option OverstayRulesList) :
    ScheduleExchangeResponse :=
  { controlMode := .dynamic {
      priceSchedule := .absolute {
        timeAnchor := 0, priceScheduleId := 1, currency := "EUR", language := "de", priceAlgorithm := "1-Power"
        minimumCost, maximumCost := some { value := 20 }, overstayRules
        priceRuleStacks := Vector.replicate 1024 Iso20.noPriceRuleStack } } }

theorem pricedResponse_fits (minimumCost : Option RationalNumber) (overstayRules : Option OverstayRulesList)
    (room : ∀ rules ∈ overstayRules, rules.Fits scheduleCapacities.toPriceCapacities) :
    (pricedResponse minimumCost overstayRules).controlMode.Fits scheduleCapacities := by
  have none : ∀ {α : Type} {P : α → Prop}, ∀ a ∈ (Option.none : Option α), P a := by simp
  have currency : "EUR".length ≤ 3 := by decide
  have language : "de".length ≤ 3 := by decide
  have algorithm : "1-Power".length ≤ 255 := by decide
  exact ⟨none, none, currency, language, algorithm, none, ⟨Nat.le_refl 1024, fun _ _ => Nat.le_refl 8⟩, room, none⟩

end Sample

/-- A minimum cost is lost, and a missing time threshold is made up. -/
theorem schedule_exchange_lost :
    ¬(Sample.pricedResponse (some { value := 5 }) none).ComesBack Sample.scheduleCapacities ∧
      ¬(Sample.pricedResponse none (some {})).ComesBack Sample.scheduleCapacities := by
  rw [ScheduleExchangeResponse.comesBack_iff, ScheduleExchangeResponse.comesBack_iff]
  constructor
  · intro kept
    have fits := Sample.pricedResponse_fits (some { value := 5 }) none (by simp)
    cases (kept fits).1
  · intro kept
    have fits := Sample.pricedResponse_fits none (some {}) (by simp [OverstayRulesList.Fits])
    exact (kept fits).2 {} rfl rfl

end LibIso15118
