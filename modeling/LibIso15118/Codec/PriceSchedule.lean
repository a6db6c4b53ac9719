import LibIso15118.Codec.CommonTypes

set_option autoImplicit false

namespace LibIso15118

open Datatypes Codec

structure PriceCapacities where
  absoluteId : Nat
  absoluteDescription : Nat
  currency : Nat
  language : Nat
  priceAlgorithm : Nat
  taxRules : Nat
  taxRuleName : Nat
  priceRuleStacks : Nat
  priceRules : Nat
  overstayRules : Nat
  overstayRuleDescription : Nat
  additionalServices : Nat
  serviceName : Nat
  levelId : Nat
  levelDescription : Nat
  priceLevels : Nat

namespace Iso20

structure TaxRuleType (capacities : PriceCapacities) where
  taxRuleId : UInt32
  taxRuleName : Used (CbString capacities.taxRuleName)
  taxRate : RationalNumberType
  taxIncludedInPrice : Used Int32
  appliesToEnergyFee : Int32
  appliesToParkingFee : Int32
  appliesToOverstayFee : Int32
  appliesMinimumMaximumCost : Int32
  deriving Inhabited

structure PriceRuleType where
  energyFee : RationalNumberType
  parkingFee : Used RationalNumberType
  parkingFeePeriod : Used UInt32
  carbonDioxideEmission : Used UInt16
  renewableGenerationPercentage : Used UInt8
  powerRangeStart : RationalNumberType
  deriving Inhabited

structure PriceRuleStackType (capacities : PriceCapacities) where
  duration : UInt32
  priceRule : Bounded capacities.priceRules PriceRuleType
  deriving Inhabited

structure OverstayRuleType (capacities : PriceCapacities) where
  overstayRuleDescription : Used (CbString capacities.overstayRuleDescription)
  startTime : UInt32
  overstayFee : RationalNumberType
  overstayFeePeriod : UInt32
  deriving Inhabited

structure OverstayRuleListType (capacities : PriceCapacities) where
  overstayTimeThreshold : Used UInt32
  overstayPowerThreshold : Used RationalNumberType
  overstayRule : Bounded capacities.overstayRules (OverstayRuleType capacities)
  deriving Inhabited

structure AdditionalServiceType (capacities : PriceCapacities) where
  serviceName : CbString capacities.serviceName
  serviceFee : RationalNumberType
  deriving Inhabited

structure AbsolutePriceScheduleType (capacities : PriceCapacities) where
  id : Used (CbString capacities.absoluteId)
  timeAnchor : UInt64
  priceScheduleId : UInt32
  priceScheduleDescription : Used (CbString capacities.absoluteDescription)
  currency : CbString capacities.currency
  language : CbString capacities.language
  priceAlgorithm : CbString capacities.priceAlgorithm
  minimumCost : Used RationalNumberType
  maximumCost : Used RationalNumberType
  taxRules : Used (Bounded capacities.taxRules (TaxRuleType capacities))
  priceRuleStacks : Bounded capacities.priceRuleStacks (PriceRuleStackType capacities)
  overstayRules : Used (OverstayRuleListType capacities)
  additionalSelectedServices : Used (Bounded capacities.additionalServices (AdditionalServiceType capacities))
  deriving Inhabited

structure PriceLevelScheduleEntryType where
  duration : UInt32
  priceLevel : UInt8
  deriving Inhabited

structure PriceLevelScheduleType (capacities : PriceCapacities) where
  id : Used (CbString capacities.levelId)
  timeAnchor : UInt64
  priceScheduleId : UInt32
  priceScheduleDescription : Used (CbString capacities.levelDescription)
  numberOfPriceLevels : UInt8
  priceLevelScheduleEntries : Bounded capacities.priceLevels PriceLevelScheduleEntryType
  deriving Inhabited

/-- The members of a charging schedule and of a dynamic control mode that `convert_price_schedule` fills. -/
structure PriceScheduleMembers (capacities : PriceCapacities) where
  absolutePriceSchedule : Used (AbsolutePriceScheduleType capacities)
  priceLevelSchedule : Used (PriceLevelScheduleType capacities)
  deriving Inhabited

variable {capacities : PriceCapacities}

-- The functions `init_iso20_…`. The flags and lengths of array elements are left out: a
-- conversion writes them before the length counts them.
def OverstayRuleListType.init (out : OverstayRuleListType capacities) : OverstayRuleListType capacities :=
  { overstayTimeThreshold := out.overstayTimeThreshold.clear id
    overstayPowerThreshold := out.overstayPowerThreshold.clear id
    overstayRule := out.overstayRule.clear }

def AbsolutePriceScheduleType.init (out : AbsolutePriceScheduleType capacities) :
    AbsolutePriceScheduleType capacities :=
  { out with
    id := out.id.clear Bounded.clear
    priceScheduleDescription := out.priceScheduleDescription.clear Bounded.clear
    currency := out.currency.clear
    language := out.language.clear
    priceAlgorithm := out.priceAlgorithm.clear
    minimumCost := out.minimumCost.clear (fun number => number)
    maximumCost := out.maximumCost.clear (fun number => number)
    taxRules := out.taxRules.clear Bounded.clear
    priceRuleStacks := out.priceRuleStacks.clear
    overstayRules := out.overstayRules.clear (·.init)
    additionalSelectedServices := out.additionalSelectedServices.clear Bounded.clear }

def PriceLevelScheduleType.init (out : PriceLevelScheduleType capacities) : PriceLevelScheduleType capacities :=
  { out with
    id := out.id.clear Bounded.clear
    priceScheduleDescription := out.priceScheduleDescription.clear Bounded.clear
    priceLevelScheduleEntries := out.priceLevelScheduleEntries.clear }

def PriceScheduleMembers.init (out : PriceScheduleMembers capacities) : PriceScheduleMembers capacities :=
  { absolutePriceSchedule := out.absolutePriceSchedule.clear (·.init)
    priceLevelSchedule := out.priceLevelSchedule.clear (·.init) }

-- From the generated records.
def PriceRuleType.convert (rule : PriceRuleType) : PriceRule :=
  { energyFee := rule.energyFee.convert
    parkingFee := cb2cppConvertIfUsed rule.parkingFee
    parkingFeePeriod := cb2cppAssignIfUsed rule.parkingFeePeriod
    renewableGenerationPercentage := cb2cppAssignIfUsed rule.renewableGenerationPercentage
    carbonDioxideEmission := cb2cppAssignIfUsed rule.carbonDioxideEmission
    powerRangeStart := rule.powerRangeStart.convert }

def PriceRuleStackType.convert (stack : PriceRuleStackType capacities) : Except Fault PriceRuleStack := do
  -- The fixed array is written without a check of the index.
  let priceRule ← cb2cppArray .outsideTarget { energyFee := {}, powerRangeStart := {} }
    (fun (rule : PriceRuleType) => .ok rule.convert) stack.priceRule
  return { duration := stack.duration, priceRule }

def TaxRuleType.convert (rule : TaxRuleType capacities) : Except Fault TaxRule := do
  let taxRuleName ← cb2cppStringIfUsed rule.taxRuleName
  return {
    taxRuleId := rule.taxRuleId
    taxRuleName
    taxRate := rule.taxRate.convert
    taxIncludedInPrice := cb2cppBoolIfUsed rule.taxIncludedInPrice
    appliesToEnergyFee := cppBool rule.appliesToEnergyFee
    appliesToParkingFee := cppBool rule.appliesToParkingFee
    appliesToOverstayFee := cppBool rule.appliesToOverstayFee
    appliesToMinimumMaximumCost := cppBool rule.appliesMinimumMaximumCost }

def OverstayRuleType.convert (rule : OverstayRuleType capacities) : Except Fault OverstayRule := do
  let overstayRuleDescription ← cb2cppStringIfUsed rule.overstayRuleDescription
  return {
    overstayRuleDescription
    startTime := rule.startTime
    overstayFee := rule.overstayFee.convert
    overstayFeePeriod := rule.overstayFeePeriod }

def OverstayRuleListType.convert (rules : OverstayRuleListType capacities) : Except Fault OverstayRulesList := do
  -- The time threshold is taken whether or not it is used.
  let overstayRule ← rules.overstayRule.entries .outsideArray (·.convert)
  return {
    overstayTimeThreshold := some rules.overstayTimeThreshold.value
    overstayPowerThreshold := cb2cppConvertIfUsed rules.overstayPowerThreshold
    overstayRule }

def AdditionalServiceType.convert (service : AdditionalServiceType capacities) :
    Except Fault AdditionalService := do
  let serviceName ← cb2cppString service.serviceName
  return { serviceName, serviceFee := service.serviceFee.convert }

def noTaxRule : TaxRule :=
  { taxRuleId := 0, taxRate := {}, appliesToEnergyFee := false, appliesToParkingFee := false
    appliesToOverstayFee := false, appliesToMinimumMaximumCost := false }

def noPriceRuleStack : PriceRuleStack :=
  { duration := 0, priceRule := Vector.replicate 8 { energyFee := {}, powerRangeStart := {} } }

def noAdditionalService : AdditionalService := { serviceName := "", serviceFee := {} }

def AbsolutePriceScheduleType.convert (schedule : AbsolutePriceScheduleType capacities) :
    Except Fault AbsolutePriceSchedule := do
  let id ← cb2cppStringIfUsed schedule.id
  let priceScheduleDescription ← cb2cppStringIfUsed schedule.priceScheduleDescription
  let currency ← cb2cppString schedule.currency
  let language ← cb2cppString schedule.language
  let priceAlgorithm ← cb2cppString schedule.priceAlgorithm
  let priceRuleStacks ← cb2cppArray .outsideTarget noPriceRuleStack (·.convert) schedule.priceRuleStacks
  let taxRules ← schedule.taxRules.readM (cb2cppArray .outOfRange noTaxRule (·.convert))
  let overstayRules ← schedule.overstayRules.readM (·.convert)
  let additionalSelectedServices ←
    schedule.additionalSelectedServices.readM (cb2cppArray .outOfRange noAdditionalService (·.convert))
  return {
    id
    timeAnchor := schedule.timeAnchor
    priceScheduleId := schedule.priceScheduleId
    priceScheduleDescription
    currency
    language
    priceAlgorithm
    minimumCost := cb2cppConvertIfUsed schedule.minimumCost
    maximumCost := cb2cppConvertIfUsed schedule.maximumCost
    taxRules
    priceRuleStacks
    overstayRules
    additionalSelectedServices }

def PriceLevelScheduleEntryType.convert (entry : PriceLevelScheduleEntryType) : PriceLevelScheduleEntry :=
  { duration := entry.duration, priceLevel := entry.priceLevel }

def PriceLevelScheduleType.convert (schedule : PriceLevelScheduleType capacities) :
    Except Fault PriceLevelSchedule := do
  let id ← cb2cppStringIfUsed schedule.id
  let priceScheduleDescription ← cb2cppStringIfUsed schedule.priceScheduleDescription
  let priceLevelScheduleEntries ←
    schedule.priceLevelScheduleEntries.entries .outsideArray fun entry => .ok entry.convert
  return {
    id
    timeAnchor := schedule.timeAnchor
    priceScheduleId := schedule.priceScheduleId
    priceScheduleDescription
    numberOfPriceLevels := schedule.numberOfPriceLevels
    priceLevelScheduleEntries }

def PriceScheduleMembers.convert (schedules : PriceScheduleMembers capacities) : Except Fault PriceSchedule :=
  if schedules.absolutePriceSchedule.isUsed then do
    let schedule ← schedules.absolutePriceSchedule.value.convert
    return .absolute schedule
  else if schedules.priceLevelSchedule.isUsed then do
    let schedule ← schedules.priceLevelSchedule.value.convert
    return .priceLevel schedule
  else return .none

end Iso20

-- To the generated records.

namespace Datatypes

variable {capacities : PriceCapacities}

def TaxRule.convert (rule : TaxRule) (out : Iso20.TaxRuleType capacities) :
    Except Fault (Iso20.TaxRuleType capacities) := do
  let taxRuleName ← cpp2cbStringIfUsed rule.taxRuleName out.taxRuleName
  return {
    taxRuleId := rule.taxRuleId
    taxRuleName
    taxRate := rule.taxRate.convert
    taxIncludedInPrice := cpp2cbBoolIfUsed rule.taxIncludedInPrice out.taxIncludedInPrice
    appliesToEnergyFee := cbBool rule.appliesToEnergyFee
    appliesToParkingFee := cbBool rule.appliesToParkingFee
    appliesToOverstayFee := cbBool rule.appliesToOverstayFee
    appliesMinimumMaximumCost := cbBool rule.appliesToMinimumMaximumCost }

def PriceRule.convert (rule : PriceRule) (out : Iso20.PriceRuleType) : Iso20.PriceRuleType :=
  { energyFee := rule.energyFee.convert
    parkingFee := cpp2cbConvertIfUsed rule.parkingFee out.parkingFee
    parkingFeePeriod := cpp2cbAssignIfUsed rule.parkingFeePeriod out.parkingFeePeriod
    carbonDioxideEmission := cpp2cbAssignIfUsed rule.carbonDioxideEmission out.carbonDioxideEmission
    renewableGenerationPercentage :=
      cpp2cbAssignIfUsed rule.renewableGenerationPercentage out.renewableGenerationPercentage
    powerRangeStart := rule.powerRangeStart.convert }

def PriceRuleStack.convert (stack : PriceRuleStack) (out : Iso20.PriceRuleStackType capacities) :
    Except Fault (Iso20.PriceRuleStackType capacities) := do
  let priceRule ← cpp2cbArray (fun rule out => .ok (PriceRule.convert rule out)) stack.priceRule.toList out.priceRule
  return { duration := stack.duration, priceRule }

def OverstayRule.convert (rule : OverstayRule) (out : Iso20.OverstayRuleType capacities) :
    Except Fault (Iso20.OverstayRuleType capacities) := do
  let overstayRuleDescription ← cpp2cbStringIfUsed rule.overstayRuleDescription out.overstayRuleDescription
  return {
    overstayRuleDescription
    startTime := rule.startTime
    overstayFee := rule.overstayFee.convert
    overstayFeePeriod := rule.overstayFeePeriod }

def OverstayRulesList.convert (rules : OverstayRulesList) (out : Iso20.OverstayRuleListType capacities) :
    Except Fault (Iso20.OverstayRuleListType capacities) := do
  let overstayRule ← cpp2cbArray OverstayRule.convert rules.overstayRule out.overstayRule
  return {
    overstayTimeThreshold := cpp2cbAssignIfUsed rules.overstayTimeThreshold out.overstayTimeThreshold
    overstayPowerThreshold := cpp2cbConvertIfUsed rules.overstayPowerThreshold out.overstayPowerThreshold
    overstayRule }

def AdditionalService.convert (service : AdditionalService) (out : Iso20.AdditionalServiceType capacities) :
    Except Fault (Iso20.AdditionalServiceType capacities) := do
  let serviceName ← cpp2cbString service.serviceName out.serviceName
  return { serviceName, serviceFee := service.serviceFee.convert }

/-- Both costs are written to `MaximumCost`. -/
def AbsolutePriceSchedule.convert (schedule : AbsolutePriceSchedule)
    (out : Iso20.AbsolutePriceScheduleType capacities) :
    Except Fault (Iso20.AbsolutePriceScheduleType capacities) := do
  let id ← cpp2cbStringIfUsed schedule.id out.id
  let priceScheduleDescription ←
    cpp2cbStringIfUsed schedule.priceScheduleDescription out.priceScheduleDescription
  let currency ← cpp2cbString schedule.currency out.currency
  let language ← cpp2cbString schedule.language out.language
  let priceAlgorithm ← cpp2cbString schedule.priceAlgorithm out.priceAlgorithm
  let maximumCost := cpp2cbConvertIfUsed schedule.minimumCost out.maximumCost
  let maximumCost := cpp2cbConvertIfUsed schedule.maximumCost maximumCost
  let taxRules ←
    out.taxRules.setM (fun rules out => cpp2cbArray TaxRule.convert rules.toList out) schedule.taxRules
  let priceRuleStacks ← cpp2cbArray PriceRuleStack.convert schedule.priceRuleStacks.toList out.priceRuleStacks
  let overstayRules ← out.overstayRules.setM OverstayRulesList.convert schedule.overstayRules
  let additionalSelectedServices ←
    out.additionalSelectedServices.setM
      (fun services out => cpp2cbArray AdditionalService.convert services.toList out)
      schedule.additionalSelectedServices
  return {
    out with
    id
    timeAnchor := schedule.timeAnchor
    priceScheduleId := schedule.priceScheduleId
    priceScheduleDescription
    currency
    language
    priceAlgorithm
    maximumCost
    taxRules
    priceRuleStacks
    overstayRules
    additionalSelectedServices }

def PriceLevelScheduleEntry.convert (entry : PriceLevelScheduleEntry) : Iso20.PriceLevelScheduleEntryType :=
  { duration := entry.duration, priceLevel := entry.priceLevel }

def PriceLevelSchedule.convert (schedule : PriceLevelSchedule) (out : Iso20.PriceLevelScheduleType capacities) :
    Except Fault (Iso20.PriceLevelScheduleType capacities) := do
  let id ← cpp2cbStringIfUsed schedule.id out.id
  let priceScheduleDescription ←
    cpp2cbStringIfUsed schedule.priceScheduleDescription out.priceScheduleDescription
  let priceLevelScheduleEntries ←
    cpp2cbArray (fun entry _ => .ok (PriceLevelScheduleEntry.convert entry)) schedule.priceLevelScheduleEntries
      out.priceLevelScheduleEntries
  return {
    id
    timeAnchor := schedule.timeAnchor
    priceScheduleId := schedule.priceScheduleId
    priceScheduleDescription
    numberOfPriceLevels := schedule.numberOfPriceLevels
    priceLevelScheduleEntries }

/-- `convert_price_schedule` -/
def PriceSchedule.convert (schedule : PriceSchedule) (out : Iso20.PriceScheduleMembers capacities) :
    Except Fault (Iso20.PriceScheduleMembers capacities) :=
  match schedule with
  | .absolute schedule => do
      let value ← schedule.convert out.absolutePriceSchedule.value
      return { out with absolutePriceSchedule := { value, isUsed := true } }
  | .priceLevel schedule => do
      let value ← schedule.convert out.priceLevelSchedule.value
      return { out with priceLevelSchedule := { value, isUsed := true } }
  | .none => return {
      absolutePriceSchedule := { out.absolutePriceSchedule with isUsed := false }
      priceLevelSchedule := { out.priceLevelSchedule with isUsed := false } }

def TaxRule.Fits (capacities : PriceCapacities) (rule : TaxRule) : Prop :=
  ∀ name ∈ rule.taxRuleName, name.length ≤ capacities.taxRuleName

def PriceRuleStack.Fits (capacities : PriceCapacities) (_ : PriceRuleStack) : Prop :=
  8 ≤ capacities.priceRules

def OverstayRule.Fits (capacities : PriceCapacities) (rule : OverstayRule) : Prop :=
  ∀ description ∈ rule.overstayRuleDescription, description.length ≤ capacities.overstayRuleDescription

def OverstayRulesList.Fits (capacities : PriceCapacities) (rules : OverstayRulesList) : Prop :=
  rules.overstayRule.length ≤ capacities.overstayRules ∧ ∀ rule ∈ rules.overstayRule, rule.Fits capacities

def AdditionalService.Fits (capacities : PriceCapacities) (service : AdditionalService) : Prop :=
  service.serviceName.length ≤ capacities.serviceName

def AbsolutePriceSchedule.Fits (capacities : PriceCapacities) (schedule : AbsolutePriceSchedule) : Prop :=
  (∀ id ∈ schedule.id, id.length ≤ capacities.absoluteId) ∧
    (∀ description ∈ schedule.priceScheduleDescription, description.length ≤ capacities.absoluteDescription) ∧
    schedule.currency.length ≤ capacities.currency ∧
    schedule.language.length ≤ capacities.language ∧
    schedule.priceAlgorithm.length ≤ capacities.priceAlgorithm ∧
    (∀ rules ∈ schedule.taxRules, 10 ≤ capacities.taxRules ∧ ∀ rule ∈ rules.toList, rule.Fits capacities) ∧
    (1024 ≤ capacities.priceRuleStacks ∧ ∀ stack ∈ schedule.priceRuleStacks.toList, stack.Fits capacities) ∧
    (∀ rules ∈ schedule.overstayRules, rules.Fits capacities) ∧
    ∀ services ∈ schedule.additionalSelectedServices,
      5 ≤ capacities.additionalServices ∧ ∀ service ∈ services.toList, service.Fits capacities

def PriceLevelSchedule.Fits (capacities : PriceCapacities) (schedule : PriceLevelSchedule) : Prop :=
  (∀ id ∈ schedule.id, id.length ≤ capacities.levelId) ∧
    (∀ description ∈ schedule.priceScheduleDescription, description.length ≤ capacities.levelDescription) ∧
    schedule.priceLevelScheduleEntries.length ≤ capacities.priceLevels

def PriceSchedule.Fits (capacities : PriceCapacities) : PriceSchedule → Prop
  | .none => True
  | .absolute schedule => schedule.Fits capacities
  | .priceLevel schedule => schedule.Fits capacities

/-- There is no minimum cost to send, and overstay rules have a time threshold. -/
def AbsolutePriceSchedule.Kept (schedule : AbsolutePriceSchedule) : Prop :=
  schedule.minimumCost = none ∧ ∀ rules ∈ schedule.overstayRules, rules.overstayTimeThreshold ≠ none

def PriceSchedule.Kept : PriceSchedule → Prop
  | .absolute schedule => schedule.Kept
  | .none | .priceLevel _ => True

theorem TaxRule.convert_codes (rule : TaxRule) :
    Codes Fault.isThrown (fun rule (out : Iso20.TaxRuleType capacities) => rule.convert out) (·.convert)
      (TaxRule.Fits capacities) (fun _ => True) rule := by
  intro out
  refine ((cpp2cbStringIfUsed_codes rule.taxRuleName _).bind fun _ name => Outcome.of_ok trivial ?_).mono
    (by simp [Fits]) fun _ holds => holds
  simp only [iff_true] at name
  simp [Iso20.TaxRuleType.convert, name]

theorem PriceRule.convert_codes (rule : PriceRule) :
    Codes Fault.isThrown (fun rule (out : Iso20.PriceRuleType) => .ok (PriceRule.convert rule out))
      (fun rule => .ok rule.convert) (fun _ => True) (fun _ => True) rule :=
  Codes.of_same (fun rule _ => by simp [PriceRule.convert, Iso20.PriceRuleType.convert]) rule

theorem PriceRuleStack.convert_codes (stack : PriceRuleStack) :
    Codes Fault.isThrown (fun stack (out : Iso20.PriceRuleStackType capacities) => stack.convert out) (·.convert)
      (PriceRuleStack.Fits capacities) (fun _ => True) stack := by
  intro out
  have rules := cb2cppArray_codes .outsideTarget { energyFee := {}, powerRangeStart := {} } stack.priceRule
    PriceRule.convert_codes out.priceRule
  refine (rules.bind fun _ back => Outcome.of_ok trivial ?_).mono (by simp [Fits]) fun _ holds => holds
  simp only [iff_true] at back
  simp [Iso20.PriceRuleStackType.convert, back]

theorem OverstayRule.convert_codes (rule : OverstayRule) :
    Codes Fault.isThrown (fun rule (out : Iso20.OverstayRuleType capacities) => rule.convert out) (·.convert)
      (OverstayRule.Fits capacities) (fun _ => True) rule := by
  intro out
  refine ((cpp2cbStringIfUsed_codes rule.overstayRuleDescription _).bind fun _ description =>
    Outcome.of_ok trivial ?_).mono (by simp [Fits]) fun _ holds => holds
  simp only [iff_true] at description
  simp [Iso20.OverstayRuleType.convert, description]

theorem OverstayRulesList.convert_codes (rules : OverstayRulesList) :
    Codes Fault.isThrown (fun rules (out : Iso20.OverstayRuleListType capacities) => rules.convert out) (·.convert)
      (OverstayRulesList.Fits capacities) (fun rules => rules.overstayTimeThreshold ≠ none) rules := by
  -- Rules without a time threshold come back with one.
  intro out
  refine ((cpp2cbArray_codes rules.overstayRule (fun rule _ => rule.convert_codes) _).bind fun _ entries =>
    Outcome.of_ok trivial ?_).mono (by simp [Fits]) fun _ holds => holds
  simp only [implies_true, iff_true] at entries
  obtain ⟨threshold, power, rules⟩ := rules
  cases threshold <;>
    simp [Iso20.OverstayRuleListType.convert, entries, cpp2cbAssignIfUsed, Used.write]

theorem AdditionalService.convert_codes (service : AdditionalService) :
    Codes Fault.isThrown (fun service (out : Iso20.AdditionalServiceType capacities) => service.convert out)
      (·.convert) (AdditionalService.Fits capacities) (fun _ => True) service := by
  intro out
  refine ((cpp2cbString_codes service.serviceName _).bind fun _ name => Outcome.of_ok trivial ?_).mono
    (by simp [Fits]) fun _ holds => holds
  simp only [iff_true] at name
  simp [Iso20.AdditionalServiceType.convert, name]

theorem PriceLevelScheduleEntry.convert_codes (entry : PriceLevelScheduleEntry) :
    Codes Fault.isThrown (fun entry (_ : Iso20.PriceLevelScheduleEntryType) => .ok entry.convert)
      (fun entry => .ok entry.convert) (fun _ => True) (fun _ => True) entry :=
  Codes.of_same (fun _ _ => rfl) entry

theorem PriceLevelSchedule.convert_codes (schedule : PriceLevelSchedule) :
    Codes Fault.isThrown (fun schedule (out : Iso20.PriceLevelScheduleType capacities) => schedule.convert out)
      (·.convert) (PriceLevelSchedule.Fits capacities) (fun _ => True) schedule := by
  intro out
  have entry := fun entry (_ : entry ∈ schedule.priceLevelScheduleEntries) => entry.convert_codes
  refine ((cpp2cbStringIfUsed_codes schedule.id _).bind fun _ id =>
    (cpp2cbStringIfUsed_codes schedule.priceScheduleDescription _).bind fun _ description =>
      (cpp2cbArray_codes schedule.priceLevelScheduleEntries entry _).bind fun _ entries =>
        Outcome.of_ok trivial ?_).mono (by simp [Fits]) fun _ holds => holds
  simp only [implies_true, iff_true] at id description entries
  simp [Iso20.PriceLevelScheduleType.convert, id, description, entries, bind_eq_ok]

theorem AbsolutePriceSchedule.convert_outcome (schedule : AbsolutePriceSchedule)
    (out : Iso20.AbsolutePriceScheduleType capacities) :
    Outcome Fault.isThrown (schedule.Fits capacities)
      (fun written => written.convert = .ok schedule ↔ schedule.Kept) (schedule.convert out.init) := by
  have taxRule := fun rules (_ : rules ∈ schedule.taxRules) =>
    @cb2cppArray_codes _ (Iso20.TaxRuleType capacities) capacities.taxRules _ .outOfRange Iso20.noTaxRule _ _ _ rules
      TaxRule.convert_codes
  have ruleStacks := cb2cppArray_codes .outsideTarget Iso20.noPriceRuleStack schedule.priceRuleStacks
    PriceRuleStack.convert_codes out.init.priceRuleStacks
  have service := fun services (_ : services ∈ schedule.additionalSelectedServices) =>
    @cb2cppArray_codes _ (Iso20.AdditionalServiceType capacities) capacities.additionalServices _ .outOfRange
      Iso20.noAdditionalService _ _ _ services AdditionalService.convert_codes
  refine ((cpp2cbStringIfUsed_codes schedule.id _).bind fun _ id =>
    (cpp2cbStringIfUsed_codes schedule.priceScheduleDescription _).bind fun _ description =>
      (cpp2cbString_codes schedule.currency _).bind fun _ currency =>
        (cpp2cbString_codes schedule.language _).bind fun _ language =>
          (cpp2cbString_codes schedule.priceAlgorithm _).bind fun _ algorithm =>
            (Used.setM_outcome taxRule _ _).bind fun _ taxRules =>
              ruleStacks.bind fun _ ruleStacks =>
                (Used.setM_outcome (fun rules _ => rules.convert_codes) _ _).bind fun _ overstay =>
                  (Used.setM_outcome service _ _).bind fun _ services =>
                    Outcome.of_ok trivial ?_).mono (by simp [Fits]) fun _ holds => holds
  simp only [implies_true, iff_true] at id description currency language algorithm taxRules ruleStacks services
  rw [Kept, ← overstay]
  have unsent : cb2cppConvertIfUsed out.init.minimumCost = none := rfl
  cases schedule
  simp [Iso20.AbsolutePriceScheduleType.convert, id, description, currency, language, algorithm, taxRules,
    ruleStacks, services, unsent, bind_eq_ok]
  rw [and_comm, @eq_comm _ none]

theorem PriceSchedule.convert_outcome (schedule : PriceSchedule) (out : Iso20.PriceScheduleMembers capacities) :
    Outcome Fault.isThrown (schedule.Fits capacities)
      (fun written => written.convert = .ok schedule ↔ schedule.Kept) (schedule.convert out.init) := by
  cases schedule with
  | none => simp [PriceSchedule.convert, Fits, Kept, Iso20.PriceScheduleMembers.convert, pure_eq_ok]
  | absolute schedule =>
      refine ((schedule.convert_outcome out.absolutePriceSchedule.value).bind fun _ back =>
        Outcome.of_ok trivial ?_).mono (by simp [Fits]) fun _ holds => holds
      simp [Iso20.PriceScheduleMembers.convert, Kept, back, map_eq_ok]
  | priceLevel schedule =>
      refine ((schedule.convert_codes out.priceLevelSchedule.value.init).bind fun _ back =>
        Outcome.of_ok trivial ?_).mono (by simp [Fits]) fun _ holds => holds
      simp only [iff_true] at back
      simp [Iso20.PriceScheduleMembers.convert, Iso20.PriceScheduleMembers.init, Kept, back]

end Datatypes

end LibIso15118
