import LibIso15118.Codec.Encoders
import LibIso15118.Codec.ScheduleExchange

set_option autoImplicit false

/-!
# Encoders stay inside the generated arrays

The conversions that check before they write never leave an array, whatever they are given. Lists that are
copied without a check, tax costs whose number is compared with a number of bytes, and the session id stay inside
exactly if they fit, or if something before them does not and is refused.
-/

namespace LibIso15118

open Datatypes ArrayWrites ArrayWrites.Writes

/-- The conversion throws `std::runtime_error`, or writes only inside the arrays and leaves each with the number
of the entries written. -/
def StaysInside (writes : Writes Fault) : Prop := Contained Fault.isRuntimeError writes

theorem staysInside_or {writes : Writes Fault} :
    StaysInside writes ↔ Throws Fault.isRuntimeError writes ∨ Sound writes :=
  contained_iff writes

theorem staysInside_cons {first : Writes Fault} {rest : List (Writes Fault)}
    (tidy : Finishes first → Sound first) :
    StaysInside (inOrder (first :: rest)) ↔
      Throws Fault.isRuntimeError first ∨ Sound first ∧ StaysInside (inOrder rest) :=
  contained_cons tidy

theorem staysInside_checks {fits : Prop} {first : Writes Fault} {rest : List (Writes Fault)}
    (checks : Checks Fault.isRuntimeError fits first) :
    StaysInside (inOrder (first :: rest)) ↔ ¬fits ∨ StaysInside (inOrder rest) := by
  rw [staysInside_cons fun finishes => checks.sound_iff.mpr (checks.finishes_iff.mp finishes), checks.throws_iff,
    checks.sound_iff]
  tauto

theorem staysInside_quiet {list : List (Writes Fault)}
    (quiet : ∀ writes ∈ list, ¬Throws Fault.isRuntimeError writes) :
    StaysInside (inOrder list) ↔ ∀ writes ∈ list, StaysInside writes :=
  contained_quiet quiet

@[simp] theorem staysInside_singleton {writes : Writes Fault} :
    StaysInside (inOrder [writes]) ↔ StaysInside writes :=
  contained_singleton

@[simp] theorem staysInside_nil : StaysInside (inOrder []) := by
  simp [StaysInside, inOrder, Contained]

theorem Fault.not_isRuntimeError_outside : ¬Fault.isRuntimeError .outsideArray := id

section Primitives

variable {α : Type} {array : ArrayType} {list : List α}

section Plain

variable {index : Nat → Nat}

theorem sound_entries_plain :
    Sound (Writes.entries Fault.outsideArray array index plain list) ↔ Within array index list.length := by
  simp only [Writes.entries, plain, sound_inOrder, List.mem_mapIdx]
  constructor
  · intro sound count inside
    simpa using sound _ ⟨count, inside, rfl⟩
  · rintro within _ ⟨count, inside, rfl⟩
    simpa using within count inside

theorem finishes_entries_plain :
    Finishes (Writes.entries Fault.outsideArray array index plain list) ↔ Within array index list.length := by
  simp only [Writes.entries, plain, finishes_inOrder, List.mem_mapIdx]
  constructor
  · intro finishes count inside
    simpa using finishes _ ⟨count, inside, rfl⟩
  · rintro within _ ⟨count, inside, rfl⟩
    simpa using within count inside

theorem throws_entries_plain :
    ¬Throws Fault.isRuntimeError (Writes.entries Fault.outsideArray array index plain list) := by
  rw [Writes.entries, throws_mapIdx]
  rintro ⟨before, a, after, _, _, throws⟩
  exact (throws_require.mp throws).2

theorem staysInside_plain :
    StaysInside (fill .outsideArray array index plain list) ↔
      Within array index list.length ∧ ((List.range list.length).map index).Nodup ∧
        list.length ≤ array.capacity := by
  rw [staysInside_or, throws_fill, sound_fill, sound_entries_plain, sound_leave_map]
  simp [throws_entries_plain]

end Plain

theorem staysInside_writeList : StaysInside (writeList array plain list) ↔ list.length ≤ array.capacity := by
  rw [writeList, staysInside_plain, within_id]
  simp [List.nodup_range]

theorem staysInside_writeListByte :
    StaysInside (writeListByte array plain list) ↔ list.length ≤ array.capacity ∧ list.length ≤ 2 ^ 8 := by
  rw [writeListByte, staysInside_plain, within_mod (by decide), nodup_mod (by decide)]
  tauto

@[simp] theorem throws_writeList : ¬Throws Fault.isRuntimeError (writeList array plain list) := by
  rw [writeList, throws_fill]
  exact throws_entries_plain

@[simp] theorem throws_writeListByte : ¬Throws Fault.isRuntimeError (writeListByte array plain list) := by
  rw [writeListByte, throws_fill]
  exact throws_entries_plain

theorem sound_writeList : Sound (writeList array plain list) ↔ list.length ≤ array.capacity := by
  have both : StaysInside (writeList array plain list) ↔ _ := staysInside_writeList
  rw [staysInside_or] at both
  simpa using both

theorem finishes_writeList : Finishes (writeList array plain list) ↔ list.length ≤ array.capacity := by
  simp only [writeList, fill, finishes_inOrder, List.forall_mem_cons, finishes_leave, List.not_mem_nil,
    finishes_entries_plain, within_id]
  simp

section Checked

variable {fits : α → Prop} {entry : Writes Fault → α → Writes Fault}

theorem checks_writeListChecked (array : ArrayType) (list : List α)
    (checks : ∀ a ∈ list, Checks Fault.isRuntimeError (fits a) (entry (.ok []) a)) :
    Checks Fault.isRuntimeError (list.length ≤ array.capacity ∧ ∀ a ∈ list, fits a)
      (writeListChecked array entry list) := by
  refine checks_guarded trivial fun room => ?_
  have whole := checks_fill .outsideArray room (within_id.mpr room) (by simpa using List.nodup_range) checks
  exact (whole.cons checks_nil).mono (by simp)

theorem checks_writeListChecked_placed {inner : α → Writes Fault} (array : ArrayType) (list : List α)
    (checks : ∀ a ∈ list, Checks Fault.isRuntimeError (fits a) (inner a)) :
    Checks Fault.isRuntimeError (list.length ≤ array.capacity ∧ ∀ a ∈ list, fits a)
      (writeListChecked array (placed inner) list) :=
  checks_writeListChecked array list fun a member => checks_placed (checks a member)

theorem checks_writeListChecked_plain :
    Checks Fault.isRuntimeError (list.length ≤ array.capacity) (writeListChecked array plain list) :=
  (checks_writeListChecked array list fun _ _ => checks_nil).mono (by simp)

theorem checks_ifUsed {write : α → Writes Fault} (value : Option α)
    (checks : ∀ a ∈ value, Checks Fault.isRuntimeError (fits a) (write a)) :
    Checks Fault.isRuntimeError (∀ a ∈ value, fits a) (ifUsed write value) := by
  cases value with
  | none => exact checks_nil.mono (by simp)
  | some a => exact (checks a rfl).mono (by simp)

theorem staysInside_ifUsed {write : α → Writes Fault} {value : Option α}
    (stays : ∀ a ∈ value, StaysInside (write a) ↔ fits a) :
    StaysInside (ifUsed write value) ↔ ∀ a ∈ value, fits a := by
  cases value with
  | none => simp [ifUsed]
  | some a => simpa [ifUsed] using stays a rfl

theorem not_throws_ifUsed {write : α → Writes Fault} {value : Option α}
    (quiet : ∀ a ∈ value, ¬Throws Fault.isRuntimeError (write a)) :
    ¬Throws Fault.isRuntimeError (ifUsed write value) := by
  cases value with
  | none => exact throws_nil
  | some a => exact quiet a rfl

theorem checks_writeBytes (array : ArrayType) (list : List α) :
    Checks Fault.isRuntimeError (list.length ≤ array.capacity) (writeBytes array list) := by
  have copied (room : list.length ≤ array.capacity) :
      Checks Fault.isRuntimeError True (writeList array plain list) :=
    .inl ⟨trivial, sound_writeList.mpr room⟩
  exact (checks_guarded trivial fun room => (copied room).cons checks_nil).mono (by simp)

end Checked

theorem checks_writeString (string : StdString) :
    Checks Fault.isRuntimeError (string.length ≤ array.capacity) (writeString array string) := by
  have copied (room : string.length ≤ array.capacity) :
      Checks Fault.isRuntimeError True (writeList array plain string.bytes) :=
    .inl ⟨trivial, sound_writeList.mpr room⟩
  exact (checks_guarded trivial fun room => checks_nil.cons ((copied room).cons checks_nil)).mono (by simp)

theorem checks_stringIfUsed (string : Option StdString) :
    Checks Fault.isRuntimeError (∀ s ∈ string, s.length ≤ array.capacity) (ifUsed (writeString array) string) :=
  checks_ifUsed string fun s _ => checks_writeString s

end Primitives

def PriceArrays.capacities (arrays : PriceArrays) : PriceCapacities where
  absoluteId := arrays.absoluteId.capacity
  absoluteDescription := arrays.absoluteDescription.capacity
  currency := arrays.currency.capacity
  language := arrays.language.capacity
  priceAlgorithm := arrays.priceAlgorithm.capacity
  taxRules := arrays.taxRules.capacity
  taxRuleName := arrays.taxRuleName.capacity
  priceRuleStacks := arrays.priceRuleStacks.capacity
  priceRules := arrays.priceRules.capacity
  overstayRules := arrays.overstayRules.capacity
  overstayRuleDescription := arrays.overstayRuleDescription.capacity
  additionalServices := arrays.additionalServices.capacity
  serviceName := arrays.serviceName.capacity
  levelId := arrays.levelId.capacity
  levelDescription := arrays.levelDescription.capacity
  priceLevels := arrays.priceLevels.capacity

def ScheduleArrays.capacities (arrays : ScheduleArrays) : ScheduleCapacities where
  toPriceCapacities := arrays.toPriceArrays.capacities
  evCurrency := arrays.evCurrency.capacity
  evPriceAlgorithm := arrays.evPriceAlgorithm.capacity
  evPowerEntries := arrays.evPowerEntries.capacity
  evPriceRuleStacks := arrays.evPriceRuleStacks.capacity
  evPriceRules := arrays.evPriceRules.capacity
  powerEntries := arrays.powerEntries.capacity
  scheduleTuples := arrays.scheduleTuples.capacity

namespace Datatypes

section Prices

variable (arrays : PriceArrays)

theorem TaxRule.checks (rule : TaxRule) :
    Checks Fault.isRuntimeError (rule.Fits arrays.capacities) (rule.writes arrays) :=
  checks_stringIfUsed rule.taxRuleName

theorem OverstayRule.checks (rule : OverstayRule) :
    Checks Fault.isRuntimeError (rule.Fits arrays.capacities) (rule.writes arrays) :=
  checks_stringIfUsed rule.overstayRuleDescription

theorem PriceRuleStack.checks (stack : PriceRuleStack) :
    Checks Fault.isRuntimeError (stack.Fits arrays.capacities) (stack.writes arrays) :=
  checks_writeListChecked_plain.mono (by simp [Fits, PriceArrays.capacities])

theorem additionalServices_checks (services : List AdditionalService) :
    Checks Fault.isRuntimeError
      (services.length ≤ arrays.additionalServices.capacity ∧
        ∀ service ∈ services, service.Fits arrays.capacities)
      (writeListChecked arrays.additionalServices
        (fun place service => writeStringAt place arrays.serviceName service.serviceName) services) :=
  checks_writeListChecked _ _ fun service _ => checks_writeString service.serviceName

theorem AbsolutePriceSchedule.checks (schedule : AbsolutePriceSchedule) :
    Checks Fault.isRuntimeError (schedule.Fits arrays.capacities) (schedule.writes arrays) := by
  have taxRules := checks_ifUsed schedule.taxRules fun rules _ =>
    checks_writeListChecked_placed arrays.taxRules rules.toList fun rule _ => rule.checks arrays
  have ruleStacks := checks_writeListChecked_placed arrays.priceRuleStacks schedule.priceRuleStacks.toList
    fun stack _ => stack.checks arrays
  have overstayRules := checks_ifUsed schedule.overstayRules fun rules _ =>
    checks_writeListChecked_placed arrays.overstayRules rules.overstayRule fun rule _ => rule.checks arrays
  have services := checks_ifUsed schedule.additionalSelectedServices fun services _ =>
    additionalServices_checks arrays services.toList
  refine ((checks_stringIfUsed schedule.id).cons <|
    (checks_stringIfUsed schedule.priceScheduleDescription).cons <|
    (checks_writeString schedule.currency).cons <| (checks_writeString schedule.language).cons <|
    (checks_writeString schedule.priceAlgorithm).cons <| taxRules.cons <| ruleStacks.cons <|
    overstayRules.cons <| services.cons checks_nil).mono ?_
  simp [Fits, OverstayRulesList.Fits, PriceArrays.capacities]

theorem PriceLevelSchedule.checks (schedule : PriceLevelSchedule) :
    Checks Fault.isRuntimeError (schedule.Fits arrays.capacities) (schedule.writes arrays) :=
  ((checks_stringIfUsed schedule.id).cons <| (checks_stringIfUsed schedule.priceScheduleDescription).cons <|
    checks_writeListChecked_plain.cons checks_nil).mono (by simp [Fits, PriceArrays.capacities])

theorem PriceSchedule.checks (schedule : PriceSchedule) :
    Checks Fault.isRuntimeError (schedule.Fits arrays.capacities) (schedule.writes arrays) := by
  cases schedule with
  | none => exact checks_nil
  | absolute schedule => exact schedule.checks arrays
  | priceLevel schedule => exact schedule.checks arrays

end Prices

section Schedules

variable (arrays : ScheduleArrays)

theorem ChargingSchedule.checks (schedule : ChargingSchedule) :
    Checks Fault.isRuntimeError (schedule.Fits arrays.capacities) (schedule.writes arrays) :=
  (checks_writeListChecked_plain.cons
    ((schedule.priceSchedule.checks arrays.toPriceArrays).cons checks_nil)).mono
      (by simp [Fits, ScheduleArrays.capacities])

theorem ScheduleTuple.checks (tuple : ScheduleTuple) :
    Checks Fault.isRuntimeError (tuple.Fits arrays.capacities) (tuple.writes arrays) :=
  ((tuple.chargingSchedule.checks arrays).cons
    ((checks_ifUsed _ fun schedule _ => schedule.checks arrays).cons checks_nil)).mono (by simp [Fits])

theorem SeResControlMode.checks (mode : SeResControlMode) :
    Checks Fault.isRuntimeError (mode.Fits arrays.capacities) (mode.writes arrays) := by
  cases mode with
  | dynamic mode => exact mode.priceSchedule.checks arrays.toPriceArrays
  | scheduled mode => exact checks_writeListChecked_placed _ _ fun tuple _ => tuple.checks arrays

theorem EvPriceRuleStack.checks (stack : EvPriceRuleStack) :
    Checks Fault.isRuntimeError (stack.Fits arrays.capacities) (stack.writes arrays) :=
  checks_writeListChecked_plain

theorem EvAbsolutePriceSchedule.checks (schedule : EvAbsolutePriceSchedule) :
    Checks Fault.isRuntimeError
      (schedule.currency.length ≤ arrays.evCurrency.capacity ∧
        schedule.priceAlgorithm.length ≤ arrays.evPriceAlgorithm.capacity ∧
        schedule.priceRuleStacks.length ≤ arrays.evPriceRuleStacks.capacity ∧
        ∀ stack ∈ schedule.priceRuleStacks, stack.Fits arrays.capacities)
      (schedule.writes arrays) := by
  have ruleStacks := checks_writeListChecked_placed arrays.evPriceRuleStacks schedule.priceRuleStacks
    fun stack _ => stack.checks arrays
  exact ((checks_writeString schedule.currency).cons <| (checks_writeString schedule.priceAlgorithm).cons <|
    ruleStacks.cons checks_nil).mono (by simp)

theorem EvEnergyOffer.checks (offer : EvEnergyOffer) :
    Checks Fault.isRuntimeError (offer.Fits arrays.capacities) (offer.writes arrays) :=
  (checks_writeListChecked_plain.cons ((offer.absolutePriceSchedule.checks arrays).cons checks_nil)).mono
    (by simp [Fits, ScheduleArrays.capacities])

theorem SeReqControlMode.checks (mode : SeReqControlMode) :
    Checks Fault.isRuntimeError (mode.Fits arrays.capacities) (mode.writes arrays) := by
  cases mode with
  | dynamic mode => exact checks_nil
  | scheduled mode => exact checks_ifUsed _ fun offer _ => offer.checks arrays

end Schedules

end Datatypes

/-- An array whose index is of type `uint8_t` has a place for each of `count` entries. -/
def Counts (array : ArrayType) (count : Nat) : Prop := count ≤ array.capacity ∧ count ≤ 2 ^ 8

/-- None of `count` entries with such an index is behind the array. -/
def Reaches (array : ArrayType) (count : Nat) : Prop := count ≤ array.capacity ∨ 2 ^ 8 ≤ array.capacity

theorem Counts.reaches {array : ArrayType} {count : Nat} (counts : Counts array count) : Reaches array count :=
  .inl counts.1

theorem within_iff_reaches {array : ArrayType} {count : Nat} :
    Within array (· % 2 ^ 8) count ↔ Reaches array count :=
  within_mod (by decide)

theorem sound_writeListByte {α : Type} {array : ArrayType} {list : List α} :
    Sound (writeListByte array plain list) ↔ Counts array list.length := by
  have both : StaysInside (writeListByte array plain list) ↔ _ := staysInside_writeListByte
  rw [staysInside_or] at both
  simpa [Counts] using both

theorem finishes_writeListByte {α : Type} {array : ArrayType} {list : List α} :
    Finishes (writeListByte array plain list) ↔ Reaches array list.length := by
  rw [← within_iff_reaches, ← finishes_entries_plain]
  simp [writeListByte, fill]

namespace Datatypes

variable (arrays : ServiceArrays)

def Parameter.TextsFit (parameter : Parameter) : Prop :=
  parameter.name.length ≤ arrays.parameterName.capacity ∧
    ∀ string, parameter.value = .name string → string.length ≤ arrays.finiteString.capacity

theorem ParameterValue.checks (value : ParameterValue) :
    Checks Fault.isRuntimeError (∀ string, value = .name string → string.length ≤ arrays.finiteString.capacity)
      (value.writes arrays) := by
  cases value with
  | name string => exact (checks_writeString string).mono (by simp)
  | _ => exact checks_nil.mono (by simp)

theorem Parameter.checks (parameter : Parameter) :
    Checks Fault.isRuntimeError (parameter.TextsFit arrays) (parameter.writes arrays) :=
  ((checks_writeString parameter.name).cons ((parameter.value.checks arrays).cons checks_nil)).mono
    (by simp [TextsFit])

def ParameterSet.Refused (set : ParameterSet) : Prop :=
  ∃ before parameter after, set.parameter = before ++ parameter :: after ∧
    Reaches arrays.parameters (before.length + 1) ∧ ¬parameter.TextsFit arrays

theorem ParameterSet.throws_iff (set : ParameterSet) :
    Throws Fault.isRuntimeError (set.writes arrays) ↔ set.Refused arrays := by
  rw [writes, writeListByte, throws_fill, Refused]
  constructor
  · intro throws
    obtain ⟨before, parameter, after, same, within, _, here⟩ :=
      throws_entries_placed Fault.not_isRuntimeError_outside throws
    exact ⟨before, parameter, after, same, within_iff_reaches.mp within,
      (parameter.checks arrays).throws_iff.mp here⟩
  · intro ⟨before, parameter, after, same, reaches, long⟩
    rw [same]
    refine entries_placed_throws Fault.not_isRuntimeError_outside (within_iff_reaches.mpr reaches)
      (fun earlier _ => ?_)
      ((parameter.checks arrays).throws_iff.mpr long)
    rw [(earlier.checks arrays).finishes_iff, (earlier.checks arrays).throws_iff]
    exact em _

theorem ParameterSet.stays (set : ParameterSet) (reaches : Reaches arrays.parameters set.parameter.length) :
    Finishes (set.writes arrays) ∨ Throws Fault.isRuntimeError (set.writes arrays) := by
  have stays := entries_placed_stays Fault.not_isRuntimeError_outside
    (within_iff_reaches.mpr reaches) fun parameter _ => by
    rw [(parameter.checks arrays).finishes_iff, (parameter.checks arrays).throws_iff]
    exact em _
  rw [writes, writeListByte, throws_fill]
  refine stays.imp_left fun finishes => ?_
  simpa [fill] using finishes

theorem ParameterSet.checks (set : ParameterSet) (counts : Counts arrays.parameters set.parameter.length) :
    Checks Fault.isRuntimeError (∀ parameter ∈ set.parameter, parameter.TextsFit arrays) (set.writes arrays) :=
  checks_fill Fault.outsideArray counts.1 (within_iff_reaches.mpr counts.reaches)
    ((nodup_mod (by decide)).mpr counts.2) fun parameter _ => checks_placed (parameter.checks arrays)

theorem ParameterSet.counts_of_sound (set : ParameterSet) (sound : Sound (set.writes arrays)) :
    Counts arrays.parameters set.parameter.length := by
  rw [writes, writeListByte, sound_fill, sound_leave_map, nodup_mod (by decide)] at sound
  exact ⟨sound.2.2, sound.2.1⟩

def ServiceParameterList.Refused (list : ServiceParameterList) : Prop :=
  ∃ before set after, list = before ++ set :: after ∧ Reaches arrays.parameterSets (before.length + 1) ∧
    (∀ earlier ∈ before, Reaches arrays.parameters earlier.parameter.length) ∧ set.Refused arrays

def ServiceParameterList.Counted (list : ServiceParameterList) : Prop :=
  Counts arrays.parameterSets list.length ∧ ∀ set ∈ list, Counts arrays.parameters set.parameter.length

theorem ServiceParameterList.staysInside_iff (list : ServiceParameterList) :
    StaysInside (writeListByte arrays.parameterSets (placed (·.writes arrays)) list) ↔
      ServiceParameterList.Counted arrays list ∨ ServiceParameterList.Refused arrays list := by
  constructor
  · intro stays
    rcases staysInside_or.mp stays with throws | sound
    · right
      rw [writeListByte, throws_fill] at throws
      obtain ⟨before, set, after, same, within, earlier, here⟩ :=
        throws_entries_placed Fault.not_isRuntimeError_outside throws
      refine ⟨before, set, after, same, within_iff_reaches.mp within, fun b member => ?_,
        (set.throws_iff arrays).mp here⟩
      have finishes := earlier b member
      rw [ParameterSet.writes, writeListByte] at finishes
      exact within_iff_reaches.mp (within_of_finishes finishes)
    · left
      rw [writeListByte, sound_fill, sound_entries_placed, sound_leave_map, nodup_mod (by decide)] at sound
      exact ⟨⟨sound.2.2, sound.2.1⟩, fun set member => set.counts_of_sound arrays (sound.1.2 set member)⟩
  · rintro (counted | ⟨before, set, after, rfl, reaches, earlier, refused⟩)
    · refine (checks_fill Fault.outsideArray counted.1.1 (within_iff_reaches.mpr counted.1.reaches)
        ((nodup_mod (by decide)).mpr counted.1.2) fun set member =>
          checks_placed (set.checks arrays (counted.2 set member))).contained
    · refine staysInside_or.mpr (.inl ?_)
      rw [writeListByte, throws_fill]
      exact entries_placed_throws Fault.not_isRuntimeError_outside (within_iff_reaches.mpr reaches)
        (fun b member => b.stays arrays (earlier b member)) ((set.throws_iff arrays).mpr refused)

end Datatypes

section Headers

variable {sessionId : ArrayType} {header : Header} {rest : List (Writes Fault)}

theorem Header.staysInside_iff : StaysInside (header.writes sessionId) ↔ 8 ≤ sessionId.capacity := by
  rw [Header.writes, staysInside_writeList]
  simp

@[simp] theorem Header.not_throws : ¬Throws Fault.isRuntimeError (header.writes sessionId) :=
  throws_writeList

theorem Header.sound_iff : Sound (header.writes sessionId) ↔ 8 ≤ sessionId.capacity := by
  rw [Header.writes, sound_writeList]
  simp

theorem staysInside_header_first :
    StaysInside (inOrder (header.writes sessionId :: rest)) ↔
      8 ≤ sessionId.capacity ∧ StaysInside (inOrder rest) := by
  have tidy (finishes : Finishes (header.writes sessionId)) : Sound (header.writes sessionId) := by
    rw [Header.writes, finishes_writeList] at finishes
    exact sound_writeList.mpr finishes
  rw [staysInside_cons tidy, Header.sound_iff]
  simp

theorem staysInside_header_last {fits : Prop} {checked : Writes Fault}
    (checks : Checks Fault.isRuntimeError fits checked) :
    StaysInside (inOrder [checked, header.writes sessionId]) ↔ ¬fits ∨ 8 ≤ sessionId.capacity := by
  rw [staysInside_checks checks, staysInside_singleton, Header.staysInside_iff]

theorem staysInside_before_header {first : Writes Fault} (quiet : ¬Throws Fault.isRuntimeError first) :
    StaysInside (inOrder [first, header.writes sessionId]) ↔ StaysInside first ∧ 8 ≤ sessionId.capacity := by
  rw [staysInside_quiet (by simp [quiet]), List.forall_mem_cons, List.forall_mem_singleton,
    Header.staysInside_iff]

end Headers

namespace Datatypes

def MeterInfo.TextsFit (arrays : MeteringArrays) (info : MeterInfo) : Prop :=
  info.meterId.length ≤ arrays.meterId.capacity ∧
    ∀ signature ∈ info.meterSignature, signature.length ≤ arrays.meterSignature.capacity

theorem MeterInfo.checks (arrays : MeteringArrays) (info : MeterInfo) :
    Checks Fault.isRuntimeError (info.TextsFit arrays) (info.writes arrays) := by
  have signature := checks_ifUsed info.meterSignature fun signature _ =>
    checks_writeBytes arrays.meterSignature signature.bytes
  exact ((checks_writeString info.meterId).cons (signature.cons checks_nil)).mono
    (by simp [TextsFit, StdString.length])

/-- The tax costs fit, or there are more of them than the array has bytes. -/
def Receipt.FitsOrRefused (arrays : MeteringArrays) (receipt : Receipt) : Prop :=
  receipt.taxCosts.length ≤ arrays.taxCosts.capacity ∨
    arrays.taxCosts.capacity * arrays.detailedTaxSize < receipt.taxCosts.length

theorem Receipt.staysInside_iff (arrays : MeteringArrays) (receipt : Receipt) :
    StaysInside (receipt.writes arrays) ↔ receipt.FitsOrRefused arrays := by
  rw [Receipt.writes, staysInside_cons (by simp), throws_require, sound_require, staysInside_singleton,
    staysInside_writeList, FitsOrRefused]
  simp only [Fault.isRuntimeError, and_true]
  omega

theorem staysInside_metering (arrays : MeteringArrays) (info : Option MeterInfo) (receipt : Option Receipt) :
    StaysInside (inOrder [ifUsed (·.writes arrays) info, ifUsed (·.writes arrays) receipt]) ↔
      (∃ i ∈ info, ¬i.TextsFit arrays) ∨ ∀ r ∈ receipt, r.FitsOrRefused arrays := by
  have checks := checks_ifUsed info fun i _ => i.checks arrays
  rw [staysInside_checks checks, staysInside_singleton, staysInside_ifUsed fun r _ => r.staysInside_iff arrays]
  simp only [not_forall, exists_prop]

end Datatypes

theorem sound_leave_cast {array : ArrayType} {count width : Nat} (positive : 0 < width) :
    Sound (leave array ((List.range count).map id) (count % width) : Writes Fault) ↔
      count < width ∧ count ≤ array.capacity := by
  have counts := array.counts
  have small := Nat.mod_lt count positive
  have less := Nat.mod_le (count % width) (2 ^ array.lengthBits)
  rw [sound_leave, List.map_id, List.length_range]
  constructor
  · intro ⟨same, _, room⟩
    omega
  · intro ⟨narrow, room⟩
    rw [Nat.mod_eq_of_lt narrow, Nat.mod_eq_of_lt (by omega)]
    exact ⟨rfl, List.nodup_range, room⟩

namespace Datatypes

theorem PowerProfile.staysInside_iff (arrays : GeneratedArrays) (profile : PowerProfile) :
    StaysInside (profile.writes arrays) ↔
      profile.entries.length ≤ arrays.powerProfileEntries.capacity ∧ profile.entries.length < 2 ^ 32 := by
  rw [PowerProfile.writes, staysInside_or, sound_inOrder, List.forall_mem_cons, List.forall_mem_singleton,
    sound_entries_plain, within_id, sound_leave_cast (by decide)]
  simp only [throws_cons, throws_entries_plain, throws_leave, throws_nil, false_or, and_false]
  tauto

theorem PowerProfile.not_throws (arrays : GeneratedArrays) (profile : PowerProfile) :
    ¬Throws Fault.isRuntimeError (profile.writes arrays) := by
  simp [PowerProfile.writes, throws_cons, throws_entries_plain]

theorem DerCurve.not_throws (points : ArrayType) (curve : DerCurve) :
    ¬Throws Fault.isRuntimeError (curve.writes points) := by
  simp [DerCurve.writes, throws_cons, throws_entries_plain]

theorem DerCurve.staysInside_iff (points : ArrayType) (curve : DerCurve) :
    StaysInside (curve.writes points) ↔ min curve.curveDataPoints.length points.capacity < 2 ^ 16 := by
  have taken : (curve.curveDataPoints.take (min curve.curveDataPoints.length points.capacity)).length ≤
      points.capacity := by
    rw [List.length_take]
    omega
  simp only [DerCurve.writes]
  rw [staysInside_or, sound_inOrder, List.forall_mem_cons, List.forall_mem_singleton, sound_entries_plain,
    within_id, sound_leave_cast (by decide), throws_cons]
  simp [throws_entries_plain, throws_cons]

end Datatypes

variable (arrays : GeneratedArrays)

/-- A namespace that is too long is refused before an entry behind the array is written. -/
def SupportedAppProtocolRequest.Refused (req : SupportedAppProtocolRequest) : Prop :=
  ∃ before item after, req.appProtocol = before ++ item :: after ∧
    before.length ≤ arrays.appProtocols.capacity ∧
    arrays.protocolNamespace.capacity < item.protocolNamespace.length

section AppProtocols

variable {array : ArrayType} {string : StdString} {condition : Prop} [Decidable condition]

theorem throws_writeStringAt :
    Throws Fault.isRuntimeError (writeStringAt (require .outsideArray condition) array string) ↔
      array.capacity < string.length := by
  simp [writeStringAt, throws_cons, Fault.isRuntimeError]

theorem finishes_writeStringAt :
    Finishes (writeStringAt (require .outsideArray condition) array string) ↔
      string.length ≤ array.capacity ∧ condition := by
  simp only [writeStringAt, finishes_inOrder, List.forall_mem_cons, finishes_require, finishes_writeList,
    List.not_mem_nil]
  tauto

end AppProtocols

theorem SupportedAppProtocolRequest.throws_iff (req : SupportedAppProtocolRequest) :
    Throws Fault.isRuntimeError (req.writes arrays) ↔ req.Refused arrays := by
  rw [SupportedAppProtocolRequest.writes, writeList, throws_fill, Writes.entries]
  constructor
  · intro throws
    obtain ⟨before, item, after, same, earlier, here⟩ := throws_mapIdx.mp throws
    refine ⟨before, item, after, same, within_id.mp fun count early => ?_, throws_writeStringAt.mp here⟩
    exact (finishes_writeStringAt.mp (earlier count _ (List.getElem?_eq_getElem early))).2
  · rintro ⟨before, item, after, same, reached, long⟩
    rw [same]
    refine throws_mapIdx_of (fun count b found => ?_) (throws_writeStringAt.mpr long)
    have inside := within_id.mpr reached count (List.getElem?_eq_some_iff.mp found).1
    rw [finishes_writeStringAt, throws_writeStringAt]
    exact (Nat.lt_or_ge _ _).symm.imp_left fun fits => ⟨fits, inside⟩

theorem SupportedAppProtocolRequest.staysInside_iff (req : SupportedAppProtocolRequest) :
    StaysInside (req.writes arrays) ↔
      req.appProtocol.length ≤ arrays.appProtocols.capacity ∨ req.Refused arrays := by
  constructor
  · intro stays
    rcases staysInside_or.mp stays with throws | sound
    · exact .inr ((req.throws_iff arrays).mp throws)
    · rw [SupportedAppProtocolRequest.writes, writeList, sound_fill, sound_leave_map] at sound
      exact .inl sound.2.2
  · rintro (room | refused)
    · have checks : Checks Fault.isRuntimeError
          (∀ item ∈ req.appProtocol, item.protocolNamespace.length ≤ arrays.protocolNamespace.capacity)
          (req.writes arrays) :=
        checks_fill Fault.outsideArray room (within_id.mpr room) (by simpa using List.nodup_range)
          fun item _ => checks_writeString item.protocolNamespace
      exact checks.contained
    · exact staysInside_or.mpr (.inl ((req.throws_iff arrays).mpr refused))

/-- Every list fits its array, or what does not fit is refused before it is reached. -/
def Request.FitsOrRefused : Request → Prop
  | .supportedAppProtocol req =>
      req.appProtocol.length ≤ arrays.appProtocols.capacity ∨ req.Refused arrays
  | .sessionSetup req => arrays.evccId.capacity < req.evccid.length ∨ 8 ≤ arrays.sessionId.capacity
  | .serviceDiscovery req =>
      (∀ ids ∈ req.supportedServiceIds, ids.length ≤ arrays.services.supportedServiceIds.capacity) ∧
        8 ≤ arrays.sessionId.capacity
  | .serviceSelection req =>
      (∀ list ∈ req.selectedVasList, list.length ≤ arrays.services.selectedServices.capacity) ∧
        8 ≤ arrays.sessionId.capacity
  | .scheduleExchange req => ¬req.controlMode.Fits arrays.schedules.capacities ∨ 8 ≤ arrays.sessionId.capacity
  | .powerDelivery req =>
      (∀ profile ∈ req.powerProfile, profile.entries.length ≤ arrays.powerProfileEntries.capacity ∧
        profile.entries.length < 2 ^ 32) ∧ 8 ≤ arrays.sessionId.capacity
  | .sessionStop req =>
      (∃ code ∈ req.evTerminationCode, arrays.terminationCode.capacity < code.length) ∨
        (∃ text ∈ req.evTerminationExplanation, arrays.terminationExplanation.capacity < text.length) ∨
        8 ≤ arrays.sessionId.capacity
  | .authorizationSetup _ | .authorization _ | .serviceDetail _ => 8 ≤ arrays.sessionId.capacity
  | .dcChargeParameterDiscovery _ | .dcCableCheck _ | .dcPreCharge _ | .dcChargeLoop _ | .dcWeldingDetection _ =>
      8 ≤ arrays.dcSessionId.capacity
  | .acChargeParameterDiscovery _ | .acChargeLoop _ => 8 ≤ arrays.acSessionId.capacity

def MeteringFitsOrRefused (sessionId : ArrayType) (arrays : MeteringArrays) (info : Option MeterInfo)
    (receipt : Option Receipt) : Prop :=
  8 ≤ sessionId.capacity ∧ ((∃ i ∈ info, ¬i.TextsFit arrays) ∨ ∀ r ∈ receipt, r.FitsOrRefused arrays)

def AuthorizationSetupResponse.FitsOrRefused (res : AuthorizationSetupResponse) : Prop :=
  Counts arrays.authorizationServices res.authorizationServices.length ∧ 8 ≤ arrays.sessionId.capacity ∨
    Reaches arrays.authorizationServices res.authorizationServices.length ∧
      (∃ challenge providers, res.authorizationMode = .pnc challenge providers) ∧ arrays.genChallenge.capacity < 16

def Response.FitsOrRefused : Response → Prop
  | .supportedAppProtocol _ => True
  | .sessionSetup res => arrays.evseId.capacity < res.evseid.length ∨ 8 ≤ arrays.sessionId.capacity
  | .authorizationSetup res => res.FitsOrRefused arrays
  | .serviceDiscovery res =>
      Counts arrays.services.energyServices res.energyTransferServiceList.length ∧
        (∀ list ∈ res.vasList, Counts arrays.services.vasServices list.length) ∧ 8 ≤ arrays.sessionId.capacity
  | .serviceDetail res =>
      8 ≤ arrays.sessionId.capacity ∧
        (ServiceParameterList.Counted arrays.services res.serviceParameterList ∨
          ServiceParameterList.Refused arrays.services res.serviceParameterList)
  | .dcChargeLoop res => MeteringFitsOrRefused arrays.dcSessionId arrays.dcMetering res.meterInfo res.receipt
  | .acChargeLoop res => MeteringFitsOrRefused arrays.acSessionId arrays.acMetering res.meterInfo res.receipt
  | .acChargeParameterDiscovery res =>
      8 ≤ arrays.acSessionId.capacity ∧
        ∀ curve ∈ res.transferMode.curves, min curve.curveDataPoints.length arrays.curvePoints.capacity < 2 ^ 16
  | .authorization _ | .serviceSelection _ | .scheduleExchange _ | .powerDelivery _ | .sessionStop _ =>
      8 ≤ arrays.sessionId.capacity
  | .dcChargeParameterDiscovery _ | .dcCableCheck _ | .dcPreCharge _ | .dcWeldingDetection _ =>
      8 ≤ arrays.dcSessionId.capacity

theorem AuthorizationSetupResponse.staysInside_iff (res : AuthorizationSetupResponse) :
    StaysInside (res.writes arrays) ↔ res.FitsOrRefused arrays := by
  rw [AuthorizationSetupResponse.writes, AuthorizationSetupResponse.FitsOrRefused]
  cases mode : res.authorizationMode with
  | eim =>
      have quiet : ¬Throws Fault.isRuntimeError (AsResAuthorizationMode.eim.writes arrays) := throws_nil
      rw [staysInside_quiet (by simp [quiet]), List.forall_mem_cons, List.forall_mem_cons,
        List.forall_mem_singleton, staysInside_writeListByte, Header.staysInside_iff]
      simp [AsResAuthorizationMode.writes, Counts]
  | pnc challenge providers =>
      have checks : Checks Fault.isRuntimeError (16 ≤ arrays.genChallenge.capacity)
          ((AsResAuthorizationMode.pnc challenge providers).writes arrays) :=
        (checks_writeBytes arrays.genChallenge challenge.toList).mono (by simp)
      rw [staysInside_or, throws_cons, throws_cons, throws_cons, sound_inOrder, List.forall_mem_cons,
        List.forall_mem_cons, List.forall_mem_singleton, sound_writeListByte, finishes_writeListByte,
        checks.throws_iff, checks.sound_iff, Header.sound_iff]
      have same : ∃ c p, AsResAuthorizationMode.pnc challenge providers = .pnc c p := ⟨challenge, providers, rfl⟩
      simp only [throws_writeListByte, Header.not_throws, throws_nil, false_or, and_false, or_false, same,
        true_and]
      have reaches (counts : Counts arrays.authorizationServices res.authorizationServices.length) := counts.reaches
      rcases Nat.lt_or_ge arrays.genChallenge.capacity 16 with short | room
      · simp only [not_le.mpr short, short]
        tauto
      · simp only [room, not_lt.mpr room]
        tauto

theorem Request.staysInside_iff (req : Request) :
    StaysInside (req.writes arrays) ↔ req.FitsOrRefused arrays := by
  cases req with
  | supportedAppProtocol req => exact req.staysInside_iff arrays
  | sessionSetup req =>
      refine (staysInside_header_last (checks_writeString req.evccid)).trans ?_
      rw [Request.FitsOrRefused, not_le]
  | serviceDiscovery req =>
      rw [Request.writes, ServiceDiscoveryRequest.writes,
        staysInside_before_header (not_throws_ifUsed fun _ _ => throws_writeList),
        staysInside_ifUsed fun _ _ => staysInside_writeList]
      rfl
  | serviceSelection req =>
      rw [Request.writes, ServiceSelectionRequest.writes,
        staysInside_before_header (not_throws_ifUsed fun _ _ => throws_writeList),
        staysInside_ifUsed fun _ _ => staysInside_writeList]
      rfl
  | scheduleExchange req => exact staysInside_header_last (req.controlMode.checks arrays.schedules)
  | powerDelivery req =>
      rw [Request.writes, PowerDeliveryRequest.writes,
        staysInside_before_header (not_throws_ifUsed fun profile _ => profile.not_throws arrays),
        staysInside_ifUsed fun profile _ => profile.staysInside_iff arrays]
      rfl
  | sessionStop req =>
      rw [Request.writes, SessionStopRequest.writes, staysInside_checks (checks_stringIfUsed _),
        staysInside_checks (checks_stringIfUsed _), staysInside_singleton, Header.staysInside_iff,
        Request.FitsOrRefused]
      simp only [not_forall, exists_prop, not_le]
  | authorizationSetup | authorization | serviceDetail | dcChargeParameterDiscovery | dcCableCheck | dcPreCharge |
    dcChargeLoop | dcWeldingDetection | acChargeParameterDiscovery | acChargeLoop =>
      exact Header.staysInside_iff

theorem Response.staysInside_iff (res : Response) :
    StaysInside (res.writes arrays) ↔ res.FitsOrRefused arrays := by
  cases res with
  | supportedAppProtocol res => simp [Response.writes, Response.FitsOrRefused]
  | sessionSetup res =>
      refine (staysInside_header_last (checks_writeString res.evseid)).trans ?_
      rw [Response.FitsOrRefused, not_le]
  | authorizationSetup res => exact res.staysInside_iff arrays
  | serviceDiscovery res =>
      have vas : ¬Throws Fault.isRuntimeError
          (ifUsed (writeListByte arrays.services.vasServices plain) res.vasList) :=
        not_throws_ifUsed fun _ _ => throws_writeListByte
      rw [Response.writes, ServiceDiscoveryResponse.writes, staysInside_quiet (by simp [vas]),
        List.forall_mem_cons, List.forall_mem_cons, List.forall_mem_singleton, staysInside_writeListByte,
        staysInside_ifUsed fun _ _ => staysInside_writeListByte, Header.staysInside_iff]
      rfl
  | serviceDetail res =>
      rw [Response.writes, ServiceDetailResponse.writes, staysInside_header_first, staysInside_singleton,
        ServiceParameterList.staysInside_iff]
      rfl
  | scheduleExchange res =>
      rw [Response.writes, ScheduleExchangeResponse.writes, staysInside_header_first, staysInside_singleton]
      exact and_iff_left (res.controlMode.checks arrays.schedules).contained
  | dcChargeLoop res =>
      rw [Response.writes, DcChargeLoopResponse.writes, staysInside_header_first, staysInside_metering]
      rfl
  | acChargeLoop res =>
      rw [Response.writes, AcChargeLoopResponse.writes, staysInside_header_first, staysInside_metering]
      rfl
  | acChargeParameterDiscovery res =>
      rw [Response.writes, AcChargeParameterDiscoveryResponse.writes, staysInside_header_first,
        staysInside_singleton, staysInside_quiet (by simp [DerCurve.not_throws])]
      simp [DerCurve.staysInside_iff, Response.FitsOrRefused]
  | authorization | serviceSelection | powerDelivery | sessionStop | dcChargeParameterDiscovery | dcCableCheck |
    dcPreCharge | dcWeldingDetection =>
      exact Header.staysInside_iff

/-- A conversion leaves the arrays exactly if something that nobody checked does not fit. -/
theorem encoders_contained_iff :
    (∀ req : Request, StaysInside (req.writes arrays) ↔ req.FitsOrRefused arrays) ∧
      ∀ res : Response, StaysInside (res.writes arrays) ↔ res.FitsOrRefused arrays :=
  ⟨Request.staysInside_iff arrays, Response.staysInside_iff arrays⟩

namespace Sample

def array (capacity : Nat) (counts : capacity < 2 ^ 16) : ArrayType := { capacity, lengthBits := 16, counts }

def text : ArrayType := array 80 (by decide)

def metering : MeteringArrays where
  meterId := text
  meterSignature := text
  taxCosts := array 10 (by decide)
  detailedTaxSize := 8

def generatedArrays : GeneratedArrays where
  appProtocols := array 20 (by decide)
  protocolNamespace := text
  sessionId := array 8 (by decide)
  evccId := text
  evseId := text
  authorizationServices := array 2 (by decide)
  genChallenge := array 16 (by decide)
  services :=
    { supportedServiceIds := array 16 (by decide)
      energyServices := array 8 (by decide)
      vasServices := array 8 (by decide)
      selectedServices := array 16 (by decide)
      parameterSets := array 32 (by decide)
      parameters := array 32 (by decide)
      parameterName := text
      finiteString := text }
  schedules :=
    { absoluteId := text
      absoluteDescription := text
      currency := text
      language := text
      priceAlgorithm := text
      taxRules := array 10 (by decide)
      taxRuleName := text
      priceRuleStacks := array 1024 (by decide)
      priceRules := array 8 (by decide)
      overstayRules := array 5 (by decide)
      overstayRuleDescription := text
      additionalServices := array 5 (by decide)
      serviceName := text
      levelId := text
      levelDescription := text
      priceLevels := array 1024 (by decide)
      evCurrency := text
      evPriceAlgorithm := text
      evPowerEntries := array 1024 (by decide)
      evPriceRuleStacks := array 1024 (by decide)
      evPriceRules := array 8 (by decide)
      powerEntries := array 1024 (by decide)
      scheduleTuples := array 3 (by decide) }
  powerProfileEntries := array 2048 (by decide)
  terminationCode := text
  terminationExplanation := text
  dcSessionId := array 8 (by decide)
  dcMetering := metering
  acSessionId := array 8 (by decide)
  acMetering := metering
  curvePoints := array 10 (by decide)

def manyParameterSets : ServiceDetailResponse :=
  { serviceParameterList := (List.range 33).map fun id => { id := UInt16.ofNat id, parameter := [] } }

end Sample

theorem encoders_not_contained :
    ¬∀ (arrays : GeneratedArrays) (res : Response), StaysInside (res.writes arrays) := by
  intro all
  have outside : (Response.serviceDetail Sample.manyParameterSets).writes Sample.generatedArrays =
      .error .outsideArray := by
    rfl
  have stays := all Sample.generatedArrays (.serviceDetail Sample.manyParameterSets)
  rw [outside] at stays
  exact stays

end LibIso15118
