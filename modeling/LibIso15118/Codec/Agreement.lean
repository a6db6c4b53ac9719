import LibIso15118.Codec.Containment
import LibIso15118.Codec.Variant
import LibIso15118.Shared.SameEnd

set_option autoImplicit false

/-!
# The conversions and what they write

A conversion fails exactly if its accesses to arrays are stopped, and with the same failure, whatever the generated
record held before.
-/

namespace LibIso15118

open Datatypes Codec ArrayWrites ArrayWrites.Writes

section Primitives

variable {α β : Type} {array : ArrayType} {value : Option α} {convert : α → β → Except Fault β}
  {write : α → Writes Fault}

theorem writeM_sameEnd (inner : ∀ a ∈ value, ∀ out, SameEnd (convert a out) (write a)) (out : Used β) :
    SameEnd (out.writeM convert value) (ifUsed write value) := by
  cases value with
  | none => exact .pure _
  | some a => exact (inner a rfl out.value).map _

theorem setM_sameEnd (inner : ∀ a ∈ value, ∀ out, SameEnd (convert a out) (write a)) (out : Used β) :
    SameEnd (out.setM convert value) (ifUsed write value) := by
  cases value with
  | none => exact .pure _
  | some a => exact (inner a rfl out.value).map _

section Lists

variable {entry : Writes Fault → α → Writes Fault} (list : List α)

theorem fill_sameEnd (inner : ∀ a ∈ list, ∀ out, SameEnd (convert a out) (entry (.ok []) a))
    (first : list.length ≤ array.capacity ∨ ∀ a ∈ list, entry (.error .outsideArray) a = .error .outsideArray)
    (out : Bounded array.capacity β) :
    SameEnd (out.fill .outsideArray convert list) (writeList array entry list) :=
  .fill rfl (fun _ _ => rfl) list out inner first

theorem fill_sameEnd_byte (small : array.capacity < 256)
    (inner : ∀ a ∈ list, ∀ out, SameEnd (convert a out) (entry (.ok []) a))
    (first : ∀ a ∈ list, entry (.error .outsideArray) a = .error .outsideArray) (out : Bounded array.capacity β) :
    SameEnd (out.fill .outsideArray convert list) (writeListByte array entry list) :=
  .fill rfl (fun _ early => Nat.mod_eq_of_lt (by omega)) list out inner (.inr first)

theorem cpp2cbArray_sameEnd (inner : ∀ a ∈ list, ∀ out, SameEnd (convert a out) (entry (.ok []) a))
    (out : Bounded array.capacity β) :
    SameEnd (cpp2cbArray convert list out) (writeListChecked array entry list) :=
  .checked (by omega) fun room => (fill_sameEnd list inner (.inl room) out).single

theorem cpp2cbArray_sameEnd_placed (inner : ∀ a ∈ list, ∀ out, SameEnd (convert a out) (write a))
    (out : Bounded array.capacity β) :
    SameEnd (cpp2cbArray convert list out) (writeListChecked array (placed write) list) :=
  cpp2cbArray_sameEnd list (fun a member out => .placed (inner a member out)) out

variable {made : α → β → β}

theorem cpp2cbArray_sameEnd_plain (out : Bounded array.capacity β) :
    SameEnd (cpp2cbArray (fun a out => .ok (made a out)) list out) (writeListChecked array plain list) :=
  cpp2cbArray_sameEnd list (fun _ _ _ => .pure _) out

theorem fill_sameEnd_plain (out : Bounded array.capacity β) :
    SameEnd (out.fill .outsideArray (fun a out => .ok (made a out)) list) (writeList array plain list) :=
  fill_sameEnd list (fun _ _ _ => .pure _) (.inr fun _ _ => rfl) out

theorem fill_sameEnd_byte_plain (small : array.capacity < 256) (out : Bounded array.capacity β) :
    SameEnd (out.fill .outsideArray (fun a out => .ok (made a out)) list) (writeListByte array plain list) :=
  fill_sameEnd_byte list small (fun _ _ _ => .pure _) (fun _ _ => rfl) out

end Lists

theorem cpp2cbString_sameEnd (string : StdString) (out : CbString array.capacity) :
    SameEnd (cpp2cbString string out) (writeString array string) :=
  .checked (by omega) fun _ => .skip trivial (fill_sameEnd_plain string.bytes out).single

theorem cpp2cbStringIfUsed_sameEnd (string : Option StdString) (out : Used (CbString array.capacity)) :
    SameEnd (cpp2cbStringIfUsed string out) (ifUsed (writeString array) string) :=
  writeM_sameEnd (fun string _ out => cpp2cbString_sameEnd string out) out

theorem cpp2cbBytes_sameEnd (bytes : StdString) (out : CbString array.capacity) :
    SameEnd (cpp2cbBytes bytes out) (writeBytes array bytes.bytes) := by
  have copied : SameEnd (copyChars bytes.bytes out) (writeList array plain bytes.bytes) :=
    fill_sameEnd_plain bytes.bytes out
  exact .checked (by simp [StdString.length]) fun _ => copied.single

theorem Header.finishes {sessionId : ArrayType} (room : sessionId.capacity = 8) (header : Header) :
    Writes.Finishes (header.writes sessionId) := by
  rw [Header.writes, finishes_writeList]
  simp [room]

theorem sameEnd_beforeHeader {γ : Type} {conversion : Except Fault β} {writes : Writes Fault}
    {sessionId : ArrayType} (room : sessionId.capacity = 8) (header : Header) (same : SameEnd conversion writes)
    (f : β → γ) : SameEnd (conversion >>= fun b => pure (f b)) (inOrder [writes, header.writes sessionId]) :=
  same.bind fun _ => .skip (header.finishes room) (.pure _)

end Primitives

namespace Datatypes

section Prices

variable (arrays : PriceArrays)

theorem TaxRule.convert_sameEnd (rule : TaxRule) (out : Iso20.TaxRuleType arrays.capacities) :
    SameEnd (rule.convert out) (rule.writes arrays) :=
  (cpp2cbStringIfUsed_sameEnd rule.taxRuleName out.taxRuleName).map _

theorem PriceRuleStack.convert_sameEnd (stack : PriceRuleStack) (out : Iso20.PriceRuleStackType arrays.capacities) :
    SameEnd (stack.convert out) (stack.writes arrays) :=
  (cpp2cbArray_sameEnd_plain stack.priceRule.toList out.priceRule).map _

theorem OverstayRule.convert_sameEnd (rule : OverstayRule) (out : Iso20.OverstayRuleType arrays.capacities) :
    SameEnd (rule.convert out) (rule.writes arrays) :=
  (cpp2cbStringIfUsed_sameEnd rule.overstayRuleDescription out.overstayRuleDescription).map _

theorem OverstayRulesList.convert_sameEnd (rules : OverstayRulesList)
    (out : Iso20.OverstayRuleListType arrays.capacities) :
    SameEnd (rules.convert out)
      (writeListChecked arrays.overstayRules (placed (·.writes arrays)) rules.overstayRule) :=
  (cpp2cbArray_sameEnd_placed rules.overstayRule (fun rule _ => rule.convert_sameEnd arrays) out.overstayRule).map _

theorem AdditionalService.convert_sameEnd (service : AdditionalService)
    (out : Iso20.AdditionalServiceType arrays.capacities) :
    SameEnd (service.convert out) (writeString arrays.serviceName service.serviceName) :=
  (cpp2cbString_sameEnd service.serviceName out.serviceName).map _

theorem AbsolutePriceSchedule.convert_sameEnd (schedule : AbsolutePriceSchedule)
    (out : Iso20.AbsolutePriceScheduleType arrays.capacities) :
    SameEnd (schedule.convert out) (schedule.writes arrays) := by
  refine (cpp2cbStringIfUsed_sameEnd schedule.id out.id).bind fun id => ?_
  refine (cpp2cbStringIfUsed_sameEnd schedule.priceScheduleDescription out.priceScheduleDescription).bind
    fun description => ?_
  refine (cpp2cbString_sameEnd schedule.currency out.currency).bind fun currency => ?_
  refine (cpp2cbString_sameEnd schedule.language out.language).bind fun language => ?_
  refine (cpp2cbString_sameEnd schedule.priceAlgorithm out.priceAlgorithm).bind fun priceAlgorithm => ?_
  refine (setM_sameEnd (fun rules _ => cpp2cbArray_sameEnd_placed rules.toList
    fun rule _ => rule.convert_sameEnd arrays) out.taxRules).bind fun taxRules => ?_
  refine (cpp2cbArray_sameEnd_placed schedule.priceRuleStacks.toList
    (fun stack _ => stack.convert_sameEnd arrays) out.priceRuleStacks).bind fun priceRuleStacks => ?_
  refine (setM_sameEnd (fun rules _ => rules.convert_sameEnd arrays) out.overstayRules).bind
    fun overstayRules => ?_
  exact ((setM_sameEnd (fun services _ => cpp2cbArray_sameEnd services.toList
    fun service _ => service.convert_sameEnd arrays) out.additionalSelectedServices).map _).single

theorem PriceLevelSchedule.convert_sameEnd (schedule : PriceLevelSchedule)
    (out : Iso20.PriceLevelScheduleType arrays.capacities) :
    SameEnd (schedule.convert out) (schedule.writes arrays) := by
  refine (cpp2cbStringIfUsed_sameEnd schedule.id out.id).bind fun id => ?_
  refine (cpp2cbStringIfUsed_sameEnd schedule.priceScheduleDescription out.priceScheduleDescription).bind
    fun description => ?_
  exact ((cpp2cbArray_sameEnd_plain schedule.priceLevelScheduleEntries out.priceLevelScheduleEntries).map _).single

theorem PriceSchedule.convert_sameEnd (schedule : PriceSchedule)
    (out : Iso20.PriceScheduleMembers arrays.capacities) :
    SameEnd (schedule.convert out) (schedule.writes arrays) := by
  cases schedule with
  | none => exact .pure _
  | absolute schedule => exact (schedule.convert_sameEnd arrays out.absolutePriceSchedule.value).map _
  | priceLevel schedule => exact (schedule.convert_sameEnd arrays out.priceLevelSchedule.value).map _

end Prices

section Schedules

variable (arrays : ScheduleArrays)

theorem PowerSchedule.convert_sameEnd (schedule : PowerSchedule) (out : Iso20.PowerScheduleType arrays.capacities) :
    SameEnd (schedule.convert out) (schedule.writes arrays) :=
  (cpp2cbArray_sameEnd_plain schedule.entries out.init.powerScheduleEntries).map _

theorem ChargingSchedule.convert_sameEnd (schedule : ChargingSchedule)
    (out : Iso20.ChargingScheduleType arrays.capacities) :
    SameEnd (schedule.convert out) (schedule.writes arrays) := by
  refine (schedule.powerSchedule.convert_sameEnd arrays out.init.powerSchedule).bind fun powerSchedule => ?_
  exact ((schedule.priceSchedule.convert_sameEnd arrays.toPriceArrays out.init.toPriceScheduleMembers).map _).single

theorem ScheduleTuple.convert_sameEnd (tuple : ScheduleTuple) (out : Iso20.ScheduleTupleType arrays.capacities) :
    SameEnd (tuple.convert out) (tuple.writes arrays) := by
  refine (tuple.chargingSchedule.convert_sameEnd arrays out.init.chargingSchedule).bind fun schedule => ?_
  exact ((writeM_sameEnd (fun schedule _ => schedule.convert_sameEnd arrays)
    out.init.dischargingSchedule).map _).single

theorem SeResControlMode.convert_sameEnd (mode : SeResControlMode)
    (out : Iso20.ScheduleExchangeResType arrays.capacities) :
    SameEnd (mode.convert out) (mode.writes arrays) := by
  cases mode with
  | dynamic mode =>
      have prices := mode.priceSchedule.convert_sameEnd arrays.toPriceArrays
        out.dynamicSeResControlMode.value.init.toPriceScheduleMembers
      exact (prices.map _).map _
  | scheduled mode =>
      have tuples := cpp2cbArray_sameEnd_placed mode.scheduleTuple (fun tuple _ => tuple.convert_sameEnd arrays)
        out.scheduledSeResControlMode.value.init.scheduleTuple
      exact (tuples.map _).map _

theorem EvPriceRuleStack.convert_sameEnd (stack : EvPriceRuleStack)
    (out : Iso20.EvPriceRuleStackType arrays.capacities) :
    SameEnd (stack.convert out) (stack.writes arrays) :=
  (cpp2cbArray_sameEnd_plain stack.priceRules out.evPriceRule).map _

theorem EvAbsolutePriceSchedule.convert_sameEnd (schedule : EvAbsolutePriceSchedule)
    (out : Iso20.EvAbsolutePriceScheduleType arrays.capacities) :
    SameEnd (schedule.convert out) (schedule.writes arrays) := by
  refine (cpp2cbString_sameEnd schedule.currency out.currency).bind fun currency => ?_
  refine (cpp2cbString_sameEnd schedule.priceAlgorithm out.priceAlgorithm).bind fun priceAlgorithm => ?_
  exact ((cpp2cbArray_sameEnd_placed schedule.priceRuleStacks (fun stack _ => stack.convert_sameEnd arrays)
    out.evPriceRuleStacks).map _).single

theorem EvPowerSchedule.convert_sameEnd (schedule : EvPowerSchedule)
    (out : Iso20.EvPowerScheduleType arrays.capacities) :
    SameEnd (schedule.convert out) (writeListChecked arrays.evPowerEntries plain schedule.entries) :=
  (cpp2cbArray_sameEnd_plain schedule.entries out.evPowerScheduleEntries).map _

theorem EvEnergyOffer.convert_sameEnd (offer : EvEnergyOffer) (out : Iso20.EvEnergyOfferType arrays.capacities) :
    SameEnd (offer.convert out) (offer.writes arrays) := by
  refine (offer.powerSchedule.convert_sameEnd arrays out.evPowerSchedule).bind fun powerSchedule => ?_
  exact ((offer.absolutePriceSchedule.convert_sameEnd arrays out.evAbsolutePriceSchedule).map _).single

theorem SeReqControlMode.convert_sameEnd (mode : SeReqControlMode)
    (out : Iso20.ScheduleExchangeReqType arrays.capacities) :
    SameEnd (mode.convert out) (mode.writes arrays) := by
  cases mode with
  | dynamic mode => exact .pure _
  | scheduled mode =>
      exact ((writeM_sameEnd (fun offer _ => EvEnergyOffer.convert_sameEnd arrays offer)
        out.scheduledSeReqControlMode.value.init.evEnergyOffer).map _).map _

end Schedules

end Datatypes

structure ServiceArrays.Regular (arrays : ServiceArrays) : Prop where
  energyServices_lt : arrays.energyServices.capacity < 256
  vasServices_lt : arrays.vasServices.capacity < 256
  parameterSets_lt : arrays.parameterSets.capacity < 256
  parameters_lt : arrays.parameters.capacity < 256

def ServiceArrays.capacities (arrays : ServiceArrays) (regular : arrays.Regular) : ServiceCapacities where
  supportedServiceIds := arrays.supportedServiceIds.capacity
  energyServices := arrays.energyServices.capacity
  vasServices := arrays.vasServices.capacity
  selectedServices := arrays.selectedServices.capacity
  parameterSets := arrays.parameterSets.capacity
  parameters := arrays.parameters.capacity
  parameterName := arrays.parameterName.capacity
  finiteString := arrays.finiteString.capacity
  energyServices_lt := regular.energyServices_lt
  vasServices_lt := regular.vasServices_lt
  parameterSets_lt := regular.parameterSets_lt
  parameters_lt := regular.parameters_lt

namespace Datatypes

variable {arrays : ServiceArrays} (regular : arrays.Regular)

theorem ParameterValue.convert_sameEnd (value : ParameterValue)
    (out : Iso20.ParameterType (arrays.capacities regular)) :
    SameEnd (value.convert out) (value.writes arrays) := by
  cases value with
  | name string => exact (cpp2cbString_sameEnd string out.finiteString.value).map _
  | bool | int8 | int16 | int32 | rational => exact .pure _

theorem Parameter.convert_sameEnd (parameter : Parameter) (out : Iso20.ParameterType (arrays.capacities regular)) :
    SameEnd (parameter.convert out) (parameter.writes arrays) := by
  refine (cpp2cbString_sameEnd parameter.name out.init.name).bind fun name => ?_
  exact (parameter.value.convert_sameEnd regular _).single

theorem ParameterSet.convert_sameEnd (set : ParameterSet) (out : Iso20.ParameterSetType (arrays.capacities regular)) :
    SameEnd (set.convert out) (set.writes arrays) :=
  (fill_sameEnd_byte set.parameter regular.parameters_lt
    (fun parameter _ out => .placed (parameter.convert_sameEnd regular out)) (fun _ _ => rfl) out.parameter).map _

end Datatypes

structure MeteringArrays.Regular (arrays : MeteringArrays) : Prop where
  meterSignature_pos : 0 < arrays.meterSignature.capacity
  detailedTaxSize_pos : 0 < arrays.detailedTaxSize

def MeteringArrays.capacities (arrays : MeteringArrays) (regular : arrays.Regular) : MeteringCapacities where
  meterId := arrays.meterId.capacity
  meterSignature := arrays.meterSignature.capacity
  taxCosts := arrays.taxCosts.capacity
  detailedTaxSize := arrays.detailedTaxSize
  meterSignature_pos := regular.meterSignature_pos
  detailedTaxSize_pos := regular.detailedTaxSize_pos

namespace Datatypes

variable {arrays : MeteringArrays} (regular : arrays.Regular)

theorem MeterInfo.convert_sameEnd (info : MeterInfo) (out : Iso20.MeterInfoType (arrays.capacities regular)) :
    SameEnd (info.convert out) (info.writes arrays) := by
  have signature (out : Used (CbString arrays.meterSignature.capacity)) :
      SameEnd (setSignature info.meterSignature out)
        (ifUsed (fun signature => writeBytes arrays.meterSignature signature.bytes) info.meterSignature) := by
    cases info.meterSignature with
    | none => exact .pure _
    | some signature => exact (cpp2cbBytes_sameEnd signature out.value).map _
  refine (cpp2cbString_sameEnd info.meterId out.init.meterId).bind fun meterId => ?_
  exact ((signature out.init.meterSignature).map _).single

theorem Receipt.convert_sameEnd (receipt : Receipt) (out : Iso20.ReceiptType (arrays.capacities regular)) :
    SameEnd (receipt.convert out) (receipt.writes arrays) :=
  .checked not_le.symm fun _ => ((fill_sameEnd_plain receipt.taxCosts out.init.taxCosts).map _).single

end Datatypes

section AppProtocol

variable (protocols namespaces : ArrayType)

abbrev appProtocolCapacities : AppProtocolCapacities :=
  { appProtocols := protocols.capacity, protocolNamespace := namespaces.capacity }

variable {protocols namespaces}

theorem SupportedAppProtocol.convert_sameEnd (item : SupportedAppProtocol)
    (out : AppHand.AppProtocolType (appProtocolCapacities protocols namespaces)) :
    SameEnd (item.convert out) (writeString namespaces item.protocolNamespace) :=
  (cpp2cbString_sameEnd item.protocolNamespace out.protocolNamespace).map _

theorem storeAppProtocols_sameEnd (list : List SupportedAppProtocol) (start : Nat)
    (held : Vector (AppHand.AppProtocolType (appProtocolCapacities protocols namespaces))
      (appProtocolCapacities protocols namespaces).appProtocols) :
    SameEnd (storeAppProtocols list start held)
      (inOrder (list.mapIdx fun count item =>
        writeStringAt (require .outsideArray (start + count < protocols.capacity)) namespaces
          item.protocolNamespace)) := by
  -- The length of a namespace is checked before its entry is accessed.
  induction list generalizing start held with
  | nil => exact .pure _
  | cons item list hyp =>
      rw [List.mapIdx_cons, storeAppProtocols]
      by_cases short : item.protocolNamespace.length ≤ namespaces.capacity
      · rw [if_neg (not_lt.mpr short)]
        by_cases inside : start < protocols.capacity
        · rw [dif_pos inside]
          have place : (require .outsideArray (start + 0 < protocols.capacity) : Writes Fault) = .ok [] := by
            simp [require, inside]
          rw [place]
          refine (item.convert_sameEnd held[start]).bind fun entry => ?_
          simpa only [Nat.add_assoc, Nat.add_comm 1] using hyp (start + 1) (held.set start entry)
        · have place : (require .outsideArray (start + 0 < protocols.capacity) : Writes Fault) =
              .error .outsideArray := by
            simp [require, inside]
          rw [dif_neg inside, place]
          simp [writeStringAt, require, short]
          rfl
      · rw [if_pos (not_le.mp short)]
        simp [writeStringAt, require, short]
        rfl

end AppProtocol

structure GeneratedArrays.Regular (arrays : GeneratedArrays) : Prop where
  sessionId : arrays.sessionId.capacity = 8
  dcSessionId : arrays.dcSessionId.capacity = 8
  acSessionId : arrays.acSessionId.capacity = 8
  genChallenge : arrays.genChallenge.capacity = 16
  authorizationServices_lt : arrays.authorizationServices.capacity < 256
  services : arrays.services.Regular
  dcMetering : arrays.dcMetering.Regular
  acMetering : arrays.acMetering.Regular

/-- No conversion writes the id of a contract, whose array has room for `pncId` characters. -/
def GeneratedArrays.capacities (arrays : GeneratedArrays) (regular : arrays.Regular) (pncId : Nat) :
    DocumentCapacities where
  appProtocol := appProtocolCapacities arrays.appProtocols arrays.protocolNamespace
  session :=
    { evccid := arrays.evccId.capacity
      evseid := arrays.evseId.capacity
      authorizationServices := arrays.authorizationServices.capacity
      pncId
      powerProfileEntries := arrays.powerProfileEntries.capacity
      terminationCode := arrays.terminationCode.capacity
      terminationExplanation := arrays.terminationExplanation.capacity
      authorizationServices_lt := regular.authorizationServices_lt }
  services := arrays.services.capacities regular.services
  schedules := arrays.schedules.capacities
  dcMetering := arrays.dcMetering.capacities regular.dcMetering
  acMetering := arrays.acMetering.capacities regular.acMetering
  curvePoints := arrays.curvePoints.capacity

section Messages

variable {arrays : GeneratedArrays} (regular : arrays.Regular) {pncId : Nat}

theorem SupportedAppProtocolRequest.convert_sameEnd (req : SupportedAppProtocolRequest)
    (out : AppHand.SupportedAppProtocolReqType (arrays.capacities regular pncId).appProtocol) :
    SameEnd (req.convert out) (req.writes arrays) := by
  have stored := storeAppProtocols_sameEnd req.appProtocol 0 out.appProtocol.array
  simp only [Nat.zero_add] at stored
  exact stored.bind fun array => .skip finishes_leave (.pure _)

theorem SessionSetupRequest.convert_sameEnd (req : SessionSetupRequest)
    (out : Iso20.SessionSetupReqType (arrays.capacities regular pncId).session) :
    SameEnd (req.convert out) (req.writes arrays) :=
  sameEnd_beforeHeader regular.sessionId req.header
    (cpp2cbString_sameEnd req.evccid out.init.evccid) _

theorem SessionSetupResponse.convert_sameEnd (res : SessionSetupResponse)
    (out : Iso20.SessionSetupResType (arrays.capacities regular pncId).session) :
    SameEnd (res.convert out) (res.writes arrays) :=
  sameEnd_beforeHeader regular.sessionId res.header
    (cpp2cbString_sameEnd res.evseid out.init.evseid) _

theorem Datatypes.AsResAuthorizationMode.finishes (room : arrays.genChallenge.capacity = 16)
    (mode : AsResAuthorizationMode) : Writes.Finishes (mode.writes arrays) := by
  cases mode with
  | eim => trivial
  | pnc challenge providers =>
      exact (checks_writeBytes arrays.genChallenge challenge.toList).finishes_iff.mpr (by simp [room])

theorem AuthorizationSetupResponse.convert_sameEnd (res : AuthorizationSetupResponse)
    (out : Iso20.AuthorizationSetupResType (arrays.capacities regular pncId).session) :
    SameEnd (res.convert out) (res.writes arrays) := by
  refine (fill_sameEnd_byte_plain res.authorizationServices regular.authorizationServices_lt
    out.init.authorizationServices).bind fun services => ?_
  exact .skip (res.authorizationMode.finishes regular.genChallenge)
    (.skip (res.header.finishes regular.sessionId) (.pure _))

theorem ServiceDiscoveryRequest.convert_sameEnd (req : ServiceDiscoveryRequest)
    (out : Iso20.ServiceDiscoveryReqType (arrays.capacities regular pncId).services) :
    SameEnd (req.convert out) (req.writes arrays) :=
  sameEnd_beforeHeader regular.sessionId req.header
    (setM_sameEnd (fun ids _ => fill_sameEnd_plain ids) out.init.supportedServiceIds) _

theorem ServiceDiscoveryResponse.convert_sameEnd (res : ServiceDiscoveryResponse)
    (out : Iso20.ServiceDiscoveryResType (arrays.capacities regular pncId).services) :
    SameEnd (res.convert out) (res.writes arrays) := by
  refine (fill_sameEnd_byte_plain res.energyTransferServiceList regular.services.energyServices_lt
    out.init.energyTransferServiceList).bind fun services => ?_
  exact sameEnd_beforeHeader regular.sessionId res.header
    (setM_sameEnd (fun services _ => fill_sameEnd_byte_plain services regular.services.vasServices_lt)
      out.init.vasList) _

theorem ServiceDetailResponse.convert_sameEnd (res : ServiceDetailResponse)
    (out : Iso20.ServiceDetailResType (arrays.capacities regular pncId).services) :
    SameEnd (res.convert out) (res.writes arrays) := by
  refine .skip (res.header.finishes regular.sessionId) ?_
  exact ((fill_sameEnd_byte res.serviceParameterList regular.services.parameterSets_lt
    (fun set _ out => .placed (set.convert_sameEnd regular.services out)) (fun _ _ => rfl)
    out.init.serviceParameterList).map _).single

theorem ServiceSelectionRequest.convert_sameEnd (req : ServiceSelectionRequest)
    (out : Iso20.ServiceSelectionReqType (arrays.capacities regular pncId).services) :
    SameEnd (req.convert out) (req.writes arrays) :=
  sameEnd_beforeHeader regular.sessionId req.header
    (writeM_sameEnd (fun services _ => fill_sameEnd_plain services) out.init.selectedVasList) _

theorem ScheduleExchangeRequest.convert_sameEnd (req : ScheduleExchangeRequest)
    (out : Iso20.ScheduleExchangeReqType (arrays.capacities regular pncId).schedules) :
    SameEnd (req.convert out) (req.writes arrays) :=
  sameEnd_beforeHeader regular.sessionId req.header
    (req.controlMode.convert_sameEnd arrays.schedules _) _

theorem ScheduleExchangeResponse.convert_sameEnd (res : ScheduleExchangeResponse)
    (out : Iso20.ScheduleExchangeResType (arrays.capacities regular pncId).schedules) :
    SameEnd (res.convert out) (res.writes arrays) :=
  .skip (res.header.finishes regular.sessionId) (res.controlMode.convert_sameEnd arrays.schedules _).single

theorem Datatypes.PowerProfile.convert_sameEnd (profile : PowerProfile)
    (out : Iso20.EvPowerProfileType (arrays.capacities regular pncId).session) :
    SameEnd (profile.convert out) (profile.writes arrays) := by
  have inner (entry : PowerScheduleEntry) (out : Iso20.PowerScheduleEntryType) :
      SameEnd (.ok (entry.convert out)) (plain (.ok []) entry : Writes Fault) := trivial
  exact (SameEnd.fill rfl (fun _ _ => rfl) profile.entries _ (fun entry _ => inner entry)
    (.inr fun _ _ => rfl)).map _

theorem PowerDeliveryRequest.convert_sameEnd (req : PowerDeliveryRequest)
    (out : Iso20.PowerDeliveryReqType (arrays.capacities regular pncId).session) :
    SameEnd (req.convert out) (req.writes arrays) :=
  sameEnd_beforeHeader regular.sessionId req.header
    (writeM_sameEnd (fun (profile : PowerProfile) _ => profile.convert_sameEnd regular) out.init.evPowerProfile) _

theorem SessionStopRequest.convert_sameEnd (req : SessionStopRequest)
    (out : Iso20.SessionStopReqType (arrays.capacities regular pncId).session) :
    SameEnd (req.convert out) (req.writes arrays) := by
  refine (cpp2cbStringIfUsed_sameEnd req.evTerminationCode out.init.evTerminationCode).bind fun code => ?_
  exact sameEnd_beforeHeader regular.sessionId req.header
    (cpp2cbStringIfUsed_sameEnd req.evTerminationExplanation out.init.evTerminationExplanation) _

theorem DcChargeLoopResponse.convert_sameEnd (res : DcChargeLoopResponse)
    (out : Iso20.Dc.DcChargeLoopResType (arrays.capacities regular pncId).dcMetering) :
    SameEnd (res.convert out) (res.writes arrays) := by
  refine .skip (res.header.finishes regular.dcSessionId) ?_
  refine (writeM_sameEnd (fun info _ => info.convert_sameEnd regular.dcMetering)
    out.init.meterInfo).bind fun info => ?_
  exact ((writeM_sameEnd (fun receipt _ => receipt.convert_sameEnd regular.dcMetering) out.init.receipt).map _).single

theorem AcChargeLoopResponse.convert_sameEnd (res : AcChargeLoopResponse)
    (out : Iso20.Ac.AcChargeLoopResType (arrays.capacities regular pncId).acMetering) :
    SameEnd (res.convert out) (res.writes arrays) := by
  refine .skip (res.header.finishes regular.acSessionId) ?_
  refine (writeM_sameEnd (fun info _ => info.convert_sameEnd regular.acMetering)
    out.init.meterInfo).bind fun info => ?_
  exact ((writeM_sameEnd (fun receipt _ => receipt.convert_sameEnd regular.acMetering) out.init.receipt).map _).single

theorem Datatypes.DerCurve.finishes (points : ArrayType) (curve : DerCurve) : Writes.Finishes (curve.writes points) := by
  simp only [writes, finishes_inOrder, List.forall_mem_cons, finishes_leave, finishes_entries_plain, within_id]
  simp

theorem AcChargeParameterDiscoveryResponse.convert_sameEnd (res : AcChargeParameterDiscoveryResponse)
    (out : Iso20.Ac.AcChargeParameterDiscoveryResType (arrays.capacities regular pncId).curvePoints) :
    SameEnd (res.convert out) (res.writes arrays) := by
  refine .skip (res.header.finishes regular.acSessionId) ?_
  have curves : Writes.Finishes (inOrder [inOrder (res.transferMode.curves.map (·.writes arrays.curvePoints))]) := by
    simp [DerCurve.finishes]
  have outcome : Outcome Fault.isThrown True _ (res.convert out) := res.convert_codes out
  cases conversion : res.convert out with
  | error e =>
      rw [conversion] at outcome
      exact absurd trivial outcome.2
  | ok written => exact .of_ok rfl curves

variable (arrays pncId)

/-- Every conversion of the request comes to the same end, whatever the record held before. -/
def Request.EndsAs (writes : Writes Fault) : Request → Prop
  | .supportedAppProtocol req =>
      ∀ out : AppHand.SupportedAppProtocolReqType (arrays.capacities regular pncId).appProtocol,
        SameEnd (req.convert out) writes
  | .sessionSetup req =>
      ∀ out : Iso20.SessionSetupReqType (arrays.capacities regular pncId).session, SameEnd (req.convert out) writes
  | .authorizationSetup req => SameEnd (.ok req.convert) writes
  | .authorization req =>
      ∀ out : Iso20.AuthorizationReqType (arrays.capacities regular pncId).session,
        SameEnd (.ok (req.convert out)) writes
  | .serviceDiscovery req =>
      ∀ out : Iso20.ServiceDiscoveryReqType (arrays.capacities regular pncId).services,
        SameEnd (req.convert out) writes
  | .serviceDetail req => SameEnd (.ok req.convert) writes
  | .serviceSelection req =>
      ∀ out : Iso20.ServiceSelectionReqType (arrays.capacities regular pncId).services,
        SameEnd (req.convert out) writes
  | .dcChargeParameterDiscovery req => ∀ out, SameEnd (.ok (req.convert out)) writes
  | .scheduleExchange req =>
      ∀ out : Iso20.ScheduleExchangeReqType (arrays.capacities regular pncId).schedules,
        SameEnd (req.convert out) writes
  | .dcCableCheck req => SameEnd (.ok req.convert) writes
  | .dcPreCharge req => SameEnd (.ok req.convert) writes
  | .powerDelivery req =>
      ∀ out : Iso20.PowerDeliveryReqType (arrays.capacities regular pncId).session, SameEnd (req.convert out) writes
  | .dcChargeLoop req => ∀ out, SameEnd (.ok (req.convert out)) writes
  | .dcWeldingDetection req => SameEnd (.ok req.convert) writes
  | .sessionStop req =>
      ∀ out : Iso20.SessionStopReqType (arrays.capacities regular pncId).session, SameEnd (req.convert out) writes
  | .acChargeParameterDiscovery req => ∀ out, SameEnd (.ok (req.convert out)) writes
  | .acChargeLoop req => ∀ out, SameEnd (.ok (req.convert out)) writes

def Response.EndsAs (writes : Writes Fault) : Response → Prop
  | .supportedAppProtocol res => ∀ out, SameEnd (.ok (res.convert out)) writes
  | .sessionSetup res =>
      ∀ out : Iso20.SessionSetupResType (arrays.capacities regular pncId).session, SameEnd (res.convert out) writes
  | .authorizationSetup res =>
      ∀ out : Iso20.AuthorizationSetupResType (arrays.capacities regular pncId).session,
        SameEnd (res.convert out) writes
  | .authorization res => SameEnd (.ok res.convert) writes
  | .serviceDiscovery res =>
      ∀ out : Iso20.ServiceDiscoveryResType (arrays.capacities regular pncId).services,
        SameEnd (res.convert out) writes
  | .serviceDetail res =>
      ∀ out : Iso20.ServiceDetailResType (arrays.capacities regular pncId).services, SameEnd (res.convert out) writes
  | .serviceSelection res => SameEnd (.ok res.convert) writes
  | .dcChargeParameterDiscovery res => ∀ out, SameEnd (.ok (res.convert out)) writes
  | .scheduleExchange res =>
      ∀ out : Iso20.ScheduleExchangeResType (arrays.capacities regular pncId).schedules,
        SameEnd (res.convert out) writes
  | .dcCableCheck res => SameEnd (.ok res.convert) writes
  | .dcPreCharge res => SameEnd (.ok res.convert) writes
  | .powerDelivery res => ∀ out, SameEnd (.ok (res.convert out)) writes
  | .dcChargeLoop res =>
      ∀ out : Iso20.Dc.DcChargeLoopResType (arrays.capacities regular pncId).dcMetering,
        SameEnd (res.convert out) writes
  | .dcWeldingDetection res => SameEnd (.ok res.convert) writes
  | .sessionStop res => SameEnd (.ok res.convert) writes
  | .acChargeParameterDiscovery res =>
      ∀ out : Iso20.Ac.AcChargeParameterDiscoveryResType (arrays.capacities regular pncId).curvePoints,
        SameEnd (res.convert out) writes
  | .acChargeLoop res =>
      ∀ out : Iso20.Ac.AcChargeLoopResType (arrays.capacities regular pncId).acMetering,
        SameEnd (res.convert out) writes

theorem Request.writes_endsAs (req : Request) : req.EndsAs arrays regular pncId (req.writes arrays) := by
  cases req with
  | supportedAppProtocol req => exact req.convert_sameEnd regular
  | sessionSetup req => exact req.convert_sameEnd regular
  | serviceDiscovery req => exact req.convert_sameEnd regular
  | serviceSelection req => exact req.convert_sameEnd regular
  | scheduleExchange req => exact req.convert_sameEnd regular
  | powerDelivery req => exact req.convert_sameEnd regular
  | sessionStop req => exact req.convert_sameEnd regular
  | authorizationSetup req | serviceDetail req =>
      exact .of_ok rfl (req.header.finishes regular.sessionId)
  | authorization req => exact fun _ => .of_ok rfl (req.header.finishes regular.sessionId)
  | dcCableCheck req | dcPreCharge req | dcWeldingDetection req =>
      exact .of_ok rfl (req.header.finishes regular.dcSessionId)
  | dcChargeParameterDiscovery req | dcChargeLoop req =>
      exact fun _ => .of_ok rfl (req.header.finishes regular.dcSessionId)
  | acChargeParameterDiscovery req | acChargeLoop req =>
      exact fun _ => .of_ok rfl (req.header.finishes regular.acSessionId)

theorem Response.writes_endsAs (res : Response) : res.EndsAs arrays regular pncId (res.writes arrays) := by
  cases res with
  | sessionSetup res => exact res.convert_sameEnd regular
  | authorizationSetup res => exact res.convert_sameEnd regular
  | serviceDiscovery res => exact res.convert_sameEnd regular
  | serviceDetail res => exact res.convert_sameEnd regular
  | scheduleExchange res => exact res.convert_sameEnd regular
  | dcChargeLoop res => exact res.convert_sameEnd regular
  | acChargeLoop res => exact res.convert_sameEnd regular
  | acChargeParameterDiscovery res => exact res.convert_sameEnd regular
  | supportedAppProtocol res => exact fun _ => .of_ok rfl trivial
  | authorization res | serviceSelection res | sessionStop res =>
      exact .of_ok rfl (res.header.finishes regular.sessionId)
  | powerDelivery res => exact fun _ => .of_ok rfl (res.header.finishes regular.sessionId)
  | dcCableCheck res | dcPreCharge res | dcWeldingDetection res =>
      exact .of_ok rfl (res.header.finishes regular.dcSessionId)
  | dcChargeParameterDiscovery res => exact fun _ => .of_ok rfl (res.header.finishes regular.dcSessionId)

end Messages

example : Sample.generatedArrays.Regular where
  sessionId := rfl
  dcSessionId := rfl
  acSessionId := rfl
  genChallenge := rfl
  authorizationServices_lt := by decide
  services := ⟨by decide, by decide, by decide, by decide⟩
  dcMetering := ⟨by decide, by decide⟩
  acMetering := ⟨by decide, by decide⟩

end LibIso15118
