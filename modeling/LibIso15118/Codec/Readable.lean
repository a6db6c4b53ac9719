import LibIso15118.Codec.Variant

set_option autoImplicit false

namespace LibIso15118

open Datatypes Codec

/-- What the conversion of a document of the schema can meet. -/
def Fault.isRefusal : Fault → Prop
  | .runtimeError _ | .outOfRange | .outsideTarget => True
  | .outsideArray | .unnamedEnumerator | .assertion => False

abbrev Reads {α : Type} (fits : Prop) (x : Except Fault α) : Prop := Decides Fault.isRefusal fits x

namespace Iso20

section Metering

variable {capacities : MeteringCapacities}

/-- A signature is copied to an empty vector. -/
def MeterInfoType.Readable (info : MeterInfoType capacities) : Prop := info.meterSignature.isUsed = false

def ReceiptType.Readable (receipt : ReceiptType capacities) : Prop := receipt.taxCosts.length ≤ 10

def Dc.DcChargeLoopResType.Readable (res : Dc.DcChargeLoopResType capacities) : Prop :=
  (res.meterInfo.isUsed = true → res.meterInfo.value.Readable) ∧
    (res.receipt.isUsed = true → res.receipt.value.Readable)

def Ac.AcChargeLoopResType.Readable (res : Ac.AcChargeLoopResType capacities) : Prop :=
  (res.meterInfo.isUsed = true → res.meterInfo.value.Readable) ∧
    (res.receipt.isUsed = true → res.receipt.value.Readable)

end Metering

section Session

variable {capacities : SessionCapacities}

def GenChallengeType.Readable (challenge : GenChallengeType) : Prop := challenge.bytesLen ≤ 16

def AuthorizationSetupResType.Readable (res : AuthorizationSetupResType capacities) : Prop :=
  res.eimAsResAuthorizationMode.isUsed = false → res.pncAsResAuthorizationMode.isUsed = true →
    res.pncAsResAuthorizationMode.value.genChallenge.Readable

def AuthorizationReqType.Readable (req : AuthorizationReqType capacities) : Prop :=
  req.eimAReqAuthorizationMode.isUsed = false → req.pncAReqAuthorizationMode.isUsed = true →
    req.pncAReqAuthorizationMode.value.genChallenge.Readable

def EvPowerProfileType.Readable (profile : EvPowerProfileType capacities) : Prop :=
  profile.dynamicEvpptControlMode.isUsed = true ∨ profile.scheduledEvpptControlMode.isUsed = true

def PowerDeliveryReqType.Readable (req : PowerDeliveryReqType capacities) : Prop :=
  req.evPowerProfile.isUsed = true → req.evPowerProfile.value.Readable

end Session

section Prices

variable {capacities : PriceCapacities}

def PriceRuleStackType.Readable (stack : PriceRuleStackType capacities) : Prop := stack.priceRule.length ≤ 8

/-- The fixed arrays of the message have room. -/
def AbsolutePriceScheduleType.Readable (schedule : AbsolutePriceScheduleType capacities) : Prop :=
  ((∀ stack ∈ schedule.priceRuleStacks.counted, stack.Readable) ∧ schedule.priceRuleStacks.length ≤ 1024) ∧
    (schedule.taxRules.isUsed = true → schedule.taxRules.value.length ≤ 10) ∧
    (schedule.additionalSelectedServices.isUsed = true → schedule.additionalSelectedServices.value.length ≤ 5)

def PriceScheduleMembers.Readable (schedules : PriceScheduleMembers capacities) : Prop :=
  schedules.absolutePriceSchedule.isUsed = true → schedules.absolutePriceSchedule.value.Readable

end Prices

section Schedules

variable {capacities : ScheduleCapacities}

def ScheduleExchangeReqType.Readable (req : ScheduleExchangeReqType capacities) : Prop :=
  req.dynamicSeReqControlMode.isUsed = true ∨ req.scheduledSeReqControlMode.isUsed = true

def ScheduleTupleType.Readable (tuple : ScheduleTupleType capacities) : Prop :=
  tuple.chargingSchedule.toPriceScheduleMembers.Readable ∧
    (tuple.dischargingSchedule.isUsed = true → tuple.dischargingSchedule.value.toPriceScheduleMembers.Readable)

def ScheduleExchangeResType.Readable (res : ScheduleExchangeResType capacities) : Prop :=
  if res.dynamicSeResControlMode.isUsed then res.dynamicSeResControlMode.value.toPriceScheduleMembers.Readable
  else res.scheduledSeResControlMode.isUsed = true ∧
    ∀ tuple ∈ res.scheduledSeResControlMode.value.scheduleTuple.counted, tuple.Readable

end Schedules

end Iso20

section Documents

variable {capacities : DocumentCapacities}

def Iso20ExiDocument.Readable : Iso20ExiDocument capacities → Prop
  | .authorizationSetupRes res => res.Readable
  | .authorizationReq req => req.Readable
  | .scheduleExchangeReq req => req.Readable
  | .scheduleExchangeRes res => res.Readable
  | .powerDeliveryReq req => req.Readable
  | _ => True

def Iso20DcExiDocument.Readable : Iso20DcExiDocument capacities → Prop
  | .chargeLoopRes res => res.Readable
  | _ => True

def Iso20AcExiDocument.Readable : Iso20AcExiDocument capacities → Prop
  | .chargeLoopRes res => res.Readable
  | _ => True

/-- The payload does not decode to a document that the conversions refuse. -/
def ExiDecoders.Readable (decoders : ExiDecoders capacities) (payloadType : UInt16) (payload : List UInt8) : Prop :=
  (payloadType = payloadTypePart20Main → ∀ document, decoders.iso20 payload = some document → document.Readable) ∧
    (payloadType = payloadTypePart20Dc →
      ∀ document, decoders.iso20Dc payload = some document → document.Readable) ∧
    (payloadType = payloadTypePart20Ac →
      ∀ document, decoders.iso20Ac payload = some document → document.Readable)

end Documents

section Members

variable {α β : Type} {capacity : Nat}

theorem cppEnum_reads {α : Type} [Enumeration α] (number : Int32) : Reads True (cppEnum number : Except Fault α) := by
  rw [cppEnum]
  split
  · exact trivial
  · exact fun failed => failed.elim

theorem cppEnum_ifUsed_reads {α : Type} [Enumeration α] (member : Used Int32) :
    Reads True (member.readM (cppEnum : Int32 → Except Fault α)) :=
  (Used.readM_decides member (cppEnum_reads _)).congr (by simp)

theorem entries_reads_of {read : β → Except Fault α} {fits : β → Prop} (inner : ∀ b, Reads (fits b) (read b))
    (member : Bounded capacity β) :
    Reads (∀ b ∈ member.counted, fits b) (member.entries .outsideArray read) :=
  Bounded.entries_decides id inner member

theorem entries_reads {read : β → Except Fault α} (inner : ∀ b, Reads True (read b)) (member : Bounded capacity β) :
    Reads True (member.entries .outsideArray read) :=
  (entries_reads_of inner member).congr (by simp)

theorem plain_reads (read : β → α) (member : Bounded capacity β) :
    Reads True (member.entries .outsideArray fun b => (.ok (read b) : Except Fault α)) :=
  entries_reads (fun _ => .pure _) member

theorem cb2cppString_reads (member : CbString capacity) : Reads True (cb2cppString member) :=
  .skip (plain_reads id member) fun _ => .pure _

theorem ifUsed_reads {read : β → Except Fault α} (inner : ∀ b, Reads True (read b)) (member : Used β) :
    Reads True (member.readM read) :=
  (Used.readM_decides member (inner _)).congr (by simp)

theorem cb2cppArray_reads (count : Nat) (beyond : Fault) (initial : α) {convert : β → Except Fault α}
    {fits : β → Prop} (inner : ∀ b, Reads (fits b) (convert b)) (member : Bounded capacity β) :
    Reads ((∀ b ∈ member.counted, fits b) ∧ member.length ≤ count)
      (cb2cppArray beyond initial convert member : Except Fault (Vector α count)) := by
  have entries := entries_reads_of inner member
  rw [cb2cppArray]
  cases result : member.entries .outsideArray convert with
  | error e =>
      rw [result] at entries
      exact fun failed both => entries failed both.1
  | ok list =>
      rw [result] at entries
      have length : list.length = member.length := Bounded.load_length result
      change Reads _ (if count < list.length then .error beyond else .ok _)
      by_cases full : count < list.length
      · rw [if_pos full]
        exact fun _ both => by omega
      · rw [if_neg full]
        exact ⟨entries, by omega⟩

end Members

namespace Iso20

theorem MessageHeaderType.convert_reads (header : MessageHeaderType) : Reads True header.convert := by
  rw [MessageHeaderType.convert]
  split
  · exact fun failed => failed.elim
  · exact .pure _

theorem EvseStatusType.convert_reads (status : EvseStatusType) : Reads True status.convert :=
  .skip (cppEnum_reads _) fun _ => .pure _

theorem header_reads {α : Type} (header : MessageHeaderType) {f : Header → α} :
    Reads True (do let header ← header.convert; return f header) :=
  .skip header.convert_reads fun _ => .pure _

section Metering

variable {capacities : MeteringCapacities}

theorem cb2cppBytes_reads {capacity : Nat} (positive : 0 < capacity) (member : CbString capacity) :
    Reads False (cb2cppBytes member { bytes := [] }) := by
  by_cases empty : 0 < member.length <;>
    simp [cb2cppBytes, StdString.length, positive, empty, Decides, Fault.isRefusal]

theorem MeterInfoType.convert_reads (info : MeterInfoType capacities) : Reads info.Readable info.convert := by
  refine (Decides.skip (cb2cppString_reads _) fun _ => Decides.andThen ?_ fun _ => .pure _).congr Iff.rfl
  refine (Used.readM_decides info.meterSignature
    (cb2cppBytes_reads capacities.meterSignature_pos _)).congr ?_
  simp [MeterInfoType.Readable]

theorem ReceiptType.convert_reads (receipt : ReceiptType capacities) : Reads receipt.Readable receipt.convert := by
  refine (Decides.checked (.skip (plain_reads _ _) fun _ => .pure _)).congr ?_
  simp [ReceiptType.Readable]

theorem Dc.DcChargeLoopResType.controlMode_reads (res : Dc.DcChargeLoopResType capacities) :
    Reads True res.controlMode := by
  rw [Dc.DcChargeLoopResType.controlMode]
  split_ifs <;> simp [Decides, Fault.isRefusal, Pure.pure, Except.pure]

theorem Dc.DcChargeLoopResType.convert_reads (res : Dc.DcChargeLoopResType capacities) :
    Reads res.Readable res.convert := by
  refine .skip (cppEnum_reads _) fun _ => .skip (ifUsed_reads (·.convert_reads) _) fun _ => ?_
  refine .bind (Used.readM_decides _ (MeterInfoType.convert_reads _)) fun _ => ?_
  refine .andThen (Used.readM_decides _ (ReceiptType.convert_reads _)) fun _ => ?_
  exact .skip (MessageHeaderType.convert_reads _) fun _ =>
    .skip (Dc.DcChargeLoopResType.controlMode_reads _) fun _ => .pure _

theorem Dc.DcChargeLoopReqType.convert_reads (req : Dc.DcChargeLoopReqType) : Reads True req.convert := by
  refine .skip req.header.convert_reads fun _ => .skip ?_ fun _ => .pure _
  rw [Dc.DcChargeLoopReqType.controlMode]
  split_ifs <;> simp [Decides, Fault.isRefusal, Pure.pure, Except.pure]

theorem Ac.AcChargeLoopReqType.convert_reads (req : Ac.AcChargeLoopReqType) : Reads True req.convert := by
  refine .skip req.header.convert_reads fun _ => .skip ?_ fun _ => .pure _
  rw [Ac.AcChargeLoopReqType.controlMode]
  split_ifs <;> simp [Decides, Fault.isRefusal, Pure.pure, Except.pure]

theorem Ac.DsoCosPhiSetpointType.convert_reads (setpoint : Ac.DsoCosPhiSetpointType) :
    Reads True setpoint.convert :=
  .skip (cppEnum_reads _) fun _ => .pure _

theorem Ac.DerClResLimitsType.convert_reads (limits : Ac.DerClResLimitsType) : Reads True limits.convert :=
  .skip (ifUsed_reads (·.convert_reads) _) fun _ => .pure _

theorem Ac.AcChargeLoopResType.controlMode_reads (res : Ac.AcChargeLoopResType capacities) :
    Reads True res.controlMode := by
  rw [Ac.AcChargeLoopResType.controlMode]
  split_ifs
  · exact .pure _
  · exact .pure _
  · exact .skip (.skip (Ac.DerClResLimitsType.convert_reads _) fun _ => .pure _) fun _ => .pure _
  · exact .pure _
  · exact .pure _
  · exact .skip (.skip (Ac.DerClResLimitsType.convert_reads _) fun _ => .pure _) fun _ => .pure _
  · exact fun failed => failed.elim

theorem Ac.AcChargeLoopResType.convert_reads (res : Ac.AcChargeLoopResType capacities) :
    Reads res.Readable res.convert := by
  refine .skip (MessageHeaderType.convert_reads _) fun _ => .skip (cppEnum_reads _) fun _ => ?_
  refine .bind (Used.readM_decides _ (MeterInfoType.convert_reads _)) fun _ => ?_
  refine .andThen (Used.readM_decides _ (ReceiptType.convert_reads _)) fun _ => ?_
  exact .skip (ifUsed_reads (·.convert_reads) _) fun _ =>
    .skip (Ac.AcChargeLoopResType.controlMode_reads _) fun _ => .pure _

end Metering

section Session

variable {capacities : SessionCapacities}

theorem GenChallengeType.convert_reads (challenge : GenChallengeType) : Reads challenge.Readable challenge.convert :=
  (Decides.checked (.pure challenge.bytes)).congr (by simp [GenChallengeType.Readable])

theorem AuthorizationSetupResType.authorizationMode_reads (res : AuthorizationSetupResType capacities) :
    Reads res.Readable res.authorizationMode := by
  rw [AuthorizationSetupResType.authorizationMode]
  split_ifs with eim pnc
  · exact (Decides.pure _).congr (by simp [AuthorizationSetupResType.Readable, eim])
  · refine (Decides.andThen (GenChallengeType.convert_reads _) fun _ => .pure _).congr ?_
    simp [AuthorizationSetupResType.Readable, eim, pnc]
  · exact (Decides.pure _).congr (by simp [AuthorizationSetupResType.Readable, pnc])

theorem AuthorizationSetupResType.convert_reads (res : AuthorizationSetupResType capacities) :
    Reads res.Readable res.convert := by
  refine .skip (cppEnum_reads _) fun _ => .skip (entries_reads (fun _ => cppEnum_reads _) _) fun _ => ?_
  exact .andThen res.authorizationMode_reads fun _ => .skip (MessageHeaderType.convert_reads _) fun _ => .pure _

theorem AuthorizationReqType.authorizationMode_reads (req : AuthorizationReqType capacities) :
    Reads req.Readable req.authorizationMode := by
  rw [AuthorizationReqType.authorizationMode]
  split_ifs with eim pnc
  · exact (Decides.pure _).congr (by simp [AuthorizationReqType.Readable, eim])
  · refine (Decides.skip (cb2cppString_reads _) fun _ =>
      .andThen (GenChallengeType.convert_reads _) fun _ => .pure _).congr ?_
    simp [AuthorizationReqType.Readable, eim, pnc]
  · exact (Decides.pure _).congr (by simp [AuthorizationReqType.Readable, pnc])

theorem AuthorizationReqType.convert_reads (req : AuthorizationReqType capacities) :
    Reads req.Readable req.convert :=
  .skip req.header.convert_reads fun _ => .skip (cppEnum_reads _) fun _ =>
    .andThen req.authorizationMode_reads fun _ => .pure _

theorem EvPowerProfileType.convert_reads (profile : EvPowerProfileType capacities) :
    Reads profile.Readable profile.convert := by
  refine .andThen ?_ fun _ => .skip (plain_reads _ _) fun _ => .pure _
  rw [EvPowerProfileType.controlMode]
  split_ifs with dynamic scheduled
  · exact (Decides.pure _).congr (by simp [EvPowerProfileType.Readable, dynamic])
  · refine (Decides.skip (cppEnum_ifUsed_reads _) fun _ => .pure _).congr ?_
    simp [EvPowerProfileType.Readable, scheduled]
  · exact fun _ readable => readable.elim dynamic scheduled

theorem PowerDeliveryReqType.convert_reads (req : PowerDeliveryReqType capacities) :
    Reads req.Readable req.convert := by
  refine .skip req.header.convert_reads fun _ => .skip (cppEnum_reads _) fun _ => .skip (cppEnum_reads _) fun _ => ?_
  exact .andThen (Used.readM_decides _ (EvPowerProfileType.convert_reads _)) fun _ =>
    .skip (cppEnum_ifUsed_reads _) fun _ => .pure _

theorem PowerDeliveryResType.convert_reads (res : PowerDeliveryResType) : Reads True res.convert :=
  .skip (cppEnum_reads _) fun _ => .skip (ifUsed_reads (·.convert_reads) _) fun _ =>
    .skip res.header.convert_reads fun _ => .pure _

theorem AuthorizationResType.convert_reads (res : AuthorizationResType) : Reads True res.convert :=
  .skip (cppEnum_reads _) fun _ => .skip (cppEnum_reads _) fun _ => .skip res.header.convert_reads fun _ => .pure _

theorem SessionSetupReqType.convert_reads (req : SessionSetupReqType capacities) : Reads True req.convert :=
  .skip req.header.convert_reads fun _ => .skip (cb2cppString_reads _) fun _ => .pure _

theorem SessionSetupResType.convert_reads (held : ResponseCode) (res : SessionSetupResType capacities) :
    Reads True (res.convert held) :=
  .skip res.header.convert_reads fun _ => .skip (cb2cppString_reads _) fun _ => .pure _

theorem SessionStopReqType.convert_reads (req : SessionStopReqType capacities) : Reads True req.convert :=
  .skip req.header.convert_reads fun _ => .skip (cppEnum_reads _) fun _ =>
    .skip (ifUsed_reads cb2cppString_reads _) fun _ => .skip (ifUsed_reads cb2cppString_reads _) fun _ => .pure _

theorem SessionStopResType.convert_reads (res : SessionStopResType) : Reads True res.convert :=
  .skip (cppEnum_reads _) fun _ => .skip res.header.convert_reads fun _ => .pure _

end Session

section Services

variable {capacities : ServiceCapacities}

theorem ServiceDiscoveryReqType.convert_reads (req : ServiceDiscoveryReqType capacities) : Reads True req.convert :=
  .skip req.header.convert_reads fun _ => .skip (ifUsed_reads (plain_reads id) _) fun _ => .pure _

theorem ServiceDiscoveryResType.convert_reads (res : ServiceDiscoveryResType capacities) : Reads True res.convert :=
  .skip (cppEnum_reads _) fun _ => .skip (plain_reads _ _) fun _ =>
    .skip (ifUsed_reads (plain_reads _) _) fun _ => .skip res.header.convert_reads fun _ => .pure _

theorem ServiceDetailReqType.convert_reads (req : ServiceDetailReqType) : Reads True req.convert :=
  .skip req.header.convert_reads fun _ => .pure _

theorem ParameterType.convert_reads (parameter : ParameterType capacities) : Reads True parameter.convert := by
  refine .skip (cb2cppString_reads _) fun _ => .skip ?_ fun _ => .pure _
  rw [ParameterType.value]
  split_ifs
  · exact .pure _
  · exact .pure _
  · exact .pure _
  · exact .pure _
  · exact .skip (cb2cppString_reads _) fun _ => .pure _
  · exact .pure _
  · exact .pure _

theorem ParameterSetType.convert_reads (set : ParameterSetType capacities) : Reads True set.convert :=
  .skip (entries_reads (·.convert_reads) _) fun _ => .pure _

theorem ServiceDetailResType.convert_reads (res : ServiceDetailResType capacities) : Reads True res.convert :=
  .skip (cppEnum_reads _) fun _ => .skip (entries_reads (·.convert_reads) _) fun _ =>
    .skip res.header.convert_reads fun _ => .pure _

theorem ServiceSelectionReqType.convert_reads (req : ServiceSelectionReqType capacities) : Reads True req.convert :=
  .skip req.header.convert_reads fun _ => .skip (ifUsed_reads (plain_reads _) _) fun _ => .pure _

theorem ServiceSelectionResType.convert_reads (res : ServiceSelectionResType) : Reads True res.convert :=
  .skip (cppEnum_reads _) fun _ => .skip res.header.convert_reads fun _ => .pure _

end Services

section Prices

variable {capacities : PriceCapacities}

theorem PriceRuleStackType.convert_reads (stack : PriceRuleStackType capacities) :
    Reads stack.Readable stack.convert := by
  refine (Decides.andThen (cb2cppArray_reads _ _ _ (fun _ => .pure _) _) fun _ => .pure _).congr ?_
  simp [PriceRuleStackType.Readable]

theorem TaxRuleType.convert_reads (rule : TaxRuleType capacities) : Reads True rule.convert :=
  .skip (ifUsed_reads cb2cppString_reads _) fun _ => .pure _

theorem OverstayRuleType.convert_reads (rule : OverstayRuleType capacities) : Reads True rule.convert :=
  .skip (ifUsed_reads cb2cppString_reads _) fun _ => .pure _

theorem OverstayRuleListType.convert_reads (rules : OverstayRuleListType capacities) : Reads True rules.convert :=
  .skip (entries_reads (·.convert_reads) _) fun _ => .pure _

theorem AdditionalServiceType.convert_reads (service : AdditionalServiceType capacities) :
    Reads True service.convert :=
  .skip (cb2cppString_reads _) fun _ => .pure _

theorem AbsolutePriceScheduleType.convert_reads (schedule : AbsolutePriceScheduleType capacities) :
    Reads schedule.Readable schedule.convert := by
  refine .skip (ifUsed_reads cb2cppString_reads _) fun _ => .skip (ifUsed_reads cb2cppString_reads _) fun _ => ?_
  refine .skip (cb2cppString_reads _) fun _ => .skip (cb2cppString_reads _) fun _ => ?_
  refine .skip (cb2cppString_reads _) fun _ => ?_
  have taxRules := Used.readM_decides schedule.taxRules
    (cb2cppArray_reads 10 .outOfRange noTaxRule (·.convert_reads) schedule.taxRules.value)
  have services := Used.readM_decides schedule.additionalSelectedServices
    (cb2cppArray_reads 5 .outOfRange noAdditionalService (·.convert_reads)
      schedule.additionalSelectedServices.value)
  refine (Decides.bind (cb2cppArray_reads _ _ _ (·.convert_reads) _) fun _ => .bind taxRules fun _ =>
    .skip (ifUsed_reads (·.convert_reads) _) fun _ => .andThen services fun _ => .pure _).congr ?_
  simp [AbsolutePriceScheduleType.Readable]

theorem PriceLevelScheduleType.convert_reads (schedule : PriceLevelScheduleType capacities) :
    Reads True schedule.convert :=
  .skip (ifUsed_reads cb2cppString_reads _) fun _ => .skip (ifUsed_reads cb2cppString_reads _) fun _ =>
    .skip (plain_reads _ _) fun _ => .pure _

theorem PriceScheduleMembers.convert_reads (schedules : PriceScheduleMembers capacities) :
    Reads schedules.Readable schedules.convert := by
  rw [PriceScheduleMembers.convert]
  split_ifs with absolute level
  · refine (Decides.andThen (AbsolutePriceScheduleType.convert_reads _) fun _ => .pure _).congr ?_
    simp [PriceScheduleMembers.Readable, absolute]
  · refine (Decides.skip (PriceLevelScheduleType.convert_reads _) fun _ => .pure _).congr ?_
    simp [PriceScheduleMembers.Readable, absolute]
  · exact (Decides.pure _).congr (by simp [PriceScheduleMembers.Readable, absolute])

end Prices

section Schedules

variable {capacities : ScheduleCapacities}

theorem EvEnergyOfferType.convert_reads (offer : EvEnergyOfferType capacities) : Reads True offer.convert := by
  have ruleStacks (stack : EvPriceRuleStackType capacities) : Reads True stack.convert :=
    .skip (plain_reads _ _) fun _ => .pure _
  refine .skip (.skip (plain_reads _ _) fun _ => .pure _) fun _ => .skip ?_ fun _ => .pure _
  exact .skip (cb2cppString_reads _) fun _ => .skip (cb2cppString_reads _) fun _ =>
    .skip (entries_reads ruleStacks _) fun _ => .pure _

theorem ScheduleExchangeReqType.convert_reads (req : ScheduleExchangeReqType capacities) :
    Reads req.Readable req.convert := by
  refine .skip req.header.convert_reads fun _ => .andThen ?_ fun _ => .pure _
  rw [ScheduleExchangeReqType.controlMode]
  split_ifs with dynamic scheduled
  · exact (Decides.pure _).congr (by simp [ScheduleExchangeReqType.Readable, dynamic])
  · refine (Decides.skip (.skip (ifUsed_reads (·.convert_reads) _) fun _ => .pure _) fun _ => .pure _).congr ?_
    simp [ScheduleExchangeReqType.Readable, scheduled]
  · exact fun _ readable => readable.elim dynamic scheduled

theorem PowerScheduleType.convert_reads (schedule : PowerScheduleType capacities) : Reads True schedule.convert :=
  .skip (plain_reads _ _) fun _ => .pure _

theorem ChargingScheduleType.convert_reads (schedule : ChargingScheduleType capacities) :
    Reads schedule.toPriceScheduleMembers.Readable schedule.convert :=
  .andThen (PriceScheduleMembers.convert_reads _) fun _ => .skip (PowerScheduleType.convert_reads _) fun _ => .pure _

theorem ScheduleTupleType.convert_reads (tuple : ScheduleTupleType capacities) :
    Reads tuple.Readable tuple.convert :=
  .bind (ChargingScheduleType.convert_reads _) fun _ =>
    .andThen (Used.readM_decides _ (ChargingScheduleType.convert_reads _)) fun _ => .pure _

theorem ScheduleExchangeResType.controlMode_reads (res : ScheduleExchangeResType capacities) :
    Reads res.Readable res.controlMode := by
  rw [ScheduleExchangeResType.controlMode, ScheduleExchangeResType.Readable]
  split_ifs with dynamic scheduled
  · exact .andThen (.andThen (PriceScheduleMembers.convert_reads _) fun _ => .pure _) fun _ => .pure _
  · have tuples := entries_reads_of ScheduleTupleType.convert_reads
      res.scheduledSeResControlMode.value.scheduleTuple
    refine (Decides.andThen (.andThen tuples fun _ => .pure _) fun _ => .pure _).congr ?_
    simp [scheduled]
  · exact fun _ readable => scheduled readable.1

theorem ScheduleExchangeResType.convert_reads (res : ScheduleExchangeResType capacities) :
    Reads res.Readable res.convert :=
  .skip (MessageHeaderType.convert_reads _) fun _ => .skip (cppEnum_reads _) fun _ =>
    .skip (cppEnum_reads _) fun _ => .andThen res.controlMode_reads fun _ => .pure _

end Schedules

namespace Ac

section DerControl

variable {capacity : Nat}

theorem DerCurveType.convert_reads (curve : DerCurveType capacity) : Reads True curve.convert := by
  have points (point : DataTupleType) : Reads True point.convert :=
    .skip (.skip (cppEnum_ifUsed_reads _) fun _ => .pure _) fun _ => .pure _
  exact .skip (cppEnum_reads _) fun _ => .skip (cppEnum_reads _) fun _ =>
    .skip (entries_reads points _) fun _ => .skip (cppEnum_ifUsed_reads _) fun _ => .pure _

theorem FrequencyWattType.convert_reads (control : FrequencyWattType) : Reads True control.convert :=
  .skip (cppEnum_reads _) fun _ => .pure _

theorem VoltWattType.convert_reads (control : VoltWattType) : Reads True control.convert :=
  .skip (cppEnum_reads _) fun _ => .pure _

theorem DerControlType.convert_reads (control : DerControlType capacity) : Reads True control.convert := by
  have reactive (support : ReactivePowerSupportType capacity) : Reads True support.convert :=
    .skip (ifUsed_reads (·.convert_reads) _) fun _ => .skip (ifUsed_reads (·.convert_reads) _) fun _ =>
      .skip (ifUsed_reads (·.convert_reads) _) fun _ => .pure _
  have active (support : ActivePowerSupportType) : Reads True support.convert :=
    .skip (ifUsed_reads (·.convert_reads) _) fun _ => .skip (ifUsed_reads (·.convert_reads) _) fun _ =>
      .skip (ifUsed_reads (·.convert_reads) _) fun _ => .pure _
  exact .skip (ifUsed_reads reactive _) fun _ => .skip (ifUsed_reads active _) fun _ => .pure _

end DerControl

theorem AcChargeParameterDiscoveryReqType.convert_reads (req : AcChargeParameterDiscoveryReqType) :
    Reads True req.convert := by
  refine .skip req.header.convert_reads fun _ => .skip ?_ fun _ => .pure _
  rw [AcChargeParameterDiscoveryReqType.transferMode]
  split_ifs
  · exact .pure _
  · exact .pure _
  · exact .skip (.skip (cppEnum_reads _) fun _ => .pure _) fun _ => .pure _
  · exact .pure _

theorem AcChargeParameterDiscoveryResType.convert_reads {capacity : Nat}
    (res : AcChargeParameterDiscoveryResType capacity) : Reads True res.convert := by
  refine .skip res.header.convert_reads fun _ => .skip (cppEnum_reads _) fun _ => .skip ?_ fun _ => .pure _
  rw [AcChargeParameterDiscoveryResType.transferMode]
  split_ifs
  · exact .pure _
  · exact .pure _
  · refine .skip ?_ fun _ => .pure _
    exact .skip (cppEnum_reads _) fun _ => .skip (cppEnum_reads _) fun _ =>
      .skip (DerControlType.convert_reads _) fun _ => .pure _
  · exact .pure _

end Ac

end Iso20

section Documents

variable {capacities : DocumentCapacities}

theorem handleSap_reads (document : Option (AppHandExiDocument capacities)) : Reads True (handleSap document) := by
  rcases document with _ | req | _
  · exact .pure _
  · refine .skip (.skip (entries_reads ?_ _) fun _ => .pure _) fun _ => .pure _
    exact fun item => .skip (cb2cppString_reads _) fun _ => .pure _
  · exact .pure _

theorem handleMain_reads (document : Option (Iso20ExiDocument capacities)) :
    Reads (∀ main, document = some main → main.Readable) (handleMain document) := by
  rcases document with _ | main
  · exact (Decides.pure _).congr (by simp)
  have readable {fits : Prop} {x : Except Fault Variant} (decides : Reads fits x) (same : main.Readable = fits) :
      Reads (∀ main', some main = some main' → main'.Readable) x :=
    decides.congr (by simp [same])
  cases main with
  | sessionSetupReq req => exact readable (.skip req.convert_reads fun _ => .pure _) rfl
  | sessionSetupRes res => exact readable (.skip (res.convert_reads _) fun _ => .pure _) rfl
  | authorizationSetupReq req => exact readable (.skip (Iso20.header_reads _) fun _ => .pure _) rfl
  | authorizationSetupRes res => exact readable (.andThen res.convert_reads fun _ => .pure _) rfl
  | authorizationReq req => exact readable (.andThen req.convert_reads fun _ => .pure _) rfl
  | authorizationRes res => exact readable (.skip res.convert_reads fun _ => .pure _) rfl
  | serviceDiscoveryReq req => exact readable (.skip req.convert_reads fun _ => .pure _) rfl
  | serviceDiscoveryRes res => exact readable (.skip res.convert_reads fun _ => .pure _) rfl
  | serviceDetailReq req => exact readable (.skip req.convert_reads fun _ => .pure _) rfl
  | serviceDetailRes res => exact readable (.skip res.convert_reads fun _ => .pure _) rfl
  | serviceSelectionReq req => exact readable (.skip req.convert_reads fun _ => .pure _) rfl
  | serviceSelectionRes res => exact readable (.skip res.convert_reads fun _ => .pure _) rfl
  | scheduleExchangeReq req => exact readable (.andThen req.convert_reads fun _ => .pure _) rfl
  | scheduleExchangeRes res => exact readable (.andThen res.convert_reads fun _ => .pure _) rfl
  | powerDeliveryReq req => exact readable (.andThen req.convert_reads fun _ => .pure _) rfl
  | powerDeliveryRes res => exact readable (.skip res.convert_reads fun _ => .pure _) rfl
  | sessionStopReq req => exact readable (.skip req.convert_reads fun _ => .pure _) rfl
  | sessionStopRes res => exact readable (.skip res.convert_reads fun _ => .pure _) rfl
  | unhandled => exact readable (.pure _) rfl

theorem handleDc_reads (document : Option (Iso20DcExiDocument capacities)) :
    Reads (∀ dc, document = some dc → dc.Readable) (handleDc document) := by
  rcases document with _ | dc
  · exact (Decides.pure _).congr (by simp)
  have readable {fits : Prop} {x : Except Fault Variant} (decides : Reads fits x) (same : dc.Readable = fits) :
      Reads (∀ dc', some dc = some dc' → dc'.Readable) x :=
    decides.congr (by simp [same])
  cases dc with
  | chargeParameterDiscoveryReq req => exact readable (.skip (Iso20.header_reads _) fun _ => .pure _) rfl
  | chargeParameterDiscoveryRes res =>
      exact readable (.skip (.skip (cppEnum_reads _) fun _ => Iso20.header_reads _) fun _ => .pure _) rfl
  | cableCheckReq req => exact readable (.skip (Iso20.header_reads _) fun _ => .pure _) rfl
  | cableCheckRes res =>
      refine readable (.skip ?_ fun _ => .pure _) rfl
      exact .skip (cppEnum_reads _) fun _ => .skip (cppEnum_reads _) fun _ => Iso20.header_reads _
  | preChargeReq req =>
      refine readable (.skip ?_ fun _ => .pure _) rfl
      exact .skip req.header.convert_reads fun _ => .skip (cppEnum_reads _) fun _ => .pure _
  | preChargeRes res =>
      exact readable (.skip (.skip (cppEnum_reads _) fun _ => Iso20.header_reads _) fun _ => .pure _) rfl
  | chargeLoopReq req => exact readable (.skip req.convert_reads fun _ => .pure _) rfl
  | chargeLoopRes res => exact readable (.andThen res.convert_reads fun _ => .pure _) rfl
  | weldingDetectionReq req =>
      refine readable (.skip ?_ fun _ => .pure _) rfl
      exact .skip req.header.convert_reads fun _ => .skip (cppEnum_reads _) fun _ => .pure _
  | weldingDetectionRes res =>
      exact readable (.skip (.skip (cppEnum_reads _) fun _ => Iso20.header_reads _) fun _ => .pure _) rfl
  | unhandled => exact readable (.pure _) rfl

theorem handleAc_reads (document : Option (Iso20AcExiDocument capacities)) :
    Reads (∀ ac, document = some ac → ac.Readable) (handleAc document) := by
  rcases document with _ | ac
  · exact (Decides.pure _).congr (by simp)
  have readable {fits : Prop} {x : Except Fault Variant} (decides : Reads fits x) (same : ac.Readable = fits) :
      Reads (∀ ac', some ac = some ac' → ac'.Readable) x :=
    decides.congr (by simp [same])
  cases ac with
  | chargeParameterDiscoveryReq req => exact readable (.skip req.convert_reads fun _ => .pure _) rfl
  | chargeParameterDiscoveryRes res => exact readable (.skip res.convert_reads fun _ => .pure _) rfl
  | chargeLoopReq req => exact readable (.skip req.convert_reads fun _ => .pure _) rfl
  | chargeLoopRes res => exact readable (.andThen res.convert_reads fun _ => .pure _) rfl
  | unhandled => exact readable (.pure _) rfl

theorem Variant.new_reads (decoders : ExiDecoders capacities) (payloadType : UInt16) (payload : List UInt8) :
    Reads (decoders.Readable payloadType payload) (Variant.new decoders payloadType payload) := by
  -- The constructor of `Variant` refuses the unreadable payloads, and no other.
  rw [Variant.new]
  split_ifs with sap main dc ac
  · refine (handleSap_reads _).congr ?_
    subst sap
    simp [ExiDecoders.Readable, payloadTypeSap, payloadTypePart20Main, payloadTypePart20Dc, payloadTypePart20Ac]
  · refine (handleMain_reads _).congr ?_
    subst main
    simp [ExiDecoders.Readable, payloadTypePart20Main, payloadTypePart20Dc, payloadTypePart20Ac]
  · refine (handleDc_reads _).congr ?_
    subst dc
    simp [ExiDecoders.Readable, payloadTypePart20Main, payloadTypePart20Dc, payloadTypePart20Ac]
  · refine (handleAc_reads _).congr ?_
    subst ac
    simp [ExiDecoders.Readable, payloadTypePart20Main, payloadTypePart20Dc, payloadTypePart20Ac]
  · exact (Decides.pure _).congr (by simp [ExiDecoders.Readable, main, dc, ac])

end Documents

end LibIso15118
