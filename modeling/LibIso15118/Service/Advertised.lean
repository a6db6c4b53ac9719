import LibIso15118.Fsm.Run
import LibIso15118.Service.Numbering
import Mathlib.Algebra.Order.Floor.Ring

set_option autoImplicit false

namespace LibIso15118

open Datatypes

inductive ParameterName where
  | connector
  | controlMode
  | evseNominalVoltage
  | mobilityNeedsMode
  | pricing
  | bptChannel
  | generatorMode
  | gridCodeMethod
  | standardBitmap
  | extendedBitmap
  | voltWatt
  | dsoQSetpointProvision
  | dsoCosPhiSetpointProvision
  | dcInjectionRestriction
  | underFrequencyWatt
  | overFrequencyWatt
  | voltVar
  | wattVar
  | wattCosPhi
  | overVoltageFaultRideThrough
  | underVoltageFaultRideThrough
  | zeroCurrent

@[simp] def ParameterName.text : ParameterName → StdString
  | .connector => "Connector"
  | .controlMode => "ControlMode"
  | .evseNominalVoltage => "EVSENominalVoltage"
  | .mobilityNeedsMode => "MobilityNeedsMode"
  | .pricing => "Pricing"
  | .bptChannel => "BPTChannel"
  | .generatorMode => "GeneratorMode"
  | .gridCodeMethod => "DetectionMethodGridCodeIslanding"
  | .standardBitmap => "DERStandardControlFunctionsBitmap"
  | .extendedBitmap => "DERExtendedControlFunctionsBitmap"
  | .voltWatt => "VoltWatt"
  | .dsoQSetpointProvision => "DSOQSetPointProvision"
  | .dsoCosPhiSetpointProvision => "DSOQCosphiSetPointProvision"
  | .dcInjectionRestriction => "DCInjectionRestriction"
  | .underFrequencyWatt => "UnderFrequencyWatt"
  | .overFrequencyWatt => "OverFrequencyWatt"
  | .voltVar => "VoltVar"
  | .wattVar => "WattVar"
  | .wattCosPhi => "WattCosphi"
  | .overVoltageFaultRideThrough => "OverVoltageFaultRideThroughMode"
  | .underVoltageFaultRideThrough => "UnderVoltageFaultRideThroughMode"
  | .zeroCurrent => "ZeroCurrentMode"

theorem ParameterName.forall_iff {holds : ParameterName → Prop} :
    (∀ name, holds name) ↔
      (holds .connector ∧ holds .controlMode ∧ holds .pricing ∧ holds .mobilityNeedsMode ∧
        holds .evseNominalVoltage) ∧
      (holds .bptChannel ∧ holds .generatorMode ∧ holds .gridCodeMethod) ∧
      (holds .standardBitmap ∧ holds .extendedBitmap ∧ holds .voltWatt ∧ holds .dsoQSetpointProvision ∧
        holds .dsoCosPhiSetpointProvision ∧ holds .dcInjectionRestriction ∧ holds .underFrequencyWatt ∧
        holds .overFrequencyWatt ∧ holds .voltVar ∧ holds .wattVar ∧ holds .wattCosPhi ∧
        holds .overVoltageFaultRideThrough ∧ holds .underVoltageFaultRideThrough ∧ holds .zeroCurrent) := by
  constructor
  · intro all
    simp [all]
  · intro each name
    cases name <;> simp [each]

/-- What a parameter says, whatever the type it has in a message or in a member variable. -/
inductive Reading where
  | number (value : Int)
  | flag (value : Bool)
  deriving DecidableEq

@[simp] def Datatypes.ParameterValue.reading : ParameterValue → Option Reading
  | .bool value => some (.flag value)
  | .int8 value => some (.number value.toInt)
  | .int16 value => some (.number value.toInt)
  | .int32 value => some (.number value.toInt)
  | .name _ | .rational _ => none

def Datatypes.ParameterSet.reading (set : ParameterSet) (name : ParameterName) : Option Reading :=
  (set.parameter.find? fun parameter => parameter.name = name.text).bind (·.value.reading)

@[simp] def ConnectorVariant.toInt : ConnectorVariant → Int32
  | .ac connector => connector.toInt
  | .dc connector => connector.toInt
  | .mcs connector => connector.toInt

@[simp] def Datatypes.DerControlFunctions.reading (functions : DerControlFunctions) : ParameterName → Option Reading
  | .standardBitmap => some (.number functions.standardBitmap.toNat)
  | .extendedBitmap => some (.number functions.extendedBitmap.toNat)
  | .voltWatt => some (.flag functions.voltWatt)
  | .dsoQSetpointProvision => some (.flag functions.dsoQSetpointProvision)
  | .dsoCosPhiSetpointProvision => some (.flag functions.dsoCosPhiSetpointProvision)
  | .dcInjectionRestriction => some (.flag functions.dcInjectionRestriction)
  | .underFrequencyWatt => some (.flag functions.underFrequencyWatt)
  | .overFrequencyWatt => some (.flag functions.overFrequencyWatt)
  | .voltVar => some (.flag functions.voltVar)
  | .wattVar => some (.flag functions.wattVar)
  | .wattCosPhi => some (.flag functions.wattCosPhi)
  | .overVoltageFaultRideThrough => some (.flag functions.overVoltageFaultRideThrough)
  | .underVoltageFaultRideThrough => some (.flag functions.underVoltageFaultRideThrough)
  | .zeroCurrent => some (.flag functions.zeroCurrent)
  | _ => none

@[simp] def SelectedServiceParameters.reading (selected : SelectedServiceParameters) :
    ParameterName → Option Reading
  | .connector => some (.number selected.selectedConnector.toInt.toInt)
  | .controlMode => some (.number selected.selectedControlMode.toInt.toInt)
  | .evseNominalVoltage => selected.evseNominalVoltage.map fun voltage => .number (truncate voltage)
  | .mobilityNeedsMode => some (.number selected.selectedMobilityNeedsMode.toInt.toInt)
  | .pricing => some (.number selected.selectedPricing.toInt.toInt)
  | .bptChannel => selected.selectedBptChannel.map fun channel => .number channel.toInt.toInt
  | .generatorMode => selected.selectedGeneratorMode.map fun mode => .number mode.toInt.toInt
  | .gridCodeMethod => selected.selectedGridCodeMethod.map fun method => .number method.toInt.toInt
  | name => selected.selectedDerControlFunctions.bind (·.reading name)

def Datatypes.ParameterSet.Agrees (set : ParameterSet) (selected : SelectedServiceParameters) : Prop :=
  ∀ name, set.reading name = selected.reading name

def KeepsMobility (controlMode : ControlMode) (mode : MobilityNeedsMode) : Prop :=
  controlMode = .scheduled → mode = .providedByEvcc

/-- The voltage fits an `int32_t` and the 24 significant bits of a `float`. -/
def KeepsVoltage (voltage : UInt32) : Prop :=
  voltage.toNat < 2 ^ 31 ∧ voltage.toNat % 2 ^ (voltage.toNat.log2 - 23) = 0

theorem keepsMobility_iff (controlMode : ControlMode) (mode : MobilityNeedsMode) :
    (ParameterSet.advertisedMobilityNeedsMode controlMode mode).toInt.toInt = mode.toInt.toInt ↔
      KeepsMobility controlMode mode := by
  unfold KeepsMobility
  cases controlMode <;> cases mode <;> decide

theorem floatOfUInt32_eq_iff (voltage : UInt32) :
    floatOfUInt32 voltage = voltage.toNat ↔ voltage.toNat % 2 ^ (voltage.toNat.log2 - 23) = 0 := by
  have whole := Nat.div_add_mod voltage.toNat (2 ^ (voltage.toNat.log2 - 23))
  have below := Nat.mod_lt voltage.toNat (Nat.two_pow_pos (voltage.toNat.log2 - 23))
  simp only [floatOfUInt32]
  generalize voltage.toNat % 2 ^ (voltage.toNat.log2 - 23) = rest at *
  generalize voltage.toNat / 2 ^ (voltage.toNat.log2 - 23) = quotient at *
  generalize 2 ^ (voltage.toNat.log2 - 23) = unit at *
  have next : (quotient + 1) * unit = unit * quotient + unit := by ring
  have here : quotient * unit = unit * quotient := by ring
  split <;> omega

theorem truncate_natCast (n : Nat) : truncate (n : ℚ) = n := by
  simp [truncate]

theorem toInt32_eq_iff (number : UInt32) (value : Nat) :
    number.toInt32.toInt = (value : Int) ↔ number.toNat < 2 ^ 31 ∧ value = number.toNat := by
  have wraps : number.toInt32.toInt = (number.toNat : Int).bmod (2 ^ 32) :=
    BitVec.toInt_eq_toNat_bmod number.toBitVec
  have small := number.toNat_lt
  rw [wraps, Int.bmod]
  omega

theorem keepsVoltage_iff (voltage : UInt32) :
    voltage.toInt32.toInt = truncate (floatOfUInt32 voltage : ℚ) ↔ KeepsVoltage voltage := by
  rw [truncate_natCast, toInt32_eq_iff, floatOfUInt32_eq_iff, KeepsVoltage]

section Sets

open ParameterSet Session

variable (id : UInt16)

theorem ac_agrees_iff (list : AcParameterList) :
    (ofAc id list).Agrees (selectedOfAc list) ↔
      KeepsMobility list.controlMode list.mobilityNeedsMode ∧ KeepsVoltage list.evseNominalVoltage := by
  simp [Agrees, ParameterName.forall_iff, ParameterSet.reading, ofAc, acParameters, selectedOfAc,
    keepsMobility_iff, keepsVoltage_iff]

theorem acBpt_agrees_iff (list : AcBptParameterList) :
    (ofAcBpt id list).Agrees (selectedOfAcBpt list) ↔
      KeepsMobility list.controlMode list.mobilityNeedsMode ∧ KeepsVoltage list.evseNominalVoltage := by
  simp [Agrees, ParameterName.forall_iff, ParameterSet.reading, ofAcBpt, acBptParameters, acParameters,
    selectedOfAcBpt, selectedOfAc, keepsMobility_iff, keepsVoltage_iff]

theorem acDer_agrees_iff (list : AcDerParameterList) :
    (ofAcDer id list).Agrees (selectedOfAcDer list) ↔
      (KeepsMobility list.controlMode list.mobilityNeedsMode ∧ KeepsVoltage list.evseNominalVoltage) ∧
        list.controlFunctions.standardBitmap.toNat < 2 ^ 31 ∧
        list.controlFunctions.extendedBitmap.toNat < 2 ^ 31 := by
  simp [Agrees, ParameterName.forall_iff, ParameterSet.reading, ofAcDer, acDerParameters, acBptParameters,
    acParameters, selectedOfAcDer, selectedOfAcBpt, selectedOfAc, keepsMobility_iff, keepsVoltage_iff,
    toInt32_eq_iff]

theorem dc_agrees_iff (list : DcParameterList) :
    (ofDc id list).Agrees (selectedOfDc list) ↔ KeepsMobility list.controlMode list.mobilityNeedsMode := by
  simp [Agrees, ParameterName.forall_iff, ParameterSet.reading, ofDc, dcParameters, selectedOfDc,
    keepsMobility_iff]

theorem dcBpt_agrees_iff (list : DcBptParameterList) :
    (ofDcBpt id list).Agrees (selectedOfDcBpt list) ↔
      KeepsMobility list.controlMode list.mobilityNeedsMode := by
  simp [Agrees, ParameterName.forall_iff, ParameterSet.reading, ofDcBpt, dcParameters, bptParameters,
    selectedOfDcBpt, selectedOfDc, keepsMobility_iff]

theorem mcs_agrees_iff (list : McsParameterList) :
    (ofMcs id list).Agrees (selectedOfMcs list) ↔
      KeepsMobility list.controlMode list.mobilityNeedsMode := by
  simp [Agrees, ParameterName.forall_iff, ParameterSet.reading, ofMcs, dcParameters, selectedOfMcs,
    keepsMobility_iff]

theorem mcsBpt_agrees_iff (list : McsBptParameterList) :
    (ofMcsBpt id list).Agrees (selectedOfMcsBpt list) ↔
      KeepsMobility list.controlMode list.mobilityNeedsMode := by
  simp [Agrees, ParameterName.forall_iff, ParameterSet.reading, ofMcsBpt, dcParameters, bptParameters,
    selectedOfMcsBpt, selectedOfMcs, keepsMobility_iff]

end Sets

section Offered

variable {α : Type} {toSet : UInt16 → α → ParameterSet} {toSelected : α → SelectedServiceParameters}

theorem offered_agree_iff (service : ServiceCategory) (lists : List α) (table : Table UInt8 α)
    (chosen : UInt16 → SelectedServiceParameters) {keeps : α → Prop} (number : ∀ id list, (toSet id list).id = id)
    (agrees : ∀ id list, (toSet id list).Agrees (toSelected list) ↔ keeps list)
    (kind : ∀ list, (toSelected list).selectedEnergyService = service)
    (chooses : ∀ id list, (offerParameterSets toSet lists 0 table).2 id.toUInt8 = some list →
      chosen id = toSelected list) :
    (((offerParameterSets toSet lists 0 table).1.map (·.id)).Nodup ∧
      ∀ set ∈ (offerParameterSets toSet lists 0 table).1,
        (chosen set.id).selectedEnergyService = service ∧ set.Agrees (chosen set.id)) ↔
      lists.length ≤ 256 ∧ ∀ list ∈ lists, keeps list := by
  have ids : (offerParameterSets toSet lists 0 table).1.map (·.id) =
      ((numbered lists 0).map (·.1)).map UInt8.toUInt16 := by
    simp [offerParameterSets_eq, number, Function.comp_def]
  have injective : Function.Injective UInt8.toUInt16 := by
    intro a b same
    simpa using congrArg UInt16.toUInt8 same
  rw [ids, List.nodup_map_iff injective, numbered_distinct_iff]
  apply and_congr_right
  intro few
  have distinct := (numbered_distinct_iff lists 0).mpr few
  have stored (pair : UInt8 × α) (member : pair ∈ numbered lists 0) :
      chosen pair.1.toUInt16 = toSelected pair.2 := by
    apply chooses
    rw [offerParameterSets_eq, UInt8.toUInt8_toUInt16]
    exact Table.insertAll_of_mem table distinct member
  rw [offerParameterSets_eq]
  simp only [List.forall_mem_map, number]
  constructor
  · intro each list member
    rw [← numbered_snd lists 0] at member
    obtain ⟨pair, inside, rfl⟩ := List.mem_map.mp member
    have agreed := (each pair inside).2
    rw [stored pair inside] at agreed
    exact (agrees _ _).mp agreed
  · intro each pair inside
    have member : pair.2 ∈ lists := by
      rw [← numbered_snd lists 0]
      exact List.mem_map_of_mem inside
    rw [stored pair inside]
    exact ⟨kind _, (agrees _ _).mpr (each _ member)⟩

end Offered

namespace EvseSetupConfig

def modes (setup : EvseSetupConfig) : List ControlMobilityNeedsModes :=
  if setup.controlMobilityModes = [] then [⟨.scheduled, .providedByEvcc⟩] else setup.controlMobilityModes

def acSetup (setup : EvseSetupConfig) : AcSetupConfig := setup.acSetupConfig.getD ⟨230, [.singlePhase]⟩

def ModesSet (setup : EvseSetupConfig) : Prop :=
  ∀ mode ∈ setup.modes, mode.controlMode = .scheduled → mode.mobilityMode ≠ .unset

def AcAgreeable (setup : EvseSetupConfig) : Prop :=
  setup.modes.length * setup.acSetup.connectors.length ≤ 256 ∧
    (setup.acSetup.connectors ≠ [] → setup.ModesSet ∧ KeepsVoltage setup.acSetup.voltage)

def DcAgreeable (setup : EvseSetupConfig) : Prop := setup.modes.length ≤ 256 ∧ setup.ModesSet

def Agreeable (setup : EvseSetupConfig) (service : ServiceCategory) : Prop :=
  if service = .ac ∨ service = .acBpt ∨ service = .acDer then setup.AcAgreeable else setup.DcAgreeable

end EvseSetupConfig

theorem keepsMobility_configured_iff (mode : ControlMobilityNeedsModes) :
    KeepsMobility mode.controlMode (getMobilityNeedsMode mode) ↔
      (mode.controlMode = .scheduled → mode.mobilityMode ≠ .unset) := by
  rcases mode with ⟨controlMode, mobilityMode⟩
  unfold KeepsMobility
  cases controlMode <;> cases mobilityMode <;> decide

section Configured

variable (setup : EvseSetupConfig)

theorem EvseSetupConfig.modes_ne_nil : setup.modes ≠ [] := by
  unfold EvseSetupConfig.modes
  split <;> simp [*]

theorem acAgreeable_iff :
    ((getDefaultAcParameterList setup.modes setup.acSetup).length ≤ 256 ∧
      ∀ list ∈ getDefaultAcParameterList setup.modes setup.acSetup,
        KeepsMobility list.controlMode list.mobilityNeedsMode ∧ KeepsVoltage list.evseNominalVoltage) ↔
      setup.AcAgreeable := by
  have count : (getDefaultAcParameterList setup.modes setup.acSetup).length =
      setup.modes.length * setup.acSetup.connectors.length := by
    simp [getDefaultAcParameterList, List.length_flatMap]
  rw [count, EvseSetupConfig.AcAgreeable]
  apply and_congr_right
  intro _
  obtain ⟨mode, someMode⟩ := List.exists_mem_of_ne_nil _ setup.modes_ne_nil
  simp only [getDefaultAcParameterList, List.mem_flatMap, List.mem_map, EvseSetupConfig.ModesSet,
    ← keepsMobility_configured_iff]
  constructor
  · intro each connected
    obtain ⟨connector, someConnector⟩ := List.exists_mem_of_ne_nil _ connected
    exact ⟨fun mode member => (each _ ⟨mode, member, connector, someConnector, rfl⟩).1,
      (each _ ⟨mode, someMode, connector, someConnector, rfl⟩).2⟩
  · rintro keeps _ ⟨mode, member, connector, inside, rfl⟩
    have kept := keeps (List.ne_nil_of_mem inside)
    exact ⟨kept.1 mode member, kept.2⟩

theorem ofSetup_acDerParameterList :
    (SessionConfig.ofSetup setup).acDerParameterList =
      getDefaultAcDerParameterList setup.modes setup.acSetup
        (setup.bptSetupConfig.getD ⟨.unified, .gridFollowing, some .passive⟩) := rfl

theorem getDefaultAcDerParameterList_required (bpt : BptSetupConfig) :
    (getDefaultAcDerParameterList setup.modes setup.acSetup bpt).filter
        (fun list => hasRequiredAcDerControlFunctions list.controlFunctions) =
      getDefaultAcDerParameterList setup.modes setup.acSetup bpt := by
  -- The default control functions are all that is required, so that no set of AC DER is left out.
  rw [List.filter_eq_self]
  intro list member
  obtain ⟨base, -, rfl⟩ := List.mem_map.mp member
  exact (by decide : hasRequiredAcDerControlFunctions getDefaultDerControlFunctions = true)

theorem dcAgreeable_iff :
    ((getDefaultDcParameterList setup.modes).length ≤ 256 ∧
      ∀ list ∈ getDefaultDcParameterList setup.modes,
        KeepsMobility list.controlMode list.mobilityNeedsMode) ↔ setup.DcAgreeable := by
  simp [getDefaultDcParameterList, EvseSetupConfig.DcAgreeable, EvseSetupConfig.ModesSet,
    keepsMobility_configured_iff]

theorem mcsAgreeable_iff :
    ((getDefaultMcsParameterList setup.modes).length ≤ 256 ∧
      ∀ list ∈ getDefaultMcsParameterList setup.modes,
        KeepsMobility list.controlMode list.mobilityNeedsMode) ↔ setup.DcAgreeable := by
  simp [getDefaultMcsParameterList, EvseSetupConfig.DcAgreeable, EvseSetupConfig.ModesSet,
    keepsMobility_configured_iff]

end Configured

def selectableServices : List ServiceCategory := [.ac, .acBpt, .acDer, .dc, .dcBpt, .mcs, .mcsBpt]

/-- The ids of a response are distinct, and every set says what is stored when it is selected by its id. -/
def ServiceDetailResponse.Consistent (res : ServiceDetailResponse) (session : Session)
    (service : ServiceCategory) : Prop :=
  (res.serviceParameterList.map (·.id)).Nodup ∧
    ∀ set ∈ res.serviceParameterList,
      (session.selectServiceParameters service set.id).selectedServices.selectedEnergyService = service ∧
        set.Agrees (session.selectServiceParameters service set.id).selectedServices

theorem handleServiceDetail_offers (env : Env) (config : SessionConfig) {req : ServiceDetailRequest}
    {session : Session} {service : ServiceCategory}
    (own : validateHeader session req.header.sessionId = true)
    (offered : service ∈ session.offeredServices.energyServices) (asks : req.service = service.value) :
    (handleServiceDetail env req session config none).1.serviceParameterList =
        (offerService config service.value session.offeredServices).1 ∧
      (handleServiceDetail env req session config none).2 =
        { session with offeredServices := (offerService config service.value session.offeredServices).2 } := by
  have found : (session.offeredServices.energyServices.any (·.value = req.service) ||
      session.offeredServices.vasServices.contains req.service) = true := by
    rw [Bool.or_eq_true]
    exact .inl (List.any_eq_true.mpr ⟨service, offered, by simp [asks]⟩)
  simp only [handleServiceDetail, own, found, ← asks]
  exact ⟨rfl, rfl⟩

theorem selectServiceParameters_of_selectable {session : Session} {service : ServiceCategory} {id : UInt16}
    {selected : SelectedServiceParameters}
    (known : Session.selectableParameters session.offeredServices service id.toUInt8 = some selected) :
    (session.selectServiceParameters service id).selectedServices = selected := by
  simp [Session.selectServiceParameters, known]

section Tables

open ServiceCategory

variable (config : SessionConfig) (offered : OfferedServices) (key : UInt8)

theorem offerService_ac :
    offerService config ServiceCategory.ac.value offered =
      ((offerParameterSets .ofAc config.acParameterList 0 offered.acParameterList).1,
        { offered with
          acParameterList :=
            (offerParameterSets .ofAc config.acParameterList 0 offered.acParameterList).2 }) := by
  simp [offerService, ac]

theorem selectableParameters_ac :
    Session.selectableParameters offered .ac key =
      (offered.acParameterList key).map Session.selectedOfAc := by
  simp [Session.selectableParameters, ac]

theorem offerService_acBpt :
    offerService config ServiceCategory.acBpt.value offered =
      ((offerParameterSets .ofAcBpt config.acBptParameterList 0 offered.acBptParameterList).1,
        { offered with
          acBptParameterList :=
            (offerParameterSets .ofAcBpt config.acBptParameterList 0 offered.acBptParameterList).2 }) := by
  simp [offerService, ac, acBpt]

theorem selectableParameters_acBpt :
    Session.selectableParameters offered .acBpt key =
      (offered.acBptParameterList key).map Session.selectedOfAcBpt := by
  simp [Session.selectableParameters, ac, acBpt]

theorem offerService_acDer :
    offerService config ServiceCategory.acDer.value offered =
      ((offerParameterSets .ofAcDer (config.acDerParameterList.filter fun list =>
          hasRequiredAcDerControlFunctions list.controlFunctions) 0 offered.acDerParameterList).1,
        { offered with
          acDerParameterList :=
            (offerParameterSets .ofAcDer (config.acDerParameterList.filter fun list =>
          hasRequiredAcDerControlFunctions list.controlFunctions) 0 offered.acDerParameterList).2 }) := by
  simp [offerService, ac, acBpt, acDer]

theorem selectableParameters_acDer :
    Session.selectableParameters offered .acDer key =
      (offered.acDerParameterList key).map Session.selectedOfAcDer := by
  simp [Session.selectableParameters, ac, acBpt, acDer]

theorem offerService_dc :
    offerService config ServiceCategory.dc.value offered =
      ((offerParameterSets .ofDc config.dcParameterList 0 offered.dcParameterList).1,
        { offered with
          dcParameterList :=
            (offerParameterSets .ofDc config.dcParameterList 0 offered.dcParameterList).2 }) := by
  simp [offerService, ac, acBpt, acDer, dc]

theorem selectableParameters_dc :
    Session.selectableParameters offered .dc key =
      (offered.dcParameterList key).map Session.selectedOfDc := by
  simp [Session.selectableParameters, ac, acBpt, acDer, dc]

theorem offerService_dcBpt :
    offerService config ServiceCategory.dcBpt.value offered =
      ((offerParameterSets .ofDcBpt config.dcBptParameterList 0 offered.dcBptParameterList).1,
        { offered with
          dcBptParameterList :=
            (offerParameterSets .ofDcBpt config.dcBptParameterList 0 offered.dcBptParameterList).2 }) := by
  simp [offerService, ac, acBpt, acDer, dc, dcBpt]

theorem selectableParameters_dcBpt :
    Session.selectableParameters offered .dcBpt key =
      (offered.dcBptParameterList key).map Session.selectedOfDcBpt := by
  simp [Session.selectableParameters, ac, acBpt, acDer, dc, dcBpt]

theorem offerService_mcs :
    offerService config ServiceCategory.mcs.value offered =
      ((offerParameterSets .ofMcs config.mcsParameterList 0 offered.mcsParameterList).1,
        { offered with
          mcsParameterList :=
            (offerParameterSets .ofMcs config.mcsParameterList 0 offered.mcsParameterList).2 }) := by
  simp [offerService, ac, acBpt, acDer, dc, dcBpt, mcs]

theorem selectableParameters_mcs :
    Session.selectableParameters offered .mcs key =
      (offered.mcsParameterList key).map Session.selectedOfMcs := by
  simp [Session.selectableParameters, ac, acBpt, acDer, dc, dcBpt, mcs]

theorem offerService_mcsBpt :
    offerService config ServiceCategory.mcsBpt.value offered =
      ((offerParameterSets .ofMcsBpt config.mcsBptParameterList 0 offered.mcsBptParameterList).1,
        { offered with
          mcsBptParameterList :=
            (offerParameterSets .ofMcsBpt config.mcsBptParameterList 0 offered.mcsBptParameterList).2 }) := by
  simp [offerService, ac, acBpt, acDer, dc, dcBpt, mcs, mcsBpt]

theorem selectableParameters_mcsBpt :
    Session.selectableParameters offered .mcsBpt key =
      (offered.mcsBptParameterList key).map Session.selectedOfMcsBpt := by
  simp [Session.selectableParameters, ac, acBpt, acDer, dc, dcBpt, mcs, mcsBpt]

end Tables

theorem consistent_iff {α : Type} {toSet : UInt16 → α → ParameterSet}
    {toSelected : α → SelectedServiceParameters} {keeps : α → Prop} (env : Env) (config : SessionConfig)
    {req : ServiceDetailRequest} {session : Session} {service : ServiceCategory} (lists : List α)
    (table : Table UInt8 α) (after : OfferedServices) (number : ∀ id list, (toSet id list).id = id)
    (agrees : ∀ id list, (toSet id list).Agrees (toSelected list) ↔ keeps list)
    (kind : ∀ list, (toSelected list).selectedEnergyService = service)
    (own : validateHeader session req.header.sessionId = true)
    (offered : service ∈ session.offeredServices.energyServices) (asks : req.service = service.value)
    (offers : offerService config service.value session.offeredServices =
      ((offerParameterSets toSet lists 0 table).1, after))
    (selects : ∀ key, Session.selectableParameters after service key =
      ((offerParameterSets toSet lists 0 table).2 key).map toSelected) :
    (handleServiceDetail env req session config none).1.Consistent
        (handleServiceDetail env req session config none).2 service ↔
      lists.length ≤ 256 ∧ ∀ list ∈ lists, keeps list := by
  obtain ⟨sets, stored⟩ := handleServiceDetail_offers env config own offered asks
  rw [ServiceDetailResponse.Consistent, sets, stored, offers]
  refine offered_agree_iff service lists table
    (fun id => (Session.selectServiceParameters { session with offeredServices := after } service
      id).selectedServices) number agrees kind ?_
  intro id list found
  apply selectServiceParameters_of_selectable
  rw [selects, found]
  rfl

section Services

variable (env : Env) (config : SessionConfig) {req : ServiceDetailRequest} {session : Session}
  (own : validateHeader session req.header.sessionId = true)
include own

theorem ac_consistent_iff (offered : .ac ∈ session.offeredServices.energyServices)
    (asks : req.service = ServiceCategory.ac.value) :
    (handleServiceDetail env req session config none).1.Consistent
        (handleServiceDetail env req session config none).2 .ac ↔
      config.acParameterList.length ≤ 256 ∧
        ∀ list ∈ config.acParameterList,
          KeepsMobility list.controlMode list.mobilityNeedsMode ∧ KeepsVoltage list.evseNominalVoltage :=
  consistent_iff env config _ _ _ (fun _ _ => rfl) ac_agrees_iff (fun _ => rfl) own offered asks
    (offerService_ac _ _) (selectableParameters_ac _)

theorem acBpt_consistent_iff (offered : .acBpt ∈ session.offeredServices.energyServices)
    (asks : req.service = ServiceCategory.acBpt.value) :
    (handleServiceDetail env req session config none).1.Consistent
        (handleServiceDetail env req session config none).2 .acBpt ↔
      config.acBptParameterList.length ≤ 256 ∧
        ∀ list ∈ config.acBptParameterList,
          KeepsMobility list.controlMode list.mobilityNeedsMode ∧ KeepsVoltage list.evseNominalVoltage :=
  consistent_iff env config _ _ _ (fun _ _ => rfl) acBpt_agrees_iff (fun _ => rfl) own offered asks
    (offerService_acBpt _ _) (selectableParameters_acBpt _)

theorem acDer_consistent_iff (offered : .acDer ∈ session.offeredServices.energyServices)
    (asks : req.service = ServiceCategory.acDer.value) :
    (handleServiceDetail env req session config none).1.Consistent
        (handleServiceDetail env req session config none).2 .acDer ↔
      (config.acDerParameterList.filter fun list =>
          hasRequiredAcDerControlFunctions list.controlFunctions).length ≤ 256 ∧
        ∀ list ∈ (config.acDerParameterList.filter fun list =>
          hasRequiredAcDerControlFunctions list.controlFunctions),
          (KeepsMobility list.controlMode list.mobilityNeedsMode ∧ KeepsVoltage list.evseNominalVoltage) ∧
          list.controlFunctions.standardBitmap.toNat < 2 ^ 31 ∧
          list.controlFunctions.extendedBitmap.toNat < 2 ^ 31 :=
  consistent_iff env config _ _ _ (fun _ _ => rfl) acDer_agrees_iff (fun _ => rfl) own offered asks
    (offerService_acDer _ _) (selectableParameters_acDer _)

theorem dc_consistent_iff (offered : .dc ∈ session.offeredServices.energyServices)
    (asks : req.service = ServiceCategory.dc.value) :
    (handleServiceDetail env req session config none).1.Consistent
        (handleServiceDetail env req session config none).2 .dc ↔
      config.dcParameterList.length ≤ 256 ∧
        ∀ list ∈ config.dcParameterList,
          KeepsMobility list.controlMode list.mobilityNeedsMode :=
  consistent_iff env config _ _ _ (fun _ _ => rfl) dc_agrees_iff (fun _ => rfl) own offered asks
    (offerService_dc _ _) (selectableParameters_dc _)

theorem dcBpt_consistent_iff (offered : .dcBpt ∈ session.offeredServices.energyServices)
    (asks : req.service = ServiceCategory.dcBpt.value) :
    (handleServiceDetail env req session config none).1.Consistent
        (handleServiceDetail env req session config none).2 .dcBpt ↔
      config.dcBptParameterList.length ≤ 256 ∧
        ∀ list ∈ config.dcBptParameterList,
          KeepsMobility list.controlMode list.mobilityNeedsMode :=
  consistent_iff env config _ _ _ (fun _ _ => rfl) dcBpt_agrees_iff (fun _ => rfl) own offered asks
    (offerService_dcBpt _ _) (selectableParameters_dcBpt _)

theorem mcs_consistent_iff (offered : .mcs ∈ session.offeredServices.energyServices)
    (asks : req.service = ServiceCategory.mcs.value) :
    (handleServiceDetail env req session config none).1.Consistent
        (handleServiceDetail env req session config none).2 .mcs ↔
      config.mcsParameterList.length ≤ 256 ∧
        ∀ list ∈ config.mcsParameterList,
          KeepsMobility list.controlMode list.mobilityNeedsMode :=
  consistent_iff env config _ _ _ (fun _ _ => rfl) mcs_agrees_iff (fun _ => rfl) own offered asks
    (offerService_mcs _ _) (selectableParameters_mcs _)

theorem mcsBpt_consistent_iff (offered : .mcsBpt ∈ session.offeredServices.energyServices)
    (asks : req.service = ServiceCategory.mcsBpt.value) :
    (handleServiceDetail env req session config none).1.Consistent
        (handleServiceDetail env req session config none).2 .mcsBpt ↔
      config.mcsBptParameterList.length ≤ 256 ∧
        ∀ list ∈ config.mcsBptParameterList,
          KeepsMobility list.controlMode list.mobilityNeedsMode :=
  consistent_iff env config _ _ _ (fun _ _ => rfl) mcsBpt_agrees_iff (fun _ => rfl) own offered asks
    (offerService_mcsBpt _ _) (selectableParameters_mcsBpt _)

end Services

theorem advertised_selected_iff (env : Env) (setup : EvseSetupConfig) {req : ServiceDetailRequest}
    {session : Session} {service : ServiceCategory} (energy : service ∈ selectableServices)
    (own : validateHeader session req.header.sessionId = true)
    (offered : service ∈ session.offeredServices.energyServices) (asks : req.service = service.value) :
    (handleServiceDetail env req session (.ofSetup setup) none).1.Consistent
        (handleServiceDetail env req session (.ofSetup setup) none).2 service ↔
      setup.Agreeable service := by
  simp only [selectableServices, List.mem_cons, List.not_mem_nil, or_false] at energy
  rcases energy with rfl | rfl | rfl | rfl | rfl | rfl | rfl
  · rw [ac_consistent_iff env _ own offered asks]
    exact acAgreeable_iff setup
  · rw [acBpt_consistent_iff env _ own offered asks]
    simp only [SessionConfig.ofSetup, getDefaultAcBptParameterList, List.length_map, List.forall_mem_map]
    exact acAgreeable_iff setup
  · rw [acDer_consistent_iff env _ own offered asks, ofSetup_acDerParameterList,
      getDefaultAcDerParameterList_required]
    have small : getDefaultDerControlFunctions.standardBitmap.toNat < 2 ^ 31 ∧
        getDefaultDerControlFunctions.extendedBitmap.toNat < 2 ^ 31 := by decide
    simp only [getDefaultAcDerParameterList, getDefaultAcBptParameterList, List.length_map, List.forall_mem_map,
      small, and_true]
    exact acAgreeable_iff setup
  · rw [dc_consistent_iff env _ own offered asks]
    exact dcAgreeable_iff setup
  · rw [dcBpt_consistent_iff env _ own offered asks]
    simp only [SessionConfig.ofSetup, getDefaultDcBptParameterList, List.length_map, List.forall_mem_map]
    exact dcAgreeable_iff setup
  · rw [mcs_consistent_iff env _ own offered asks]
    exact mcsAgreeable_iff setup
  · rw [mcsBpt_consistent_iff env _ own offered asks]
    simp only [SessionConfig.ofSetup, getDefaultMcsBptParameterList, List.length_map, List.forall_mem_map]
    exact mcsAgreeable_iff setup

namespace Sample

def setupOf (controlMobilityModes : List ControlMobilityNeedsModes) : EvseSetupConfig :=
  { evseId := "DE*PNX*E12345*1"
    supportedEnergyServices := [.dc]
    authorizationServices := [.eim]
    supportedVasServices := []
    enableCertificateInstallService := false
    dcLimits
    acLimits := { chargePower := limit, nominalFrequency := ⟨50, 0⟩ }
    controlMobilityModes
    powersupplyLimits := dcLimits }

def offering : Session := { id := sessionId 1, offeredServices := { energyServices := [.dc] } }

def dcDetail : ServiceDetailRequest := ⟨{ sessionId := sessionId 1 }, ServiceCategory.dc.value⟩

end Sample

open Sample

theorem advertised_selected_two :
    (handleServiceDetail {} dcDetail offering
        (.ofSetup (setupOf [⟨.scheduled, .providedByEvcc⟩, ⟨.dynamic, .providedBySecc⟩])) none).1.Consistent
      (handleServiceDetail {} dcDetail offering
        (.ofSetup (setupOf [⟨.scheduled, .providedByEvcc⟩, ⟨.dynamic, .providedBySecc⟩])) none).2 .dc := by
  refine (advertised_selected_iff {} _ (by decide) (by decide) (by decide) rfl).mpr ?_
  rw [EvseSetupConfig.Agreeable, if_neg (by decide)]
  constructor
  · decide
  · have modes : (setupOf [⟨.scheduled, .providedByEvcc⟩, ⟨.dynamic, .providedBySecc⟩]).modes =
        [⟨.scheduled, .providedByEvcc⟩, ⟨.dynamic, .providedBySecc⟩] := rfl
    rw [EvseSetupConfig.ModesSet, modes]
    decide

/-- The counter wraps behind the set 255. -/
theorem advertised_selected_wrapped :
    ¬∀ (env : Env) (setup : EvseSetupConfig) (req : ServiceDetailRequest) (session : Session)
      (service : ServiceCategory), service ∈ selectableServices →
      validateHeader session req.header.sessionId = true →
      service ∈ session.offeredServices.energyServices → req.service = service.value →
        (handleServiceDetail env req session (.ofSetup setup) none).1.Consistent
          (handleServiceDetail env req session (.ofSetup setup) none).2 service := by
  intro consistent
  obtain ⟨modes, many⟩ : ∃ modes : List ControlMobilityNeedsModes, modes.length = 257 :=
    ⟨List.replicate 257 ⟨.scheduled, .providedByEvcc⟩, List.length_replicate⟩
  have wrapped := consistent {} (setupOf modes) dcDetail offering .dc (by decide) (by decide) (by decide) rfl
  rw [dc_consistent_iff {} _ (by decide) (by decide) rfl] at wrapped
  have listed : (SessionConfig.ofSetup (setupOf modes)).dcParameterList.length = modes.length := by
    have some : modes ≠ [] := List.ne_nil_of_length_pos (by omega)
    simp [SessionConfig.ofSetup, setupOf, getDefaultDcParameterList, some]
  omega

end LibIso15118
