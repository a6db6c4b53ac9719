import LibIso15118.Service.Numbering
import LibIso15118.Service.Selection

set_option autoImplicit false

namespace LibIso15118

open Datatypes

def numberedByPort : List InternetParameterList → UInt8 → List (UInt8 × InternetParameterList)
  | [], _ => []
  | list :: rest, previous =>
      let id := internetId list.port previous
      (id, list) :: numberedByPort rest id

theorem offerInternetSets_eq (lists : List InternetParameterList) (previous : UInt8)
    (table : Table UInt8 InternetParameterList) :
    offerInternetSets lists previous table =
      ((numberedByPort lists previous).map fun pair => .ofInternet pair.1.toUInt16 pair.2,
        table.insertAll (numberedByPort lists previous)) := by
  induction lists generalizing previous table with
  | nil => rfl
  | cons list rest hyp =>
      simp only [offerInternetSets, hyp, numberedByPort, List.map_cons, Table.insertAll]

def OfferedServices.contains (offered : OfferedServices) (service : UInt16) (key : UInt8) : Bool :=
  if service = ServiceCategory.ac.value then offered.acParameterList.contains key
  else if service = ServiceCategory.acBpt.value then offered.acBptParameterList.contains key
  else if service = ServiceCategory.acDer.value then offered.acDerParameterList.contains key
  else if service = ServiceCategory.dc.value then offered.dcParameterList.contains key
  else if service = ServiceCategory.dcBpt.value then offered.dcBptParameterList.contains key
  else if service = ServiceCategory.mcs.value then offered.mcsParameterList.contains key
  else if service = ServiceCategory.mcsBpt.value then offered.mcsBptParameterList.contains key
  else if service = ServiceCategory.internet.value then offered.internetParameterList.contains key
  else if service = ServiceCategory.parkingStatus.value then offered.parkingParameterList.contains key
  else false

theorem toUInt16_inj {key other : UInt8} : key.toUInt16 = other.toUInt16 ↔ key = other := by
  constructor
  · intro same
    have value := congrArg UInt16.toNat same
    rw [UInt8.toNat_toUInt16, UInt8.toNat_toUInt16] at value
    exact UInt8.toNat_inj.mp value
  · rintro rfl
    rfl

section Recorded

variable {α : Type} {toSet : UInt16 → α → ParameterSet} (ids : ∀ id list, (toSet id list).id = id)
include ids

theorem recorded_iff (pairs : List (UInt8 × α)) (table : Table UInt8 α) (key : UInt8) :
    (table.insertAll pairs).contains key = true ↔
      key.toUInt16 ∈ (pairs.map fun pair => toSet pair.1.toUInt16 pair.2).map (·.id) ∨
        table.contains key = true := by
  -- The sets of a response and the table that keeps them come from the same pairs.
  rw [Table.insertAll_contains, List.map_map]
  apply or_congr_left
  simp only [List.mem_map, Function.comp_apply, ids, toUInt16_inj]

theorem offerParameterSets_contains (lists : List α) (table : Table UInt8 α) (key : UInt8) :
    (offerParameterSets toSet lists 0 table).2.contains key = true ↔
      key.toUInt16 ∈ (offerParameterSets toSet lists 0 table).1.map (·.id) ∨ table.contains key = true := by
  rw [offerParameterSets_eq]
  exact recorded_iff ids _ _ _

end Recorded

theorem offerInternetSets_contains (lists : List InternetParameterList)
    (table : Table UInt8 InternetParameterList) (key : UInt8) :
    (offerInternetSets lists 0 table).2.contains key = true ↔
      key.toUInt16 ∈ (offerInternetSets lists 0 table).1.map (·.id) ∨ table.contains key = true := by
  rw [offerInternetSets_eq]
  exact recorded_iff (fun _ _ => rfl) _ _ _

theorem offerService_internet (config : SessionConfig) (offered : OfferedServices) :
    (offerService config ServiceCategory.internet.value offered).1 =
      (offerInternetSets config.internetParameterList 0 offered.internetParameterList).1 := rfl

theorem offerService_parking (config : SessionConfig) (offered : OfferedServices) :
    (offerService config ServiceCategory.parkingStatus.value offered).1 =
      (offerParameterSets .ofParking config.parkingParameterList 0 offered.parkingParameterList).1 := rfl

theorem contains_of_slot {offered offered' : OfferedServices} {service : UInt16} {ids : List UInt16}
    (here : ∀ key, offered'.contains service key = true ↔
      key.toUInt16 ∈ ids ∨ offered.contains service key = true)
    (elsewhere : ∀ other key, other ≠ service → offered'.contains other key = offered.contains other key)
    (other : UInt16) (key : UInt8) :
    offered'.contains other key = true ↔
      other = service ∧ key.toUInt16 ∈ ids ∨ offered.contains other key = true := by
  by_cases same : other = service
  · subst same
    simp [here]
  · simp [elsewhere other key same, same]

theorem offerService_contains (config : SessionConfig) (service other : UInt16) (offered : OfferedServices)
    (key : UInt8) :
    (offerService config service offered).2.contains other key = true ↔
      other = service ∧ key.toUInt16 ∈ (offerService config service offered).1.map (·.id) ∨
        offered.contains other key = true := by
  refine contains_of_slot ?_ ?_ other key
  · intro key
    simp only [offerService]
    repeat' split
    all_goals rename_i same
    case' isFalse => simp
    all_goals
      subst same
      simp only [OfferedServices.contains, ServiceCategory.ac, ServiceCategory.acBpt, ServiceCategory.acDer,
        ServiceCategory.dc, ServiceCategory.dcBpt, ServiceCategory.mcs, ServiceCategory.mcsBpt,
        ServiceCategory.internet, ServiceCategory.parkingStatus, if_true]
      first
        | exact offerParameterSets_contains (fun _ _ => rfl) _ _ key
        | exact offerInternetSets_contains _ _ key
  · intro other key different
    simp only [offerService]
    repeat' split
    all_goals rename_i same
    case' isFalse => rfl
    all_goals
      subst same
      simp only [OfferedServices.contains, if_neg different]

theorem offerService_frame (config : SessionConfig) (service : UInt16) (offered : OfferedServices) :
    (offerService config service offered).2.energyServices = offered.energyServices ∧
      (offerService config service offered).2.vasServices = offered.vasServices ∧
      (offerService config service offered).2.customVasList = offered.customVasList := by
  simp only [offerService]
  repeat' split
  all_goals exact ⟨rfl, rfl, rfl⟩

def standardServices : List UInt16 := [ServiceCategory.internet.value, ServiceCategory.parkingStatus.value]

theorem toInt16_eq_iff (offeredId id : UInt16) :
    (offeredId.toNat : Int) = id.toInt16.toInt ↔ id < 32768 ∧ offeredId = id := by
  -- A `uint16_t` equals an `int16_t` made from another one only below the sign bit.
  have bound := id.toNat_lt
  have signed : id.toInt16.toInt = (id.toNat : Int).bmod (2 ^ 16) := BitVec.toInt_eq_toNat_bmod id.toBitVec
  rw [signed, Int.bmod_def, UInt16.lt_iff_toNat_lt, ← UInt16.toNat_inj]
  have half : (32768 : UInt16).toNat = 32768 := by simp
  rw [half]
  have bound' := offeredId.toNat_lt
  split <;> omega

theorem findVasParameterSetId_iff (session : Session) (service id : UInt16) :
    session.findVasParameterSetId service id = true ↔
      if service ∈ standardServices then session.offeredServices.contains service id.toUInt8 = true
      else id < 32768 ∧ ∃ ids, session.offeredServices.customVasList service = some ids ∧ id ∈ ids := by
  simp only [Session.findVasParameterSetId, standardServices]
  by_cases internet : service = ServiceCategory.internet.value
  · subst internet
    simp
    rfl
  by_cases parking : service = ServiceCategory.parkingStatus.value
  · subst parking
    simp [internet]
    rfl
  · simp only [internet, parking, List.mem_cons, List.not_mem_nil, or_false, if_false]
    cases offered : session.offeredServices.customVasList service with
    | none => simp
    | some ids =>
        simp only [List.any_eq_true, decide_eq_true_eq, toInt16_eq_iff, Option.some.injEq, exists_eq_left']
        constructor
        · rintro ⟨_, member, small, rfl⟩
          exact ⟨small, member⟩
        · rintro ⟨small, member⟩
          exact ⟨id, member, small, rfl⟩

end LibIso15118
