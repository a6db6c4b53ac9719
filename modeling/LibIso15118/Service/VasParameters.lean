import LibIso15118.Service.Numbering

set_option autoImplicit false

namespace LibIso15118

open Datatypes

def internetSets : List ParameterSet :=
  [.ofInternet 1 ⟨.ftp, .port20⟩, .ofInternet 2 ⟨.ftp, .port21⟩, .ofInternet 3 ⟨.http, .port80⟩,
    .ofInternet 4 ⟨.https, .port443⟩]

/-- Every set is one of the four; only the first one may stand for no port. -/
def InternetReproduced (parameters : ServiceParameterList) : Prop :=
  ∀ set ∈ parameters, set ∈ internetSets ∨ set = .ofInternet 0 {} ∧ parameters.head? = some set

/-- The sets are numbered from 0, by a counter of one byte, and hold the two parameters of the service. -/
def ParkingReproduced (parameters : ServiceParameterList) : Prop :=
  ∀ index set, parameters[index]? = some set →
    ∃ list, set = ParameterSet.ofParking (UInt8.ofNat index).toUInt16 list

def Reproduced (service : UInt16) (parameters : ServiceParameterList) : Prop :=
  (service = ServiceCategory.internet.value → InternetReproduced parameters) ∧
    (service = ServiceCategory.parkingStatus.value → ParkingReproduced parameters)

def Datatypes.ParameterSet.HasPort (set : ParameterSet) : Prop := set.id = 1 ∨ set.id = 2 ∨ set.id = 3 ∨ set.id = 4

theorem fillInternetParameterList_cons (set : ParameterSet) (rest : ServiceParameterList) :
    ∃ list, fillInternetParameterList (set :: rest) = list :: fillInternetParameterList rest ∧
      (set.HasPort → ∀ previous, (internetId list.port previous).toUInt16 = set.id ∧
        (.ofInternet set.id list = set ↔ set ∈ internetSets)) ∧
      (¬set.HasPort → list = {} ∧ set ∉ internetSets) := by
  refine ⟨_, rfl, ?_, ?_⟩
  · obtain ⟨id, parameter⟩ := set
    rintro (port | port | port | port) previous <;> obtain rfl : id = _ := port <;>
      simp [internetId, Port.port20, Port.port21, Port.port80, Port.port443, internetSets, ParameterSet.ofInternet,
        eq_comm]
  · intro portless
    simp only [ParameterSet.HasPort, not_or] at portless
    obtain ⟨one, two, three, four⟩ := portless
    refine ⟨by simp [one, two, three, four], ?_⟩
    intro member
    simp only [internetSets, List.mem_cons, List.not_mem_nil, or_false] at member
    rcases member with rfl | rfl | rfl | rfl <;> simp_all [ParameterSet.ofInternet]

theorem offerInternetSets_cons (list : InternetParameterList) (rest : List InternetParameterList) (previous : UInt8)
    (table : Table UInt8 InternetParameterList) :
    (offerInternetSets (list :: rest) previous table).1 =
      .ofInternet (internetId list.port previous).toUInt16 list ::
        (offerInternetSets rest (internetId list.port previous)
          (table.insert (internetId list.port previous) list)).1 := rfl

theorem internetId_portless (previous : UInt8) :
    internetId ({} : InternetParameterList).port previous = previous := by
  simp [internetId, Port.port20, Port.port21, Port.port80, Port.port443]

theorem offerInternetSets_ported_iff (parameters : ServiceParameterList) (previous : UInt8)
    (apart : ∀ set ∈ parameters, set.id = previous.toUInt16 → set.HasPort)
    (table : Table UInt8 InternetParameterList) :
    (offerInternetSets (fillInternetParameterList parameters) previous table).1 = parameters ↔
      ∀ set ∈ parameters, set ∈ internetSets := by
  -- Once no set can take the id of the one before it by chance, the list stays as it is exactly
  -- if every set is one of the four.
  induction parameters generalizing previous table with
  | nil => simp [fillInternetParameterList, offerInternetSets]
  | cons set rest hyp =>
      obtain ⟨list, filled, ported, portless⟩ := fillInternetParameterList_cons set rest
      rw [filled, offerInternetSets_cons]
      by_cases port : set.HasPort
      · obtain ⟨id, same⟩ := ported port previous
        have later : ∀ other ∈ rest, other.id = (internetId list.port previous).toUInt16 → other.HasPort := by
          intro other _ equal
          rwa [ParameterSet.HasPort, equal, id]
        rw [List.cons.injEq, hyp _ later, id, same]
        simp
      · obtain ⟨rfl, foreign⟩ := portless port
        refine iff_of_false ?_ fun all => foreign (all set (List.mem_cons_self ..))
        intro equal
        have first := (List.cons.inj equal).1
        rw [internetId_portless] at first
        exact port (apart set (List.mem_cons_self ..) (congrArg ParameterSet.id first).symm)

theorem internet_reproduced_iff {parameters : ServiceParameterList} (distinct : (parameters.map (·.id)).Nodup)
    (table : Table UInt8 InternetParameterList) :
    (offerInternetSets (fillInternetParameterList parameters) 0 table).1 = parameters ↔
      InternetReproduced parameters := by
  cases parameters with
  | nil => simp [fillInternetParameterList, offerInternetSets, InternetReproduced]
  | cons set rest =>
      rw [List.map_cons, List.nodup_cons] at distinct
      have others : ∀ other ∈ rest, other ≠ set := by
        rintro other member rfl
        exact distinct.1 (List.mem_map_of_mem member)
      have reproduced : InternetReproduced (set :: rest) ↔
          (set ∈ internetSets ∨ set = .ofInternet 0 {}) ∧ ∀ other ∈ rest, other ∈ internetSets := by
        simp only [InternetReproduced, List.forall_mem_cons, List.head?_cons, and_true]
        refine and_congr_right fun _ => forall₂_congr fun other member => ?_
        simp [(others other member).symm]
      obtain ⟨list, filled, ported, portless⟩ := fillInternetParameterList_cons set rest
      rw [reproduced, filled, offerInternetSets_cons, List.cons.injEq]
      by_cases port : set.HasPort
      · obtain ⟨id, same⟩ := ported port 0
        have later : ∀ other ∈ rest, other.id = (internetId list.port 0).toUInt16 → other.HasPort := by
          intro other _ equal
          rwa [ParameterSet.HasPort, equal, id]
        have zero : set ≠ .ofInternet 0 {} := by
          rintro rfl
          simp [ParameterSet.HasPort, ParameterSet.ofInternet] at port
        rw [offerInternetSets_ported_iff _ _ later, id, same]
        simp [zero]
      · obtain ⟨rfl, foreign⟩ := portless port
        rw [internetId_portless]
        have first : ParameterSet.ofInternet (0 : UInt8).toUInt16 {} = set ↔ set = .ofInternet 0 {} := eq_comm
        rw [first]
        simp only [foreign, false_or]
        refine and_congr_right fun zero => offerInternetSets_ported_iff _ _ ?_ _
        intro other member equal
        refine absurd (List.mem_map_of_mem member) (?_ : (other.id ∉ rest.map (·.id)))
        rw [equal]
        simpa [zero, ParameterSet.ofInternet] using distinct.1

section Parking

theorem fillParkingParameter_readable (parameters : List Parameter) (list : ParkingParameterList) :
    (fillParkingParameter parameters list).1 = true ↔
      ∀ parameter ∈ parameters, ∃ value, parameter.value = .int32 value := by
  induction parameters generalizing list with
  | nil => simp [fillParkingParameter]
  | cons parameter rest hyp =>
      rw [fillParkingParameter, List.forall_mem_cons]
      split
      · rename_i value int
        repeat' split
        all_goals simp [hyp, int]
      · rename_i other
        simpa using fun value int => absurd int (other value)

theorem fillParkingParameterList_readable (parameters : ServiceParameterList) :
    (fillParkingParameterList parameters).1 = true ↔
      ∀ set ∈ parameters, ∀ parameter ∈ set.parameter, ∃ value, parameter.value = .int32 value := by
  induction parameters with
  | nil => simp [fillParkingParameterList]
  | cons set rest hyp =>
      rw [List.forall_mem_cons, ← hyp, ← fillParkingParameter_readable _ {}, fillParkingParameterList]
      rcases fillParkingParameter set.parameter {} with ⟨⟨⟩, list⟩ <;> simp

theorem fillParkingParameter_ofParking (id : UInt16) (list : ParkingParameterList) :
    fillParkingParameter (ParameterSet.ofParking id list).parameter {} = (true, list) := by
  simp [ParameterSet.ofParking, fillParkingParameter]

theorem offerParking_reproduced_iff (parameters : ServiceParameterList) (count : Nat)
    (table : Table UInt8 ParkingParameterList) :
    (fillParkingParameterList parameters).1 = true ∧
        (offerParameterSets .ofParking (fillParkingParameterList parameters).2 (UInt8.ofNat count) table).1 =
          parameters ↔
      ∀ index set, parameters[index]? = some set →
        ∃ list, set = ParameterSet.ofParking (UInt8.ofNat (count + index)).toUInt16 list := by
  induction parameters generalizing count table with
  | nil => simp [fillParkingParameterList, offerParameterSets]
  | cons set rest hyp =>
      have numbers : (∀ index other, (set :: rest)[index]? = some other →
            ∃ list, other = ParameterSet.ofParking (UInt8.ofNat (count + index)).toUInt16 list) ↔
          (∃ list, set = ParameterSet.ofParking (UInt8.ofNat count).toUInt16 list) ∧
            ∀ index other, rest[index]? = some other →
              ∃ list, other = ParameterSet.ofParking (UInt8.ofNat (count + 1 + index)).toUInt16 list := by
        constructor
        · intro all
          refine ⟨all 0 set rfl, fun index other found => ?_⟩
          have later := all (index + 1) other found
          rwa [show count + (index + 1) = count + 1 + index by omega] at later
        · rintro ⟨first, later⟩ index other found
          cases index with
          | zero =>
              obtain rfl : set = other := Option.some.inj found
              exact first
          | succ index =>
              rw [show count + (index + 1) = count + 1 + index by omega]
              exact later index other found
      have next : UInt8.ofNat count + 1 = UInt8.ofNat (count + 1) := by rw [UInt8.ofNat_add]; rfl
      rw [numbers, fillParkingParameterList]
      cases read : fillParkingParameter set.parameter {} with
      | mk readable list =>
          cases readable with
          | false =>
              refine iff_of_false (by simp) ?_
              rintro ⟨⟨other, rfl⟩, -⟩
              simp [fillParkingParameter_ofParking] at read
          | true =>
              have first : ParameterSet.ofParking (UInt8.ofNat count).toUInt16 list = set ↔
                  ∃ other, set = ParameterSet.ofParking (UInt8.ofNat count).toUInt16 other := by
                constructor
                · exact fun same => ⟨list, same.symm⟩
                · rintro ⟨other, rfl⟩
                  rw [fillParkingParameter_ofParking, Prod.mk.injEq] at read
                  rw [read.2]
              rw [← hyp, ← first]
              simp only [offerParameterSets, next, List.cons.injEq]
              tauto

end Parking

end LibIso15118
