import LibIso15118.D20.State.Service

set_option autoImplicit false

namespace LibIso15118

open Datatypes

namespace Table

variable {κ α : Type} [DecidableEq κ]

def insertAll (table : Table κ α) : List (κ × α) → Table κ α
  | [] => table
  | (key, value) :: rest => insertAll (table.insert key value) rest

theorem insertAll_other {key : κ} {pairs : List (κ × α)} (table : Table κ α)
    (other : key ∉ pairs.map (·.1)) : table.insertAll pairs key = table key := by
  induction pairs generalizing table with
  | nil => rfl
  | cons pair rest hyp =>
      rw [List.map_cons, List.mem_cons, not_or] at other
      rw [insertAll, hyp _ other.2, insert, if_neg other.1]

theorem insertAll_of_mem {key : κ} {value : α} {pairs : List (κ × α)} (table : Table κ α)
    (distinct : (pairs.map (·.1)).Nodup) (member : (key, value) ∈ pairs) :
    table.insertAll pairs key = some value := by
  induction pairs generalizing table with
  | nil => cases member
  | cons pair rest hyp =>
      rw [List.map_cons, List.nodup_cons] at distinct
      rcases List.mem_cons.mp member with rfl | later
      · rw [insertAll, insertAll_other _ distinct.1, insert, if_pos rfl]
      · exact hyp _ distinct.2 later

theorem insertAll_contains (table : Table κ α) (pairs : List (κ × α)) (key : κ) :
    (table.insertAll pairs).contains key = true ↔ key ∈ pairs.map (·.1) ∨ table.contains key = true := by
  induction pairs generalizing table with
  | nil => simp [insertAll]
  | cons pair rest hyp =>
      rw [insertAll, hyp]
      by_cases same : key = pair.1 <;> simp [contains, insert, same]

end Table

section Numbered

variable {α : Type}

def numbered : List α → UInt8 → List (UInt8 × α)
  | [], _ => []
  | list :: rest, id => (id, list) :: numbered rest (id + 1)

theorem offerParameterSets_eq (toSet : UInt16 → α → ParameterSet) (lists : List α) (id : UInt8)
    (table : Table UInt8 α) :
    offerParameterSets toSet lists id table =
      ((numbered lists id).map fun pair => toSet pair.1.toUInt16 pair.2,
        table.insertAll (numbered lists id)) := by
  induction lists generalizing id table with
  | nil => rfl
  | cons list rest hyp => simp only [offerParameterSets, hyp, numbered, List.map_cons, Table.insertAll]

@[simp] theorem numbered_length (lists : List α) (id : UInt8) : (numbered lists id).length = lists.length := by
  induction lists generalizing id with
  | nil => rfl
  | cons list rest hyp => simp [numbered, hyp]

@[simp] theorem numbered_snd (lists : List α) (id : UInt8) : (numbered lists id).map (·.2) = lists := by
  induction lists generalizing id with
  | nil => rfl
  | cons list rest hyp => simp [numbered, hyp]

theorem numbered_fst (lists : List α) (id : UInt8) :
    (numbered lists id).map (·.1) = (List.range lists.length).map fun index => id + UInt8.ofNat index := by
  induction lists generalizing id with
  | nil => rfl
  | cons list rest hyp =>
      rw [numbered, List.map_cons, hyp, List.length_cons, List.range_succ_eq_map, List.map_cons, List.map_map]
      congr 1
      · simp
      · apply List.map_congr_left
        intro index _
        simp [UInt8.ofNat_add, UInt8.add_assoc, UInt8.add_comm]

theorem numbered_distinct_iff (lists : List α) (id : UInt8) :
    ((numbered lists id).map (·.1)).Nodup ↔ lists.length ≤ 256 := by
  -- The numbers are distinct exactly as long as the counter does not wrap.
  rw [numbered_fst]
  constructor
  · intro distinct
    by_contra many
    have first : 0 ∈ List.range lists.length := List.mem_range.mpr (by omega)
    have again : 256 ∈ List.range lists.length := List.mem_range.mpr (by omega)
    have same := List.inj_on_of_nodup_map distinct first again (by simp)
    cases same
  · intro few
    refine List.Nodup.map_on ?_ List.nodup_range
    intro index member index' member' same
    have value := congrArg UInt8.toNat same
    rw [List.mem_range] at member member'
    simp only [UInt8.toNat_add, UInt8.toNat_ofNat'] at value
    omega

end Numbered

end LibIso15118
