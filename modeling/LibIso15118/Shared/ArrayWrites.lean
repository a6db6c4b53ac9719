import Mathlib.Algebra.Group.Nat.Defs
import Mathlib.Data.List.Nodup
import Mathlib.Tactic.Common

set_option autoImplicit false

/-!
# Writing to arrays of fixed capacity

A writer goes through arrays of a fixed capacity, entry by entry, and stores how many entries count. It may be
stopped by a check of its own. An access behind the last entry stops it too: nothing is known of what follows.
-/

namespace ArrayWrites

variable {ε α : Type}

/-- A generated array, and how many bits the member has that counts its entries. -/
structure ArrayType where
  capacity : Nat
  lengthBits : Nat
  counts : capacity < 2 ^ lengthBits

/-- An array as a writer leaves it: the places it wrote to, in order, and the length it stored. -/
structure Filled where
  capacity : Nat
  places : List Nat
  length : Nat

/-- The length is the number of entries written, no two of them to one place, and at most the capacity. -/
def Filled.Right (filled : Filled) : Prop :=
  filled.length = filled.places.length ∧ filled.places.Nodup ∧ filled.length ≤ filled.capacity

abbrev Writes (ε : Type) := Except ε (List Filled)

namespace Writes

def inOrder : List (Writes ε) → Except ε (List Filled)
  | [] => .ok []
  | first :: rest => do
      let filled ← first
      let later ← inOrder rest
      return filled ++ later

def require (failure : ε) (condition : Prop) [Decidable condition] : Writes ε :=
  if condition then .ok [] else .error failure

def leave (array : ArrayType) (places : List Nat) (count : Nat) : Writes ε :=
  .ok [{ capacity := array.capacity, places, length := count % 2 ^ array.lengthBits }]

/-- The entries of a list, one after the other. Each gets the access to its place, and the index of the place
is counted by `index`. -/
def entries (outside : ε) (array : ArrayType) (index : Nat → Nat) (entry : Writes ε → α → Writes ε)
    (list : List α) : Writes ε :=
  inOrder (list.mapIdx fun count a => entry (require outside (index count < array.capacity)) a)

def fill (outside : ε) (array : ArrayType) (index : Nat → Nat) (entry : Writes ε → α → Writes ε)
    (list : List α) : Writes ε :=
  inOrder [
    entries outside array index entry list,
    leave array ((List.range list.length).map index) list.length]

def placed (inner : α → Writes ε) (place : Writes ε) (a : α) : Writes ε := inOrder [place, inner a]

def Within (array : ArrayType) (index : Nat → Nat) (count : Nat) : Prop :=
  ∀ earlier < count, index earlier < array.capacity

def Finishes : Writes ε → Prop
  | .ok _ => True
  | .error _ => False

def Sound : Writes ε → Prop
  | .ok filled => ∀ array ∈ filled, array.Right
  | .error _ => False

variable (thrown : ε → Prop)

def Throws : Writes ε → Prop
  | .ok _ => False
  | .error failure => thrown failure

/-- It is stopped by a check of its own, or it stays inside the arrays and leaves each as it should be. -/
def Contained : Writes ε → Prop
  | .ok filled => ∀ array ∈ filled, array.Right
  | .error failure => thrown failure

/-- It checks before it writes: it is right if the input fits, and throws otherwise. -/
def Checks (fits : Prop) (writes : Writes ε) : Prop :=
  fits ∧ Sound writes ∨ ¬fits ∧ Throws thrown writes

variable {thrown}

theorem contained_iff (writes : Writes ε) : Contained thrown writes ↔ Throws thrown writes ∨ Sound writes := by
  cases writes <;> simp [Contained, Throws, Sound]

theorem Sound.finishes {writes : Writes ε} (sound : Sound writes) : Finishes writes := by
  cases writes with
  | ok _ => trivial
  | error _ => exact sound

theorem Throws.not_finishes {writes : Writes ε} (throws : Throws thrown writes) : ¬Finishes writes := by
  cases writes with
  | ok _ => exact throws.elim
  | error _ => exact id

theorem Throws.not_sound {writes : Writes ε} (throws : Throws thrown writes) : ¬Sound writes :=
  fun sound => throws.not_finishes sound.finishes

section Sequence

variable {first : Writes ε} {rest : List (Writes ε)}

@[simp] theorem finishes_inOrder {list : List (Writes ε)} :
    Finishes (inOrder list) ↔ ∀ writes ∈ list, Finishes writes := by
  induction list with
  | nil => simp [inOrder, Finishes]
  | cons first rest hyp =>
      rw [List.forall_mem_cons, ← hyp]
      cases first <;> cases result : inOrder rest <;>
        simp [inOrder, result, Finishes, Bind.bind, Except.bind, Pure.pure, Except.pure]

@[simp] theorem sound_inOrder {list : List (Writes ε)} :
    Sound (inOrder list) ↔ ∀ writes ∈ list, Sound writes := by
  induction list with
  | nil => simp [inOrder, Sound]
  | cons first rest hyp =>
      rw [List.forall_mem_cons, ← hyp]
      cases first <;> cases result : inOrder rest <;>
        simp [inOrder, result, Sound, Bind.bind, Except.bind, Pure.pure, Except.pure, or_imp, forall_and]

@[simp] theorem throws_nil : ¬Throws thrown (inOrder []) := id

theorem throws_cons :
    Throws thrown (inOrder (first :: rest)) ↔
      Throws thrown first ∨ Finishes first ∧ Throws thrown (inOrder rest) := by
  cases first <;> cases result : inOrder rest <;>
    simp [inOrder, result, Throws, Finishes, Bind.bind, Except.bind, Pure.pure, Except.pure]

theorem throws_inOrder {list : List (Writes ε)} :
    Throws thrown (inOrder list) ↔
      ∃ before writes after, list = before ++ writes :: after ∧ (∀ earlier ∈ before, Finishes earlier) ∧
        Throws thrown writes := by
  induction list with
  | nil => simp
  | cons first rest hyp =>
      rw [throws_cons, hyp]
      constructor
      · rintro (throws | ⟨finishes, before, writes, after, same, earlier, throws⟩)
        · exact ⟨[], first, rest, rfl, by simp, throws⟩
        · exact ⟨first :: before, writes, after, by simp [same], by simpa [finishes] using earlier, throws⟩
      · intro ⟨before, writes, after, same, earlier, throws⟩
        cases before with
        | nil =>
            cases same
            exact .inl throws
        | cons head before =>
            cases same
            rw [List.forall_mem_cons] at earlier
            exact .inr ⟨earlier.1, before, writes, after, rfl, earlier.2, throws⟩

theorem contained_cons (tidy : Finishes first → Sound first) :
    Contained thrown (inOrder (first :: rest)) ↔
      Throws thrown first ∨ Sound first ∧ Contained thrown (inOrder rest) := by
  have same : Finishes first ↔ Sound first := ⟨tidy, Sound.finishes⟩
  simp only [contained_iff, throws_cons, sound_inOrder, List.forall_mem_cons, same]
  tauto

theorem contained_quiet {list : List (Writes ε)} (quiet : ∀ writes ∈ list, ¬Throws thrown writes) :
    Contained thrown (inOrder list) ↔ ∀ writes ∈ list, Contained thrown writes := by
  rw [contained_iff, sound_inOrder, throws_inOrder]
  constructor
  · rintro (⟨before, writes, after, rfl, _, throws⟩ | sound) other member
    · exact absurd throws (quiet writes (by simp))
    · exact (contained_iff other).mpr (.inr (sound other member))
  · intro all
    exact .inr fun writes member =>
      ((contained_iff writes).mp (all writes member)).resolve_left (quiet writes member)

@[simp] theorem contained_singleton : Contained thrown (inOrder [first]) ↔ Contained thrown first := by
  rw [contained_iff, contained_iff, throws_cons, sound_inOrder]
  simp

end Sequence

section Checks

theorem Checks.contained {fits : Prop} {writes : Writes ε} (checks : Checks thrown fits writes) :
    Contained thrown writes := by
  rw [contained_iff]
  exact checks.elim (fun sound => .inr sound.2) (fun throws => .inl throws.2)

theorem Checks.sound_iff {fits : Prop} {writes : Writes ε} (checks : Checks thrown fits writes) :
    Sound writes ↔ fits := by
  rcases checks with ⟨fit, sound⟩ | ⟨unfit, throws⟩
  · exact iff_of_true sound fit
  · exact iff_of_false throws.not_sound unfit

theorem Checks.finishes_iff {fits : Prop} {writes : Writes ε} (checks : Checks thrown fits writes) :
    Finishes writes ↔ fits := by
  rcases checks with ⟨fit, sound⟩ | ⟨unfit, throws⟩
  · exact iff_of_true sound.finishes fit
  · exact iff_of_false throws.not_finishes unfit

theorem Checks.throws_iff {fits : Prop} {writes : Writes ε} (checks : Checks thrown fits writes) :
    Throws thrown writes ↔ ¬fits := by
  rcases checks with ⟨fit, sound⟩ | ⟨unfit, throws⟩
  · exact iff_of_false (fun throws => throws.not_sound sound) (not_not_intro fit)
  · exact iff_of_true throws unfit

theorem Checks.mono {fits same : Prop} {writes : Writes ε} (checks : Checks thrown fits writes)
    (iff : fits ↔ same) : Checks thrown same writes := by
  rwa [← iff]

theorem checks_nil : Checks thrown True (inOrder ([] : List (Writes ε))) := by
  simp [Checks]

theorem Checks.cons {fits later : Prop} {first : Writes ε} {rest : List (Writes ε)}
    (checks : Checks thrown fits first) (others : Checks thrown later (inOrder rest)) :
    Checks thrown (fits ∧ later) (inOrder (first :: rest)) := by
  by_cases fit : fits ∧ later
  · refine .inl ⟨fit, ?_⟩
    rw [sound_inOrder, List.forall_mem_cons, ← sound_inOrder]
    exact ⟨checks.sound_iff.mpr fit.1, others.sound_iff.mpr fit.2⟩
  · refine .inr ⟨fit, ?_⟩
    rw [throws_cons, checks.throws_iff, checks.finishes_iff, others.throws_iff]
    tauto

theorem checks_inOrder {β : Type} {fits : β → Prop} {part : β → Writes ε} (list : List β)
    (checks : ∀ b ∈ list, Checks thrown (fits b) (part b)) :
    Checks thrown (∀ b ∈ list, fits b) (inOrder (list.map part)) := by
  induction list with
  | nil => exact checks_nil.mono (by simp)
  | cons first rest hyp =>
      rw [List.forall_mem_cons] at checks
      exact (checks.1.cons (hyp checks.2)).mono (by simp)

end Checks

section Primitives

variable {failure : ε} {condition : Prop} [Decidable condition]

@[simp] theorem finishes_require : Finishes (require failure condition) ↔ condition := by
  by_cases holds : condition <;> simp [require, holds, Finishes]

@[simp] theorem sound_require : Sound (require failure condition) ↔ condition := by
  by_cases holds : condition <;> simp [require, holds, Sound]

@[simp] theorem throws_require : Throws thrown (require failure condition) ↔ ¬condition ∧ thrown failure := by
  by_cases holds : condition <;> simp [require, holds, Throws]

theorem checks_guarded {fits : Prop} {rest : List (Writes ε)} (meant : thrown failure)
    (checks : condition → Checks thrown fits (inOrder rest)) :
    Checks thrown (condition ∧ fits) (inOrder (require failure condition :: rest)) := by
  by_cases holds : condition
  · have passed : Checks thrown True (require failure condition) := .inl ⟨trivial, sound_require.mpr holds⟩
    exact (passed.cons (checks holds)).mono (by simp [holds])
  · exact .inr ⟨fun both => holds both.1, throws_cons.mpr (.inl (throws_require.mpr ⟨holds, meant⟩))⟩

variable {array : ArrayType} {places : List Nat} {count : Nat}

@[simp] theorem finishes_leave : Finishes (leave array places count : Writes ε) := trivial

@[simp] theorem throws_leave : ¬Throws thrown (leave array places count : Writes ε) := id

theorem sound_leave :
    Sound (leave array places count : Writes ε) ↔
      count % 2 ^ array.lengthBits = places.length ∧ places.Nodup ∧
        count % 2 ^ array.lengthBits ≤ array.capacity := by
  simp [leave, Sound, Filled.Right]

theorem sound_leave_map (index : Nat → Nat) :
    Sound (leave array ((List.range count).map index) count : Writes ε) ↔
      ((List.range count).map index).Nodup ∧ count ≤ array.capacity := by
  have counts := array.counts
  rw [sound_leave, List.length_map, List.length_range]
  constructor
  · intro ⟨same, distinct, room⟩
    rw [same] at room
    exact ⟨distinct, room⟩
  · intro ⟨distinct, room⟩
    rw [Nat.mod_eq_of_lt (by omega)]
    exact ⟨rfl, distinct, room⟩

end Primitives

section Entries

variable {outside : ε} {array : ArrayType} {index : Nat → Nat} {entry : Writes ε → α → Writes ε} {list : List α}

theorem within_id {count : Nat} : Within array id count ↔ count ≤ array.capacity := by
  constructor
  · intro within
    by_contra beyond
    exact absurd (within array.capacity (by omega)) (by simp)
  · intro room earlier early
    simp only [id_eq]
    omega

theorem within_mod {count width : Nat} (positive : 0 < width) :
    Within array (· % width) count ↔ count ≤ array.capacity ∨ width ≤ array.capacity := by
  -- A counter that starts again is inside for ever once it came round.
  constructor
  · intro within
    by_contra! beyond
    have bad : array.capacity % width < array.capacity := within array.capacity (by omega)
    rw [Nat.mod_eq_of_lt (by omega)] at bad
    omega
  · intro room earlier early
    have small := Nat.mod_lt earlier positive
    have less := Nat.mod_le earlier width
    simp only
    omega

theorem nodup_mod {count width : Nat} (positive : 0 < width) :
    ((List.range count).map (· % width)).Nodup ↔ count ≤ width := by
  rw [List.nodup_map_iff_inj_on List.nodup_range]
  constructor
  · intro distinct
    by_contra beyond
    have same := distinct 0 (by simp; omega) width (by simp; omega) (by simp)
    omega
  · intro few first early second later same
    rw [List.mem_range] at early later
    rwa [Nat.mod_eq_of_lt (by omega), Nat.mod_eq_of_lt (by omega)] at same

theorem entries_within (within : Within array index list.length) :
    entries outside array index entry list = inOrder (list.map (entry (.ok []))) := by
  -- Inside the array the access to a place never stops an entry.
  rw [entries]
  congr 1
  apply List.ext_getElem (by simp)
  intro count inside _
  rw [List.length_mapIdx] at inside
  simp [require, within count inside]

theorem throws_mapIdx {part : Nat → α → Writes ε} :
    Throws thrown (inOrder (list.mapIdx part)) ↔
      ∃ before a after, list = before ++ a :: after ∧
        (∀ count b, before[count]? = some b → Finishes (part count b)) ∧
        Throws thrown (part before.length a) := by
  induction list generalizing part with
  | nil => simp
  | cons first rest hyp =>
      rw [List.mapIdx_cons, throws_cons, hyp]
      constructor
      · rintro (throws | ⟨finishes, before, a, after, same, earlier, throws⟩)
        · exact ⟨[], first, rest, rfl, by simp, throws⟩
        · refine ⟨first :: before, a, after, by simp [same], ?_, throws⟩
          intro count b found
          cases count with
          | zero =>
              cases found
              exact finishes
          | succ count => exact earlier count b found
      · intro ⟨before, a, after, same, earlier, throws⟩
        cases before with
        | nil =>
            cases same
            exact .inl throws
        | cons head before =>
            cases same
            exact .inr ⟨earlier 0 _ rfl, before, a, after, rfl, fun count b found => earlier (count + 1) b found,
              throws⟩

theorem throws_mapIdx_of {part : Nat → α → Writes ε} {before after : List α} {a : α}
    (earlier : ∀ count b, before[count]? = some b → Finishes (part count b) ∨ Throws thrown (part count b))
    (throws : Throws thrown (part before.length a)) :
    Throws thrown (inOrder ((before ++ a :: after).mapIdx part)) := by
  induction before generalizing part with
  | nil =>
      rw [List.nil_append, List.mapIdx_cons, throws_cons]
      exact .inl throws
  | cons first before hyp =>
      rw [List.cons_append, List.mapIdx_cons, throws_cons]
      rcases earlier 0 first rfl with finishes | thrown
      · exact .inr ⟨finishes, hyp (fun count b found => earlier (count + 1) b found) throws⟩
      · exact .inl thrown

variable {fits : α → Prop}

theorem checks_fill (outside : ε) (room : list.length ≤ array.capacity) (within : Within array index list.length)
    (distinct : ((List.range list.length).map index).Nodup)
    (checks : ∀ a ∈ list, Checks thrown (fits a) (entry (.ok []) a)) :
    Checks thrown (∀ a ∈ list, fits a) (fill outside array index entry list) := by
  rw [fill, entries_within within]
  have left : Checks thrown True (leave array ((List.range list.length).map index) list.length) :=
    .inl ⟨trivial, (sound_leave_map index).mpr ⟨distinct, room⟩⟩
  exact ((checks_inOrder list checks).cons (left.cons checks_nil)).mono (by simp)

theorem throws_fill :
    Throws thrown (fill outside array index entry list) ↔
      Throws thrown (entries outside array index entry list) := by
  simp [fill, throws_cons]

theorem sound_fill :
    Sound (fill outside array index entry list) ↔
      Sound (entries outside array index entry list) ∧
        Sound (leave array ((List.range list.length).map index) list.length : Writes ε) := by
  simp [fill]

end Entries

section Placed

theorem checks_placed {fits : Prop} {inner : α → Writes ε} {a : α} (checks : Checks thrown fits (inner a)) :
    Checks thrown fits (placed inner (.ok []) a) :=
  (checks_nil.cons (checks.cons checks_nil)).mono (by simp)

variable {outside : ε} {array : ArrayType} {index : Nat → Nat} {inner : α → Writes ε} {list : List α}

theorem sound_placed {condition : Prop} [Decidable condition] {a : α} :
    Sound (placed inner (require outside condition) a) ↔ condition ∧ Sound (inner a) := by
  simp [placed]

theorem finishes_placed {condition : Prop} [Decidable condition] {a : α} :
    Finishes (placed inner (require outside condition) a) ↔ condition ∧ Finishes (inner a) := by
  simp [placed]

theorem throws_placed {condition : Prop} [Decidable condition] {a : α} (fault : ¬thrown outside) :
    Throws thrown (placed inner (require outside condition) a) ↔ condition ∧ Throws thrown (inner a) := by
  simp [placed, throws_cons, fault]

theorem sound_entries_placed :
    Sound (entries outside array index (placed inner) list) ↔
      Within array index list.length ∧ ∀ a ∈ list, Sound (inner a) := by
  simp only [entries, sound_inOrder, List.mem_mapIdx]
  constructor
  · intro sound
    have each count (inside : count < list.length) := sound_placed.mp (sound _ ⟨count, inside, rfl⟩)
    refine ⟨fun count inside => (each count inside).1, fun a member => ?_⟩
    obtain ⟨count, inside, rfl⟩ := List.getElem_of_mem member
    exact (each count inside).2
  · rintro ⟨within, sound⟩ _ ⟨count, inside, rfl⟩
    exact sound_placed.mpr ⟨within count inside, sound _ (List.getElem_mem inside)⟩

theorem within_of_finishes (finishes : Finishes (fill outside array index (placed inner) list)) :
    Within array index list.length := by
  rw [fill, finishes_inOrder, List.forall_mem_cons, entries, finishes_inOrder] at finishes
  intro count inside
  exact (finishes_placed.mp (finishes.1 _ (List.mem_mapIdx.mpr ⟨count, inside, rfl⟩))).1

theorem throws_entries_placed (fault : ¬thrown outside)
    (throws : Throws thrown (entries outside array index (placed inner) list)) :
    ∃ before a after, list = before ++ a :: after ∧ Within array index (before.length + 1) ∧
      (∀ b ∈ before, Finishes (inner b)) ∧ Throws thrown (inner a) := by
  obtain ⟨before, a, after, same, earlier, here⟩ := throws_mapIdx.mp throws
  have last := (throws_placed fault).mp here
  refine ⟨before, a, after, same, ?_, ?_, last.2⟩
  · intro count early
    by_cases first : count < before.length
    · exact (finishes_placed.mp (earlier count _ (List.getElem?_eq_getElem first))).1
    · rw [show count = before.length by omega]
      exact last.1
  · intro b member
    obtain ⟨count, inside, rfl⟩ := List.getElem_of_mem member
    exact (finishes_placed.mp (earlier count _ (List.getElem?_eq_getElem inside))).2

theorem entries_placed_throws (fault : ¬thrown outside) {before after : List α} {a : α}
    (within : Within array index (before.length + 1))
    (earlier : ∀ b ∈ before, Finishes (inner b) ∨ Throws thrown (inner b)) (throws : Throws thrown (inner a)) :
    Throws thrown (entries outside array index (placed inner) (before ++ a :: after)) := by
  refine throws_mapIdx_of (fun count b found => ?_)
    ((throws_placed fault).mpr ⟨within before.length (by omega), throws⟩)
  obtain ⟨inside, rfl⟩ := List.getElem?_eq_some_iff.mp found
  have here := within count (by omega)
  rw [finishes_placed, throws_placed fault]
  exact (earlier _ (List.getElem_mem inside)).imp (⟨here, ·⟩) (⟨here, ·⟩)

theorem entries_placed_stays (fault : ¬thrown outside) (within : Within array index list.length)
    (stays : ∀ a ∈ list, Finishes (inner a) ∨ Throws thrown (inner a)) :
    Finishes (entries outside array index (placed inner) list) ∨
      Throws thrown (entries outside array index (placed inner) list) := by
  -- Inside the array nothing but a check stops the list.
  by_cases all : ∀ a ∈ list, Finishes (inner a)
  · left
    rw [entries, finishes_inOrder]
    intro writes member
    obtain ⟨count, inside, rfl⟩ := List.mem_mapIdx.mp member
    exact finishes_placed.mpr ⟨within count inside, all _ (List.getElem_mem inside)⟩
  · simp only [not_forall] at all
    obtain ⟨a, member, unfinished⟩ := all
    obtain ⟨before, after, rfl⟩ := List.append_of_mem member
    rw [List.length_append, List.length_cons] at within
    right
    exact entries_placed_throws fault (fun count early => within count (by omega))
      (fun b earlier => stays b (by simp [earlier])) ((stays a member).resolve_left unfinished)

end Placed

end Writes

end ArrayWrites
