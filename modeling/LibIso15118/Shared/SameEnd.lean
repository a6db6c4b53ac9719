import LibIso15118.Shared.ArrayWrites
import LibIso15118.Shared.Codec

set_option autoImplicit false

namespace ArrayWrites

open Codec

variable {ε α β γ : Type}

/-- Both finish, or both stop with the same failure. -/
def SameEnd (conversion : Except ε β) (writes : Writes ε) : Prop :=
  match conversion, writes with
  | .ok _, .ok _ => True
  | .error e, .error failure => e = failure
  | .ok _, .error _ | .error _, .ok _ => False

namespace SameEnd

open Writes

variable {x : Except ε β} {f : β → Except ε γ} {first : Writes ε} {rest : List (Writes ε)}

theorem failure {writes : Writes ε} (same : SameEnd x writes) {e : ε} (failed : x = .error e) :
    writes = .error e := by
  subst failed
  cases writes with
  | ok filled => exact same.elim
  | error other =>
      cases same
      rfl

@[simp] theorem pure (b : β) : SameEnd (Pure.pure b) (inOrder [] : Writes ε) := trivial

theorem of_ok {writes : Writes ε} {b : β} (converted : x = .ok b) (finishes : Finishes writes) :
    SameEnd x writes := by
  subst converted
  cases writes with
  | ok filled => trivial
  | error e => exact finishes.elim

theorem cons_ok {filled : List Filled} :
    SameEnd x (inOrder (.ok filled :: rest)) ↔ SameEnd x (inOrder rest) := by
  cases x <;> cases result : inOrder rest <;>
    simp [inOrder, result, SameEnd, Bind.bind, Except.bind, Pure.pure, Except.pure]

theorem bind (same : SameEnd x first) (next : ∀ b, SameEnd (f b) (inOrder rest)) :
    SameEnd (x >>= f) (inOrder (first :: rest)) := by
  cases x with
  | error e =>
      rw [same.failure rfl]
      rfl
  | ok b =>
      cases first with
      | error e => exact same.elim
      | ok filled => exact cons_ok.mpr (next b)

theorem map (same : SameEnd x first) (f : β → γ) : SameEnd (x >>= fun b => Pure.pure (f b)) first := by
  cases x <;> cases first <;> exact same

theorem single (same : SameEnd x first) : SameEnd x (inOrder [first]) := by
  have whole := same.bind (f := Pure.pure) fun b => pure b
  simpa using whole

theorem skip (finishes : Finishes first) (same : SameEnd x (inOrder rest)) :
    SameEnd x (inOrder (first :: rest)) := by
  cases first with
  | error e => exact finishes.elim
  | ok filled => exact cons_ok.mpr same

theorem checked {e : ε} {refused condition : Prop} [Decidable refused] [Decidable condition]
    (opposite : refused ↔ ¬condition) (same : condition → SameEnd x (inOrder rest)) :
    SameEnd (if refused then .error e else x) (inOrder (require e condition :: rest)) := by
  by_cases holds : condition
  · rw [if_neg (by simpa [opposite] using holds)]
    exact skip (finishes_require.mpr holds) (same holds)
  · rw [if_pos (opposite.mpr holds)]
    simp only [require, holds, ↓reduceIte]
    rfl

theorem store {capacity : Nat} {array : ArrayType} {index : Nat → Nat} {outside : ε}
    {write : α → β → Except ε β} {entry : Writes ε → α → Writes ε} (sized : array.capacity = capacity)
    (counted : ∀ count ≤ capacity, index count = count) (list : List α) (start : Nat) (held : Vector β capacity)
    (begun : start ≤ capacity) (inner : ∀ a ∈ list, ∀ out, SameEnd (write a out) (entry (.ok []) a))
    (first : start + list.length ≤ capacity ∨ ∀ a ∈ list, entry (.error outside) a = .error outside) :
    SameEnd (Bounded.store outside write list start held)
      (inOrder (list.mapIdx fun count a => entry (require outside (index (start + count) < array.capacity)) a)) := by
  -- The index may be counted in any way that is right up to the place behind the last one.
  induction list generalizing start held with
  | nil => exact pure held
  | cons a list hyp =>
      rw [List.length_cons] at first
      rw [List.forall_mem_cons] at inner
      simp only [List.mapIdx_cons, Bounded.store, Nat.add_zero, counted start begun, sized]
      by_cases inside : start < capacity
      · rw [dif_pos inside]
        have place : (require outside (start < capacity) : Writes ε) = .ok [] := by simp [require, inside]
        rw [place]
        refine (inner.1 held[start]).bind fun b => ?_
        have later := hyp (start + 1) (held.set start b) (by omega) inner.2
          (first.imp (by omega) fun places a member => places a (List.mem_cons_of_mem _ member))
        simpa only [sized, Nat.add_assoc, Nat.add_comm 1] using later
      · -- Behind the last entry both stop.
        have place : (require outside (start < capacity) : Writes ε) = .error outside := by
          simp [require, inside]
        have stops := (first.resolve_left (by omega)) a List.mem_cons_self
        rw [dif_neg inside, place, stops]
        rfl

theorem entries {capacity : Nat} {array : ArrayType} {index : Nat → Nat} {outside : ε}
    {write : α → β → Except ε β} {entry : Writes ε → α → Writes ε} (sized : array.capacity = capacity)
    (counted : ∀ count ≤ capacity, index count = count) (list : List α) (held : Vector β capacity)
    (inner : ∀ a ∈ list, ∀ out, SameEnd (write a out) (entry (.ok []) a))
    (first : list.length ≤ capacity ∨ ∀ a ∈ list, entry (.error outside) a = .error outside) :
    SameEnd (Bounded.store outside write list 0 held) (Writes.entries outside array index entry list) := by
  have stored := store sized counted list 0 held (Nat.zero_le _) inner (by simpa using first)
  simpa [Writes.entries] using stored

theorem fill {capacity places : Nat} {array : ArrayType} {index : Nat → Nat} {outside : ε}
    {write : α → β → Except ε β} {entry : Writes ε → α → Writes ε} {written : List Nat}
    (sized : array.capacity = capacity) (counted : ∀ count ≤ capacity, index count = count) (list : List α)
    (out : Bounded capacity β) (inner : ∀ a ∈ list, ∀ out, SameEnd (write a out) (entry (.ok []) a))
    (first : list.length ≤ capacity ∨ ∀ a ∈ list, entry (.error outside) a = .error outside) :
    SameEnd (Bounded.fill outside write list out)
      (inOrder [Writes.entries outside array index entry list, leave array written places]) :=
  bind (entries sized counted list out.array inner first) fun _ => skip finishes_leave (pure _)

end SameEnd

theorem SameEnd.placed {x : Except ε β} {inner : α → Writes ε} {a : α} (same : SameEnd x (inner a)) :
    SameEnd x (Writes.placed inner (.ok []) a) :=
  .skip trivial same.single

end ArrayWrites
