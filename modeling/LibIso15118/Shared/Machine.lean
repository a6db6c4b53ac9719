import LibIso15118.Shared.Act
import Mathlib.Data.List.Induction

set_option autoImplicit false

/-!
# Runs of a machine

A machine is a family of actions, one for every input. A run records each step with the state before
it, its outputs and the state after it, so that a property of a run can speak about its past.
-/

namespace Shared

structure Step (σ ι ω : Type) where
  before : σ
  input : ι
  outputs : List ω
  after : σ

namespace Machine

variable {σ ι ω ε : Type} (act : ι → Act σ ω ε Unit)

def stepOf (s : σ) (i : ι) : Step σ ι ω := ⟨s, i, (act i s).log, (act i s).state⟩

def steps : σ → List ι → List (Step σ ι ω)
  | _, [] => []
  | s, i :: rest => stepOf act s i :: steps (act i s).state rest

def final : σ → List ι → σ
  | s, [] => s
  | s, i :: rest => final (act i s).state rest

@[simp] theorem stepOf_before (s : σ) (i : ι) : (stepOf act s i).before = s := rfl
@[simp] theorem stepOf_input (s : σ) (i : ι) : (stepOf act s i).input = i := rfl
@[simp] theorem stepOf_outputs (s : σ) (i : ι) : (stepOf act s i).outputs = (act i s).log := rfl
@[simp] theorem stepOf_after (s : σ) (i : ι) : (stepOf act s i).after = (act i s).state := rfl

theorem final_append (s : σ) (is js : List ι) :
    final act s (is ++ js) = final act (final act s is) js := by
  induction is generalizing s with
  | nil => rfl
  | cons i rest hyp => exact hyp _

theorem steps_append (s : σ) (is js : List ι) :
    steps act s (is ++ js) = steps act s is ++ steps act (final act s is) js := by
  induction is generalizing s with
  | nil => rfl
  | cons i rest hyp => simp only [List.cons_append, steps, final, hyp]

/-- Induction over a run: `motive` sees the steps so far and the state they lead to. -/
theorem run_induction (s : σ) {motive : List (Step σ ι ω) → σ → Prop} (start : motive [] s)
    (step : ∀ past state i, motive past state →
      motive (past ++ [stepOf act state i]) (act i state).state) (is : List ι) :
    motive (steps act s is) (final act s is) := by
  induction is using List.reverseRecOn with
  | nil => exact start
  | append_singleton is i hyp =>
      rw [steps_append, final_append]
      exact step _ _ i hyp

theorem run_invariant (s : σ) (inv : List (Step σ ι ω) → σ → Prop) (ok : List (Step σ ι ω) → Prop)
    (shorter : ∀ past record, ok (past ++ [record]) → ok past) (start : inv [] s)
    (step : ∀ past state i, ok (past ++ [stepOf act state i]) → inv past state →
      inv (past ++ [stepOf act state i]) (act i state).state)
    (is : List ι) (okRun : ok (steps act s is)) : inv (steps act s is) (final act s is) := by
  -- An invariant of the steps so far and the state they lead to, in a run whose histories are all
  -- `ok`.
  refine run_induction act s (motive := fun past state => ok past → inv past state) (fun _ => start) ?_
    is okRun
  intro past state i hyp okPast
  exact step past state i okPast (hyp (shorter _ _ okPast))

theorem steps_inputs (s : σ) (is : List ι) : (steps act s is).map (·.input) = is := by
  induction is generalizing s with
  | nil => rfl
  | cons i rest hyp => simp only [steps, List.map_cons, hyp, stepOf_input]

theorem split_of_steps {s : σ} {is : List ι} {past future : List (Step σ ι ω)} {record : Step σ ι ω}
    (split : steps act s is = past ++ record :: future) :
    ∃ before i after, is = before ++ i :: after ∧ past = steps act s before ∧
      record = stepOf act (final act s before) i := by
  induction past generalizing s is with
  | nil =>
      cases is with
      | nil => simp [steps] at split
      | cons i rest =>
          obtain ⟨rfl, -⟩ := List.cons.inj split
          exact ⟨[], i, rest, rfl, rfl, rfl⟩
  | cons first past hyp =>
      cases is with
      | nil => simp [steps] at split
      | cons i rest =>
          obtain ⟨rfl, later⟩ := List.cons.inj split
          obtain ⟨before, j, after, rfl, rfl, rfl⟩ := hyp later
          exact ⟨i :: before, j, after, rfl, rfl, rfl⟩

theorem future_of_steps {s : σ} {is : List ι} {past future : List (Step σ ι ω)} {record : Step σ ι ω}
    (split : steps act s is = past ++ record :: future) :
    ∃ before i after, is = before ++ i :: after ∧ past = steps act s before ∧
      record = stepOf act (final act s before) i ∧ future = steps act record.after after := by
  obtain ⟨before, i, after, rfl, rfl, rfl⟩ := split_of_steps act split
  refine ⟨before, i, after, rfl, rfl, rfl, ?_⟩
  rw [steps_append] at split
  exact (List.cons.inj (List.append_cancel_left split)).2.symm

theorem ok_of_append {ok : List (Step σ ι ω) → Prop}
    (shorter : ∀ past record, ok (past ++ [record]) → ok past) {past future : List (Step σ ι ω)}
    (okAll : ok (past ++ future)) : ok past := by
  induction future using List.reverseRecOn with
  | nil => simpa using okAll
  | append_singleton future record hyp =>
      rw [← List.append_assoc] at okAll
      exact hyp (shorter _ _ okAll)

/-- What every step of a run does, from an invariant of the steps before it. -/
theorem run_always (s : σ) (inv : List (Step σ ι ω) → σ → Prop) (ok : List (Step σ ι ω) → Prop)
    (prop : List (Step σ ι ω) → Step σ ι ω → Prop)
    (shorter : ∀ past record, ok (past ++ [record]) → ok past) (start : inv [] s)
    (step : ∀ past state i, ok (past ++ [stepOf act state i]) → inv past state →
      inv (past ++ [stepOf act state i]) (act i state).state)
    (does : ∀ past state i, ok (past ++ [stepOf act state i]) → inv past state →
      prop past (stepOf act state i))
    (is : List ι) (okRun : ok (steps act s is)) {past future : List (Step σ ι ω)}
    {record : Step σ ι ω} (split : steps act s is = past ++ record :: future) : prop past record := by
  have okAll : ok ((past ++ [record]) ++ future) := by simpa [split] using okRun
  have okHere : ok (past ++ [record]) := ok_of_append shorter okAll
  obtain ⟨before, i, after, rfl, rfl, rfl⟩ := split_of_steps act split
  exact does _ _ i okHere (run_invariant act s inv ok shorter start step before (shorter _ _ okHere))

/-- The histories whose steps are all `good`. -/
def All (good : Step σ ι ω → Prop) (past : List (Step σ ι ω)) : Prop := ∀ record ∈ past, good record

theorem All.shorter {good : Step σ ι ω → Prop} (past : List (Step σ ι ω)) (record : Step σ ι ω)
    (all : All good (past ++ [record])) : All good past :=
  fun other member => all other (List.mem_append_left _ member)

theorem All.last {good : Step σ ι ω → Prop} {past : List (Step σ ι ω)} {record : Step σ ι ω}
    (all : All good (past ++ [record])) : good record :=
  all record (List.mem_append_right _ (List.mem_singleton_self _))

theorem exists_split_of_mem {s : σ} {is : List ι} {record : Step σ ι ω}
    (member : record ∈ steps act s is) :
    ∃ past i future, is = past ++ i :: future ∧ record = stepOf act (final act s past) i := by
  induction is generalizing s with
  | nil => simp [steps] at member
  | cons i rest hyp =>
      rcases List.mem_cons.mp member with here | later
      · exact ⟨[], i, rest, rfl, here⟩
      · obtain ⟨past, j, future, split, eq⟩ := hyp later
        exact ⟨i :: past, j, future, by rw [split]; rfl, eq⟩

end Machine

end Shared
