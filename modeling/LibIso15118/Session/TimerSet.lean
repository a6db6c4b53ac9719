import LibIso15118.D20.Timeout
import Mathlib.Data.List.DropRight

set_option autoImplicit false

namespace LibIso15118.Timeouts

/-- A call of the class; a start reads the clock. -/
inductive Call where
  | start (now : TimePoint) (type : TimeoutType) (timeoutMs : Nat)
  | stop (type : TimeoutType)
  | reset (type : TimeoutType)

def Call.now? : Call → Option TimePoint
  | .start now _ _ => some now
  | _ => none

def call (timeouts : Timeouts) : Call → Timeouts
  | .start now type timeoutMs => timeouts.startTimeout now type timeoutMs
  | .stop type => timeouts.stopTimeout type
  | .reset type => timeouts.resetTimeout type

def after (calls : List Call) : Timeouts := calls.foldl call {}

def Call.starts? (type : TimeoutType) : Call → Option TimePoint
  | .start now other timeoutMs => if other = type then some (offsetTimePointByMs now timeoutMs) else none
  | _ => none

def Call.halts (type : TimeoutType) : Call → Bool
  | .stop other | .reset other => other = type
  | _ => false

def armed (calls : List Call) (type : TimeoutType) : Option TimePoint :=
  (calls.rtakeWhile fun call => !call.halts type).findSome? (·.starts? type)

theorem call_deadline (timeouts : Timeouts) (next : Call) (type : TimeoutType) :
    (timeouts.call next).deadline type =
      if next.halts type then none else (timeouts.deadline type).or (next.starts? type) := by
  cases next with
  | start now other timeoutMs =>
      by_cases same : other = type
      · subst same
        cases running : timeouts.deadline other <;>
          simp [call, startTimeout, Call.halts, Call.starts?, running]
      · simp [call, Call.halts, Call.starts?, same, startTimeout_of_ne _ _ _ (Ne.symm same)]
  | stop other => simp [call, Call.halts, Call.starts?, eq_comm (a := type) (b := other)]
  | reset other => simp [call, resetTimeout, Call.halts, Call.starts?, eq_comm (a := type) (b := other)]

theorem after_deadline (calls : List Call) (type : TimeoutType) :
    (after calls).deadline type = armed calls type := by
  induction calls using List.reverseRecOn with
  | nil => rfl
  | append_singleton calls next hyp =>
      rw [after, List.foldl_concat, call_deadline, armed, List.rtakeWhile_concat]
      by_cases halts : next.halts type = true
      · simp [halts]
      · have kept : (calls.foldl call {}).deadline type = armed calls type := hyp
        rw [kept]
        simp [halts, List.findSome?_append, armed]

section Map

variable {point : TimePoint} {type : TimeoutType} {entries : List (TimePoint × TimeoutType)}

theorem mem_insertByDeadline (sorted : (entries.map Prod.fst).Pairwise (· < ·)) (entry : TimePoint × TimeoutType) :
    entry ∈ insertByDeadline point type entries ↔
      entry ∈ entries ∨ entry = (point, type) ∧ point ∉ entries.map Prod.fst := by
  -- A deadline that is in the map keeps its timer.
  induction entries with
  | nil => simp [insertByDeadline]
  | cons head rest hyp =>
      obtain ⟨other, otherType⟩ := head
      rw [List.map_cons, List.pairwise_cons] at sorted
      simp only [insertByDeadline]
      split
      next earlier =>
        -- the keys behind `other` are later still
        have absent : point ∉ rest.map Prod.fst := fun inside => lt_asymm earlier (sorted.1 point inside)
        have different : point ≠ other := ne_of_lt earlier
        simp only [List.mem_cons, List.map_cons, absent, different, or_self, not_false_eq_true, and_true]
        tauto
      next later =>
        split
        next same => simp [same]
        next different =>
          simp only [List.mem_cons, List.map_cons, hyp sorted.2, different, false_or]
          tauto

theorem insertByDeadline_sorted (sorted : (entries.map Prod.fst).Pairwise (· < ·)) :
    ((insertByDeadline point type entries).map Prod.fst).Pairwise (· < ·) := by
  induction entries with
  | nil => simp [insertByDeadline]
  | cons head rest hyp =>
      obtain ⟨other, otherType⟩ := head
      rw [List.map_cons, List.pairwise_cons] at sorted
      simp only [insertByDeadline]
      split
      next earlier =>
        simp only [List.map_cons, List.pairwise_cons, List.mem_cons, forall_eq_or_imp]
        exact ⟨⟨earlier, fun key inside => lt_trans earlier (sorted.1 key inside)⟩, sorted⟩
      next later =>
        split
        next same => simpa using sorted
        next different =>
          rw [List.map_cons, List.pairwise_cons]
          refine ⟨fun key inside => ?_, hyp sorted.2⟩
          obtain ⟨entry, member, rfl⟩ := List.mem_map.mp inside
          rcases (mem_insertByDeadline sorted.2 entry).mp member with old | ⟨rfl, -⟩
          · exact sorted.1 _ (List.mem_map_of_mem old)
          · exact lt_of_le_of_ne (not_lt.mp later) (Ne.symm different)

end Map

section Check

variable (timeouts : Timeouts) (clock : TimeoutType → TimePoint)

def DueAt (type : TimeoutType) (point : TimePoint) : Prop :=
  timeouts.deadline type = some point ∧ point ≤ clock type

def visit (type : TimeoutType) (reached : List (TimePoint × TimeoutType)) : List (TimePoint × TimeoutType) :=
  match timeouts.deadline type with
  | some point => if point ≤ clock type then insertByDeadline point type reached else reached
  | none => reached

def visited (types : List TimeoutType) : List (TimePoint × TimeoutType) := types.foldr (timeouts.visit clock) []

theorem check_eq :
    timeouts.check clock =
      if timeouts.visited clock [.contactor, .ongoing, .performance, .sequence] = [] then none
      else some ((timeouts.visited clock [.contactor, .ongoing, .performance, .sequence]).map Prod.snd) := rfl

theorem visited_sorted (types : List TimeoutType) :
    ((timeouts.visited clock types).map Prod.fst).Pairwise (· < ·) := by
  induction types with
  | nil => exact .nil
  | cons type rest hyp =>
      rw [visited, List.foldr_cons, ← visited, visit]
      split
      · split
        · exact insertByDeadline_sorted hyp
        · exact hyp
      · exact hyp

theorem mem_visit {type : TimeoutType} {reached : List (TimePoint × TimeoutType)}
    (sorted : (reached.map Prod.fst).Pairwise (· < ·)) (entry : TimePoint × TimeoutType) :
    entry ∈ timeouts.visit clock type reached ↔
      entry ∈ reached ∨ entry.2 = type ∧ timeouts.DueAt clock type entry.1 ∧ entry.1 ∉ reached.map Prod.fst := by
  obtain ⟨point, other⟩ := entry
  unfold visit DueAt
  cases running : timeouts.deadline type with
  | none => simp
  | some deadline =>
      by_cases reaches : deadline ≤ clock type
      · simp only [if_pos reaches, mem_insertByDeadline sorted, Prod.mk.injEq, Option.some.injEq]
        constructor
        · rintro (old | ⟨⟨rfl, rfl⟩, absent⟩)
          · exact .inl old
          · exact .inr ⟨rfl, ⟨rfl, reaches⟩, absent⟩
        · rintro (old | ⟨rfl, ⟨rfl, -⟩, absent⟩)
          · exact .inl old
          · exact .inr ⟨⟨rfl, rfl⟩, absent⟩
      · simp only [if_neg reaches, Option.some.injEq]
        constructor
        · exact .inl
        · rintro (old | ⟨-, ⟨rfl, reached⟩, -⟩)
          · exact old
          · exact absurd reached reaches

theorem visited_due {types : List TimeoutType} {entry : TimePoint × TimeoutType}
    (member : entry ∈ timeouts.visited clock types) : timeouts.DueAt clock entry.2 entry.1 := by
  induction types with
  | nil => cases member
  | cons type rest hyp =>
      rw [visited, List.foldr_cons, ← visited, mem_visit _ _ (visited_sorted _ _ rest)] at member
      rcases member with old | ⟨rfl, due, -⟩
      · exact hyp old
      · exact due

theorem visited_deadline {types : List TimeoutType} {type : TimeoutType} {point : TimePoint} (inside : type ∈ types)
    (due : timeouts.DueAt clock type point) : point ∈ (timeouts.visited clock types).map Prod.fst := by
  -- The deadline of every timer that is due is in the map, perhaps with another timer.
  induction types with
  | nil => cases inside
  | cons other rest hyp =>
      have old (known : point ∈ (timeouts.visited clock rest).map Prod.fst) :
          point ∈ (timeouts.visited clock (other :: rest)).map Prod.fst := by
        obtain ⟨entry, member, rfl⟩ := List.mem_map.mp known
        refine List.mem_map_of_mem ?_
        rw [visited, List.foldr_cons, ← visited, mem_visit _ _ (visited_sorted _ _ rest)]
        exact .inl member
      by_cases known : point ∈ (timeouts.visited clock rest).map Prod.fst
      · exact old known
      · rcases List.mem_cons.mp inside with rfl | later
        · refine List.mem_map.mpr ⟨(point, type), ?_, rfl⟩
          rw [visited, List.foldr_cons, ← visited, mem_visit _ _ (visited_sorted _ _ rest)]
          exact .inr ⟨rfl, due, known⟩
        · exact old (hyp later)

theorem eq_of_mem_visited {types : List TimeoutType} {point : TimePoint} {type other : TimeoutType}
    (member : (point, type) ∈ timeouts.visited clock types)
    (member' : (point, other) ∈ timeouts.visited clock types) : type = other := by
  have distinct := (timeouts.visited_sorted clock types).imp (fun earlier => ne_of_lt earlier)
  exact (Prod.mk.inj (List.inj_on_of_nodup_map distinct member member' rfl)).2

theorem mem_visited_of_due {types : List TimeoutType} {type : TimeoutType} {point : TimePoint}
    (inside : type ∈ (timeouts.visited clock types).map Prod.snd) (due : timeouts.DueAt clock type point) :
    (point, type) ∈ timeouts.visited clock types := by
  obtain ⟨⟨key, other⟩, member, rfl⟩ := List.mem_map.mp inside
  have same := (timeouts.visited_due clock member).1.symm.trans due.1
  rwa [← Option.some.inj same]

end Check

section History

variable (calls : List Call) (clock : TimeoutType → TimePoint)

def Due (type : TimeoutType) : Prop := ∃ point, armed calls type = some point ∧ point ≤ clock type

/-- Exactly the timers that are due, each once and by their deadlines, and nothing when there are none. -/
structure Reports (out : Option (List TimeoutType)) : Prop where
  nothing : out = none ↔ ∀ type, ¬Due calls clock type
  exact : ∀ types, out = some types → ∀ type, type ∈ types ↔ Due calls clock type
  once : ∀ types, out = some types → types.Nodup
  ordered : ∀ types, out = some types → types.Pairwise fun type other =>
    ∀ point later, armed calls type = some point → armed calls other = some later → point ≤ later

def Apart : Prop :=
  ∀ type other, Due calls clock type → Due calls clock other → armed calls type = armed calls other → type = other

theorem dueAt_iff (type : TimeoutType) (point : TimePoint) :
    (after calls).DueAt clock type point ↔ armed calls type = some point ∧ point ≤ clock type := by
  rw [DueAt, after_deadline]

/-- `check` reports the timers exactly when the deadlines that are reached differ. -/
theorem check_reports_iff : Reports calls clock ((after calls).check clock) ↔ Apart calls clock := by
  have all (type : TimeoutType) : type ∈ [TimeoutType.contactor, .ongoing, .performance, .sequence] := by
    cases type <;> decide
  rw [check_eq]
  generalize map : (after calls).visited clock [.contactor, .ongoing, .performance, .sequence] = entries
  have due {entry : TimePoint × TimeoutType} (member : entry ∈ entries) :
      armed calls entry.2 = some entry.1 ∧ entry.1 ≤ clock entry.2 :=
    (dueAt_iff calls clock _ _).mp ((after calls).visited_due clock (map ▸ member))
  have listed {type : TimeoutType} {point : TimePoint} (running : armed calls type = some point)
      (reached : point ≤ clock type) : point ∈ entries.map Prod.fst :=
    map ▸ (after calls).visited_deadline clock (all type) ((dueAt_iff calls clock _ _).mpr ⟨running, reached⟩)
  constructor
  · intro reports type other ⟨point, running, reached⟩ ⟨point', running', reached'⟩ same
    obtain rfl : point = point' := Option.some.inj (running.symm.trans (same.trans running'))
    have some : entries ≠ [] := by
      rintro rfl
      simpa using listed running reached
    rw [if_neg some] at reports
    have inside := (reports.exact _ rfl type).mpr ⟨point, running, reached⟩
    have inside' := (reports.exact _ rfl other).mpr ⟨point, running', reached'⟩
    subst map
    exact (after calls).eq_of_mem_visited clock
      ((after calls).mem_visited_of_due clock inside ((dueAt_iff calls clock _ _).mpr ⟨running, reached⟩))
      ((after calls).mem_visited_of_due clock inside' ((dueAt_iff calls clock _ _).mpr ⟨running', reached'⟩))
  · intro apart
    have sorted : (entries.map Prod.fst).Pairwise (· < ·) := map ▸ (after calls).visited_sorted clock _
    have exact (type : TimeoutType) : type ∈ entries.map Prod.snd ↔ Due calls clock type := by
      constructor
      · intro inside
        obtain ⟨entry, member, rfl⟩ := List.mem_map.mp inside
        exact ⟨entry.1, due member⟩
      · rintro ⟨point, running, reached⟩
        obtain ⟨entry, member, rfl⟩ := List.mem_map.mp (listed running reached)
        have same := apart type entry.2 ⟨_, running, reached⟩ ⟨_, due member⟩ (running.trans (due member).1.symm)
        exact same ▸ List.mem_map_of_mem member
    by_cases empty : entries = []
    · subst empty
      refine ⟨by simpa using exact, ?_, ?_, ?_⟩ <;> simp
    · rw [if_neg empty]
      refine ⟨?_, ?_, ?_, ?_⟩
      · obtain ⟨entry, member⟩ := List.exists_mem_of_ne_nil _ empty
        simp only [reduceCtorEq, false_iff, not_forall, not_not]
        exact ⟨entry.2, entry.1, due member⟩
      · rintro _ ⟨⟩
        exact exact
      · rintro _ ⟨⟩
        rw [List.Nodup, List.pairwise_map]
        refine (List.pairwise_map.mp sorted).imp_of_mem ?_
        intro entry later member member' earlier same
        have deadlines := (due member).1.symm.trans ((congrArg (armed calls) same).trans (due member').1)
        exact ne_of_lt earlier (Option.some.inj deadlines)
      · rintro _ ⟨⟩
        rw [List.pairwise_map]
        refine (List.pairwise_map.mp sorted).imp_of_mem ?_
        intro entry later member member' earlier point point' running running'
        rw [(due member).1] at running
        rw [(due member').1] at running'
        cases running
        cases running'
        exact le_of_lt earlier

/-- Two timers are due at once, and one of them is not reported. -/
theorem check_reports_shadowed :
    ¬∀ (calls : List Call) (now : TimePoint),
      ((calls.filterMap (·.now?)) ++ [now]).Pairwise (· ≤ ·) →
        Reports calls (fun _ => now) ((after calls).check fun _ => now) := by
  intro reports
  have both := reports [.start 0 .ongoing 1000, .start 0 .contactor 1000] 1000000000 (by decide)
  have listed := both.exact [.ongoing] (by decide) .contactor
  have due : Due [.start 0 .ongoing 1000, .start 0 .contactor 1000] (fun _ => 1000000000) .contactor :=
    ⟨1000000000, by decide, by decide⟩
  exact absurd (listed.mpr due) (by decide)

end History

end LibIso15118.Timeouts
