import LibIso15118.Shared.Machine

set_option autoImplicit false

namespace Shared

section Automaton

variable {θ α : Type} (next : θ → α → Option θ)

def follow (start : θ) (word : List α) : Option θ := word.foldlM next start

theorem follow_append (start : θ) (first second : List α) :
    follow next start (first ++ second) =
      (follow next start first).bind fun middle => follow next middle second :=
  List.foldlM_append

/-- The word can be read from each of some places, and leads to one of some others. -/
def Leads (before after : List θ) (word : List α) : Prop :=
  ∀ start ∈ before, ∃ stop ∈ after, follow next start word = some stop

namespace Leads

variable {next} {before middle after : List θ} {word : List α}

theorem still (within : before ⊆ after) : Leads next before after [] :=
  fun start member => ⟨start, within member, rfl⟩

theorem append {first second : List α} (begins : Leads next before middle first)
    (ends : Leads next middle after second) : Leads next before after (first ++ second) := by
  intro start member
  obtain ⟨between, inside, reads⟩ := begins start member
  obtain ⟨stop, last, reads'⟩ := ends between inside
  exact ⟨stop, last, by rw [follow_append, reads, Option.bind_some, reads']⟩

theorem mono {before' after' : List θ} (leads : Leads next before after word) (within : before' ⊆ before)
    (beyond : after ⊆ after') : Leads next before' after' word := by
  intro start member
  obtain ⟨stop, last, reads⟩ := leads start (within member)
  exact ⟨stop, beyond last, reads⟩

end Leads

end Automaton

namespace Machine

variable {σ ι ω ε θ α : Type} (act : ι → Act σ ω ε Unit) (next : θ → α → Option θ)

/-- A run keeps to the automaton if every step does, from an invariant of the states. -/
theorem run_leads (s : σ) (visible : List ω → List α) (places : σ → List θ) (inv : σ → Prop) (start : inv s)
    (step : ∀ state i, inv state → inv (act i state).state)
    (reads : ∀ state i, inv state →
      Leads next (places state) (places (act i state).state) (visible (act i state).log)) (is : List ι) :
    Leads next (places s) (places (final act s is))
      ((steps act s is).flatMap fun record => visible record.outputs) := by
  -- the invariant has to be known where each step begins, so it is carried along with the word
  suffices both : inv (final act s is) ∧ Leads next (places s) (places (final act s is))
      ((steps act s is).flatMap fun record => visible record.outputs) from both.2
  refine run_induction act s (motive := fun past state => inv state ∧ Leads next (places s) (places state)
    (past.flatMap fun record => visible record.outputs)) ⟨start, .still (List.Subset.refl _)⟩ ?_ is
  rintro past state i ⟨holds, leads⟩
  refine ⟨step state i holds, ?_⟩
  rw [List.flatMap_append, List.flatMap_singleton]
  exact leads.append (reads state i holds)

end Machine

end Shared
