import Mathlib.Logic.Basic

set_option autoImplicit false

/-!
# Actions with state, a log and exceptions

An action runs on a state and may throw. What it has changed and logged up to the throw stays
changed and logged, as it does for a C++ member function that lets an exception pass.
-/

namespace Shared

structure Outcome (σ ω ε α : Type) where
  result : Except ε α
  state : σ
  log : List ω

def Act (σ ω ε α : Type) : Type := σ → Outcome σ ω ε α

namespace Act

variable {σ ω ε α β : Type}

def pure (a : α) : Act σ ω ε α := fun s => ⟨.ok a, s, []⟩

def bind (m : Act σ ω ε α) (f : α → Act σ ω ε β) : Act σ ω ε β := fun s =>
  match (m s).result with
  | .ok a =>
      let next := f a (m s).state
      ⟨next.result, next.state, (m s).log ++ next.log⟩
  | .error e => ⟨.error e, (m s).state, (m s).log⟩

instance : Monad (Act σ ω ε) where
  pure := pure
  bind := bind

def get : Act σ ω ε σ := fun s => ⟨.ok s, s, []⟩

def modify (f : σ → σ) : Act σ ω ε Unit := fun s => ⟨.ok (), f s, []⟩

def emit (o : ω) : Act σ ω ε Unit := fun s => ⟨.ok (), s, [o]⟩

def throw (e : ε) : Act σ ω ε α := fun s => ⟨.error e, s, []⟩

/-- `try` and `catch`: the handler runs on the state that `m` has left. -/
def tryCatch (m : Act σ ω ε α) (handler : ε → Act σ ω ε α) : Act σ ω ε α := fun s =>
  match (m s).result with
  | .ok _ => m s
  | .error e =>
      let caught := handler e (m s).state
      ⟨caught.result, caught.state, (m s).log ++ caught.log⟩

/-- What holds of the result, the state and the log that `m` ends with when it runs on `s`. -/
def wp (m : Act σ ω ε α) (post : Except ε α → σ → List ω → Prop) (s : σ) : Prop :=
  post (m s).result (m s).state (m s).log

@[simp] theorem pure_apply (a : α) (s : σ) :
    (Pure.pure a : Act σ ω ε α) s = ⟨.ok a, s, []⟩ := rfl

theorem bind_apply (m : Act σ ω ε α) (f : α → Act σ ω ε β) (s : σ) :
    (m >>= f) s =
      match (m s).result with
      | .ok a => ⟨(f a (m s).state).result, (f a (m s).state).state,
          (m s).log ++ (f a (m s).state).log⟩
      | .error e => ⟨.error e, (m s).state, (m s).log⟩ := rfl

@[simp] theorem get_apply (s : σ) : (get : Act σ ω ε σ) s = ⟨.ok s, s, []⟩ := rfl

@[simp] theorem modify_apply (f : σ → σ) (s : σ) :
    (modify f : Act σ ω ε Unit) s = ⟨.ok (), f s, []⟩ := rfl

@[simp] theorem emit_apply (o : ω) (s : σ) : (emit o : Act σ ω ε Unit) s = ⟨.ok (), s, [o]⟩ := rfl

@[simp] theorem throw_apply (e : ε) (s : σ) :
    (throw e : Act σ ω ε α) s = ⟨.error e, s, []⟩ := rfl

theorem get_bind (f : σ → Act σ ω ε α) (s : σ) : (get >>= f) s = f s s := rfl

theorem modify_bind (f : σ → σ) (g : Unit → Act σ ω ε α) (s : σ) : (modify f >>= g) s = g () (f s) := rfl

theorem bind_assoc {γ : Type} (m : Act σ ω ε α) (f : α → Act σ ω ε β) (g : β → Act σ ω ε γ) :
    m >>= f >>= g = m >>= fun a => f a >>= g := by
  funext s
  simp only [bind_apply]
  cases (m s).result with
  | error e => rfl
  | ok a => cases next : (f a (m s).state).result <;> simp [next]

theorem log_bind (m : Act σ ω ε α) (f : α → Act σ ω ε β) (s : σ) :
    ∃ rest, ((m >>= f) s).log = (m s).log ++ rest := by
  rw [bind_apply]
  split
  · exact ⟨_, rfl⟩
  · exact ⟨[], (List.append_nil _).symm⟩

section WeakestPrecondition

variable (post : Except ε α → σ → List ω → Prop) (s : σ)

theorem wp_iff (m : Act σ ω ε α) : wp m post s ↔ post (m s).result (m s).state (m s).log := Iff.rfl

theorem wp_mono {m : Act σ ω ε α} {post' : Except ε α → σ → List ω → Prop}
    (holds : wp m post s) (weaker : ∀ result state log, post result state log → post' result state log) :
    wp m post' s := weaker _ _ _ holds

theorem wp_and {m : Act σ ω ε α} {post' : Except ε α → σ → List ω → Prop} (holds : wp m post s)
    (holds' : wp m post' s) :
    wp m (fun result state log => post result state log ∧ post' result state log) s := ⟨holds, holds'⟩

@[simp] theorem wp_pure (a : α) : wp (Pure.pure a : Act σ ω ε α) post s ↔ post (.ok a) s [] := Iff.rfl

@[simp] theorem wp_bind (m : Act σ ω ε β) (f : β → Act σ ω ε α) :
    wp (m >>= f) post s ↔
      wp m (fun result state log =>
        match result with
        | .ok b => wp (f b) (fun result' state' log' => post result' state' (log ++ log')) state
        | .error e => post (.error e) state log) s := by
  simp only [wp, bind_apply]
  cases (m s).result <;> rfl

@[simp] theorem wp_throw (e : ε) :
    wp (throw e : Act σ ω ε α) post s ↔ post (.error e) s [] := Iff.rfl

@[simp] theorem wp_ite (c : Prop) [Decidable c] (m n : Act σ ω ε α) :
    wp (if c then m else n) post s ↔ (c → wp m post s) ∧ (¬c → wp n post s) := by
  by_cases h : c <;> simp [h]

end WeakestPrecondition

@[simp] theorem wp_get (post : Except ε σ → σ → List ω → Prop) (s : σ) :
    wp get post s ↔ post (.ok s) s [] := Iff.rfl

@[simp] theorem wp_modify (f : σ → σ) (post : Except ε Unit → σ → List ω → Prop) (s : σ) :
    wp (modify f) post s ↔ post (.ok ()) (f s) [] := Iff.rfl

@[simp] theorem wp_emit (o : ω) (post : Except ε Unit → σ → List ω → Prop) (s : σ) :
    wp (emit o) post s ↔ post (.ok ()) s [o] := Iff.rfl

/-- `R` relates the state before the action to the state and the log it leaves, also when it throws. -/
def Keeps (R : σ → σ → List ω → Prop) (m : Act σ ω ε α) : Prop := ∀ s, R s (m s).state (m s).log

section Keeps

variable {R : σ → σ → List ω → Prop}

theorem Keeps.pure (refl : ∀ s, R s s []) (a : α) : Keeps R (Pure.pure a : Act σ ω ε α) := refl

theorem Keeps.throw (refl : ∀ s, R s s []) (e : ε) : Keeps R (Act.throw e : Act σ ω ε α) := refl

theorem Keeps.get (refl : ∀ s, R s s []) : Keeps R (Act.get : Act σ ω ε σ) := refl

/-- The second action is needed only on the state that the first one leaves. -/
theorem relates_bind (trans : ∀ {s t u l l'}, R s t l → R t u l' → R s u (l ++ l'))
    {m : Act σ ω ε α} {f : α → Act σ ω ε β} {s : σ} (first : R s (m s).state (m s).log)
    (next : ∀ a, R (m s).state (f a (m s).state).state (f a (m s).state).log) :
    R s ((m >>= f) s).state ((m >>= f) s).log := by
  rw [bind_apply]
  cases result : (m s).result with
  | ok a => exact trans first (next a)
  | error e => exact first

theorem Keeps.bind (trans : ∀ {s t u l l'}, R s t l → R t u l' → R s u (l ++ l'))
    {m : Act σ ω ε α} {f : α → Act σ ω ε β} (first : Keeps R m) (next : ∀ a, Keeps R (f a)) :
    Keeps R (m >>= f) := fun s => relates_bind trans (first s) fun a => next a _

theorem Keeps.ite {c : Prop} [Decidable c] {m n : Act σ ω ε α} (yes : c → Keeps R m)
    (no : ¬c → Keeps R n) : Keeps R (if c then m else n) := by
  by_cases h : c
  · simpa only [h, if_true] using yes h
  · simpa only [h, if_false] using no h

theorem Keeps.tryCatch (trans : ∀ {s t u l l'}, R s t l → R t u l' → R s u (l ++ l'))
    {m : Act σ ω ε α} {handler : ε → Act σ ω ε α} (first : Keeps R m) (caught : ∀ e, Keeps R (handler e)) :
    Keeps R (tryCatch m handler) := by
  intro s
  have before := first s
  rw [Act.tryCatch]
  cases result : (m s).result with
  | ok a => exact before
  | error e => exact trans before (caught e _)

end Keeps

/-- `R` relates the state before the action to what it leaves when it returns. -/
def Ensures (R : σ → σ → List ω → Prop) (m : Act σ ω ε α) : Prop :=
  ∀ s a, (m s).result = .ok a → R s (m s).state (m s).log

theorem Keeps.ensures {R : σ → σ → List ω → Prop} {m : Act σ ω ε α} (keeps : Keeps R m) : Ensures R m :=
  fun s _ _ => keeps s

structure Closed (K : ∀ {α : Type}, Act σ ω ε α → Prop) : Prop where
  pure : ∀ {α : Type} (a : α), K (Pure.pure a : Act σ ω ε α)
  throw : ∀ {α : Type} (e : ε), K (Act.throw e : Act σ ω ε α)
  get : K (Act.get : Act σ ω ε σ)
  bind : ∀ {α β : Type} {m : Act σ ω ε α} {f : α → Act σ ω ε β}, K m → (∀ a, K (f a)) → K (m >>= f)

theorem Closed.ite {K : ∀ {α : Type}, Act σ ω ε α → Prop} {c : Prop} [Decidable c] {m n : Act σ ω ε α}
    (yes : c → K m) (no : ¬c → K n) : K (if c then m else n) := by
  by_cases h : c
  · simpa only [h, if_true] using yes h
  · simpa only [h, if_false] using no h

section Closed

variable {R : σ → σ → List ω → Prop} (refl : ∀ s, R s s [])
  (trans : ∀ {s t u l l'}, R s t l → R t u l' → R s u (l ++ l'))
include refl trans

theorem Keeps.closed : Closed (ε := ε) fun m => Keeps R m where
  pure := .pure refl
  throw := .throw refl
  get := .get refl
  bind := .bind trans

theorem Ensures.closed : Closed (ε := ε) fun m => Ensures R m where
  pure _ s _ _ := refl s
  throw _ _ _ returned := absurd returned (by simp)
  get s _ _ := refl s
  bind {α β m f} first next s a returned := by
    rw [bind_apply] at returned ⊢
    cases result : (m s).result with
    | error e => simp [result] at returned
    | ok b =>
        simp only [result] at returned ⊢
        exact trans (first s b result) (next b _ a returned)

end Closed

section Ignores

variable {ρ : Type} (put : ρ → σ → σ)

/-- The action neither looks at the part of the state that `put` writes nor changes it. -/
def Ignores (m : Act σ ω ε α) : Prop :=
  ∀ r s, m (put r s) = ⟨(m s).result, put r (m s).state, (m s).log⟩

namespace Ignores

variable {put}

theorem pure (a : α) : Ignores put (Pure.pure a : Act σ ω ε α) := fun _ _ => rfl

theorem throw (e : ε) : Ignores put (Act.throw e : Act σ ω ε α) := fun _ _ => rfl

theorem emit (o : ω) : Ignores put (Act.emit o : Act σ ω ε Unit) := fun _ _ => rfl

theorem modify {f : σ → σ} (commutes : ∀ r s, f (put r s) = put r (f s)) :
    Ignores put (Act.modify f : Act σ ω ε Unit) := by
  intro r s
  rw [modify_apply, modify_apply, commutes r s]

theorem bind {m : Act σ ω ε α} {f : α → Act σ ω ε β} (first : Ignores put m) (next : ∀ a, Ignores put (f a)) :
    Ignores put (m >>= f) := by
  intro r s
  rw [bind_apply, bind_apply, first r s]
  cases (m s).result with
  | error e => rfl
  | ok a =>
      dsimp only
      rw [next a r (m s).state]

theorem get_bind {f : σ → Act σ ω ε α} (same : ∀ r s, f (put r s) = f s) (next : ∀ s, Ignores put (f s)) :
    Ignores put (Act.get >>= f) := by
  intro r s
  rw [Act.get_bind, Act.get_bind, same r s]
  exact next s r s

theorem ite {c : Prop} [Decidable c] {m n : Act σ ω ε α} (yes : c → Ignores put m) (no : ¬c → Ignores put n) :
    Ignores put (if c then m else n) := by
  by_cases h : c
  · simpa only [h, if_true] using yes h
  · simpa only [h, if_false] using no h

end Ignores

end Ignores

end Act

end Shared
