import Mathlib.Data.List.Basic
import Mathlib.Data.Vector.Basic
import Mathlib.Tactic.Common

set_option autoImplicit false

/-!
# Records with flags and bounded arrays

A generated C record keeps a place for every member it may have, a flag that says whether the place is used,
and arrays of a fixed capacity with a length. A writer fills such a record over whatever it held before,
a reader takes the values out again, and either may fail.
-/

namespace Codec

variable {ε α β : Type}

/-- The computation returns exactly if the input fits, and fails in one of the ways that are meant otherwise.
What it returns has the property. -/
def Outcome (meant : ε → Prop) (fits : Prop) (P : α → Prop) : Except ε α → Prop
  | .error e => meant e ∧ ¬fits
  | .ok a => fits ∧ P a

namespace Outcome

variable {meant : ε → Prop} {fits later : Prop} {P Q : α → Prop}

@[simp] theorem pure_iff (a : α) : Outcome meant True P (Pure.pure a) ↔ P a := by
  simp [Outcome, Pure.pure, Except.pure]

theorem of_ok {a : α} (always : fits) (holds : P a) : Outcome meant fits P (.ok a) :=
  ⟨always, holds⟩

theorem bind {x : Except ε α} {f : α → Except ε β} {R : β → Prop} (first : Outcome meant fits P x)
    (next : ∀ a, P a → Outcome meant later R (f a)) : Outcome meant (fits ∧ later) R (x >>= f) := by
  cases x with
  | error e => exact ⟨first.1, fun both => first.2 both.1⟩
  | ok a =>
      change Outcome meant (fits ∧ later) R (f a)
      have rest := next a first.2
      cases result : f a with
      | error e =>
          rw [result] at rest
          exact ⟨rest.1, fun both => rest.2 both.2⟩
      | ok b =>
          rw [result] at rest
          exact ⟨⟨first.1, rest.1⟩, rest.2⟩

theorem andThen {x : Except ε α} {f : α → Except ε β} {R : β → Prop} (first : Outcome meant fits P x)
    (next : ∀ a, P a → Outcome meant True R (f a)) : Outcome meant fits R (x >>= f) := by
  have both := first.bind next
  rwa [and_true] at both

theorem mono {x : Except ε α} (first : Outcome meant fits P x) (same : fits ↔ later)
    (weaker : ∀ a, P a → Q a) : Outcome meant later Q x := by
  cases x with
  | error e => exact ⟨first.1, fun holds => first.2 (same.mpr holds)⟩
  | ok a => exact ⟨same.mp first.1, weaker a first.2⟩

theorem exists_ok {x : Except ε α} (first : Outcome meant fits P x) (holds : fits) :
    ∃ a, x = .ok a ∧ P a := by
  cases x with
  | error e => exact absurd holds first.2
  | ok a => exact ⟨a, rfl, first.2⟩

theorem checked {e : ε} {refused : Prop} [Decidable refused] {x : Except ε α} (thrown : meant e)
    (rest : ¬refused → Outcome meant fits P x) :
    Outcome meant (¬refused ∧ fits) P (if refused then .error e else x) := by
  by_cases check : refused
  · simp [Outcome, check, thrown]
  · simp [check, rest check]

end Outcome

/-- The reader returns only what is fit, and it fails in one of the ways that are meant only on what is not. -/
def Decides (meant : ε → Prop) (fits : Prop) : Except ε α → Prop
  | .error e => meant e → ¬fits
  | .ok _ => fits

namespace Decides

variable {meant : ε → Prop} {fits later : Prop}

theorem pure (a : α) : Decides meant True (Pure.pure a : Except ε α) := trivial

theorem bind {x : Except ε α} {f : α → Except ε β} (first : Decides meant fits x)
    (next : ∀ a, Decides meant later (f a)) : Decides meant (fits ∧ later) (x >>= f) := by
  cases x with
  | error e => exact fun failed both => first failed both.1
  | ok a =>
      change Decides meant (fits ∧ later) (f a)
      have rest := next a
      cases result : f a with
      | error e =>
          rw [result] at rest
          exact fun failed both => rest failed both.2
      | ok b =>
          rw [result] at rest
          exact ⟨first, rest⟩

theorem congr {x : Except ε α} (first : Decides meant fits x) (same : fits ↔ later) : Decides meant later x :=
  propext same ▸ first

theorem skip {x : Except ε α} {f : α → Except ε β} (first : Decides meant True x)
    (next : ∀ a, Decides meant fits (f a)) : Decides meant fits (x >>= f) :=
  (first.bind next).congr (by simp)

theorem andThen {x : Except ε α} {f : α → Except ε β} (first : Decides meant fits x)
    (next : ∀ a, Decides meant True (f a)) : Decides meant fits (x >>= f) :=
  (first.bind next).congr (by simp)

theorem checked {e : ε} {refused : Prop} [Decidable refused] {x : Except ε α} (rest : Decides meant fits x) :
    Decides meant (¬refused ∧ fits) (if refused then .error e else x) := by
  by_cases check : refused
  · rw [if_pos check]
    exact fun _ both => both.1 check
  · rw [if_neg check]
    exact rest.congr (by simp [check])

theorem ok_iff {x : Except ε α} (decides : Decides meant fits x) (known : ∀ e, x = .error e → meant e) :
    (∃ a, x = .ok a) ↔ fits := by
  cases x with
  | error e => simpa using decides (known e rfl)
  | ok a => exact iff_of_true ⟨a, rfl⟩ decides

end Decides

/-- What becomes of one value, whatever the record held before: it is written exactly if it fits, and then read
back exactly if it is kept. -/
def Codes (meant : ε → Prop) (write : α → β → Except ε β) (read : β → Except ε α) (fits kept : α → Prop)
    (a : α) : Prop :=
  ∀ out, Outcome meant (fits a) (fun written => read written = .ok a ↔ kept a) (write a out)

theorem Codes.of_same {meant : ε → Prop} {write : α → β → β} {read : β → α}
    (same : ∀ a out, read (write a out) = a) (a : α) :
    Codes meant (fun a out => .ok (write a out)) (fun b => .ok (read b)) (fun _ => True) (fun _ => True) a := by
  intro out
  simp [Outcome, same]

/-- The writer fails in one of the ways that are meant, or what it writes is read back. -/
def RoundTrips (meant : ε → Prop) (write : α → β → Except ε β) (read : β → Except ε α) (a : α) : Prop :=
  ∀ out, match write a out with
    | .error e => meant e
    | .ok written => read written = .ok a

theorem RoundTrips.back {failure : ε → Prop} {write : α → β → Except ε β} {read : β → Except ε α} {a : α}
    (trips : RoundTrips failure write read a) {out written : β} (result : write a out = .ok written) :
    read written = .ok a := by
  have outcome := trips out
  rwa [result] at outcome

theorem RoundTrips.failed {failure : ε → Prop} {write : α → β → Except ε β} {read : β → Except ε α} {a : α}
    (trips : RoundTrips failure write read a) {out : β} {e : ε} (result : write a out = .error e) :
    failure e := by
  have outcome := trips out
  rwa [result] at outcome

theorem Codes.roundTrips_iff {meant failure : ε → Prop} {write : α → β → Except ε β} {read : β → Except ε α}
    {fits kept : α → Prop} {a : α} [Inhabited β] (codes : Codes meant write read fits kept a)
    (shown : ∀ e, meant e → ¬fits a → failure e) :
    RoundTrips failure write read a ↔ (fits a → kept a) := by
  constructor
  · intro trips room
    have outcome := codes default
    have back := trips default
    cases result : write a default with
    | error e =>
        rw [result] at outcome
        exact absurd room outcome.2
    | ok written =>
        rw [result] at outcome back
        exact outcome.2.mp back
  · intro enough out
    have outcome := codes out
    cases result : write a out with
    | error e =>
        rw [result] at outcome
        exact shown e outcome.1 outcome.2
    | ok written =>
        rw [result] at outcome
        exact outcome.2.mpr (enough outcome.1)

theorem bind_eq_ok {x : Except ε α} {f : α → Except ε β} {b : β} :
    x >>= f = .ok b ↔ ∃ a, x = .ok a ∧ f a = .ok b := by
  -- A sequence of reads gives a value exactly if every read gives its part.
  cases x <;> simp [Bind.bind, Except.bind]

theorem map_eq_ok {f : α → β} {x : Except ε α} {b : β} : f <$> x = .ok b ↔ ∃ a, x = .ok a ∧ f a = b := by
  cases x <;> simp [Functor.map, Except.map]

theorem pure_eq_ok {a b : α} : (Pure.pure a : Except ε α) = .ok b ↔ a = b := by
  simp [Pure.pure, Except.pure]

theorem Codes.back_iff {meant : ε → Prop} {write : α → β → Except ε β} {read : β → Except ε α}
    {fits kept : α → Prop} {a : α} (codes : Codes meant write read fits kept a) (out : β) :
    write a out >>= read = .ok a ↔ fits a ∧ kept a := by
  have outcome := codes out
  cases result : write a out with
  | error e =>
      rw [result] at outcome
      simp [bind_eq_ok, outcome.2]
  | ok written =>
      rw [result] at outcome
      simp [bind_eq_ok, outcome.1, outcome.2]

/-- An optional member: its place, and whether it is used. -/
structure Used (β : Type) where
  value : β
  isUsed : Bool
  deriving Inhabited

namespace Used

def clear (init : β → β) (out : Used β) : Used β :=
  { value := init out.value, isUsed := false }

def set (fill : β → β) (out : Used β) : Used β :=
  { value := fill out.value, isUsed := true }

def write (convert : α → β → β) : Option α → Used β → Used β
  | some a, out => { value := convert a out.value, isUsed := true }
  | none, out => { out with isUsed := false }

def read (convert : β → α) (member : Used β) : Option α :=
  if member.isUsed then some (convert member.value) else none

@[simp] theorem clear_isUsed (init : β → β) (out : Used β) : (out.clear init).isUsed = false := rfl

@[simp] theorem read_clear (convert : β → α) (init : β → β) (out : Used β) :
    read convert (out.clear init) = none := rfl

theorem read_write {enc : α → β → β} {dec : β → α} (same : ∀ a out, dec (enc a out) = a)
    (a : Option α) (out : Used β) : read dec (write enc a out) = a := by
  cases a <;> simp [read, write, same]

def writeM (convert : α → β → Except ε β) : Option α → Used β → Except ε (Used β)
  | some a, out => do
      let value ← convert a out.value
      return { value, isUsed := true }
  | none, out => return { out with isUsed := false }

def readM (convert : β → Except ε α) (member : Used β) : Except ε (Option α) :=
  if member.isUsed then do
    let a ← convert member.value
    return some a
  else return none

@[simp] theorem readM_unused (convert : β → Except ε α) (value : β) :
    readM convert { value, isUsed := false } = .ok none := rfl

@[simp] theorem readM_clear (convert : β → Except ε α) (init : β → β) (out : Used β) :
    readM convert (out.clear init) = .ok none := rfl

theorem readM_write {enc : α → β → β} {dec : β → Except ε α} (same : ∀ a out, dec (enc a out) = .ok a)
    (a : Option α) (out : Used β) : readM dec (write enc a out) = .ok a := by
  cases a <;> simp [readM, write, same, pure_eq_ok]

theorem readM_decides {meant : ε → Prop} {dec : β → Except ε α} {fits : Prop} (member : Used β)
    (inner : Decides meant fits (dec member.value)) :
    Decides meant (member.isUsed = true → fits) (readM dec member) := by
  cases used : member.isUsed with
  | false => simp [readM, used, Decides, Pure.pure, Except.pure]
  | true =>
      rw [readM, if_pos used]
      exact (inner.andThen fun _ => .pure _).congr (by simp)

theorem codes {meant : ε → Prop} {enc : α → β → Except ε β} {dec : β → Except ε α} {fits kept : α → Prop}
    {a : Option α} (inner : ∀ b ∈ a, Codes meant enc dec fits kept b) :
    Codes meant (writeM enc) (readM dec) (fun a => ∀ b ∈ a, fits b) (fun a => ∀ b ∈ a, kept b) a := by
  intro out
  cases a with
  | none => simp [writeM, readM, pure_eq_ok]
  | some b =>
      have whole : Outcome meant (fits b) (fun written => readM dec written = .ok (some b) ↔ kept b)
          (writeM enc (some b) out) := by
        refine (inner b rfl out.value).andThen fun written back => ?_
        simp [readM, map_eq_ok, ← back]
      exact whole.mono (by simp) (by simp)

/-- A member whose flag is only ever set. -/
def setM (convert : α → β → Except ε β) : Option α → Used β → Except ε (Used β)
  | some a, out => do
      let value ← convert a out.value
      return { value, isUsed := true }
  | none, out => return out

theorem setM_outcome {meant : ε → Prop} {enc : α → β → Except ε β} {dec : β → Except ε α} {fits kept : α → Prop}
    {a : Option α} (inner : ∀ b ∈ a, Codes meant enc dec fits kept b) (init : β → β) (out : Used β) :
    Outcome meant (∀ b ∈ a, fits b) (fun written => readM dec written = .ok a ↔ ∀ b ∈ a, kept b)
      (setM enc a (out.clear init)) := by
  cases a with
  | none => simp [setM]
  | some b => exact codes inner (out.clear init)

end Used

/-- An array of fixed capacity, and how many of its entries count. -/
structure Bounded (capacity : Nat) (β : Type) where
  array : Vector β capacity
  length : Nat
  deriving Inhabited

namespace Bounded

variable {capacity : Nat}

def clear (out : Bounded capacity β) : Bounded capacity β :=
  { out with length := 0 }

/-- Writes a list to the entries from `index` on. Behind the last entry is the fault `outside`. -/
def store (outside : ε) (write : α → β → Except ε β) :
    List α → Nat → Vector β capacity → Except ε (Vector β capacity)
  | [], _, array => return array
  | a :: rest, index, array =>
      if inside : index < capacity then do
        let b ← write a array[index]
        store outside write rest (index + 1) (array.set index b)
      else .error outside

/-- Reads `count` entries from `index` on. -/
def load (outside : ε) (read : β → Except ε α) (array : Vector β capacity) :
    Nat → Nat → Except ε (List α)
  | _, 0 => return []
  | index, count + 1 =>
      if inside : index < capacity then do
        let a ← read array[index]
        let rest ← load outside read array (index + 1) count
        return a :: rest
      else .error outside

def fill (outside : ε) (write : α → β → Except ε β) (list : List α) (out : Bounded capacity β) :
    Except ε (Bounded capacity β) := do
  let array ← store outside write list 0 out.array
  return { array, length := list.length }

def entries (outside : ε) (read : β → Except ε α) (member : Bounded capacity β) : Except ε (List α) :=
  load outside read member.array 0 member.length

section Lists

variable {meant : ε → Prop} {outside : ε} {write : α → β → Except ε β} {read : β → Except ε α}
  {fits kept : α → Prop}

theorem store_load (outside : ε) (list : List α) (inner : ∀ a ∈ list, Codes meant write read fits kept a)
    (index : Nat)
    (array : Vector β capacity) (room : index + list.length ≤ capacity) :
    Outcome meant (∀ a ∈ list, fits a)
      (fun written =>
        (∀ (i : Nat) (inside : i < capacity), i < index → written[i] = array[i]) ∧
          (load outside read written index list.length = .ok list ↔ ∀ a ∈ list, kept a))
      (store outside write list index array) := by
  induction list generalizing index array with
  | nil => simp [store, load, pure_eq_ok]
  | cons a rest hyp =>
      rw [List.length_cons] at room
      have inside : index < capacity := by omega
      simp only [store, inside, ↓reduceDIte, List.forall_mem_cons, List.length_cons, load, bind_eq_ok, pure_eq_ok]
      refine (inner a List.mem_cons_self array[index]).bind ?_
      intro b back
      have later := fun a member => inner a (List.mem_cons_of_mem _ member)
      refine (hyp later (index + 1) (array.set index b) (by omega)).mono Iff.rfl ?_
      intro written ⟨before, loaded⟩
      -- The entry at `index` is not touched again.
      have here : written[index] = b := by
        rw [before index inside (by omega), Vector.getElem_set_self]
      constructor
      · intro i bound earlier
        rw [before i bound (by omega), Vector.getElem_set_ne _ _ (by omega)]
      · simp [here, ← back, ← loaded]

theorem load_length {list : List α} {array : Vector β capacity} {index count : Nat}
    (loaded : load outside read array index count = .ok list) : list.length = count := by
  induction count generalizing index list with
  | zero =>
      cases pure_eq_ok.mp loaded
      rfl
  | succ count hyp =>
      rw [load] at loaded
      split_ifs at loaded
      obtain ⟨a, _, loaded⟩ := bind_eq_ok.mp loaded
      obtain ⟨rest, later, same⟩ := bind_eq_ok.mp loaded
      cases pure_eq_ok.mp same
      rw [List.length_cons, hyp later]

def counted (member : Bounded capacity β) : List β := member.array.toList.take member.length

theorem entries_decides {fits : β → Prop} (unmeant : ¬meant outside) (inner : ∀ b, Decides meant (fits b) (read b))
    (member : Bounded capacity β) : Decides meant (∀ b ∈ member.counted, fits b) (entries outside read member) := by
  suffices spec : ∀ count index, Decides meant (∀ b ∈ (member.array.toList.drop index).take count, fits b)
      (load outside read member.array index count) from spec member.length 0
  intro count
  induction count with
  | zero => exact fun index => (Decides.pure []).congr (by simp)
  | succ count hyp =>
      intro index
      rw [load]
      by_cases inside : index < capacity
      · have split : member.array.toList.drop index =
          member.array[index] :: member.array.toList.drop (index + 1) := by
          rw [List.drop_eq_getElem_cons (by simpa using inside)]
          simp
        rw [dif_pos inside, split, List.take_succ_cons]
        refine ((inner member.array[index]).bind fun _ => (hyp (index + 1)).andThen fun _ => .pure _).congr ?_
        simp
      · rw [dif_neg inside]
        exact fun failed => absurd failed unmeant

theorem fill_codes (outside : ε) {list : List α} (room : list.length ≤ capacity)
    (inner : ∀ a ∈ list, Codes meant write read fits kept a) :
    Codes meant (fill outside write : List α → Bounded capacity β → _) (entries outside read)
      (fun list => ∀ a ∈ list, fits a) (fun list => ∀ a ∈ list, kept a) list := by
  intro out
  refine (store_load outside list inner 0 out.array (by omega)).andThen fun written loaded => ?_
  simpa [entries] using loaded.2

theorem fill_length {list : List α} {out written : Bounded capacity β}
    (filled : fill outside write list out = .ok written) : written.length = list.length := by
  obtain ⟨array, _, same⟩ := bind_eq_ok.mp filled
  rw [← pure_eq_ok.mp same]

theorem store_outside (outside : ε) (list : List α)
    (writable : ∀ a ∈ list, ∀ out, ∃ written, write a out = .ok written)
    (index : Nat) (array : Vector β capacity) (inside : index ≤ capacity)
    (full : capacity < index + list.length) :
    store outside write list index array = .error outside := by
  -- Without room the writer goes past the array.
  induction list generalizing index array with
  | nil =>
      rw [List.length_nil] at full
      omega
  | cons a rest hyp =>
      rw [List.length_cons] at full
      by_cases room : index < capacity
      · obtain ⟨b, result⟩ := writable a List.mem_cons_self array[index]
        have later := fun a member => writable a (List.mem_cons_of_mem _ member)
        simp only [store, room, ↓reduceDIte, result]
        exact hyp later (index + 1) (array.set index b) (by omega) (by omega)
      · simp [store, room]

end Lists

end Bounded

end Codec
