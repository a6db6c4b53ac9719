import Mathlib.Data.List.Sort

set_option autoImplicit false

namespace LibIso15118

/-- A `steady_clock` time point in nanoseconds. -/
abbrev TimePoint := Int

def offsetTimePointByMs (timePoint : TimePoint) (offset : Nat) : TimePoint :=
  timePoint + offset * 1000000

inductive TimeoutType where
  | sequence
  | performance
  | ongoing
  | contactor
  deriving DecidableEq

def timeoutOngoing : Nat := 1000 * 55
def timeoutSequence : Nat := 1000 * 60
def timeoutEimOngoing : Nat := 1000 * 60 * 3

/-- The array of `Timeouts`: the deadline of every timer that runs. -/
structure Timeouts where
  deadline : TimeoutType → Option TimePoint := fun _ => none

namespace Timeouts

-- A timer that runs already keeps its deadline.
def startTimeout (timeouts : Timeouts) (now : TimePoint) (type : TimeoutType) (timeoutMs : Nat) :
    Timeouts :=
  match timeouts.deadline type with
  | some _ => timeouts
  | none =>
      { deadline := fun other =>
          if other = type then some (offsetTimePointByMs now timeoutMs)
          else timeouts.deadline other }

def stopTimeout (timeouts : Timeouts) (type : TimeoutType) : Timeouts :=
  { deadline := fun other => if other = type then none else timeouts.deadline other }

def resetTimeout (timeouts : Timeouts) (type : TimeoutType) : Timeouts := timeouts.stopTimeout type

/-- `std::map::insert` into the map that `check` builds, kept in key order: a key that is there
already keeps its value. -/
def insertByDeadline (point : TimePoint) (type : TimeoutType) :
    List (TimePoint × TimeoutType) → List (TimePoint × TimeoutType)
  | [] => [(point, type)]
  | (other, otherType) :: rest =>
      if point < other then (point, type) :: (other, otherType) :: rest
      else if point = other then (other, otherType) :: rest
      else (other, otherType) :: insertByDeadline point type rest

/-- `check`; every `is_reached` reads the clock anew, so the reading is a function of the timer. -/
def check (timeouts : Timeouts) (clock : TimeoutType → TimePoint) : Option (List TimeoutType) :=
  let visit (type : TimeoutType) (reached : List (TimePoint × TimeoutType)) :=
    match timeouts.deadline type with
    | some point => if point ≤ clock type then insertByDeadline point type reached else reached
    | none => reached
  let reached := visit .contactor (visit .ongoing (visit .performance (visit .sequence [])))
  if reached = [] then none else some (reached.map Prod.snd)

@[simp] theorem stopTimeout_deadline (timeouts : Timeouts) (type other : TimeoutType) :
    (timeouts.stopTimeout type).deadline other =
      if other = type then none else timeouts.deadline other := rfl

@[simp] theorem startTimeout_of_ne (timeouts : Timeouts) (now : TimePoint) (timeoutMs : Nat)
    {type other : TimeoutType} (different : other ≠ type) :
    (timeouts.startTimeout now type timeoutMs).deadline other = timeouts.deadline other := by
  unfold startTimeout
  split <;> simp [different]

end Timeouts

end LibIso15118
