import LibIso15118.Io.Connections
import LibIso15118.Shared.Machine
import Mathlib.Tactic.Linarith

set_option autoImplicit false

namespace LibIso15118

open Shared

/-- `struct pollfd`; `events` is always `POLLIN`. -/
structure PollFd where
  fd : Fd
  revents : UInt16 := 0
  deriving DecidableEq

def pollin : UInt16 := 1

def PollFd.ready (entry : PollFd) : Bool := decide (entry.revents &&& pollin ≠ 0)

/-- The pointers are those to the callbacks in the map, and null for the event descriptor. -/
structure PollSet (κ : Type) where
  fds : List PollFd := []
  callbacks : List (Option κ) := []

section PollSet

variable {κ : Type}

/-- The loop of `create_poll_set` over the map; all indices are below the size of the two vectors. -/
def fillPollSet {n : Nat} (eventFd : Fd) : (entries : List (Fd × κ)) → (index : Nat) →
    index + entries.length < n → Vector PollFd n → Vector (Option κ) n → PollSet κ
  | [], index, room, fds, callbacks => ⟨(fds.set index ⟨eventFd, 0⟩ room).toList, callbacks.toList⟩
  | (fd, callback) :: rest, index, room, fds, callbacks =>
      fillPollSet eventFd rest (index + 1) (by simp only [List.length_cons] at room; omega)
        (fds.set index ⟨fd, 0⟩ (by omega)) (callbacks.set index (some callback) (by omega))

def createPollSet (map : Std.TreeMap Fd κ) (eventFd : Fd) : PollSet κ :=
  let totalSize := map.toList.length + 1
  fillPollSet eventFd map.toList 0 (by omega) (Vector.replicate totalSize ⟨0, 0⟩) (Vector.replicate totalSize none)

def listedSet (entries : List (Fd × κ)) (eventFd : Fd) : PollSet κ :=
  ⟨entries.map (fun entry => ⟨entry.1, 0⟩) ++ [⟨eventFd, 0⟩], entries.map (some ·.2) ++ [none]⟩

theorem take_succ_set {α : Type} {n : Nat} (values : Vector α n) {index : Nat} (inside : index < n) (value : α) :
    (values.set index value inside).toList.take (index + 1) = values.toList.take index ++ [value] := by
  have length : index < (values.set index value inside).toList.length := by simpa using inside
  rw [List.take_succ_eq_append_getElem length]
  simp [Vector.toList_set, List.take_set_of_le]

theorem fillPollSet_eq {n : Nat} (eventFd : Fd) (entries : List (Fd × κ)) (index : Nat)
    (room : index + entries.length < n) (whole : index + entries.length + 1 = n) (fds : Vector PollFd n)
    (callbacks : Vector (Option κ) n) (last : callbacks[n - 1] = none) :
    fillPollSet eventFd entries index room fds callbacks =
      ⟨fds.toList.take index ++ (listedSet entries eventFd).fds,
        callbacks.toList.take index ++ (listedSet entries eventFd).callbacks⟩ := by
  induction entries generalizing index fds callbacks with
  | nil =>
      rw [List.length_nil, Nat.add_zero] at whole
      subst whole
      simp only [fillPollSet, listedSet, List.map_nil, List.nil_append, PollSet.mk.injEq]
      constructor
      · rw [← take_succ_set fds (Nat.lt_succ_self index), List.take_of_length_le (by simp)]
      · have length : index < callbacks.toList.length := by simp
        have filled := List.take_succ_eq_append_getElem length
        rw [List.take_of_length_le (by simp)] at filled
        rw [filled]
        simpa using last
  | cons entry rest hyp =>
      rw [List.length_cons] at whole
      have kept : (callbacks.set index (some entry.2) (by omega))[n - 1] = none := by
        rw [Vector.getElem_set_ne _ _ (by omega), last]
      rw [fillPollSet, hyp (index + 1) _ (by omega) _ _ kept, take_succ_set, take_succ_set]
      simp [listedSet]

theorem createPollSet_eq (map : Std.TreeMap Fd κ) (eventFd : Fd) :
    createPollSet map eventFd = listedSet map.toList eventFd := by
  rw [createPollSet, fillPollSet_eq _ _ _ _ (by omega) _ _ (by simp)]
  simp

end PollSet

/-- A callback registers or removes a descriptor, as the connections do when they accept or close. -/
inductive PollOp (κ : Type) where
  | registerFd (fd : Fd) (callback : κ)
  | unregisterFd (fd : Fd)

def PollOp.fd {κ : Type} : PollOp κ → Fd
  | .registerFd fd _ => fd
  | .unregisterFd fd => fd

structure PollManager (κ : Type) where
  registeredFds : Std.TreeMap Fd κ := ∅
  pollSet : PollSet κ := {}
  eventFd : Fd

/-- What `::poll` returns: an error, or the events of every descriptor that was asked about. -/
inductive PollResult where
  | failed
  | reported (revents : Fd → UInt16)

/-- What one call of a callback does: it changes the registered descriptors, and may throw then. -/
structure Reaction (κ : Type) where
  ops : List (PollOp κ) := []
  throws : Bool := false

inductive PollEvent (κ : Type) where
  | ran (fd : Fd) (callback : κ)
  | operated (op : PollOp κ) (after : PollManager κ)

inductive PollExn where
  | pollFailed
  | badIndex
  | thrown
  deriving DecidableEq

abbrev PollAct (κ : Type) := Act (PollManager κ) (PollEvent κ) PollExn

namespace PollManager

variable {κ : Type}

def registerFd (manager : PollManager κ) (fd : Fd) (callback : κ) : PollManager κ :=
  let registeredFds := manager.registeredFds.insertIfNew fd callback
  { manager with registeredFds, pollSet := createPollSet registeredFds manager.eventFd }

def unregisterFd (manager : PollManager κ) (fd : Fd) : PollManager κ :=
  let registeredFds := manager.registeredFds.erase fd
  { manager with registeredFds, pollSet := createPollSet registeredFds manager.eventFd }

def operate (manager : PollManager κ) : PollOp κ → PollManager κ
  | .registerFd fd callback => manager.registerFd fd callback
  | .unregisterFd fd => manager.unregisterFd fd

def perform (op : PollOp κ) : PollAct κ Unit := do
  Act.modify (·.operate op)
  let manager ← Act.get
  Act.emit (.operated op manager)

def performAll : List (PollOp κ) → PollAct κ Unit
  | [] => return
  | op :: rest => do
      perform op
      performAll rest

def call (fd : Fd) (callback : κ) (reaction : Reaction κ) : PollAct κ Unit := do
  Act.emit (.ran fd callback)
  performAll reaction.ops
  if reaction.throws then Act.throw .thrown

def readyFrom (manager : PollManager κ) (index : Nat) : Nat :=
  (manager.pollSet.fds.drop index).countP PollFd.ready

theorem listedSet_quiet (entries : List (Fd × κ)) (eventFd : Fd) {entry : PollFd}
    (member : entry ∈ (listedSet entries eventFd).fds) : entry.ready = false := by
  simp only [listedSet, List.mem_append, List.mem_map, List.mem_singleton] at member
  rcases member with ⟨_, -, rfl⟩ | rfl <;> simp [PollFd.ready]

theorem operate_pollSet (manager : PollManager κ) (op : PollOp κ) :
    (manager.operate op).pollSet =
      listedSet (manager.operate op).registeredFds.toList (manager.operate op).eventFd := by
  cases op <;> exact createPollSet_eq _ _

theorem operate_readyFrom (manager : PollManager κ) (op : PollOp κ) (index : Nat) :
    (manager.operate op).readyFrom index = 0 := by
  rw [readyFrom, operate_pollSet, List.countP_eq_zero]
  intro entry member
  simp [listedSet_quiet _ _ (List.mem_of_mem_drop member)]

def operations (manager : PollManager κ) : List (PollOp κ) → List (PollEvent κ)
  | [] => []
  | op :: rest => .operated op (manager.operate op) :: operations (manager.operate op) rest

theorem performAll_apply (ops : List (PollOp κ)) (manager : PollManager κ) :
    performAll ops manager = ⟨.ok (), ops.foldl operate manager, manager.operations ops⟩ := by
  induction ops generalizing manager with
  | nil => rfl
  | cons op rest hyp => simp [performAll, perform, Act.bind_apply, hyp, operations]

theorem call_apply (fd : Fd) (callback : κ) (reaction : Reaction κ) (manager : PollManager κ) :
    call fd callback reaction manager =
      ⟨if reaction.throws then .error .thrown else .ok (), reaction.ops.foldl operate manager,
        .ran fd callback :: manager.operations reaction.ops⟩ := by
  cases throws : reaction.throws <;> simp [call, Act.bind_apply, performAll_apply, throws]

theorem call_readyFrom (fd : Fd) (callback : κ) (reaction : Reaction κ) (manager : PollManager κ) (index : Nat) :
    (call fd callback reaction manager).state.readyFrom index ≤ manager.readyFrom index := by
  rw [call_apply]
  cases reaction.ops using List.reverseRecOn with
  | nil => exact Nat.le_refl _
  | append_singleton ops op => simp [operate_readyFrom]

theorem readyFrom_succ {manager : PollManager κ} {index : Nat} {entry : PollFd}
    (found : manager.pollSet.fds[index]? = some entry) :
    manager.readyFrom index = manager.readyFrom (index + 1) + if entry.ready then 1 else 0 := by
  obtain ⟨inside, rfl⟩ := List.getElem?_eq_some_iff.mp found
  rw [readyFrom, List.drop_eq_getElem_cons inside, List.countP_cons]
  rfl

/-- The loop of `poll` from an index on; `ran` are the descriptors whose callbacks have run. An access outside
of a vector or through a null pointer shows as `badIndex`. -/
def dispatch (react : List Fd → Reaction κ) (ran : List Fd) (index : Nat) (manager : PollManager κ) :
    Outcome (PollManager κ) (PollEvent κ) PollExn Unit :=
  if index < manager.pollSet.fds.length - 1 then
    match found : manager.pollSet.fds[index]? with
    | none => ⟨.error .badIndex, manager, []⟩
    | some entry =>
        if entry.ready then
          match manager.pollSet.callbacks[index]? with
          | some (some callback) =>
              let ran := ran ++ [entry.fd]
              let called := call entry.fd callback (react ran) manager
              match called.result with
              | .error e => ⟨.error e, called.state, called.log⟩
              | .ok () =>
                  let next := dispatch react ran (index + 1) called.state
                  ⟨next.result, next.state, called.log ++ next.log⟩
          | _ => ⟨.error .badIndex, manager, []⟩
        else dispatch react ran (index + 1) manager
  else ⟨.ok (), manager, []⟩
termination_by (manager.readyFrom index, manager.pollSet.fds.length - index)
decreasing_by
  · rename_i ready
    -- the call of a callback uses up a flag
    have left := call_readyFrom entry.fd callback (react ran) manager (index + 1)
    have here := readyFrom_succ found
    rw [if_pos ready] at here
    exact Prod.Lex.left _ _ (Nat.lt_of_le_of_lt left (by omega))
  · rename_i inside unready
    have here := readyFrom_succ found
    rw [if_neg unready] at here
    rw [Nat.add_zero] at here
    rw [here]
    apply Prod.Lex.right
    omega

/-- `PollManager::poll` -/
def poll (result : PollResult) (react : List Fd → Reaction κ) : PollAct κ Unit := fun manager =>
  match result with
  | .failed => ⟨.error .pollFailed, manager, []⟩
  | .reported revents =>
      let fds := manager.pollSet.fds.map fun entry => { entry with revents := revents entry.fd }
      let manager := { manager with pollSet := { manager.pollSet with fds } }
      -- `::poll` returns the number of descriptors with events, 0 on a timeout
      if fds.countP (·.revents ≠ 0) = 0 then ⟨.ok (), manager, []⟩
      else
        match fds[fds.length - 1]? with
        | none => ⟨.error .badIndex, manager, []⟩
        | some event =>
            if event.ready then ⟨.ok (), manager, []⟩
            else dispatch react [] 0 manager

section Dispatch

variable (react : List Fd → Reaction κ)

section Step

variable {manager : PollManager κ} {index : Nat} {entry : PollFd} (ran : List Fd)
  (inside : index < manager.pollSet.fds.length - 1) (found : manager.pollSet.fds[index]? = some entry)

include inside found in
theorem dispatch_unready (unready : entry.ready = false) :
    dispatch react ran index manager = dispatch react ran (index + 1) manager := by
  rw [dispatch, if_pos inside]
  split
  · simp_all
  · rename_i other same
    cases found.symm.trans same
    rw [if_neg (by simp [unready])]

include inside found in
theorem dispatch_ready (ready : entry.ready = true) {callback : κ}
    (pointer : manager.pollSet.callbacks[index]? = some (some callback)) :
    dispatch react ran index manager =
      let reaction := react (ran ++ [entry.fd])
      let changed := reaction.ops.foldl operate manager
      if reaction.throws then ⟨.error .thrown, changed, .ran entry.fd callback :: manager.operations reaction.ops⟩
      else
        let next := dispatch react (ran ++ [entry.fd]) (index + 1) changed
        ⟨next.result, next.state, .ran entry.fd callback :: manager.operations reaction.ops ++ next.log⟩ := by
  rw [dispatch, if_pos inside]
  split
  · simp_all
  · rename_i other same
    cases found.symm.trans same
    simp only [ready, if_true, pointer, call_apply]
    cases (react (ran ++ [entry.fd])).throws <;> rfl

end Step

theorem operate_foldl_readyFrom {ops : List (PollOp κ)} (changed : ops ≠ []) (manager : PollManager κ)
    (index : Nat) : (ops.foldl operate manager).readyFrom index = 0 := by
  cases ops using List.reverseRecOn with
  | nil => exact absurd rfl changed
  | append_singleton ops op => simp [operate_readyFrom]

theorem dispatch_quiet (ran : List Fd) (index : Nat) (manager : PollManager κ)
    (quiet : manager.readyFrom index = 0) : dispatch react ran index manager = ⟨.ok (), manager, []⟩ := by
  induction left : manager.pollSet.fds.length - index generalizing index with
  | zero => rw [dispatch, if_neg (by omega)]
  | succ count hyp =>
      by_cases inside : index < manager.pollSet.fds.length - 1
      · have bound : index < manager.pollSet.fds.length := by omega
        have found : manager.pollSet.fds[index]? = some manager.pollSet.fds[index] :=
          List.getElem?_eq_getElem bound
        have here := readyFrom_succ found
        cases ready : manager.pollSet.fds[index].ready with
        | true =>
            rw [if_pos ready] at here
            omega
        | false => rw [dispatch_unready react ran inside found ready, hyp (index + 1) (by omega) (by omega)]
      · rw [dispatch, if_neg inside]

def Reports (manager : PollManager κ) (entries : List (Fd × κ)) (revents : Fd → UInt16) : Prop :=
  manager.pollSet.fds =
      entries.map (fun entry => ⟨entry.1, revents entry.1⟩) ++ [⟨manager.eventFd, revents manager.eventFd⟩] ∧
    manager.pollSet.callbacks = entries.map (some ·.2) ++ [none]

theorem dispatch_runs (manager : PollManager κ) (revents : Fd → UInt16) (ran : List Fd)
    (before rest : List (Fd × κ)) (reports : manager.Reports (before ++ rest) revents) :
    ∃ (runs : List (Fd × κ)) (ops : List (PollOp κ)),
      runs <+: rest.filter (fun entry => decide (revents entry.1 &&& pollin ≠ 0)) ∧
      (dispatch react ran before.length manager).log =
        runs.map (fun run => .ran run.1 run.2) ++ manager.operations ops ∧
      (dispatch react ran before.length manager).state = ops.foldl operate manager ∧
      (dispatch react ran before.length manager).result ≠ .error .badIndex := by
  -- The callbacks of ready descriptors run in their order, up to the first that changes the set.
  induction rest generalizing before ran with
  | nil =>
      have outside : ¬before.length < manager.pollSet.fds.length - 1 := by simp [reports.1]
      rw [dispatch, if_neg outside]
      exact ⟨[], [], by simp, rfl, rfl, nofun⟩
  | cons entry rest hyp =>
      have inside : before.length < manager.pollSet.fds.length - 1 := by
        simp only [reports.1, List.length_append, List.length_map, List.length_cons, List.length_nil]
        omega
      have found : manager.pollSet.fds[before.length]? = some ⟨entry.1, revents entry.1⟩ := by
        simp [reports.1]
      have callback : manager.pollSet.callbacks[before.length]? = some (some entry.2) := by
        simp [reports.2]
      have next (ran : List Fd) := hyp ran (before ++ [entry]) (by simpa using reports)
      rw [List.length_append, List.length_singleton] at next
      cases ready : decide (revents entry.1 &&& pollin ≠ 0) with
      | false =>
          rw [dispatch_unready react ran inside found ready, List.filter_cons_of_neg (by simp [ready])]
          exact next ran
      | true =>
          rw [dispatch_ready react ran inside found ready callback, List.filter_cons_of_pos (by simpa using ready)]
          generalize react (ran ++ [entry.1]) = reaction
          by_cases throws : reaction.throws = true
          · simp only [throws, if_true]
            exact ⟨[entry], reaction.ops, by simp, by simp, rfl, nofun⟩
          · simp only [throws]
            by_cases changed : reaction.ops = []
            · -- the set is still the one that was filled in
              obtain ⟨runs, ops, ready, log, state, result⟩ := next (ran ++ [entry.1])
              simp only [changed, List.foldl_nil, operations]
              exact ⟨entry :: runs, ops, by simpa using ready, by simp [log], state, result⟩
            · -- the new set has no flags
              rw [dispatch_quiet _ _ _ _ (operate_foldl_readyFrom changed manager _)]
              exact ⟨[entry], reaction.ops, by simp, by simp, rfl, nofun⟩

end Dispatch

inductive Input (κ : Type) where
  | operate (op : PollOp κ)
  | poll (result : PollResult) (react : List Fd → Reaction κ)

def step : Input κ → PollAct κ Unit
  | .operate op => perform op
  | .poll result react => poll result react

def registered (manager : PollManager κ) : Table Fd κ := fun fd => manager.registeredFds[fd]?

end PollManager

section Specification

variable {κ : Type}

def PollOp.onTable : PollOp κ → Table Fd κ → Table Fd κ
  | .registerFd fd callback, table => table.emplace fd callback
  | .unregisterFd fd, table => table.erase fd

def replay (table : Table Fd κ) : List (PollEvent κ) → Table Fd κ
  | [] => table
  | .ran _ _ :: rest => replay table rest
  | .operated op _ :: rest => replay (op.onTable table) rest

/-- The set lists the registered descriptors in ascending order with their callbacks, then the event
descriptor. -/
def PollSet.Shows (set : PollSet κ) (registered : Table Fd κ) (eventFd : Fd) : Prop :=
  ∃ entries : List (Fd × κ), entries.Pairwise (fun first second => first.1 < second.1) ∧
    (∀ fd callback, (fd, callback) ∈ entries ↔ registered fd = some callback) ∧
    set.fds.map (·.fd) = entries.map (·.1) ++ [eventFd] ∧ set.callbacks = entries.map (some ·.2) ++ [none]

def PollEvent.ranFd? : PollEvent κ → Option Fd
  | .ran fd _ => some fd
  | .operated _ _ => none

/-- What every call of the manager observes, under re-entrancy too. -/
structure Orderly (record : Step (PollManager κ) (PollManager.Input κ) (PollEvent κ)) : Prop where
  shows : ∀ earlier op after later, record.outputs = earlier ++ .operated op after :: later →
    after.pollSet.Shows (replay record.before.registered (earlier ++ [.operated op after])) record.before.eventFd
  once : (record.outputs.filterMap (·.ranFd?)).Nodup
  reported : ∀ fd callback, .ran fd callback ∈ record.outputs →
    ∃ revents react, record.input = .poll (.reported revents) react ∧ revents fd &&& pollin ≠ 0 ∧
      revents record.before.eventFd &&& pollin = 0
  current : ∀ earlier fd callback later, record.outputs = earlier ++ .ran fd callback :: later →
    replay record.before.registered earlier fd = some callback ∧
      ∀ op after, .operated op after ∈ earlier → op.fd ≠ fd
  inRange : (PollManager.step record.input record.before).result ≠ .error .badIndex

end Specification

namespace PollManager

variable {κ : Type}

theorem registered_operate (manager : PollManager κ) (op : PollOp κ) :
    (manager.operate op).registered = op.onTable manager.registered := by
  funext other
  cases op with
  | registerFd fd callback =>
      simp only [registered, operate, registerFd, PollOp.onTable, Table.emplace, Table.contains,
        Std.TreeMap.getElem?_insertIfNew, compare_eq_iff_eq]
      by_cases there : fd ∈ manager.registeredFds
      · simp [there, registered]
      · by_cases same : fd = other
        · subst same
          simp [there, Table.insert]
        · simp [there, same, Ne.symm same, Table.insert, registered]
  | unregisterFd fd =>
      simp only [registered, operate, unregisterFd, PollOp.onTable, Table.erase, Std.TreeMap.getElem?_erase,
        compare_eq_iff_eq]
      by_cases same : fd = other
      · simp [same]
      · simp [same, Ne.symm same]

@[simp] theorem operate_eventFd (manager : PollManager κ) (op : PollOp κ) :
    (manager.operate op).eventFd = manager.eventFd := by
  cases op <;> rfl

theorem toList_ascending (manager : PollManager κ) :
    manager.registeredFds.toList.Pairwise fun first second => first.1 < second.1 := by
  have ordered := Std.TreeMap.ordered_keys_toList (t := manager.registeredFds)
  simpa [compare_lt_iff_lt] using ordered

theorem mem_toList (manager : PollManager κ) (fd : Fd) (callback : κ) :
    (fd, callback) ∈ manager.registeredFds.toList ↔ manager.registered fd = some callback :=
  Std.TreeMap.mem_toList_iff_getElem?_eq_some

theorem operate_shows (manager : PollManager κ) (op : PollOp κ) :
    (manager.operate op).pollSet.Shows (op.onTable manager.registered) manager.eventFd := by
  refine ⟨(manager.operate op).registeredFds.toList, toList_ascending _, fun fd callback => ?_, ?_⟩
  · rw [mem_toList, registered_operate]
  · rw [operate_pollSet]
    simp [listedSet, Function.comp_def]

theorem operations_shows {ops : List (PollOp κ)} {manager : PollManager κ} {earlier later : List (PollEvent κ)}
    {op : PollOp κ} {after : PollManager κ}
    (split : manager.operations ops = earlier ++ .operated op after :: later) :
    after.pollSet.Shows (replay manager.registered (earlier ++ [.operated op after])) manager.eventFd := by
  induction ops generalizing manager earlier with
  | nil => simp [operations] at split
  | cons first rest hyp =>
      cases earlier with
      | nil =>
          cases split
          exact operate_shows manager _
      | cons event earlier =>
          rw [operations, List.cons_append, List.cons.injEq] at split
          obtain ⟨rfl, split⟩ := split
          have shows := hyp split
          rwa [registered_operate, operate_eventFd] at shows

theorem mem_operations {ops : List (PollOp κ)} {manager : PollManager κ} {event : PollEvent κ}
    (member : event ∈ manager.operations ops) : ∃ op after, event = .operated op after := by
  induction ops generalizing manager with
  | nil => cases member
  | cons op rest hyp =>
      rcases List.mem_cons.mp member with rfl | later
      · exact ⟨_, _, rfl⟩
      · exact hyp later

def polled (manager : PollManager κ) (runs : List (Fd × κ)) (ops : List (PollOp κ)) : List (PollEvent κ) :=
  runs.map (fun run => .ran run.1 run.2) ++ manager.operations ops

section Polled

variable {manager : PollManager κ} {runs : List (Fd × κ)} {ops : List (PollOp κ)}

theorem polled_cons (run : Fd × κ) :
    manager.polled (run :: runs) ops = .ran run.1 run.2 :: manager.polled runs ops := rfl

theorem polled_shows {earlier later : List (PollEvent κ)} {op : PollOp κ} {after : PollManager κ}
    (split : manager.polled runs ops = earlier ++ .operated op after :: later) :
    after.pollSet.Shows (replay manager.registered (earlier ++ [.operated op after])) manager.eventFd := by
  induction runs generalizing earlier with
  | nil => exact operations_shows split
  | cons run rest hyp =>
      rw [polled_cons] at split
      cases earlier with
      | nil => cases split
      | cons event earlier =>
          rw [List.cons_append, List.cons.injEq] at split
          obtain ⟨rfl, split⟩ := split
          have shows := hyp split
          exact shows

theorem polled_ran {earlier later : List (PollEvent κ)} {fd : Fd} {callback : κ}
    (split : manager.polled runs ops = earlier ++ .ran fd callback :: later) :
    (fd, callback) ∈ runs ∧ ∀ event ∈ earlier, ∃ fd callback, event = .ran fd callback := by
  -- Nothing has been changed when a callback runs.
  induction runs generalizing earlier with
  | nil =>
      have member : PollEvent.ran fd callback ∈ manager.operations ops := by
        simp only [polled, List.map_nil, List.nil_append] at split
        simp [split]
      obtain ⟨_, _, ⟨⟩⟩ := mem_operations member
  | cons run rest hyp =>
      rw [polled_cons] at split
      cases earlier with
      | nil =>
          cases split
          exact ⟨List.mem_cons_self .., by simp⟩
      | cons event earlier =>
          rw [List.cons_append, List.cons.injEq] at split
          obtain ⟨rfl, split⟩ := split
          obtain ⟨inside, earlierRan⟩ := hyp split
          exact ⟨List.mem_cons_of_mem _ inside, List.forall_mem_cons.mpr ⟨⟨_, _, rfl⟩, earlierRan⟩⟩

theorem polled_ranFds : (manager.polled runs ops).filterMap (·.ranFd?) = runs.map (·.1) := by
  have silent : (manager.operations ops).filterMap (·.ranFd?) = [] := by
    rw [List.filterMap_eq_nil_iff]
    intro event member
    obtain ⟨op, after, rfl⟩ := mem_operations member
    rfl
  rw [polled, List.filterMap_append, silent, List.append_nil, List.filterMap_map]
  simp [Function.comp_def, PollEvent.ranFd?]

theorem replay_ran (table : Table Fd κ) {events : List (PollEvent κ)}
    (ran : ∀ event ∈ events, ∃ fd callback, event = .ran fd callback) : replay table events = table := by
  induction events with
  | nil => rfl
  | cons event rest hyp =>
      obtain ⟨⟨fd, callback, rfl⟩, later⟩ := List.forall_mem_cons.mp ran
      exact hyp later

end Polled

def Synced (manager : PollManager κ) : Prop :=
  manager.pollSet.fds = [] ∨
    manager.pollSet.fds.map (·.fd) = manager.registeredFds.toList.map (·.1) ++ [manager.eventFd] ∧
      manager.pollSet.callbacks = manager.registeredFds.toList.map (some ·.2) ++ [none]

theorem operate_synced (manager : PollManager κ) (op : PollOp κ) : (manager.operate op).Synced := by
  refine .inr ?_
  rw [operate_pollSet]
  simp [listedSet, Function.comp_def]

def fill (manager : PollManager κ) (revents : Fd → UInt16) : PollManager κ :=
  { manager with
    pollSet :=
      { manager.pollSet with
        fds := manager.pollSet.fds.map fun entry => { entry with revents := revents entry.fd } } }

theorem fill_synced {manager : PollManager κ} (synced : manager.Synced) (revents : Fd → UInt16) :
    (manager.fill revents).Synced := by
  rcases synced with empty | ⟨fds, callbacks⟩
  · exact .inl (by simp [fill, empty])
  · exact .inr ⟨by simpa [fill, Function.comp_def] using fds, callbacks⟩

theorem fill_reports {manager : PollManager κ} (revents : Fd → UInt16)
    (fds : manager.pollSet.fds.map (·.fd) = manager.registeredFds.toList.map (·.1) ++ [manager.eventFd])
    (callbacks : manager.pollSet.callbacks = manager.registeredFds.toList.map (some ·.2) ++ [none]) :
    (manager.fill revents).Reports manager.registeredFds.toList revents := by
  refine ⟨?_, callbacks⟩
  have filled : (manager.fill revents).pollSet.fds =
      (manager.pollSet.fds.map (·.fd)).map fun fd => ⟨fd, revents fd⟩ := by
    simp [fill, Function.comp_def]
  rw [filled, fds, List.map_append, List.map_map]
  rfl

theorem poll_spec {manager : PollManager κ} (synced : manager.Synced) (revents : Fd → UInt16)
    (react : List Fd → Reaction κ) :
    ∃ (runs : List (Fd × κ)) (ops : List (PollOp κ)),
      runs <+: manager.registeredFds.toList.filter (fun entry => decide (revents entry.1 &&& pollin ≠ 0)) ∧
      (runs ≠ [] → revents manager.eventFd &&& pollin = 0) ∧
      (poll (.reported revents) react manager).log = (manager.fill revents).polled runs ops ∧
      (poll (.reported revents) react manager).state = ops.foldl operate (manager.fill revents) ∧
      (poll (.reported revents) react manager).result ≠ .error .badIndex := by
  have unfolded : poll (.reported revents) react manager =
      if (manager.fill revents).pollSet.fds.countP (·.revents ≠ 0) = 0 then ⟨.ok (), manager.fill revents, []⟩
      else
        match (manager.fill revents).pollSet.fds[(manager.fill revents).pollSet.fds.length - 1]? with
        | none => ⟨.error .badIndex, manager.fill revents, []⟩
        | some event =>
            if event.ready then ⟨.ok (), manager.fill revents, []⟩
            else dispatch react [] 0 (manager.fill revents) := rfl
  rcases synced with empty | ⟨fds, callbacks⟩
  · -- `::poll` reports nothing about no descriptors
    rw [unfolded, if_pos (by simp [fill, empty])]
    exact ⟨[], [], by simp, by simp, rfl, rfl, nofun⟩
  · have reports := fill_reports revents fds callbacks
    have last : (manager.fill revents).pollSet.fds[(manager.fill revents).pollSet.fds.length - 1]? =
        some ⟨manager.eventFd, revents manager.eventFd⟩ := by
      rw [reports.1]
      simp [fill]
    rw [unfolded, last]
    by_cases timeout : (manager.fill revents).pollSet.fds.countP (·.revents ≠ 0) = 0
    · rw [if_pos timeout]
      exact ⟨[], [], by simp, by simp, rfl, rfl, nofun⟩
    · rw [if_neg timeout]
      cases event : PollFd.ready ⟨manager.eventFd, revents manager.eventFd⟩ with
      | true =>
          simp only [event, if_true]
          exact ⟨[], [], by simp, by simp, rfl, rfl, nofun⟩
      | false =>
          simp only [event, Bool.false_eq_true, if_false]
          obtain ⟨runs, ops, ready, log, state, result⟩ :=
            dispatch_runs react (manager.fill revents) revents [] [] _ reports
          exact ⟨runs, ops, ready, fun _ => by simpa [PollFd.ready] using event, log, state, result⟩

theorem step_orderly {manager : PollManager κ} (synced : manager.Synced) (input : Input κ) :
    Orderly (Machine.stepOf step manager input) := by
  cases input with
  | operate op =>
      have outputs : (Machine.stepOf step manager (.operate op)).outputs = manager.operations [op] := rfl
      constructor
      · intro earlier op' after later split
        rw [outputs] at split
        exact operations_shows split
      · rw [outputs]
        exact List.nodup_nil
      · intro fd callback member
        rw [outputs] at member
        obtain ⟨_, _, ⟨⟩⟩ := mem_operations member
      · intro earlier fd callback later split
        rw [outputs] at split
        have member : PollEvent.ran fd callback ∈ manager.operations [op] := by simp [split]
        obtain ⟨_, _, ⟨⟩⟩ := mem_operations member
      · nofun
  | poll result react =>
      cases result with
      | failed =>
          constructor <;> simp [step, poll]
      | reported revents =>
          obtain ⟨runs, ops, ready, quiet, log, -, result⟩ := poll_spec synced revents react
          have outputs : (Machine.stepOf step manager (.poll (.reported revents) react)).outputs =
              (manager.fill revents).polled runs ops := log
          have listed {fd : Fd} {callback : κ} (member : (fd, callback) ∈ runs) :
              manager.registered fd = some callback ∧ revents fd &&& pollin ≠ 0 := by
            have inside := List.mem_filter.mp (ready.subset member)
            exact ⟨(mem_toList manager fd callback).mp inside.1, by simpa using inside.2⟩
          constructor
          · intro earlier op after later split
            rw [outputs] at split
            have shows := polled_shows split
            exact shows
          · rw [outputs, polled_ranFds]
            -- the callbacks run in the order of the map
            have ascending := (toList_ascending manager).sublist
              (ready.sublist.trans (List.filter_sublist))
            exact (List.pairwise_map.mpr ascending).imp fun before => Int.ne_of_lt before
          · intro fd callback member
            rw [outputs] at member
            obtain ⟨earlier, later, split⟩ := List.append_of_mem member
            have inside := (polled_ran split).1
            exact ⟨revents, react, rfl, (listed inside).2, quiet (List.ne_nil_of_mem inside)⟩
          · intro earlier fd callback later split
            rw [outputs] at split
            obtain ⟨inside, ran⟩ := polled_ran split
            refine ⟨?_, fun op after member => ?_⟩
            · rw [replay_ran _ ran]
              exact (listed inside).1
            · obtain ⟨_, _, ⟨⟩⟩ := ran _ member
          · exact result

theorem foldl_synced {manager : PollManager κ} (synced : manager.Synced) (ops : List (PollOp κ)) :
    (ops.foldl operate manager).Synced := by
  cases ops using List.reverseRecOn with
  | nil => exact synced
  | append_singleton ops op =>
      rw [List.foldl_append]
      exact operate_synced _ op

theorem step_synced {manager : PollManager κ} (synced : manager.Synced) (input : Input κ) :
    (step input manager).state.Synced := by
  cases input with
  | operate op => exact operate_synced manager op
  | poll result react =>
      cases result with
      | failed => exact synced
      | reported revents =>
          obtain ⟨runs, ops, -, -, -, state, -⟩ := poll_spec synced revents react
          rw [step, state]
          exact foldl_synced (fill_synced synced revents) ops

/-- Every call of the manager, in every sequence of calls from its construction on, is orderly. -/
theorem poll_orderly (eventFd : Fd) (inputs : List (Input κ)) :
    Machine.All Orderly (Machine.steps step { eventFd : PollManager κ } inputs) := by
  intro record member
  obtain ⟨past, input, future, rfl, rfl⟩ := Machine.exists_split_of_mem step member
  refine step_orderly ?_ input
  exact Machine.run_induction step { eventFd : PollManager κ } (motive := fun _ manager => manager.Synced)
    (.inl rfl) (fun _ _ input synced => step_synced synced input) past

end PollManager

end LibIso15118
