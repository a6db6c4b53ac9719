import LibIso15118.D20.Session

set_option autoImplicit false

/-!
# The poll manager and the connections

A connection registers the descriptor it waits on together with a callback of its own. The descriptors
of the process are the sockets that are open; a number is given out again once its socket is closed.
-/

namespace LibIso15118

namespace Table

variable {κ α : Type} [DecidableEq κ]

/-- `std::map::emplace` keeps an entry that is there. -/
def emplace (table : Table κ α) (key : κ) (value : α) : Table κ α :=
  if table.contains key then table else table.insert key value

def erase (table : Table κ α) (key : κ) : Table κ α := fun other =>
  if other = key then none else table other

theorem insert_eq_some {table : Table κ α} {key other : κ} {value found : α} :
    table.insert key value other = some found ↔
      other = key ∧ found = value ∨ other ≠ key ∧ table other = some found := by
  by_cases same : other = key <;> simp [insert, same, eq_comm]

theorem emplace_fresh {table : Table κ α} {key : κ} (value : α) (fresh : table key = none) :
    table.emplace key value = table.insert key value := by
  simp [emplace, contains, fresh]

theorem emplace_kept {table : Table κ α} {key other : κ} {found : α} (value : α)
    (there : table other = some found) : table.emplace key value other = some found := by
  by_cases same : other = key
  · subst same
    simp [emplace, contains, there]
  · by_cases present : table.contains key = true
    · simp [emplace, present, there]
    · simp [emplace, present, insert, same, there]

@[simp] theorem insert_self (table : Table κ α) (key : κ) (value : α) : table.insert key value key = some value := by
  simp [insert]

theorem insert_of_ne (table : Table κ α) {key other : κ} (value : α) (different : other ≠ key) :
    table.insert key value other = table other := by
  simp [insert, different]

theorem erase_insert {table : Table κ α} {key : κ} (value : α) (fresh : table key = none) :
    (table.insert key value).erase key = table := by
  funext other
  by_cases same : other = key <;> simp [erase, insert, same, fresh]

theorem insert_insert_erase {table : Table κ α} {key other : κ} (value value' : α) (fresh : table key = none)
    (different : other ≠ key) :
    ((table.insert key value).insert other value').erase key = table.insert other value' := by
  funext third
  by_cases same : third = key
  · simp [erase, insert, same, fresh, different.symm]
  · by_cases here : third = other
    · simp [erase, insert, here, different]
    · simp [erase, insert, same, here]

theorem erase_eq_some {table : Table κ α} {key other : κ} {found : α} :
    table.erase key other = some found ↔ other ≠ key ∧ table other = some found := by
  by_cases same : other = key <;> simp [erase, same]

end Table

abbrev Fd := Int

/-- A callback of the poll manager; those of a connection carry the number of its session. -/
inductive PollCallback where
  | sdpServer
  | handleConnect (owner : Nat)
  | handleData (owner : Nat)
  deriving DecidableEq

/-- `registered_fds` of the poll manager, and the open sockets: those of a session, and that of the SDP
server. -/
structure Descriptors where
  registeredFds : Table Fd PollCallback := .empty
  sockets : Table Fd (Option Nat) := .empty

namespace Descriptors

def registerFd (fd : Fd) (callback : PollCallback) (descriptors : Descriptors) : Descriptors :=
  { descriptors with registeredFds := descriptors.registeredFds.emplace fd callback }

def unregisterFd (fd : Fd) (descriptors : Descriptors) : Descriptors :=
  { descriptors with registeredFds := descriptors.registeredFds.erase fd }

/-- `socket` or `accept4` has returned a descriptor. -/
def opened (fd : Fd) (owner : Option Nat) (descriptors : Descriptors) : Descriptors :=
  { descriptors with sockets := descriptors.sockets.insert fd owner }

def close (fd : Fd) (descriptors : Descriptors) : Descriptors :=
  { descriptors with sockets := descriptors.sockets.erase fd }

/-- The system gives out the number of no open socket. -/
def available (descriptors : Descriptors) (fd : Fd) : Bool :=
  decide (0 ≤ fd) && !descriptors.sockets.contains fd

end Descriptors

structure ConnectionPlain where
  fd : Fd
  connectionOpen : Bool := false

/-- The SSL object exists once a connection is accepted, and owns the accepted socket then. -/
structure ConnectionSsl where
  fd : Fd
  acceptFd : Fd := -1
  handshakeComplete : Bool := false

inductive IoConnection where
  | plain (connection : ConnectionPlain)
  | ssl (connection : ConnectionSsl)

namespace ConnectionPlain

variable (owner : Nat) (connection : ConnectionPlain) (descriptors : Descriptors)

def construct (fd : Fd) : ConnectionPlain × Descriptors :=
  ({ fd }, (descriptors.opened fd (some owner)).registerFd fd (.handleConnect owner))

def handleConnect (acceptFd : Fd) : ConnectionPlain × Descriptors :=
  let descriptors := descriptors.opened acceptFd (some owner)
  let descriptors := (descriptors.unregisterFd connection.fd).close connection.fd
  ({ fd := acceptFd, connectionOpen := true }, descriptors.registerFd acceptFd (.handleData owner))

def close : ConnectionPlain × Descriptors :=
  ({ connection with connectionOpen := false },
    (descriptors.unregisterFd connection.fd).close connection.fd)

end ConnectionPlain

namespace ConnectionSsl

variable (owner : Nat) (connection : ConnectionSsl) (descriptors : Descriptors)

def construct (fd : Fd) : ConnectionSsl × Descriptors :=
  ({ fd }, (descriptors.opened fd (some owner)).registerFd fd (.handleConnect owner))

def handleConnect (acceptFd : Fd) : ConnectionSsl × Descriptors :=
  let descriptors := descriptors.opened acceptFd (some owner)
  let descriptors := (descriptors.unregisterFd connection.fd).close connection.fd
  ({ connection with acceptFd }, descriptors.registerFd acceptFd (.handleData owner))

def close : ConnectionSsl × Descriptors :=
  -- The listening socket is not looked at.
  (connection, (descriptors.close connection.acceptFd).unregisterFd connection.acceptFd)

/-- The SSL object closes its socket when it is destroyed. -/
def destroy : Descriptors :=
  if connection.acceptFd = -1 then descriptors else descriptors.close connection.acceptFd

end ConnectionSsl

namespace IoConnection

variable (owner : Nat) (descriptors : Descriptors)

def construct (secure : Bool) (fd : Fd) : IoConnection × Descriptors :=
  if secure then
    let (connection, descriptors) := ConnectionSsl.construct owner descriptors fd
    (.ssl connection, descriptors)
  else
    let (connection, descriptors) := ConnectionPlain.construct owner descriptors fd
    (.plain connection, descriptors)

def handleConnect (connection : IoConnection) (acceptFd : Fd) : IoConnection × Descriptors :=
  match connection with
  | .plain connection =>
      let (connection, descriptors) := connection.handleConnect owner descriptors acceptFd
      (.plain connection, descriptors)
  | .ssl connection =>
      let (connection, descriptors) := connection.handleConnect owner descriptors acceptFd
      (.ssl connection, descriptors)

def close (connection : IoConnection) : IoConnection × Descriptors :=
  match connection with
  | .plain connection =>
      let (connection, descriptors) := connection.close descriptors
      (.plain connection, descriptors)
  | .ssl connection =>
      let (connection, descriptors) := connection.close descriptors
      (.ssl connection, descriptors)

def destroy (connection : IoConnection) : Descriptors :=
  match connection with
  | .plain _ => descriptors
  | .ssl connection => connection.destroy descriptors

def accepted : IoConnection → Bool
  | .plain connection => connection.connectionOpen
  | .ssl connection => decide (connection.acceptFd ≠ -1)

def watched : IoConnection → Fd
  | .plain connection => connection.fd
  | .ssl connection => if connection.acceptFd = -1 then connection.fd else connection.acceptFd

def callback (connection : IoConnection) : PollCallback :=
  if connection.accepted then .handleData owner else .handleConnect owner

section Specs

variable {owner descriptors}

@[simp] theorem construct_watched (secure : Bool) (fd : Fd) :
    (construct owner descriptors secure fd).1.watched = fd := by
  cases secure <;> simp [construct, ConnectionPlain.construct, ConnectionSsl.construct, watched]

@[simp] theorem construct_accepted (secure : Bool) (fd : Fd) :
    (construct owner descriptors secure fd).1.accepted = false := by
  cases secure <;> simp [construct, ConnectionPlain.construct, ConnectionSsl.construct, accepted]

theorem construct_descriptors (secure : Bool) (fd : Fd) :
    (construct owner descriptors secure fd).2 =
      { registeredFds := descriptors.registeredFds.emplace fd (.handleConnect owner)
        sockets := descriptors.sockets.insert fd (some owner) } := by
  cases secure <;> rfl

variable {connection : IoConnection} {acceptFd : Fd}

theorem handleConnect_accepted (valid : 0 ≤ acceptFd) :
    (connection.handleConnect owner descriptors acceptFd).1.accepted = true := by
  cases connection with
  | plain connection => rfl
  | ssl connection =>
      have given : acceptFd ≠ -1 := by
        rintro rfl
        exact absurd valid (by decide)
      simp [handleConnect, ConnectionSsl.handleConnect, accepted, given]

theorem handleConnect_watched (valid : 0 ≤ acceptFd) :
    (connection.handleConnect owner descriptors acceptFd).1.watched = acceptFd := by
  cases connection with
  | plain connection => rfl
  | ssl connection =>
      have given : acceptFd ≠ -1 := by
        rintro rfl
        exact absurd valid (by decide)
      simp [handleConnect, ConnectionSsl.handleConnect, watched, given]

theorem handleConnect_callback (valid : 0 ≤ acceptFd) :
    (connection.handleConnect owner descriptors acceptFd).1.callback owner = .handleData owner := by
  simp [callback, handleConnect_accepted valid]

theorem handleConnect_descriptors (listening : connection.accepted = false) :
    (connection.handleConnect owner descriptors acceptFd).2 =
      { registeredFds :=
          (descriptors.registeredFds.erase connection.watched).emplace acceptFd (.handleData owner)
        sockets := (descriptors.sockets.insert acceptFd (some owner)).erase connection.watched } := by
  cases connection with
  | plain connection => rfl
  | ssl connection =>
      have unaccepted : connection.acceptFd = -1 := by simpa [accepted] using listening
      simp [handleConnect, ConnectionSsl.handleConnect, watched, unaccepted, Descriptors.registerFd,
        Descriptors.unregisterFd, Descriptors.close, Descriptors.opened]

theorem release_descriptors (accepted : connection.accepted = true) :
    ((connection.close descriptors).1.destroy (connection.close descriptors).2).registeredFds =
        descriptors.registeredFds.erase connection.watched ∧
      ((connection.close descriptors).1.destroy (connection.close descriptors).2).sockets =
        descriptors.sockets.erase connection.watched := by
  cases connection with
  | plain connection => exact ⟨rfl, rfl⟩
  | ssl connection =>
      have given : connection.acceptFd ≠ -1 := by simpa [IoConnection.accepted] using accepted
      constructor
      · simp [close, ConnectionSsl.close, destroy, ConnectionSsl.destroy, watched, given, Descriptors.close,
          Descriptors.unregisterFd]
      · simp only [close, ConnectionSsl.close, destroy, ConnectionSsl.destroy, watched, given, Descriptors.close,
          Descriptors.unregisterFd, if_false]
        -- The second close finds nothing.
        funext other
        by_cases same : other = connection.acceptFd <;> simp [Table.erase, same]

theorem destroy_registeredFds : (connection.destroy descriptors).registeredFds = descriptors.registeredFds := by
  cases connection with
  | plain connection => rfl
  | ssl connection =>
      by_cases unaccepted : connection.acceptFd = -1 <;>
        simp [destroy, ConnectionSsl.destroy, unaccepted, Descriptors.close]

end Specs

end IoConnection

end LibIso15118
