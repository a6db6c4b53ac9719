import LibIso15118.Station.PauseContext
import Mathlib.Data.List.Infix

set_option autoImplicit false

namespace LibIso15118

open Datatypes Shared

def StationInput.isMessage : StationInput → Bool
  | .feed (.message _ _) => true
  | _ => false

namespace Station

/-- The connection has had this session id. -/
def Uses (past : List StationStep) (number : Nat) (id : SessionId) : Prop :=
  ∃ record ∈ past, ∃ conn, record.after.current = some conn ∧ conn.number = number ∧
    conn.fsm.ctx.session.id = id

def settingUp? (record : StationStep) : Option Connection :=
  match record.before.current, record.input with
  | some conn, .feed (.message _ (.request (.sessionSetup _))) =>
      if conn.fsm.state.id = .sessionSetup ∧ conn.fsm.ctx.vehicleCertHash.isSome then some conn else none
  | _, _ => none

/-- The connection that gets a `SessionStopReq` in one of the last two states. -/
def stopping? (record : StationStep) : Option (Connection × SessionStopRequest) :=
  match record.before.current, record.input with
  | some conn, .feed event => if conn.fsm.state.id.ends then event.stopRequest?.map (conn, ·) else none
  | _, _ => none

def setUp (past : List StationStep) (number : Nat) : Bool :=
  past.any fun record => (settingUp? record).any (·.number = number)

def terminated (past : List StationStep) (number : Nat) : Bool :=
  past.any fun record => (stopping? record).any fun (conn, req) =>
    conn.number = number ∧ req.chargingSession = .terminate

def pausesOwn (record : StationStep) : Bool :=
  (stopping? record).any fun (conn, req) =>
    req.chargingSession = .pause ∧ conn.fsm.ctx.session.id = req.header.sessionId

/-- A `SessionStopReq(Pause)` is answered with OK. -/
def pausesOk (record : StationStep) : Bool :=
  (stopping? record).any (fun (_, req) => req.chargingSession = .pause) &&
    (responses record.outputs).any (·.code? = some .ok)

def lastMessage (past : List StationStep) (number : Nat) : Option StationStep :=
  (past.filter fun record =>
    record.before.current.any (·.number = number) && record.input.isMessage).getLast?

/-- When the last step ends a connection that has set up a session with a certificate, then that
session has been terminated, or the last message has paused it under its own id. -/
def cleanEnd (past : List StationStep) : Bool :=
  past.getLast?.all fun record =>
    record.after.current.isSome || record.before.current.all fun conn =>
      !setUp past conn.number || terminated past conn.number || (lastMessage past conn.number).any pausesOwn

def CleanEnds (past : List StationStep) : Prop := ∀ history ∈ past.inits, cleanEnd history = true

theorem CleanEnds.shorter (past : List StationStep) (record : StationStep)
    (clean : CleanEnds (past ++ [record])) : CleanEnds past := by
  intro history early
  refine clean history ?_
  rw [List.mem_inits] at early ⊢
  exact early.trans (List.prefix_append _ _)

theorem CleanEnds.last {past : List StationStep} {record : StationStep} {conn : Connection}
    (clean : CleanEnds (past ++ [record])) (current : record.before.current = some conn)
    (ended : record.after.current = none) (set : setUp (past ++ [record]) conn.number = true) :
    terminated (past ++ [record]) conn.number = true ∨
      (lastMessage (past ++ [record]) conn.number).any pausesOwn = true := by
  have here := clean (past ++ [record]) (List.mem_inits _ _ |>.mpr (List.prefix_refl _))
  simpa [cleanEnd, current, ended, set] using here

/-- The latest connection with this session, but for the current one if it has set the session up
again, has ended with a pause. -/
def Parked (past : List StationStep) (station : Station) (id : SessionId) : Prop :=
  ∃ number, number ≤ station.count ∧ (∀ conn, station.current = some conn → number < conn.number) ∧
    Uses past number id ∧ (lastMessage past number).any pausesOk = true ∧
    ∀ later, number < later → Uses past later id →
      ∃ conn, station.current = some conn ∧ conn.number = later ∧ setUp past later = true

structure ResumeInvariant (platform : Platform) (past : List StationStep) (station : Station) :
    Prop extends Ownership platform past station where
  used : ∀ conn, station.current = some conn → Uses past conn.number conn.fsm.ctx.session.id
  bounded : ∀ number id, Uses past number id → number ≤ station.count
  bears : ∀ conn, station.current = some conn → setUp past conn.number = true →
    conn.fsm.ctx.vehicleCertHash.isSome = true
  own : ∀ conn pauseCtx, station.current = some conn → setUp past conn.number = true →
    station.pauseCtx = some pauseCtx → pauseCtx.oldSessionId = conn.fsm.ctx.session.id
  reset : ∀ conn, station.current = some conn → terminated past conn.number = true →
    13 ≤ conn.fsm.state.id.rank ∧ station.pauseCtx = none
  answered : ∀ record ∈ past, pausesOwn record = true → pausesOk record = true
  saved : ∀ pauseCtx, station.pauseCtx = some pauseCtx →
    (∃ conn, station.current = some conn ∧ setUp past conn.number = true ∧
      2 ≤ conn.fsm.state.id.rank) ∨ Parked past station pauseCtx.oldSessionId

section Concat

variable {past : List StationStep} {record : StationStep} {number : Nat} {id : SessionId}

theorem Uses.concat (uses : Uses past number id) : Uses (past ++ [record]) number id := by
  obtain ⟨other, member, facts⟩ := uses
  exact ⟨other, List.mem_append_left _ member, facts⟩

theorem uses_concat : Uses (past ++ [record]) number id ↔ Uses past number id ∨
    ∃ conn, record.after.current = some conn ∧ conn.number = number ∧ conn.fsm.ctx.session.id = id := by
  simp [Uses, or_and_right, exists_or]

theorem setUp_concat : setUp (past ++ [record]) number =
    (setUp past number || (settingUp? record).any (·.number = number)) := by
  simp [setUp]

theorem terminated_concat : terminated (past ++ [record]) number =
    (terminated past number || (stopping? record).any fun (conn, req) =>
      conn.number = number ∧ req.chargingSession = .terminate) := by
  simp [terminated]

theorem lastMessage_concat : lastMessage (past ++ [record]) number =
    if record.before.current.any (·.number = number) && record.input.isMessage then some record
    else lastMessage past number := by
  cases fed : record.before.current.any (·.number = number) && record.input.isMessage <;>
    simp [lastMessage, List.filter_append, fed]

theorem lastMessage_any (answered : ∀ other ∈ past, pausesOwn other = true → pausesOk other = true)
    (paused : (lastMessage past number).any pausesOwn = true) :
    (lastMessage past number).any pausesOk = true := by
  obtain ⟨last, here, own⟩ := Option.any_eq_true _ _ |>.mp paused
  have member := List.mem_of_getLast? here
  rw [here, Option.any_some]
  exact answered last (List.mem_filter.mp member).1 own

theorem settingUp_current {conn : Connection} (setting : settingUp? record = some conn) :
    record.before.current = some conn := by
  unfold settingUp? at setting
  split at setting <;> simp_all

theorem stopping_current {conn : Connection} {req : SessionStopRequest}
    (stopping : stopping? record = some (conn, req)) : record.before.current = some conn := by
  unfold stopping? at stopping
  split at stopping <;> simp_all

end Concat

section Numbers

variable {platform : Platform} {past : List StationStep} {station : Station} {number : Nat}

theorem Ownership.setUp_le (own : Ownership platform past station) (set : setUp past number = true) :
    number ≤ station.count := by
  obtain ⟨record, member, set⟩ := List.any_eq_true.mp set
  obtain ⟨conn, setting, same⟩ := Option.any_eq_true _ _ |>.mp set
  rw [← of_decide_eq_true same]
  exact own.counted record member conn (settingUp_current setting)

theorem Ownership.terminated_le (own : Ownership platform past station)
    (ended : terminated past number = true) : number ≤ station.count := by
  obtain ⟨record, member, ended⟩ := List.any_eq_true.mp ended
  obtain ⟨⟨conn, req⟩, stopping, same⟩ := Option.any_eq_true _ _ |>.mp ended
  rw [← (of_decide_eq_true same).1]
  exact own.counted record member conn (stopping_current stopping)

end Numbers

inductive IdStep (record : StationStep) (conn : Connection) : Except Exn Unit → Fsm → Prop
  | quiet (result : Except Exn Unit) (fsm' : Fsm) (unset : settingUp? record = none)
      (session : fsm'.ctx.session.id = conn.fsm.ctx.session.id ∨
        conn.fsm.ctx.vehicleCertHash = none ∧
          generatedIds record.outputs = [fsm'.ctx.session.id])
      (pauseCtx : ∀ pauseCtx, fsm'.ctx.pauseCtx = some pauseCtx → ∃ old,
        conn.fsm.ctx.pauseCtx = some old ∧ pauseCtx.oldSessionId = old.oldSessionId) :
      IdStep record conn result fsm'
  | setUp (result : Except Exn Unit) (fsm' : Fsm) (set : settingUp? record = some conn)
      (setup : conn.fsm.state.id = .sessionSetup)
      (message : record.input.isMessage = true) (unstopped : stopping? record = none)
      (own : ∀ pauseCtx, fsm'.ctx.pauseCtx = some pauseCtx →
        pauseCtx.oldSessionId = fsm'.ctx.session.id)
      (next : fsm'.ctx.pauseCtx = conn.fsm.ctx.pauseCtx ∨
        (result = .ok () → 2 ≤ fsm'.state.id.rank)) :
      IdStep record conn result fsm'

section Fed

variable {platform : Platform} {past : List StationStep} {station : Station} {conn : Connection}
  {event : Input} {record : StationStep}

theorem id_step (own : Ownership platform past station)
    (sound : Assumptions platform (past ++ [record])) (before : record.before = station)
    (asked : record.input = .feed event) (logged : record.outputs = (Fsm.step platform event conn.fsm).log)
    (current : station.current = some conn) :
    IdStep record conn (Fsm.step platform event conn.fsm).result
      (Fsm.step platform event conn.fsm).state := by
  have idle := own.idle conn current
  have here : record.before.current = some conn := by rw [before, current]
  by_cases setup : conn.fsm.state.id = .sessionSetup
  · have unstopped : stopping? record = none := by simp [stopping?, here, asked, setup, StateId.ends]
    cases Fsm.sessionSetup_step platform (State.eq_sessionSetup setup) idle event with
    | other unasked state session kept =>
        refine .quiet _ _ ?_ (.inl (congrArg Session.id session)) ?_
        · unfold settingUp?
          split
          · rename_i fed
            rw [asked, StationInput.feed.injEq] at fed
            exact absurd fed (unasked _ _)
          · rfl
        · exact fun pauseCtx saved => ⟨pauseCtx, kept ▸ saved, rfl⟩
    | joined env req hash old message cert joins session kept digested =>
        refine .setUp _ _ ?_ setup ?_ unstopped ?_ (.inl kept)
        · simp [settingUp?, here, asked, message, setup, cert]
        · simp [asked, message, StationInput.isMessage]
        · intro pauseCtx saved
          obtain ⟨before, -⟩ := own.joined_binds sound current cert joins (logged ▸ digested)
          rw [kept, own.shared conn current, before, Option.some.injEq] at saved
          rw [session, ← saved]
          rfl
    | fresh env req message session emplaced ids digested unjoined next =>
        cases cert : conn.fsm.ctx.vehicleCertHash with
        | none =>
            refine .quiet _ _ ?_ (.inr ⟨cert, ?_⟩) ?_
            · simp [settingUp?, here, asked, message, cert]
            · rw [logged, ids, session, Session.new_id]
            · intro pauseCtx saved
              rw [emplaced, cert, freshPauseContext] at saved
              exact ⟨pauseCtx, saved, rfl⟩
        | some hash =>
            refine .setUp _ _ ?_ setup ?_ unstopped ?_ (.inr fun result => ?_)
            · simp [settingUp?, here, asked, message, setup, cert]
            · simp [asked, message, StationInput.isMessage]
            · intro pauseCtx saved
              rw [emplaced, cert, freshPauseContext, Option.some.injEq] at saved
              rw [← saved, session, Session.new_id]
            · simp [next result, StateId.rank]
  · have frame := Fsm.step_frame platform conn.fsm event idle
    refine .quiet _ _ ?_ (.inl (frame.sessionId setup)) ?_
    · unfold settingUp?
      split <;> simp_all
    · intro pauseCtx saved
      obtain ⟨old, kept, id, -⟩ := Fsm.pauseCtx_origin platform idle setup saved
      exact ⟨old, kept, id⟩

theorem Parked.concat {id : SessionId} (parked : Parked past station id)
    (current : station.current = some conn) (before : record.before = station)
    (count : record.after.count = station.count)
    (still : ∀ conn', record.after.current = some conn' → conn'.number = conn.number)
    (taken : ∀ conn', record.after.current = some conn' → conn'.fsm.ctx.session.id = id →
      setUp (past ++ [record]) conn.number = true)
    (unset : record.after.current = none → setUp (past ++ [record]) conn.number = false) :
    Parked (past ++ [record]) record.after id := by
  -- A parked session stays parked in a step of another connection, unless this one takes its id
  -- and then ends.
  obtain ⟨number, le, lt, uses, paused, latest⟩ := parked
  have other := lt conn current
  refine ⟨number, count ▸ le, fun conn' now => still conn' now ▸ other, uses.concat, ?_, ?_⟩
  · rw [lastMessage_concat, before, current, Option.any_some, decide_eq_false (Nat.ne_of_gt other)]
    exact paused
  · intro later above uses
    have same : later = conn.number ∧ setUp (past ++ [record]) conn.number = true := by
      rcases uses_concat.mp uses with earlier | ⟨conn', now, rfl, own⟩
      · obtain ⟨conn', current', rfl, set⟩ := latest later above earlier
        obtain rfl : conn = conn' := by simpa [current] using current'
        exact ⟨rfl, by rw [setUp_concat, set, Bool.true_or]⟩
      · exact ⟨still conn' now, taken conn' now own⟩
    cases now : record.after.current with
    | none => exact absurd same.2 (by simp [unset now])
    | some conn' => exact ⟨conn', rfl, (still conn' now).trans same.1.symm, same.1 ▸ same.2⟩

theorem parked_paused {id : SessionId} (number : conn.number = station.count)
    (count : record.after.count = station.count) (ended : record.after.current = none)
    (bounded : ∀ number id, Uses past number id → number ≤ station.count)
    (uses : Uses past conn.number id)
    (paused : (lastMessage (past ++ [record]) conn.number).any pausesOk = true) :
    Parked (past ++ [record]) record.after id := by
  refine ⟨conn.number, by rw [number, count], by simp [ended], uses.concat, paused, ?_⟩
  intro later above uses
  rcases uses_concat.mp uses with earlier | ⟨conn', now, -⟩
  · exact absurd (bounded later id earlier) (by omega)
  · simp [ended] at now

theorem settingUp_cert (setting : settingUp? record = some conn) :
    conn.fsm.ctx.vehicleCertHash.isSome = true := by
  unfold settingUp? at setting
  split at setting
  · split at setting
    · obtain rfl := Option.some.inj setting
      rename_i facts
      exact facts.2
    · cases setting
  · cases setting

theorem stopping_fed (current : record.before.current = some conn) (asked : record.input = .feed event) :
    stopping? record =
      if conn.fsm.state.id.ends then event.stopRequest?.map (conn, ·) else none := by
  simp [stopping?, current, asked]

theorem stopping_unfed (record : StationStep) (unfed : ∀ conn event, record.before.current = some conn →
    record.input = .feed event → reports conn event = false) : stopping? record = none := by
  unfold stopping?
  split
  · rename_i conn event current asked
    have unreported := unfed conn event current asked
    cases event <;> simp_all [reports, Input.stopRequest?]
  · rfl

theorem settingUp_unfed (record : StationStep) (unfed : ∀ conn event, record.before.current = some conn →
    record.input = .feed event → reports conn event = false) : settingUp? record = none := by
  unfold settingUp?
  split
  · rename_i conn env req current asked
    simpa [reports] using unfed conn _ current asked
  · rfl

variable (inv : ResumeInvariant platform past station) (before : record.before = station)
  (asked : record.input = .feed event) (current : station.current = some conn)
include inv before asked current

theorem ResumeInvariant.reset_fed (ended : terminated (past ++ [record]) conn.number = true) :
    13 ≤ (Fsm.step platform event conn.fsm).state.state.id.rank ∧
      (Fsm.step platform event conn.fsm).state.ctx.pauseCtx = none := by
  have idle := inv.idle conn current
  have frame := Fsm.step_frame platform conn.fsm event idle
  have stopping := @stopping_fed conn event record (by rw [before, current]) asked
  rw [terminated_concat, Bool.or_eq_true] at ended
  rcases ended with earlier | now
  · obtain ⟨late, gone⟩ := inv.reset conn current earlier
    refine ⟨Nat.le_trans late frame.rank_le, ?_⟩
    rw [Option.eq_none_iff_forall_ne_some]
    intro pauseCtx saved
    have elsewhere : conn.fsm.state.id ≠ .sessionSetup := by
      intro setup
      simp [setup, StateId.rank] at late
    obtain ⟨old, kept, -⟩ := Fsm.pauseCtx_origin platform idle elsewhere saved
    simp [← inv.shared conn current, kept] at gone
  · obtain ⟨⟨conn', req⟩, here, facts⟩ := Option.any_eq_true _ _ |>.mp now
    rw [stopping] at here
    by_cases ends : conn.fsm.state.id.ends = true
    · simp only [ends, if_true, Option.map_eq_some_iff, Prod.mk.injEq] at here
      obtain ⟨_, stop, rfl, rfl⟩ := here
      refine ⟨Nat.le_trans ?_ frame.rank_le, ?_⟩
      · cases state : conn.fsm.state.id <;> simp_all [StateId.ends, StateId.rank]
      · rw [Fsm.ending_pauseCtx platform ends idle, stop]
        simp [Fsm.endedPauseContext, (of_decide_eq_true facts).2]
    · simp [ends] at here

theorem ResumeInvariant.own_fed (sound : Assumptions platform (past ++ [record]))
    (logged : record.outputs = (Fsm.step platform event conn.fsm).log)
    (set : setUp (past ++ [record]) conn.number = true) {pauseCtx : PauseContext}
    (saved : (Fsm.step platform event conn.fsm).state.ctx.pauseCtx = some pauseCtx) :
    pauseCtx.oldSessionId = (Fsm.step platform event conn.fsm).state.ctx.session.id := by
  cases id_step inv.toOwnership sound before asked logged current with
  | setUp set setup message unstopped own => exact own pauseCtx saved
  | quiet unset session kept =>
      rw [setUp_concat, unset, Option.any_none, Bool.or_false] at set
      obtain ⟨old, was, id⟩ := kept pauseCtx saved
      have bears := inv.bears conn current set
      rcases session with same | ⟨bare, -⟩
      · rw [same, id]
        exact inv.own conn old current set (inv.shared conn current ▸ was)
      · simp [bare] at bears

omit asked in
theorem ResumeInvariant.bears_fed (set : setUp (past ++ [record]) conn.number = true) :
    (Fsm.step platform event conn.fsm).state.ctx.vehicleCertHash.isSome = true := by
  apply Fsm.cert_kept platform (inv.idle conn current)
  rw [setUp_concat, Bool.or_eq_true] at set
  rcases set with earlier | now
  · exact inv.bears conn current earlier
  · obtain ⟨conn', setting, -⟩ := Option.any_eq_true _ _ |>.mp now
    obtain rfl : conn = conn' := by
      have here := settingUp_current setting
      simpa [before, current] using here
    exact settingUp_cert setting

theorem ResumeInvariant.saved_fed (sound : Assumptions platform (past ++ [record]))
    (logged : record.outputs = (Fsm.step platform event conn.fsm).log)
    (after : record.after = station.fed conn (Fsm.step platform event conn.fsm))
    {conn' : Connection} (still : record.after.current = some conn') {pauseCtx : PauseContext}
    (saved : (Fsm.step platform event conn.fsm).state.ctx.pauseCtx = some pauseCtx) :
    (∃ conn, record.after.current = some conn ∧ setUp (past ++ [record]) conn.number = true ∧
      2 ≤ conn.fsm.state.id.rank) ∨ Parked (past ++ [record]) record.after pauseCtx.oldSessionId := by
  obtain ⟨result, moved⟩ := fed_current (after ▸ still)
  have frame := Fsm.step_frame platform conn.fsm event (inv.idle conn current)
  have parks {old : PauseContext} (kept : station.pauseCtx = some old)
      (id : pauseCtx.oldSessionId = old.oldSessionId)
      (taken : Parked past station old.oldSessionId →
        (Fsm.step platform event conn.fsm).state.ctx.session.id = old.oldSessionId →
        setUp (past ++ [record]) conn.number = true) :
      (∃ conn, record.after.current = some conn ∧ setUp (past ++ [record]) conn.number = true ∧
        2 ≤ conn.fsm.state.id.rank) ∨ Parked (past ++ [record]) record.after pauseCtx.oldSessionId := by
    rcases inv.saved old kept with ⟨conn₀, current₀, set, late⟩ | parked
    · obtain rfl : conn = conn₀ := by simpa [current] using current₀
      refine .inl ⟨conn', still, ?_, ?_⟩
      · rw [moved, setUp_concat, set, Bool.true_or]
      · rw [moved]
        exact Nat.le_trans late frame.rank_le
    · refine .inr (id ▸ parked.concat current before (by rw [after, fed_count]) ?_ ?_ (by simp [still]))
      all_goals
        intro conn'' still'
        obtain ⟨-, rfl⟩ := fed_current (after ▸ still')
      · rfl
      · exact taken parked
  cases id_step inv.toOwnership sound before asked logged current with
  | setUp set setup message unstopped own next =>
      have set : setUp (past ++ [record]) conn.number = true := by simp [setUp_concat, set]
      rcases next with kept | late
      · exact parks (by rw [← inv.shared conn current, ← kept, saved]) rfl fun _ _ => set
      · exact .inl ⟨conn', still, by rw [moved]; exact set, by rw [moved]; exact late result⟩
  | quiet unset session kept =>
      obtain ⟨old, was, id⟩ := kept pauseCtx saved
      have was : station.pauseCtx = some old := inv.shared conn current ▸ was
      refine parks was id fun ⟨number, _, lt, _, _, latest⟩ taken => ?_
      rcases session with same | ⟨-, drawn⟩
      · have uses := inv.used conn current
        rw [← same, taken] at uses
        obtain ⟨_, _, _, set⟩ := latest conn.number (lt conn current) uses
        rw [setUp_concat, set, Bool.true_or]
      · rw [taken] at drawn
        exact absurd (inv.generated old was) (sound.fresh drawn)

omit asked in
theorem ResumeInvariant.parked_ended (count : record.after.count = station.count)
    (ended : record.after.current = none) (clean : CleanEnds (past ++ [record]))
    (answered : ∀ other ∈ past ++ [record], pausesOwn other = true → pausesOk other = true)
    (unset : settingUp? record = none) (unreset : terminated (past ++ [record]) conn.number = false)
    {old : PauseContext} (was : station.pauseCtx = some old) :
    Parked (past ++ [record]) record.after old.oldSessionId := by
  -- When the connection ends without having set up a session in this last step, its session is
  -- parked, or the one that was parked before.
  have unchanged : setUp (past ++ [record]) conn.number = setUp past conn.number := by
    rw [setUp_concat, unset, Option.any_none, Bool.or_false]
  cases set : setUp past conn.number with
  | true =>
      rcases clean.last (by rw [before, current]) ended (unchanged.trans set) with reset | paused
      · simp [unreset] at reset
      · rw [inv.own conn old current set was]
        exact parked_paused (inv.number conn current) count ended inv.bounded (inv.used conn current)
          (lastMessage_any answered paused)
  | false =>
      rcases inv.saved old was with ⟨conn', current', set', -⟩ | parked
      · obtain rfl : conn = conn' := by simpa [current] using current'
        simp [set] at set'
      · exact parked.concat current before count (by simp [ended]) (by simp [ended])
          fun _ => unchanged.trans set

theorem ResumeInvariant.parked_thrown (sound : Assumptions platform (past ++ [record]))
    (logged : record.outputs = (Fsm.step platform event conn.fsm).log)
    (after : record.after = station.fed conn (Fsm.step platform event conn.fsm))
    (clean : CleanEnds (past ++ [record]))
    (answered : ∀ other ∈ past ++ [record], pausesOwn other = true → pausesOk other = true)
    (ended : record.after.current = none) {pauseCtx : PauseContext}
    (saved : (Fsm.step platform event conn.fsm).state.ctx.pauseCtx = some pauseCtx) :
    Parked (past ++ [record]) record.after pauseCtx.oldSessionId := by
  have here : record.before.current = some conn := by rw [before, current]
  have unreset : terminated (past ++ [record]) conn.number = false := by
    rw [Bool.eq_false_iff]
    intro reset
    simp [(inv.reset_fed before asked current reset).2] at saved
  cases id_step inv.toOwnership sound before asked logged current with
  | setUp set setup message unstopped =>
      -- the last message is the `SessionSetupReq`
      have unclean := clean.last here ended (by simp [setUp_concat, set])
      simp [unreset, lastMessage_concat, here, message, pausesOwn, unstopped] at unclean
  | quiet unset session kept =>
      obtain ⟨old, was, id⟩ := kept pauseCtx saved
      rw [id]
      exact inv.parked_ended before current (by rw [after, fed_count]) ended clean answered unset unreset
        (inv.shared conn current ▸ was)

end Fed

section Step

variable {platform : Platform} {past : List StationStep} {record : StationStep}

theorem pausesOk_of_pausesOwn (own : Ownership platform past record.before)
    (effect : Effect platform record.before record.input record.after record.outputs)
    (pauses : pausesOwn record = true) : pausesOk record = true := by
  obtain ⟨⟨conn, req⟩, stopping, facts⟩ := Option.any_eq_true _ _ |>.mp pauses
  obtain ⟨pause, same⟩ := of_decide_eq_true facts
  suffices answered : (responses record.outputs).any (·.code? = some .ok) = true by
    simp [pausesOk, stopping, pause, answered]
  obtain ⟨before, input, outputs, after⟩ := record
  simp only at own effect ⊢
  cases effect with
  | skip unfed => simp [stopping_unfed ⟨before, input, [], before⟩ unfed] at stopping
  | connect vehicle config id asked free => simp [stopping?, free] at stopping
  | disconnect conn asked => simp [stopping?, asked] at stopping
  | feed conn' event asked current =>
      rw [stopping_fed current asked] at stopping
      by_cases ends : conn'.fsm.state.id.ends = true
      · simp only [ends, if_true, Option.map_eq_some_iff, Prod.mk.injEq] at stopping
        obtain ⟨req, stop, rfl, rfl⟩ := stopping
        obtain ⟨env, rfl⟩ := Input.eq_of_stopRequest stop
        rw [(Fsm.ending_stopRequest platform ends (own.idle _ current) env req).2]
        simp [handleSessionStop, validateHeader, same, pause, Response.code?]
      · simp [ends] at stopping

theorem ResumeInvariant.saved_skipped {station : Station} {input : StationInput}
    (inv : ResumeInvariant platform past station)
    (unfed : ∀ conn event, station.current = some conn → input = .feed event →
      reports conn event = false) (pauseCtx : PauseContext) (saved : station.pauseCtx = some pauseCtx) :
    (∃ conn, station.current = some conn ∧
      setUp (past ++ [⟨station, input, [], station⟩]) conn.number = true ∧
      2 ≤ conn.fsm.state.id.rank) ∨
      Parked (past ++ [⟨station, input, [], station⟩]) station pauseCtx.oldSessionId := by
  have unset := settingUp_unfed ⟨station, input, [], station⟩ unfed
  have unsent (number : Nat) :
      (station.current.any (·.number = number) && input.isMessage) = false := by
    cases current : station.current with
    | none => rfl
    | some conn =>
        rw [Bool.and_eq_false_iff]
        refine .inr ?_
        unfold StationInput.isMessage
        split
        · simpa [reports] using unfed conn _ current rfl
        · rfl
  rcases inv.saved pauseCtx saved with ⟨conn, current, set, late⟩ | ⟨number, le, lt, uses, paused, latest⟩
  · exact .inl ⟨conn, current, by rw [setUp_concat, set, Bool.true_or], late⟩
  · refine .inr ⟨number, le, lt, uses.concat, ?_, ?_⟩
    · rw [lastMessage_concat, unsent number]
      exact paused
    · intro later above uses
      have uses : Uses past later pauseCtx.oldSessionId := by
        rcases uses_concat.mp uses with earlier | ⟨conn, current, rfl, same⟩
        · exact earlier
        · exact same ▸ inv.used conn current
      obtain ⟨conn, current, same, set⟩ := latest later above uses
      exact ⟨conn, current, same, by rw [setUp_concat, set, Bool.true_or]⟩

section Connect

variable {station : Station} (inv : ResumeInvariant platform past station)
  (free : record.before.current = none)
include inv free

theorem ResumeInvariant.unset_new : setUp (past ++ [record]) (station.count + 1) = false := by
  rw [setUp_concat, settingUp?, free, Option.any_none, Bool.or_false, Bool.eq_false_iff]
  intro set
  exact absurd (inv.setUp_le set) (by omega)

theorem ResumeInvariant.unreset_new : terminated (past ++ [record]) (station.count + 1) = false := by
  rw [terminated_concat, stopping?, free, Option.any_none, Bool.or_false, Bool.eq_false_iff]
  intro ended
  exact absurd (inv.terminated_le ended) (by omega)

theorem ResumeInvariant.parked_connected (sound : Assumptions platform (past ++ [record]))
    (before : record.before = station) {conn : Connection} (now : record.after.current = some conn)
    (number : conn.number = station.count + 1) (count : record.after.count = station.count + 1)
    (drawn : generatedIds record.outputs = [conn.fsm.ctx.session.id])
    {pauseCtx : PauseContext} (saved : station.pauseCtx = some pauseCtx) :
    Parked (past ++ [record]) record.after pauseCtx.oldSessionId := by
  rcases inv.saved pauseCtx saved with ⟨conn, current, -⟩ | ⟨earlier, le, lt, uses, paused, latest⟩
  · simp [← before, free] at current
  · refine ⟨earlier, by omega, ?_, uses.concat, ?_, ?_⟩
    · intro conn' now'
      obtain rfl : conn = conn' := by simpa [now] using now'
      omega
    · rw [lastMessage_concat, free]
      exact paused
    · intro later above uses
      rcases uses_concat.mp uses with old | ⟨conn', now', -, same⟩
      · obtain ⟨conn', current, -⟩ := latest later above old
        simp [← before, free] at current
      · obtain rfl : conn = conn' := by simpa [now] using now'
        rw [same] at drawn
        exact absurd (inv.generated pauseCtx saved) (sound.fresh drawn)

end Connect

theorem resumeInvariant_step (inv : ResumeInvariant platform past record.before)
    (sound : Assumptions platform (past ++ [record])) (clean : CleanEnds (past ++ [record]))
    (effect : Effect platform record.before record.input record.after record.outputs) :
    ResumeInvariant platform (past ++ [record]) record.after := by
  have own := ownership_step inv.toOwnership sound effect
  have answered : ∀ other ∈ past ++ [record], pausesOwn other = true → pausesOk other = true := by
    intro other member
    rcases List.mem_append.mp member with earlier | last
    · exact inv.answered other earlier
    · rw [List.mem_singleton.mp last]
      exact pausesOk_of_pausesOwn inv.toOwnership effect
  have used (conn : Connection) (now : record.after.current = some conn) :
      Uses (past ++ [record]) conn.number conn.fsm.ctx.session.id :=
    uses_concat.mpr (.inr ⟨conn, now, rfl, rfl⟩)
  have bounded (number : Nat) (id : SessionId) (uses : Uses (past ++ [record]) number id) :
      number ≤ record.after.count := by
    rcases uses_concat.mp uses with earlier | ⟨conn, now, rfl, -⟩
    · exact Nat.le_trans (inv.bounded number id earlier) effect.count_le
    · exact Nat.le_of_eq (own.number conn now)
  obtain ⟨before, input, outputs, after⟩ := record
  simp only at inv effect own
  cases effect with
  | skip unfed =>
      refine { toOwnership := own, used, bounded, answered, bears := ?_, own := ?_, reset := ?_,
               saved := ?_ }
      · simpa [setUp_concat, settingUp_unfed ⟨before, input, [], before⟩ unfed] using inv.bears
      · simpa [setUp_concat, settingUp_unfed ⟨before, input, [], before⟩ unfed] using inv.own
      · simpa [terminated_concat, stopping_unfed ⟨before, input, [], before⟩ unfed] using
          inv.reset
      · exact inv.saved_skipped unfed
  | connect vehicle config id asked free =>
      refine { toOwnership := own, used, bounded, answered, bears := ?_, own := ?_, reset := ?_,
               saved := ?_ }
      · rintro conn ⟨⟩ set
        exact absurd set (Bool.eq_false_iff.mp (inv.unset_new free))
      · rintro conn pauseCtx ⟨⟩ set
        exact absurd set (Bool.eq_false_iff.mp (inv.unset_new free))
      · rintro conn ⟨⟩ ended
        exact absurd ended (Bool.eq_false_iff.mp (inv.unreset_new free))
      · intro pauseCtx saved
        exact .inr (inv.parked_connected free sound rfl rfl rfl rfl rfl saved)
  | feed conn event asked current =>
      refine { toOwnership := own, used, bounded, answered, bears := ?_, own := ?_, reset := ?_,
               saved := ?_ }
      · intro conn' still set
        obtain ⟨-, rfl⟩ := fed_current still
        exact inv.bears_fed rfl current set
      · intro conn' pauseCtx still set saved
        obtain ⟨-, rfl⟩ := fed_current still
        exact inv.own_fed rfl asked current sound rfl set saved
      · intro conn' still ended
        obtain ⟨-, rfl⟩ := fed_current still
        exact inv.reset_fed rfl asked current ended
      · intro pauseCtx saved
        cases still : (before.fed conn (Fsm.step platform event conn.fsm)).current with
        | none => exact .inr (inv.parked_thrown rfl asked current sound rfl rfl clean answered still saved)
        | some conn' =>
            have saved := inv.saved_fed rfl asked current sound rfl rfl still saved
            rwa [still] at saved
  | disconnect conn asked current =>
      have unset : settingUp? ⟨before, input, [], { before with current := none }⟩ = none := by
        simp [settingUp?, asked]
      have unstopped : stopping? ⟨before, input, [], { before with current := none }⟩ = none := by
        simp [stopping?, asked]
      refine { toOwnership := own, used, bounded, answered, bears := by simp, own := by simp,
               reset := by simp, saved := ?_ }
      intro pauseCtx saved
      refine .inr (inv.parked_ended rfl current rfl rfl clean answered unset ?_ saved)
      rw [terminated_concat, unstopped, Option.any_none, Bool.or_false, Bool.eq_false_iff]
      intro reset
      simp [(inv.reset conn current reset).2] at saved

/-- In a run where every session that a vehicle with certificate has set up ends with its termination
or with a pause, the session that is joined was paused by the latest connection that used it. -/
theorem only_paused_resume (platform : Platform) (inputs : List StationInput)
    (sound : Assumptions platform (run platform inputs)) (clean : CleanEnds (run platform inputs))
    (past future : List StationStep) (record : StationStep)
    (split : run platform inputs = past ++ record :: future) (conn conn' : Connection)
    (joins : JoinsOld record conn conn') :
    ∃ number < conn.number, Uses past number conn'.fsm.ctx.session.id ∧
      (∀ later, number < later → later < conn.number → ¬Uses past later conn'.fsm.ctx.session.id) ∧
      (lastMessage past number).any pausesOk = true := by
  refine Machine.run_always (act platform) {} (ResumeInvariant platform)
    (fun past => Assumptions platform past ∧ CleanEnds past)
    (fun past record => ∀ conn conn', JoinsOld record conn conn' →
      ∃ number < conn.number, Uses past number conn'.fsm.ctx.session.id ∧
        (∀ later, number < later → later < conn.number → ¬Uses past later conn'.fsm.ctx.session.id) ∧
        (lastMessage past number).any pausesOk = true)
    ?_ ?_ ?_ ?_ inputs ⟨sound, clean⟩ split conn conn' joins
  · exact fun past record ok => ⟨ok.1.shorter _ _, ok.2.shorter _ _⟩
  · refine { toOwnership := ownership_initial platform, used := by simp, bounded := ?_, bears := by simp,
             own := by simp, reset := by simp, answered := by simp, saved := by simp }
    rintro number id ⟨_, ⟨⟩, -⟩
  · intro past station input ok inv
    exact resumeInvariant_step inv ok.1 ok.2
      (act_effect platform station input)
  · intro past station input ok inv conn conn' joins
    obtain ⟨hash, old, -, saved, -, session⟩ :=
      joins.joined inv.toOwnership ok.1 (act_effect platform station input)
    obtain ⟨current, -, setup, -⟩ := joins
    have id : conn'.fsm.ctx.session.id = old.oldSessionId := congrArg Session.id session
    rw [id]
    rcases inv.saved old saved with ⟨conn₀, current₀, -, late⟩ | ⟨number, -, lt, uses, paused, latest⟩
    · obtain rfl : conn₀ = conn := Option.some.inj (current₀.symm.trans current)
      simp [setup, StateId.rank] at late
    · refine ⟨number, lt conn current, uses, ?_, paused⟩
      intro later above below uses
      obtain ⟨conn₀, current₀, rfl, -⟩ := latest later above uses
      obtain rfl : conn₀ = conn := Option.some.inj (current₀.symm.trans current)
      exact Nat.lt_irrefl _ below

end Step

open Sample in
theorem only_paused_resume_ac :
    ∃ conn conn', ∃ number < conn.number,
      JoinsOld (Machine.stepOf (act platform) (reached platform returning) (join (sessionId 1)))
        conn conn' ∧
      Uses (run platform returning) number conn'.fsm.ctx.session.id ∧
      (lastMessage (run platform returning) number).any pausesOk = true := by
  obtain ⟨conn, conn', joins⟩ := exists_joinsOld
    (Machine.stepOf (act platform) (reached platform returning) (join (sessionId 1)))
    (by decide +kernel) (by decide +kernel) (by decide +kernel)
  obtain ⟨number, lt, uses, -, paused⟩ :=
    only_paused_resume platform (returning ++ [join (sessionId 1)]) returning_sound
      (by unfold CleanEnds; decide +kernel) _ [] _ (run_concat _ _ _) conn conn' joins
  exact ⟨conn, conn', number, lt, joins, uses, paused⟩

open Sample in
/-- A session that never got past `SessionSetup` is joined. -/
theorem only_paused_resume_aborted :
    ¬∀ (platform : Platform) (inputs : List StationInput), Assumptions platform (run platform inputs) →
      ∀ (past future : List StationStep) (record : StationStep),
      run platform inputs = past ++ record :: future → ∀ conn conn', JoinsOld record conn conn' →
      ∃ number < conn.number, Uses past number conn'.fsm.ctx.session.id ∧
        (∀ later, number < later → later < conn.number → ¬Uses past later conn'.fsm.ctx.session.id) ∧
        (lastMessage past number).any pausesOk = true := by
  intro paused
  obtain ⟨conn, conn', joins⟩ := exists_joinsOld
    (Machine.stepOf (act platform) (reached platform aborted) (join (sessionId 1)))
    (by decide +kernel) (by decide +kernel) (by decide +kernel)
  obtain ⟨number, -, -, -, answered⟩ := paused platform _ aborted_sound _ [] _ (run_concat _ _ _) conn
    conn' joins
  have nobody : ∀ record ∈ run platform aborted, pausesOk record = false := by decide +kernel
  obtain ⟨last, here, pauses⟩ := Option.any_eq_true _ _ |>.mp answered
  have member := (List.mem_filter.mp (List.mem_of_getLast? here)).1
  simp [nobody last member] at pauses

end Station

end LibIso15118
