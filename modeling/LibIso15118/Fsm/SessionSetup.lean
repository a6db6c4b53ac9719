import LibIso15118.Session.Dispatch

set_option autoImplicit false

namespace LibIso15118

open Datatypes Shared

def Output.response? : Output → Option Response
  | .respond res => some res
  | _ => none

def Output.generatedId? : Output → Option SessionId
  | .generatedId id => some id
  | _ => none

def Output.digest? : Output → Option (Vector UInt8 72)
  | .digest input => some input
  | _ => none

def responses (log : List Output) : List Response := log.filterMap Output.response?

def generatedIds (log : List Output) : List SessionId := log.filterMap Output.generatedId?

def digests (log : List Output) : List (Vector UInt8 72) := log.filterMap Output.digest?

section Outputs

variable (log log' : List Output)

@[simp] theorem responses_nil : responses [] = [] := rfl
@[simp] theorem generatedIds_nil : generatedIds [] = [] := rfl
@[simp] theorem digests_nil : digests [] = [] := rfl

@[simp] theorem responses_append : responses (log ++ log') = responses log ++ responses log' :=
  List.filterMap_append

@[simp] theorem generatedIds_append :
    generatedIds (log ++ log') = generatedIds log ++ generatedIds log' := List.filterMap_append

@[simp] theorem digests_append : digests (log ++ log') = digests log ++ digests log' :=
  List.filterMap_append

@[simp] theorem responses_cons (o : Output) :
    responses (o :: log) = o.response?.toList ++ responses log := by
  cases o <;> rfl

@[simp] theorem generatedIds_cons (o : Output) :
    generatedIds (o :: log) = o.generatedId?.toList ++ generatedIds log := by
  cases o <;> rfl

@[simp] theorem digests_cons (o : Output) :
    digests (o :: log) = o.digest?.toList ++ digests log := by
  cases o <;> rfl

theorem mem_responses {res : Response} : res ∈ responses log ↔ .respond res ∈ log := by
  simp only [responses, List.mem_filterMap]
  constructor
  · rintro ⟨o, member, sent⟩
    cases o <;> simp [Output.response?] at sent
    exact sent ▸ member
  · exact fun member => ⟨_, member, rfl⟩

@[simp] theorem responses_digests (asked : List (Vector UInt8 72)) :
    responses (asked.map .digest) = [] := by
  induction asked with
  | nil => rfl
  | cons input rest hyp => simp [hyp, Output.response?]

@[simp] theorem generatedIds_digests (asked : List (Vector UInt8 72)) :
    generatedIds (asked.map .digest) = [] := by
  induction asked with
  | nil => rfl
  | cons input rest hyp => simp [hyp, Output.generatedId?]

end Outputs

section SessionSetup

variable (platform : Platform) (env : Env)

/-- The pause context that a `SessionSetupReq` with this session id joins. -/
def joinedPauseContext (certHash : Option Sha512Hash) (pauseCtx : Option PauseContext)
    (sessionId : SessionId) : Option PauseContext :=
  match certHash, pauseCtx with
  | some hash, some pauseCtx =>
      if sessionIsZero sessionId = false ∧ pauseCtx.vehicleCertSessionIdHash =
          calculateNewCertSessionIdHash platform hash sessionId then some pauseCtx
      else none
  | _, _ => none

theorem joinedPauseContext_eq_some {certHash : Option Sha512Hash} {pauseCtx : Option PauseContext}
    {sessionId : SessionId} {old : PauseContext} :
    joinedPauseContext platform certHash pauseCtx sessionId = some old ↔
      ∃ hash, certHash = some hash ∧ pauseCtx = some old ∧ sessionIsZero sessionId = false ∧
        old.vehicleCertSessionIdHash = calculateNewCertSessionIdHash platform hash sessionId := by
  unfold joinedPauseContext
  split
  · rename_i hash paused
    by_cases same : sessionIsZero sessionId = false ∧ paused.vehicleCertSessionIdHash =
        calculateNewCertSessionIdHash platform hash sessionId
    · simp only [same, and_self, if_true, Option.some.injEq, exists_eq_left']
      constructor
      · rintro rfl
        exact ⟨rfl, trivial, same.2⟩
      · exact And.left
    · simp only [same, if_false, Option.some.injEq, exists_eq_left', reduceCtorEq, false_iff]
      rintro ⟨rfl, nonzero, hashes⟩
      exact same ⟨nonzero, hashes⟩
  · rename_i neither
    simp only [reduceCtorEq, false_iff]
    rintro ⟨hash, cert, paused, -⟩
    exact neither hash old cert paused

theorem wp_chooseSession (ctx : Context) (req : SessionSetupRequest)
    (post : Except Exn Bool → Context → List Output → Prop)
    (joined : ∀ hash old, ctx.vehicleCertHash = some hash →
      joinedPauseContext platform ctx.vehicleCertHash ctx.pauseCtx req.header.sessionId = some old →
      post (.ok false) { ctx with session := .ofPauseContext old }
        [.digest (concatenatedSessionIdVehicle hash req.header.sessionId)])
    (fresh : ∀ asked : List (Vector UInt8 72),
      joinedPauseContext platform ctx.vehicleCertHash ctx.pauseCtx req.header.sessionId = none →
      post (.ok true) { ctx with session := .new env.newSessionId }
        (asked.map .digest ++ [.generatedId env.newSessionId])) :
    Act.wp (State.SessionSetup.chooseSession platform env req) post ctx := by
  simp only [State.SessionSetup.chooseSession, Act.wp_bind, Act.wp_get]
  split
  · rename_i hash old cert paused
    simp only [Act.wp_ite, Act.wp_bind, Act.wp_pure, Act.wp_emit, Act.wp_modify,
      State.SessionSetup.newSession, State.SessionSetup.certSessionIdHash]
    refine ⟨fun zero => ?_, fun nonzero => ⟨fun same => ?_, fun other => ?_⟩⟩
    · exact fresh [] (by simp [joinedPauseContext, cert, paused, zero])
    · exact joined hash old cert (by simp [joinedPauseContext, cert, paused, nonzero, same])
    · exact fresh [_] (by simp [joinedPauseContext, cert, paused, other])
  · rename_i neither
    simp only [Act.wp_bind, Act.wp_pure, State.SessionSetup.newSession, Act.wp_emit, Act.wp_modify]
    refine fresh [] ?_
    rw [joinedPauseContext]
    exact neither

def freshPauseContext (certHash : Option Sha512Hash) (pauseCtx : Option PauseContext)
    (id : SessionId) : Option PauseContext :=
  match certHash with
  | none => pauseCtx
  | some hash => some
      { vehicleCertSessionIdHash := calculateNewCertSessionIdHash platform hash id
        oldSessionId := id }

def Session.charges (session : Session) : Bool := session.isAcCharger || session.isDcCharger

def PauseContext.charges (pauseCtx : PauseContext) : Bool := (Session.ofPauseContext pauseCtx).charges

def joinedResult (session : Session) : Result :=
  if session.isAcCharger then .createState (.acChargeParameterDiscovery {})
  else if session.isDcCharger then .createState .dcChargeParameterDiscovery
  else {}

/-- What feeding a `SessionSetupReq` does. In both cases the encoder may reject the EVSE id, and then
the exception leaves the new session in place. -/
inductive SetupAnswer (ctx : Context) (reqSessionId : SessionId) :
    Except Exn Result → Context → List Output → Prop
  | fresh (result : Except Exn Result) (ctx' : Context) (log : List Output)
      (unjoined : joinedPauseContext platform ctx.vehicleCertHash ctx.pauseCtx reqSessionId = none)
      (session : ctx'.session = .new env.newSessionId)
      (pauseCtx : ctx'.pauseCtx =
        freshPauseContext platform ctx.vehicleCertHash ctx.pauseCtx env.newSessionId)
      (ids : generatedIds log = [env.newSessionId])
      (digested : ∀ hash, ctx.vehicleCertHash = some hash →
        concatenatedSessionIdVehicle hash env.newSessionId ∈ digests log)
      (answer : ∀ res ∈ responses log, res.code? = some .okNewSessionEstablished)
      (next : result = .ok (.createState .authorizationSetup) ∨ result = .error .runtimeError) :
      SetupAnswer ctx reqSessionId result ctx' log
  | joined (result : Except Exn Result) (ctx' : Context) (log : List Output) (hash : Sha512Hash)
      (old : PauseContext) (cert : ctx.vehicleCertHash = some hash)
      (joins : joinedPauseContext platform ctx.vehicleCertHash ctx.pauseCtx reqSessionId = some old)
      (session : ctx'.session = .ofPauseContext old)
      (pauseCtx : ctx'.pauseCtx = ctx.pauseCtx)
      (ids : generatedIds log = [])
      (digested : concatenatedSessionIdVehicle hash reqSessionId ∈ digests log)
      (answer : ∀ res, result = .ok res →
        ∃ out ∈ responses log, out.code? = some .okOldSessionJoined)
      (next : result = .ok (joinedResult ctx'.session) ∨ result = .error .runtimeError) :
      SetupAnswer ctx reqSessionId result ctx' log

theorem sessionSetup_answer (ctx : Context) (req : SessionSetupRequest)
    (pending : ctx.request = some (.request (.sessionSetup req))) :
    Act.wp (State.SessionSetup.feed platform env .v2gtpMessage)
      (fun result ctx' log => SetupAnswer platform env ctx req.header.sessionId result ctx' log ∧
        ctx'.request = none ∧ ctx'.vehicleCertHash = ctx.vehicleCertHash ∧
        ctx'.sessionStopped = ctx.sessionStopped ∧ ctx'.sessionPaused = ctx.sessionPaused ∧
        ctx'.timeouts = ctx.timeouts ∧ ctx'.stored = ctx.stored) ctx := by
  simp only [State.SessionSetup.feed, Act.wp_bind, Act.wp_ite, Feed.wp_pullRequest _ pending]
  simp only [ne_eq, not_true_eq_false, false_implies, not_false_eq_true, true_implies, true_and,
    Feed.wp_feedback, Act.wp_modify, Act.wp_get]
  apply wp_chooseSession
  · intro hash old cert joins
    simp only [Feed.wp_respond, Act.wp_pure, Bool.false_eq_true, false_implies, not_false_eq_true,
      true_implies, true_and, and_true, Context.stored]
    refine ⟨fun fits => ⟨fun ac => ?_, fun ac => ⟨fun dc => ?_, fun dc => ?_⟩⟩, fun unfit => ?_⟩
    all_goals
      refine .joined _ _ _ hash old cert joins rfl rfl ?_ ?_ ?_ ?_
      all_goals simp_all [Output.generatedId?, Output.digest?, Output.response?, handleSessionSetup,
        Response.code?, joinedResult]
  · intro asked unjoined
    simp only [Act.wp_bind, Act.wp_get, State.SessionSetup.emplacePauseContext]
    simp only [true_implies, not_true_eq_false, false_implies, and_true]
    split
    · rename_i cert
      simp only [Act.wp_pure, Feed.wp_respond]
      refine ⟨fun fits => ⟨.fresh _ _ _ unjoined rfl ?_ ?_ ?_ ?_ ?_,
          trivial, trivial, trivial, trivial, trivial, rfl⟩,
        fun unfit => ⟨.fresh _ _ _ unjoined rfl ?_ ?_ ?_ ?_ ?_, trivial, trivial, trivial, trivial, trivial, rfl⟩⟩
      all_goals simp_all [freshPauseContext, Output.generatedId?, Output.response?,
        handleSessionSetup, Response.code?]
    · rename_i hash cert
      simp only [Act.wp_bind, Act.wp_modify, Act.wp_emit, Act.wp_pure, Feed.wp_respond,
        State.SessionSetup.certSessionIdHash]
      refine ⟨fun fits => ⟨.fresh _ _ _ unjoined rfl ?_ ?_ ?_ ?_ ?_,
          trivial, trivial, trivial, trivial, trivial, rfl⟩,
        fun unfit => ⟨.fresh _ _ _ unjoined rfl ?_ ?_ ?_ ?_ ?_, trivial, trivial, trivial, trivial, trivial, rfl⟩⟩
      all_goals simp_all [freshPauseContext, Output.generatedId?, Output.digest?, Output.response?,
        handleSessionSetup, Response.code?]

end SessionSetup

end LibIso15118
