import LibIso15118.Fsm.Run

set_option autoImplicit false

namespace LibIso15118

open Datatypes Shared

def Request.answerType : Request → MessageType
  | .supportedAppProtocol _ => .supportedAppProtocolRes
  | .sessionSetup _ => .sessionSetupRes
  | .authorizationSetup _ => .authorizationSetupRes
  | .authorization _ => .authorizationRes
  | .serviceDiscovery _ => .serviceDiscoveryRes
  | .serviceDetail _ => .serviceDetailRes
  | .serviceSelection _ => .serviceSelectionRes
  | .dcChargeParameterDiscovery _ => .dcChargeParameterDiscoveryRes
  | .scheduleExchange _ => .scheduleExchangeRes
  | .dcCableCheck _ => .dcCableCheckRes
  | .dcPreCharge _ => .dcPreChargeRes
  | .powerDelivery _ => .powerDeliveryRes
  | .dcChargeLoop _ => .dcChargeLoopRes
  | .dcWeldingDetection _ => .dcWeldingDetectionRes
  | .sessionStop _ => .sessionStopRes
  | .acChargeParameterDiscovery _ => .acChargeParameterDiscoveryRes
  | .acChargeLoop _ => .acChargeLoopRes

def StateId.accepts : StateId → Request → Bool
  | .supportedAppProtocol, .supportedAppProtocol _ => true
  | .sessionSetup, .sessionSetup _ => true
  | .authorizationSetup, .authorizationSetup _ => true
  | .authorization, .authorization _ => true
  | .serviceDiscovery, .serviceDiscovery _ => true
  | .serviceDetail, .serviceDetail _ => true
  | .serviceSelection, .serviceDetail _ => true
  | .serviceSelection, .serviceSelection _ => true
  | .acChargeParameterDiscovery, .acChargeParameterDiscovery _ => true
  | .dcChargeParameterDiscovery, .dcChargeParameterDiscovery _ => true
  | .scheduleExchange, .scheduleExchange _ => true
  | .dcCableCheck, .dcCableCheck _ => true
  | .dcPreCharge, .dcPreCharge _ => true
  | .powerDelivery, .dcPreCharge _ => true
  | .powerDelivery, .powerDelivery _ => true
  | .acChargeLoop, .powerDelivery _ => true
  | .acChargeLoop, .acChargeLoop _ => true
  | .dcChargeLoop, .powerDelivery _ => true
  | .dcChargeLoop, .dcChargeLoop _ => true
  | .dcWeldingDetection, .dcWeldingDetection _ => true
  | .supportedAppProtocol, .sessionStop _ => false
  | .sessionSetup, .sessionStop _ => false
  | .powerDelivery, .sessionStop _ => false
  | .acChargeLoop, .sessionStop _ => false
  | .dcChargeLoop, .sessionStop _ => false
  | _, .sessionStop _ => true
  | _, _ => false

section Unexpected

variable (platform : Platform) (env : Env) (ctx : Context)

def refusedContext (variant : Variant) : Context :=
  { ctx with
    request := none
    pendingResponse :=
      match sequenceErrorResponse (setupHeader env ctx.session) variant.getType with
      | none => ctx.pendingResponse
      | some res => platform.encode res
    sessionStopped := true }

def refusedLog (variant : Variant) : List Output :=
  (sequenceErrorResponse (setupHeader env ctx.session) variant.getType).toList.map .respond

theorem wp_refused {variant : Variant} (post : Except Exn Result → Context → List Output → Prop) :
    Act.wp (stopOnSequenceError platform env variant) post { ctx with request := none } ↔
      post (.ok {}) (refusedContext platform env ctx variant) (refusedLog env ctx variant) := by
  simp only [stopOnSequenceError, sendSequenceError, refusedContext, refusedLog, Act.wp_bind, Act.wp_get]
  cases answer : sequenceErrorResponse (setupHeader env ctx.session) variant.getType with
  | none => simp
  | some res => simp [sequenceErrorResponse_fits platform answer]

variable {ctx} {variant : Variant} (pending : ctx.request = some variant)
  (state : State) (unexpected : ∀ req, variant = .request req → state.id.accepts req = false)
include pending unexpected

theorem State.wp_refused (later : state.id ≠ .supportedAppProtocol)
    (post : Except Exn (State × Result) → Context → List Output → Prop) :
    Act.wp (state.feed platform env .v2gtpMessage) post ctx ↔
      post (.ok (state, {})) (refusedContext platform env ctx variant) (refusedLog env ctx variant) := by
  cases state
  case supportedAppProtocol => exact absurd rfl later
  all_goals simp only [State.feed, Act.wp_bind]
  case sessionSetup | authorizationSetup | serviceDiscovery | serviceDetail | serviceSelection |
      dcChargeParameterDiscovery | sessionStop =>
    simp only [State.SessionSetup.feed, State.AuthorizationSetup.feed, State.ServiceDiscovery.feed,
      State.ServiceDetail.feed, State.ServiceSelection.feed, State.DcChargeParameterDiscovery.feed,
      State.SessionStop.feed, Act.wp_bind, Act.wp_ite, Feed.wp_pullRequest _ pending]
    simp only [ne_eq, not_true_eq_false, false_implies, not_false_eq_true, true_implies, true_and]
    split
    all_goals first
      | simp [State.id, StateId.accepts] at unexpected; done
      | simp [LibIso15118.wp_refused]
  all_goals
    simp only [State.Authorization.feed, State.AcChargeParameterDiscovery.feed,
      State.ScheduleExchange.feed, State.DcCableCheck.feed, State.DcPreCharge.feed,
      State.PowerDelivery.feed, State.AcChargeLoop.feed, State.DcChargeLoop.feed,
      State.DcWeldingDetection.feed, Act.wp_bind, Feed.wp_pullRequest _ pending]
    split
    all_goals first
      | simp [State.id, StateId.accepts] at unexpected; done
      | simp [LibIso15118.wp_refused]

theorem State.wp_sequenceError (post : Except Exn (State × Result) → Context → List Output → Prop)
    (stopped : ∀ response log,
      (response = ctx.pendingResponse ∧ log = [] ∨ ∃ res : Response,
        res.code? = some ResponseCode.failedSequenceError ∧ response = platform.encode res ∧
          log = [.respond res]) →
      post (.ok (state, {}))
        { ctx with request := none, pendingResponse := response, sessionStopped := true } log) :
    Act.wp (state.feed platform env .v2gtpMessage) post ctx := by
  by_cases later : state.id = .supportedAppProtocol
  · obtain rfl := State.eq_supportedAppProtocol later
    simp only [State.feed, State.SupportedAppProtocol.feed, Act.wp_bind, Act.wp_ite,
      Feed.wp_pullRequest _ pending]
    simp only [ne_eq, not_true_eq_false, false_implies, not_false_eq_true, true_implies, true_and]
    split
    · simp [State.id, StateId.accepts] at unexpected
    · simpa using stopped ctx.pendingResponse [] (.inl ⟨rfl, rfl⟩)
  · rw [State.wp_refused platform env pending state unexpected later]
    apply stopped
    cases answer : sequenceErrorResponse (setupHeader env ctx.session) variant.getType with
    | none => exact .inl ⟨rfl, by simp [refusedLog, answer]⟩
    | some res => exact .inr ⟨res, sequenceErrorResponse_isFailed answer, rfl, by simp [refusedLog, answer]⟩

theorem State.wp_unexpected (post : Except Exn (State × Result) → Context → List Output → Prop)
    (stopped : ∀ response log,
      (∀ o ∈ log, ∃ res, o = .respond res ∧ res.code? = some ResponseCode.failedSequenceError) →
      post (.ok (state, {}))
        { ctx with request := none, pendingResponse := response, sessionStopped := true } log) :
    Act.wp (state.feed platform env .v2gtpMessage) post ctx := by
  apply State.wp_sequenceError platform env pending state unexpected
  rintro response log (⟨-, rfl⟩ | ⟨res, code, -, rfl⟩)
  · exact stopped response [] (by simp)
  · exact stopped response [.respond res] (by simp [code])

end Unexpected

end LibIso15118
