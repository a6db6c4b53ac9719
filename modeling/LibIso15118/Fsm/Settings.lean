import LibIso15118.Fsm.Events
import LibIso15118.Fsm.Offers

set_option autoImplicit false

namespace LibIso15118

open Datatypes Shared

/-- The configuration without what `get_vas_parameters` has supplied. -/
def SessionConfig.settings (config : SessionConfig) : SessionConfig :=
  { config with internetParameterList := [], parkingParameterList := [] }

def SessionConfig.receive (config : SessionConfig) : ControlEvent → SessionConfig
  | .dcTransferLimits limits => { config with dcLimits := limits }
  | .energyServices services => { config with supportedEnergyTransferServices := services }
  | .supportedVass services => { config with supportedVasServices := services }
  | .acTransferLimits limits => { config with acLimits := limits }
  | _ => config

section Message

variable (platform : Platform) (env : Env) (ctx : Context) {variant : Variant}
variable (pending : ctx.request = some variant)
include pending

attribute [local simp] Platform.stringsFit

theorem State.message_settings (state : State) :
    Act.wp (state.feed platform env .v2gtpMessage)
      (fun _ ctx' _ => ctx'.sessionConfig.settings = ctx.sessionConfig.settings) ctx := by
  cases state with
  | supportedAppProtocol =>
      simp only [State.feed, State.SupportedAppProtocol.feed, Act.wp_bind, Act.wp_ite,
        Feed.wp_pullRequest _ pending]
      simp only [ne_eq, not_true_eq_false, false_implies, not_false_eq_true, true_implies, true_and]
      split
      · simp
        intro _
        apply wp_selectAll
        rintro result info log (rfl | rfl) _ <;> simp
      · simp
  | sessionSetup =>
      by_cases expected : ∃ req, variant = .request (.sessionSetup req)
      · obtain ⟨req, rfl⟩ := expected
        refine Act.wp_mono _ _ (sessionSetup_renews platform env ctx pending rfl) ?_
        rintro _ ctx' _ ⟨config, -⟩
        rw [config]
      · simp only [State.feed, State.SessionSetup.feed, Act.wp_bind, Act.wp_ite,
          Feed.wp_pullRequest _ pending]
        simp only [ne_eq, not_true_eq_false, false_implies, not_false_eq_true, true_implies, true_and]
        split
        · exact absurd ⟨_, rfl⟩ expected
        · apply wp_stopOnSequenceError
          simp
  | authorizationSetup =>
      simp only [State.feed, State.AuthorizationSetup.feed, Act.wp_bind, Act.wp_ite,
        Feed.wp_pullRequest _ pending]
      simp only [ne_eq, not_true_eq_false, false_implies, not_false_eq_true, true_implies, true_and]
      split
      · simp
      · simp [wp_stopOnRequest]
      · apply wp_stopOnSequenceError
        simp
  | authorization self =>
      simp only [State.feed, State.Authorization.feed, Act.wp_bind, Feed.wp_pullRequest _ pending]
      split
      · simp
      · simp [wp_stopOnRequest]
      · simp only [Act.wp_bind, Act.wp_pure]
        apply wp_stopOnSequenceError
        simp
  | serviceDiscovery =>
      simp only [State.feed, State.ServiceDiscovery.feed, Act.wp_bind, Act.wp_ite,
        Feed.wp_pullRequest _ pending]
      simp only [ne_eq, not_true_eq_false, false_implies, not_false_eq_true, true_implies, true_and]
      split
      · simp
      · simp [wp_stopOnRequest]
      · apply wp_stopOnSequenceError
        simp
  | serviceDetail =>
      simp only [State.feed, State.ServiceDetail.feed, Act.wp_bind, Act.wp_ite, Feed.wp_pullRequest _ pending]
      simp only [ne_eq, not_true_eq_false, false_implies, not_false_eq_true, true_implies, true_and]
      split
      · simp only [answerServiceDetail, Act.wp_bind]
        apply wp_customVasParameters
        · simp
        · rintro (e | custom) internet parking _ <;> simp [SessionConfig.settings]
      · simp [wp_stopOnRequest]
      · apply wp_stopOnSequenceError
        simp
  | serviceSelection =>
      simp only [State.feed, State.ServiceSelection.feed, Act.wp_bind, Act.wp_ite,
        Feed.wp_pullRequest _ pending]
      simp only [ne_eq, not_true_eq_false, false_implies, not_false_eq_true, true_implies, true_and]
      split
      · simp only [answerServiceDetail, Act.wp_bind]
        apply wp_customVasParameters
        · simp
        · rintro (e | custom) internet parking _ <;> simp [SessionConfig.settings]
      · simp
      · simp [wp_stopOnRequest]
      · apply wp_stopOnSequenceError
        simp
  | acChargeParameterDiscovery self =>
      simp only [State.feed, State.AcChargeParameterDiscovery.feed, Act.wp_bind,
        Feed.wp_pullRequest _ pending]
      split
      · simp
      · simp [wp_stopOnRequest]
      · simp only [Act.wp_bind, Act.wp_pure]
        apply wp_stopOnSequenceError
        simp
  | dcChargeParameterDiscovery =>
      simp only [State.feed, State.DcChargeParameterDiscovery.feed, Act.wp_bind, Act.wp_ite,
        Feed.wp_pullRequest _ pending]
      simp only [ne_eq, not_true_eq_false, false_implies, not_false_eq_true, true_implies, true_and]
      split
      · simp
      · simp [wp_stopOnRequest]
      · apply wp_stopOnSequenceError
        simp
  | scheduleExchange self =>
      simp only [State.feed, State.ScheduleExchange.feed, Act.wp_bind, Feed.wp_pullRequest _ pending]
      split
      · simp
      · simp [wp_stopOnRequest]
      · simp only [Act.wp_bind, Act.wp_pure]
        apply wp_stopOnSequenceError
        simp
  | dcCableCheck self =>
      simp only [State.feed, State.DcCableCheck.feed, Act.wp_bind, Feed.wp_pullRequest _ pending]
      split
      · simp
      · simp [wp_stopOnRequest]
      · simp only [Act.wp_bind, Act.wp_pure]
        apply wp_stopOnSequenceError
        simp
  | dcPreCharge self =>
      simp only [State.feed, State.DcPreCharge.feed, Act.wp_bind, Feed.wp_pullRequest _ pending]
      split
      · simp
      · simp [wp_stopOnRequest]
      · simp only [Act.wp_bind, Act.wp_pure]
        apply wp_stopOnSequenceError
        simp
  | powerDelivery self =>
      simp only [State.feed, State.PowerDelivery.feed, Act.wp_bind, Feed.wp_pullRequest _ pending]
      split
      · simp [State.PowerDelivery.feedPreCharge]
      · simp [State.PowerDelivery.feedPowerDelivery]
      · simp only [Act.wp_bind, Act.wp_pure]
        apply wp_stopOnSequenceError
        simp
  | acChargeLoop self =>
      simp only [State.feed, State.AcChargeLoop.feed, Act.wp_bind, Feed.wp_pullRequest _ pending]
      split
      · simp
      · simp
      · simp only [Act.wp_bind, Act.wp_pure]
        apply wp_stopOnSequenceError
        simp
  | dcChargeLoop self =>
      simp only [State.feed, State.DcChargeLoop.feed, Act.wp_bind, Feed.wp_pullRequest _ pending]
      split
      · simp
      · simp
      · simp only [Act.wp_bind, Act.wp_pure]
        apply wp_stopOnSequenceError
        simp
  | dcWeldingDetection self =>
      simp only [State.feed, State.DcWeldingDetection.feed, Act.wp_bind, Feed.wp_pullRequest _ pending]
      split
      · simp
      · rename_i req
        cases req.chargingSession <;> simp [endSession]
      · simp only [Act.wp_bind, Act.wp_pure]
        apply wp_stopOnSequenceError
        simp
  | sessionStop =>
      simp only [State.feed, State.SessionStop.feed, Act.wp_bind, Act.wp_ite, Feed.wp_pullRequest _ pending]
      simp only [ne_eq, not_true_eq_false, false_implies, not_false_eq_true, true_implies, true_and]
      split
      · rename_i req
        cases req.chargingSession <;> simp [endSession]
      · apply wp_stopOnSequenceError
        simp

end Message

theorem SessionConfig.receive_settings (config : SessionConfig) (event : ControlEvent) :
    (config.receive event).settings = config.settings.receive event := by
  cases event <;> rfl

namespace Fsm

variable (platform : Platform)

theorem controlContext_sessionConfig (ctx : Context) (event : ControlEvent) :
    (controlContext ctx event).sessionConfig = ctx.sessionConfig.receive event := by
  cases event <;> rfl

theorem step_settings (fsm : Fsm) (input : Input) (idle : fsm.ctx.request = none) :
    (step platform input fsm).state.ctx.sessionConfig.settings =
      input.event?.elim fsm.ctx.sessionConfig.settings fsm.ctx.sessionConfig.settings.receive := by
  -- The settings change with the events that are fed, and with nothing else.
  cases input with
  | message env variant =>
      suffices spec : Act.wp (step platform (.message env variant)) (fun _ fsm' _ =>
          fsm'.ctx.sessionConfig.settings = fsm.ctx.sessionConfig.settings) fsm from spec
      rw [wp_step_message platform env variant fsm idle]
      refine Act.wp_mono _ _ (State.message_settings platform env (messageContext fsm.ctx variant)
        (messageContext_request fsm.ctx variant) fsm.state) ?_
      intro result ctx' log kept
      rcases settle_ctx fsm ctx' result with same | same <;> simpa [same] using kept
  | control env event =>
      suffices spec : Act.wp (step platform (.control env event)) (fun _ fsm' _ =>
          fsm'.ctx.sessionConfig = fsm.ctx.sessionConfig.receive event) fsm by
        have config : (step platform (.control env event) fsm).state.ctx.sessionConfig = _ := spec
        rw [config, SessionConfig.receive_settings]
        rfl
      by_cases resumes : fsm.state.Resumes event
      · obtain ⟨self, req, closed, delivery, saved, rfl⟩ := resumes
        rw [wp_step_control_resumed platform env closed fsm self req delivery saved]
        exact ⟨fun _ => rfl, fun _ => rfl⟩
      · apply wp_step_control_quiet platform env event fsm resumes
        intro timeouts _
        exact controlContext_sessionConfig fsm.ctx event
  | timeout env type =>
      apply wp_step_timeout platform env type fsm (fun _ fsm' _ =>
        fsm'.ctx.sessionConfig.settings = fsm.ctx.sessionConfig.settings)
      intro pending log _
      rfl
  | _ => rfl

end Fsm

end LibIso15118
