import LibIso15118.Fsm.Step

set_option autoImplicit false

namespace LibIso15118

open Datatypes Shared

namespace Context

def putRequest (request : Option Variant) (ctx : Context) : Context := { ctx with request }

section PutRequest

variable (request : Option Variant) (ctx : Context)

@[simp] theorem putRequest_session : (putRequest request ctx).session = ctx.session := rfl

@[simp] theorem putRequest_sessionConfig : (putRequest request ctx).sessionConfig = ctx.sessionConfig := rfl

@[simp] theorem putRequest_chargingNeeds (req : ScheduleExchangeRequest) :
    State.ScheduleExchange.chargingNeeds (putRequest request ctx) req =
      State.ScheduleExchange.chargingNeeds ctx req := rfl

@[simp] theorem putRequest_maxChargePower :
    State.ScheduleExchange.maxChargePower (putRequest request ctx) =
      State.ScheduleExchange.maxChargePower ctx := rfl

end PutRequest

end Context

namespace Feed

variable {α β : Type}

abbrev IgnoresSlot (m : Feed α) : Prop := Act.Ignores Context.putRequest m

/-- A call that pulls the request once, before anything else. -/
def TakesOnce (m : Feed α) : Prop :=
  ∃ answer : Variant → Feed α, m = pullRequest >>= answer ∧ ∀ variant, IgnoresSlot (answer variant)

theorem TakesOnce.bind {m : Feed α} {next : α → Feed β} (takes : TakesOnce m)
    (ignores : ∀ a, IgnoresSlot (next a)) : TakesOnce (m >>= next) := by
  obtain ⟨answer, rfl, silent⟩ := takes
  exact ⟨_, Act.bind_assoc _ _ _, fun variant => .bind (silent variant) ignores⟩

variable (platform : Platform) (env : Env)

theorem feedback_ignores (call : Feedback) : IgnoresSlot (feedback call) := .emit _

theorem signal_ignores (s : Signal) : IgnoresSlot (signal s) := .emit _

theorem feedbackIfSome_ignores (call : Option Feedback) : IgnoresSlot (feedbackIfSome call) := fun _ _ => rfl

theorem stopSession_ignores : IgnoresSlot stopSession := fun _ _ => rfl

theorem respond_ignores (res : Response) : IgnoresSlot (respond platform res) :=
  .ite (fun _ => .bind (fun _ _ => rfl) fun _ => .emit _) fun _ => .throw _

theorem startTimeout_ignores (type : TimeoutType) (timeoutMs : Nat) :
    IgnoresSlot (startTimeout env type timeoutMs) := fun _ _ => rfl

theorem stopTimeout_ignores (type : TimeoutType) : IgnoresSlot (stopTimeout type) := fun _ _ => rfl

end Feed

open Feed

section Parts

variable (platform : Platform) (env : Env)

theorem sendSequenceError_ignores (type : MessageType) : IgnoresSlot (sendSequenceError platform env type) := by
  refine .get_bind (fun _ _ => rfl) fun ctx => ?_
  split
  · exact .pure _
  · exact respond_ignores platform _

theorem stopOnSequenceError_ignores (variant : Variant) :
    IgnoresSlot (stopOnSequenceError platform env variant) :=
  .bind (sendSequenceError_ignores platform env _) fun _ => .bind stopSession_ignores fun _ => .pure _

theorem stopOnRequest_ignores (req : SessionStopRequest) : IgnoresSlot (stopOnRequest platform env req) := by
  refine .get_bind (fun _ _ => rfl) fun ctx => ?_
  exact .bind (respond_ignores platform _) fun _ => .bind stopSession_ignores fun _ => .pure _

theorem endSession_ignores (chargingSession : ChargingSession) : IgnoresSlot (endSession chargingSession) := by
  cases chargingSession <;> exact fun _ _ => rfl

theorem selectAll_ignores (schemaId : Option UInt8) (protocols : List SupportedAppProtocol) :
    IgnoresSlot (State.SupportedAppProtocol.selectAll schemaId protocols) := by
  induction protocols with
  | nil => exact .pure _
  | cons protocol rest hyp =>
      refine .bind (.ite (fun _ => .get_bind (fun _ _ => rfl) fun ctx => ?_) fun _ => .pure _) fun _ => hyp
      refine .bind (.modify fun _ _ => rfl) fun _ => .ite (fun _ => feedback_ignores _) fun _ => ?_
      refine .ite (fun _ => feedback_ignores _) fun _ => .ite (fun _ => ?_) fun _ => .pure _
      split
      · exact .throw _
      · exact feedback_ignores _

theorem chooseSession_ignores (req : SessionSetupRequest) :
    IgnoresSlot (State.SessionSetup.chooseSession platform env req) := by
  have newSession : IgnoresSlot (State.SessionSetup.newSession env) := fun _ _ => rfl
  refine .get_bind (fun _ _ => rfl) fun ctx => ?_
  split
  · refine .ite (fun _ => .bind newSession fun _ => .pure _) fun _ => .bind (fun _ _ => rfl) fun hash => ?_
    refine .ite (fun _ => .bind (fun _ _ => rfl) fun _ => .pure _) fun _ => .bind newSession fun _ => .pure _
  · exact .bind newSession fun _ => .pure _

theorem emplacePauseContext_ignores : IgnoresSlot (State.SessionSetup.emplacePauseContext platform) := by
  refine .get_bind (fun _ _ => rfl) fun ctx => ?_
  split
  · exact .pure _
  · exact .bind (fun _ _ => rfl) fun _ _ _ => rfl

theorem customVasParameters_ignores (service : UInt16) : IgnoresSlot (customVasParameters env service) := by
  refine .ite (fun _ => .pure _) fun _ => .bind (feedback_ignores _) fun _ => ?_
  split
  · exact .pure _
  · refine .ite (fun _ => .bind (fun _ _ => rfl) fun _ => .pure _) fun _ => .ite (fun _ => ?_) fun _ => .pure _
    exact .bind (fun _ _ => rfl) fun _ => .ite (fun _ => .pure _) fun _ => .throw _

theorem answerServiceDetail_ignores (req : ServiceDetailRequest) (onSuccess : Result) :
    IgnoresSlot (answerServiceDetail platform env req onSuccess) := by
  refine .bind (customVasParameters_ignores env _) fun custom => .get_bind (fun _ _ => rfl) fun ctx => ?_
  refine .bind (fun _ _ => rfl) fun _ => .bind (respond_ignores platform _) fun _ => ?_
  exact .ite (fun _ => .bind stopSession_ignores fun _ => .pure _) fun _ => .pure _

theorem feedPreCharge_ignores (self : State.PowerDelivery) (req : DcPreChargeRequest) :
    IgnoresSlot (State.PowerDelivery.feedPreCharge platform env self req) := by
  refine .get_bind (fun _ _ => rfl) fun ctx => .bind (feedback_ignores _) fun _ => ?_
  refine .bind (respond_ignores platform _) fun _ => .ite (fun _ => ?_) fun _ => .pure _
  exact .bind stopSession_ignores fun _ => .pure _

theorem feedPowerDelivery_ignores (self : State.PowerDelivery) (req : PowerDeliveryRequest) :
    IgnoresSlot (State.PowerDelivery.feedPowerDelivery platform env self req) := by
  have stops : IgnoresSlot (do stopSession; return (self, ({} : Result))) :=
    .bind stopSession_ignores fun _ => .pure _
  refine .get_bind (fun _ _ => rfl) fun ctx => ?_
  extract_lets res rest
  have answers (signalled : Unit) : IgnoresSlot (rest signalled) := by
    refine .ite (fun _ => .bind (signal_ignores _) fun _ => ?_) fun _ =>
      .bind (respond_ignores platform _) fun _ => ?_
    · exact .bind (startTimeout_ignores env _ _) fun _ => .pure _
    · exact .ite (fun _ => stops) fun _ => .ite (fun _ => .pure _) fun _ => .ite (fun _ => .pure _) fun _ => stops
  exact .ite (fun _ => .bind (signal_ignores _) answers) fun _ => answers ()

theorem feedControl_ignores (self : State.PowerDelivery) :
    IgnoresSlot (State.PowerDelivery.feedControl platform env self) := by
  refine .get_bind (fun _ _ => rfl) fun ctx => ?_
  split
  · exact .pure _
  · refine .bind (stopTimeout_ignores _) fun _ => ?_
    split
    · exact .pure _
    · refine .bind (respond_ignores platform _) fun _ => .ite (fun _ => ?_) fun _ => .pure _
      exact .bind stopSession_ignores fun _ => .pure _
  · exact .pure _

theorem feedTimeout_ignores (self : State.PowerDelivery) :
    IgnoresSlot (State.PowerDelivery.feedTimeout platform env self) := by
  refine .get_bind (fun _ _ => rfl) fun ctx => .ite (fun _ => ?_) fun _ => .pure _
  exact .bind (respond_ignores platform _) fun _ => .bind stopSession_ignores fun _ => .pure _

end Parts

theorem State.takesOnce (platform : Platform) (env : Env) (state : State) :
    TakesOnce (state.feed platform env .v2gtpMessage) := by
  cases state
  all_goals
    refine TakesOnce.bind ⟨_, rfl, fun variant => ?_⟩ fun _ => .pure _
    -- Every branch is a sequence of actions that leave the slot alone.
    repeat' first
      | with_reducible first
          | exact .pure _
          | exact feedback_ignores _
          | exact signal_ignores _
          | exact feedbackIfSome_ignores _
          | exact stopSession_ignores
          | exact respond_ignores platform _
          | exact startTimeout_ignores env _ _
          | exact stopTimeout_ignores _
          | exact stopOnRequest_ignores platform env _
          | exact stopOnSequenceError_ignores platform env _
          | exact endSession_ignores _
          | exact selectAll_ignores _ _
          | exact chooseSession_ignores platform env _
          | exact emplacePauseContext_ignores platform
          | exact answerServiceDetail_ignores platform env _ _
          | exact feedPreCharge_ignores platform env _ _
          | exact feedPowerDelivery_ignores platform env _ _
          | refine .get_bind ?_ fun _ => ?_
          | refine .ite (fun _ => ?_) fun _ => ?_
          | refine .bind ?_ fun _ => ?_
          | refine .modify ?_
      | (intro request ctx; first | rfl | simp; done)
      | split

theorem State.ignoresSlot (platform : Platform) (env : Env) (state : State) {ev : Event}
    (other : ev ≠ .v2gtpMessage) : IgnoresSlot (state.feed platform env ev) := by
  cases state
  all_goals
    refine .bind ?_ fun _ => .pure _
    cases ev
  case powerDelivery.controlMessage self => exact feedControl_ignores platform env self
  case powerDelivery.timeout self => exact feedTimeout_ignores platform env self
  all_goals first
    | exact absurd rfl other
    | exact .pure _
    | refine .get_bind (fun _ _ => rfl) fun ctx => ?_
      first
        | exact .pure _
        | exact .ite (fun _ => .pure _) fun _ => .pure _
        | split <;> exact .pure _

end LibIso15118
