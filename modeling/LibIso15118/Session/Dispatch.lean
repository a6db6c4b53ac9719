import LibIso15118.Shared.Machine
import LibIso15118.D20.Fsm

set_option autoImplicit false

namespace LibIso15118

open Datatypes Shared

/-- The pieces of `Session::poll`, `Session::handle_connection_event` and `Session::close` that touch
the state machine and its context. Each step of a connection is one of them. -/
inductive Input where
  /-- `set_new_vehicle_cert_hash`, when the connection opens -/
  | certHash (hash : Sha512Hash)
  /-- one round of the loop over the queued control events -/
  | control (env : Env) (event : ControlEvent)
  /-- the SEQUENCE timer is reached -/
  | sequenceTimeout
  /-- another timer is reached -/
  | timeout (env : Env) (type : TimeoutType)
  /-- a decoded packet -/
  | message (env : Env) (variant : Variant)
  /-- `check_and_clear_response` -/
  | takeResponse
  /-- the SEQUENCE timer starts after a write -/
  | responseWritten (now : TimePoint)
  /-- `session_stopped = true` of `Session::close` -/
  | close

abbrev FsmStep := Step Fsm Input Output

namespace Context

/-- The chain of `if` in `poll` that stores what an event carries. -/
def storeControlEvent (ctx : Context) : ControlEvent → Context
  | .dcTransferLimits limits =>
      { ctx with sessionConfig := { ctx.sessionConfig with dcLimits := limits } }
  | .energyServices services =>
      { ctx with
        sessionConfig := { ctx.sessionConfig with supportedEnergyTransferServices := services } }
  | .supportedVass services =>
      { ctx with sessionConfig := { ctx.sessionConfig with supportedVasServices := services } }
  | .acTransferLimits limits =>
      { ctx with sessionConfig := { ctx.sessionConfig with acLimits := limits } }
  | .updateDynamicModeParameters parameters =>
      { ctx with cacheDynamicModeParameters := some parameters }
  | .acTargetPower power => { ctx with cacheAcTargetPower := some power }
  | .acPresentPower power => { ctx with cacheAcPresentPower := some power }
  | _ => ctx

end Context

namespace Fsm

/-- `MessageExchange::set_request` -/
def setRequest (variant : Variant) : FsmAct Unit := do
  let fsm ← Act.get
  if fsm.ctx.request.isSome then Act.throw .runtimeError
  else modifyCtx fun ctx => { ctx with request := some variant }

def stopSession : FsmAct Unit := modifyCtx fun ctx => { ctx with sessionStopped := true }

def feedOrStop (platform : Platform) (env : Env) (ev : Event) : FsmAct Unit := do
  if (← feed platform env ev) = .unhandled then stopSession

def step (platform : Platform) : Input → FsmAct Unit
  | .certHash hash => modifyCtx fun ctx => { ctx with vehicleCertHash := some hash }
  | .control env event => do
      modifyCtx fun ctx =>
        ({ ctx with currentControlEvent := some event } : Context).storeControlEvent event
      -- "unhandled is expected here"
      let _ ← feed platform env .controlMessage
  | .sequenceTimeout => stopSession
  | .timeout env type => do
      modifyCtx fun ctx => { ctx with currentTimeout := some type }
      feedOrStop platform env .timeout
      modifyCtx fun ctx => { ctx with timeouts := ctx.timeouts.resetTimeout type }
  | .message env variant => do
      setRequest variant
      if variant.getType ≠ .supportedAppProtocolReq then
        modifyCtx fun ctx => { ctx with timeouts := ctx.timeouts.stopTimeout .sequence }
      Act.emit (.feedback (.v2gMessage variant.getType))
      feedOrStop platform env .v2gtpMessage
  | .takeResponse => modifyCtx fun ctx => { ctx with pendingResponse := none }
  | .responseWritten now =>
      modifyCtx fun ctx =>
        { ctx with timeouts := ctx.timeouts.startTimeout now .sequence timeoutSequence }
  | .close => stopSession

end Fsm

end LibIso15118
