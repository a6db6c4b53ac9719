import LibIso15118.D20.Context

set_option autoImplicit false

namespace LibIso15118

open Datatypes Shared

inductive Event where
  | reset
  | v2gtpMessage
  | controlMessage
  | timeout
  | failed
  deriving DecidableEq

inductive StateId where
  | supportedAppProtocol
  | sessionSetup
  | authorizationSetup
  | authorization
  | serviceDetail
  | serviceDiscovery
  | serviceSelection
  | acChargeParameterDiscovery
  | acChargeLoop
  | dcChargeParameterDiscovery
  | dcPreCharge
  | dcChargeLoop
  | dcWeldingDetection
  | dcCableCheck
  | powerDelivery
  | scheduleExchange
  | sessionStop
  deriving DecidableEq

namespace State

structure Authorization where
  authorizationStatus : AuthStatus := .pending
  firstReqMsg : Bool := true
  timeoutOngoingReached : Bool := false

structure AcChargeParameterDiscovery where
  presentPowers : AcPresentPower := {}

structure ScheduleExchange where
  dynamicParameters : UpdateDynamicModeParameters := {}
  firstReqMsg : Bool := true
  timeoutOngoingReached : Bool := false

structure DcCableCheck where
  cableCheckInitiated : Bool := false
  cableCheckDone : Bool := false

structure DcPreCharge where
  preChargeInitiated : Bool := false
  presentVoltage : ℚ := 0

structure PowerDelivery where
  presentVoltage : ℚ := 0
  acConnectorClosed : Bool := false
  previousReq : Option PowerDeliveryRequest := none

structure AcChargeLoop where
  targetFrequency : ℚ := 0
  stop : Bool := false
  pause : Bool := false
  dynamicParameters : UpdateDynamicModeParameters := {}
  targetPowers : AcTargetPower := {}
  presentPowers : AcPresentPower := {}
  firstEntryInChargeLoop : Bool := false

structure DcChargeLoop where
  presentVoltage : ℚ := 0
  presentCurrent : ℚ := 0
  stop : Bool := false
  pause : Bool := false
  dynamicParameters : UpdateDynamicModeParameters := {}
  firstEntryInChargeLoop : Bool := true

structure DcWeldingDetection where
  presentVoltage : ℚ := 0

end State

/-- The current state object with its member variables. -/
inductive State where
  | supportedAppProtocol
  | sessionSetup
  | authorizationSetup
  | authorization (self : State.Authorization)
  | serviceDiscovery
  | serviceDetail
  | serviceSelection
  | acChargeParameterDiscovery (self : State.AcChargeParameterDiscovery)
  | dcChargeParameterDiscovery
  | scheduleExchange (self : State.ScheduleExchange)
  | dcCableCheck (self : State.DcCableCheck)
  | dcPreCharge (self : State.DcPreCharge)
  | powerDelivery (self : State.PowerDelivery)
  | acChargeLoop (self : State.AcChargeLoop)
  | dcChargeLoop (self : State.DcChargeLoop)
  | dcWeldingDetection (self : State.DcWeldingDetection)
  | sessionStop

def State.id : State → StateId
  | .supportedAppProtocol => .supportedAppProtocol
  | .sessionSetup => .sessionSetup
  | .authorizationSetup => .authorizationSetup
  | .authorization _ => .authorization
  | .serviceDiscovery => .serviceDiscovery
  | .serviceDetail => .serviceDetail
  | .serviceSelection => .serviceSelection
  | .acChargeParameterDiscovery _ => .acChargeParameterDiscovery
  | .dcChargeParameterDiscovery => .dcChargeParameterDiscovery
  | .scheduleExchange _ => .scheduleExchange
  | .dcCableCheck _ => .dcCableCheck
  | .dcPreCharge _ => .dcPreCharge
  | .powerDelivery _ => .powerDelivery
  | .acChargeLoop _ => .acChargeLoop
  | .dcChargeLoop _ => .dcChargeLoop
  | .dcWeldingDetection _ => .dcWeldingDetection
  | .sessionStop => .sessionStop

/-- The state object that `create_state` builds. -/
def StateId.create : StateId → State
  | .supportedAppProtocol => .supportedAppProtocol
  | .sessionSetup => .sessionSetup
  | .authorizationSetup => .authorizationSetup
  | .authorization => .authorization {}
  | .serviceDiscovery => .serviceDiscovery
  | .serviceDetail => .serviceDetail
  | .serviceSelection => .serviceSelection
  | .acChargeParameterDiscovery => .acChargeParameterDiscovery {}
  | .dcChargeParameterDiscovery => .dcChargeParameterDiscovery
  | .scheduleExchange => .scheduleExchange {}
  | .dcCableCheck => .dcCableCheck {}
  | .dcPreCharge => .dcPreCharge {}
  | .powerDelivery => .powerDelivery {}
  | .acChargeLoop => .acChargeLoop {}
  | .dcChargeLoop => .dcChargeLoop {}
  | .dcWeldingDetection => .dcWeldingDetection {}
  | .sessionStop => .sessionStop

@[simp] theorem StateId.create_id (id : StateId) : id.create.id = id := by
  cases id <;> rfl

/-- The `enter` functions; those not listed only write a log line. -/
def State.enter (state : State) (ctx : Context) : State :=
  match state with
  | .acChargeParameterDiscovery self =>
      .acChargeParameterDiscovery
        { self with presentPowers := ctx.cacheAcPresentPower.getD {} }
  | .acChargeLoop self =>
      .acChargeLoop
        { self with
          dynamicParameters := ctx.cacheDynamicModeParameters.getD {}
          targetPowers := ctx.cacheAcTargetPower.getD {}
          presentPowers := ctx.cacheAcPresentPower.getD {} }
  | .dcChargeLoop self =>
      .dcChargeLoop { self with dynamicParameters := ctx.cacheDynamicModeParameters.getD {} }
  | state => state

@[simp] theorem State.enter_id (state : State) (ctx : Context) : (state.enter ctx).id = state.id := by
  cases state <;> rfl

theorem State.created_powerDelivery {next : StateId} {ctx : Context} {self : State.PowerDelivery}
    (created : next.create.enter ctx = .powerDelivery self) : self = {} := by
  cases next <;> simp [StateId.create, State.enter] at created
  exact created.symm

structure Held where
  dynamicParameters : Option UpdateDynamicModeParameters := none
  targetPowers : Option AcTargetPower := none
  presentPowers : Option AcPresentPower := none
  targetFrequency : Option ℚ := none

def State.held : State → Held
  | .acChargeParameterDiscovery self => { presentPowers := some self.presentPowers }
  | .scheduleExchange self => { dynamicParameters := some self.dynamicParameters }
  | .acChargeLoop self =>
      { dynamicParameters := some self.dynamicParameters
        targetPowers := some self.targetPowers
        presentPowers := some self.presentPowers
        targetFrequency := some self.targetFrequency }
  | .dcChargeLoop self => { dynamicParameters := some self.dynamicParameters }
  | _ => {}

/-- `Result`: `return {};` is the default value, which says unhandled. -/
structure Result where
  unhandled : Bool := true
  newState : Option State := none

/-- `return m_ctx.create_state<...>();` -/
def Result.createState (state : State) : Result := { unhandled := false, newState := some state }

@[simp] theorem Result.createState_unhandled (state : State) :
    (Result.createState state).unhandled = false := rfl

@[simp] theorem Result.createState_newState (state : State) :
    (Result.createState state).newState = some state := rfl

/-- `handle_request` of `SessionStop`, which most states call. -/
def handleSessionStop (env : Env) (req : SessionStopRequest) (session : Session) :
    SessionStopResponse :=
  let header := setupHeader env session
  if validateHeader session req.header.sessionId = false then
    { header, responseCode := .failedUnknownSession }
  else if req.chargingSession = .serviceRenegotiation ∧
      session.serviceRenegotiationSupported = false then
    { header, responseCode := .failedNoServiceRenegotiationSupported }
  else { header, responseCode := .ok }

/-- The branch for `SessionStopReq` in the states before the charge loop. -/
def stopOnRequest (platform : Platform) (env : Env) (req : SessionStopRequest) : Feed Result := do
  let ctx ← Act.get
  Feed.respond platform (.sessionStop (handleSessionStop env req ctx.session))
  Feed.stopSession
  return {}

/-- The last branch of every state: a request it does not expect. -/
def stopOnSequenceError (platform : Platform) (env : Env) (variant : Variant) : Feed Result := do
  sendSequenceError platform env variant.getType
  Feed.stopSession
  return {}

end LibIso15118
