import LibIso15118.D20.States

set_option autoImplicit false

namespace LibIso15118

open Datatypes Shared

/-- The value a dynamic response carries as departure time: `time_t` is read as unsigned, and the
difference loses its upper half. -/
def remainingDepartureTime (parameters : UpdateDynamicModeParameters) (timestamp : UInt64) :
    Option UInt32 :=
  match parameters.departureTime with
  | none => none
  | some time =>
      let departureTime := time.toUInt64
      if timestamp < departureTime then some (departureTime - timestamp).toUInt32 else none

/-- `SCHEDULED_POWER_DURATION_S` -/
def scheduledPowerDurationS : UInt32 := 86400

def createDefaultScheduledControlMode (env : Env) (maxPower : RationalNumber) :
    ScheduledSeResControlMode :=
  { scheduleTuple :=
      [{ scheduleTupleId := 1
         chargingSchedule :=
           { powerSchedule :=
               { timeAnchor := env.scheduleTime
                 entries := [{ power := maxPower, duration := scheduledPowerDurationS }] } } }] }

def dynamicSeRes (parameters : UpdateDynamicModeParameters) (timestamp : UInt64) :
    DynamicSeResControlMode :=
  { departureTime := remainingDepartureTime parameters timestamp
    targetSoc := parameters.targetSoc
    minimumSoc := parameters.minSoc }

def handleScheduleExchange (env : Env) (req : ScheduleExchangeRequest) (session : Session)
    (maxPower : RationalNumber) (parameters : UpdateDynamicModeParameters) (timeoutReached : Bool) :
    ScheduleExchangeResponse :=
  let header := setupHeader env session
  let selected := session.selectedServices
  if validateHeader session req.header.sessionId = false then
    { header, responseCode := .failedUnknownSession }
  else if timeoutReached then { header, responseCode := .failed }
  else
    match selected.selectedControlMode, req.controlMode with
    | .scheduled, .scheduled _ =>
        { header
          controlMode := .scheduled (createDefaultScheduledControlMode env maxPower)
          processing := .finished
          responseCode := .ok }
    | .dynamic, .dynamic _ =>
        { header
          controlMode := .dynamic
            (if selected.selectedMobilityNeedsMode = .providedBySecc then
              dynamicSeRes parameters header.timestamp
            else {})
          processing := .finished
          responseCode := .ok }
    | _, _ => { header, responseCode := .failed }

namespace State.ScheduleExchange

def maxChargePower (ctx : Context) : RationalNumber :=
  if ctx.session.isDcCharger then ctx.sessionConfig.dcLimits.chargeLimits.power.max else ⟨0, 0⟩

/-- The arguments of `notify_ev_charging_needs`. -/
def chargingNeeds (ctx : Context) (req : ScheduleExchangeRequest) : Feedback :=
  let selected := ctx.session.selectedServices
  .notifyEvChargingNeeds selected.selectedEnergyService
    (match selected.selectedConnector with
      | .ac connector => some connector
      | _ => none)
    selected.selectedControlMode selected.selectedMobilityNeedsMode
    (if ctx.session.isAcCharger then .ac ctx.sessionConfig.acLimits
      else if ctx.session.isDcCharger then .dc ctx.sessionConfig.dcLimits
      else .unset)
    ctx.sessionEvInfo.evTransferLimits req.controlMode ctx.sessionEvInfo.evEnergyServices

def feed (platform : Platform) (env : Env) (self : ScheduleExchange) (ev : Event) :
    Feed (ScheduleExchange × Result) := do
  match ev with
  | .controlMessage => do
      let ctx ← Act.get
      match ctx.currentControlEvent with
      | some (.updateDynamicModeParameters parameters) =>
          return ({ self with dynamicParameters := parameters }, {})
      | _ => return (self, {})
  | .timeout => do
      let ctx ← Act.get
      if ctx.currentTimeout = some .ongoing then
        return ({ self with timeoutOngoingReached := true }, {})
      return (self, {})
  | .v2gtpMessage => do
      match ← Feed.pullRequest with
      | .request (.scheduleExchange req) => do
          if self.firstReqMsg then Feed.startTimeout env .ongoing timeoutOngoing
          let self := { self with firstReqMsg := false }
          let ctx ← Act.get
          Feed.feedback (chargingNeeds ctx req)
          let res := handleScheduleExchange env req ctx.session (maxChargePower ctx)
            self.dynamicParameters self.timeoutOngoingReached
          Feed.respond platform (.scheduleExchange res)
          if res.responseCode.isFailed then
            Feed.stopSession
            return (self, {})
          if res.processing = .ongoing then return (self, {})
          Feed.stopTimeout .ongoing
          if ctx.session.isAcCharger then return (self, .createState (.powerDelivery {}))
          if ctx.session.isDcCharger then return (self, .createState (.dcCableCheck {}))
          Feed.stopSession
          return (self, {})
      | .request (.sessionStop req) => return (self, ← stopOnRequest platform env req)
      | variant => return (self, ← stopOnSequenceError platform env variant)
  | _ => return (self, {})

end State.ScheduleExchange

def handleDcCableCheck (env : Env) (req : DcCableCheckRequest) (session : Session)
    (cableCheckDone : Bool) : DcCableCheckResponse :=
  let header := setupHeader env session
  if validateHeader session req.header.sessionId = false then
    { header, responseCode := .failedUnknownSession }
  else
    { header
      processing := if cableCheckDone then .finished else .ongoing
      responseCode := .ok }

namespace State

def DcCableCheck.feed (platform : Platform) (env : Env) (self : DcCableCheck) (ev : Event) :
    Feed (DcCableCheck × Result) := do
  match ev with
  | .controlMessage => do
      let ctx ← Act.get
      match ctx.currentControlEvent with
      | some (.cableCheckFinished success) => return ({ self with cableCheckDone := success }, {})
      | _ => return (self, {})
  | .v2gtpMessage => do
      match ← Feed.pullRequest with
      | .request (.dcCableCheck req) => do
          if self.cableCheckInitiated = false then Feed.signal .startCableCheck
          let self := { self with cableCheckInitiated := true }
          let ctx ← Act.get
          let res := handleDcCableCheck env req ctx.session self.cableCheckDone
          Feed.respond platform (.dcCableCheck res)
          if res.responseCode.isFailed then
            Feed.stopSession
            return (self, {})
          if self.cableCheckDone then return (self, .createState (.dcPreCharge {}))
          return (self, {})
      | .request (.sessionStop req) => return (self, ← stopOnRequest platform env req)
      | variant => return (self, ← stopOnSequenceError platform env variant)
  | _ => return (self, {})

end State

def handleDcPreCharge (env : Env) (req : DcPreChargeRequest) (session : Session)
    (presentVoltage : ℚ) : DcPreChargeResponse :=
  let header := setupHeader env session
  if validateHeader session req.header.sessionId = false then
    { header, responseCode := .failedUnknownSession }
  else { header, presentVoltage := fromFloat presentVoltage, responseCode := .ok }

namespace State

def DcPreCharge.feed (platform : Platform) (env : Env) (self : DcPreCharge) (ev : Event) :
    Feed (DcPreCharge × Result) := do
  match ev with
  | .controlMessage => do
      let ctx ← Act.get
      match ctx.currentControlEvent with
      | some (.presentVoltageCurrent voltage _) =>
          return ({ self with presentVoltage := voltage }, {})
      | _ => return (self, {})
  | .v2gtpMessage => do
      match ← Feed.pullRequest with
      | .request (.dcPreCharge req) => do
          if self.preChargeInitiated = false then Feed.signal .preChargeStarted
          let self := { self with preChargeInitiated := true }
          let ctx ← Act.get
          let res := handleDcPreCharge env req ctx.session self.presentVoltage
          Feed.feedback (.dcPreChargeTargetVoltage (fromRationalNumber req.targetVoltage))
          Feed.respond platform (.dcPreCharge res)
          if res.responseCode.isFailed then
            Feed.stopSession
            return (self, {})
          return (self, .createState (.powerDelivery {}))
      | .request (.sessionStop req) => return (self, ← stopOnRequest platform env req)
      | variant => return (self, ← stopOnSequenceError platform env variant)
  | _ => return (self, {})

end State

/-- `handle_request` of `PowerDelivery`, which the charge loops call as well. -/
def handlePowerDelivery (env : Env) (req : PowerDeliveryRequest) (session : Session)
    (contactorError : Bool) : PowerDeliveryResponse :=
  let header := setupHeader env session
  if validateHeader session req.header.sessionId = false then
    { header, responseCode := .failedUnknownSession }
  else if contactorError then { header, responseCode := .failedContactorError }
  else if req.chargeProgress = .standby then { header, responseCode := .warningStandbyNotAllowed }
  else { header, responseCode := .ok }

namespace State.PowerDelivery

/-- `CONTROL_MESSAGE`. The `ClosedContactor` branch assigns the pointer to the event, not its value,
so the contactor counts as closed whatever the event says. -/
def feedControl (platform : Platform) (env : Env) (self : PowerDelivery) :
    Feed (PowerDelivery × Result) := do
  let ctx ← Act.get
  match ctx.currentControlEvent with
  | some (.presentVoltageCurrent voltage _) => return ({ self with presentVoltage := voltage }, {})
  | some (.closedContactor _) => do
      let self := { self with acConnectorClosed := true }
      Feed.stopTimeout .contactor
      match self.previousReq with
      | none => return (self, {})
      | some req => do
          let res := handlePowerDelivery env req ctx.session false
          Feed.respond platform (.powerDelivery res)
          if res.responseCode.isFailed then
            Feed.stopSession
            return (self, {})
          return (self, .createState (.acChargeLoop {}))
  | _ => return (self, {})

def feedTimeout (platform : Platform) (env : Env) (self : PowerDelivery) :
    Feed (PowerDelivery × Result) := do
  let ctx ← Act.get
  if ctx.currentTimeout = some .contactor then
    let res := handlePowerDelivery env (self.previousReq.getD {}) ctx.session true
    Feed.respond platform (.powerDelivery res)
    Feed.stopSession
    return (self, {})
  return (self, {})

def feedPreCharge (platform : Platform) (env : Env) (self : PowerDelivery)
    (req : DcPreChargeRequest) : Feed (PowerDelivery × Result) := do
  let ctx ← Act.get
  let res := handleDcPreCharge env req ctx.session self.presentVoltage
  Feed.feedback (.dcPreChargeTargetVoltage (fromRationalNumber req.targetVoltage))
  Feed.respond platform (.dcPreCharge res)
  if res.responseCode.isFailed then Feed.stopSession
  return (self, {})

def feedPowerDelivery (platform : Platform) (env : Env) (self : PowerDelivery)
    (req : PowerDeliveryRequest) : Feed (PowerDelivery × Result) := do
  let ctx ← Act.get
  if req.chargeProgress = .start then Feed.signal .setupFinished
  if ctx.session.isAcCharger ∧ self.acConnectorClosed = false ∧ req.chargeProgress = .start then
    Feed.signal .acCloseContactor
    Feed.startTimeout env .contactor 3000
    return ({ self with previousReq := some req }, {})
  let res := handlePowerDelivery env req ctx.session false
  Feed.respond platform (.powerDelivery res)
  if res.responseCode.isFailed then
    Feed.stopSession
    return (self, {})
  if ctx.session.isAcCharger then return (self, .createState (.acChargeLoop {}))
  if ctx.session.isDcCharger then return (self, .createState (.dcChargeLoop {}))
  Feed.stopSession
  return (self, {})

def feed (platform : Platform) (env : Env) (self : PowerDelivery) (ev : Event) :
    Feed (PowerDelivery × Result) := do
  match ev with
  | .controlMessage => feedControl platform env self
  | .timeout => feedTimeout platform env self
  | .v2gtpMessage => do
      match ← Feed.pullRequest with
      | .request (.dcPreCharge req) => feedPreCharge platform env self req
      | .request (.powerDelivery req) => feedPowerDelivery platform env self req
      | variant => return (self, ← stopOnSequenceError platform env variant)
  | _ => return (self, {})

end State.PowerDelivery

end LibIso15118
