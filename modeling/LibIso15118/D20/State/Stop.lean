import LibIso15118.D20.States

set_option autoImplicit false

namespace LibIso15118

open Datatypes Shared

def handleDcWeldingDetection (env : Env) (req : DcWeldingDetectionRequest) (session : Session)
    (presentVoltage : ℚ) : DcWeldingDetectionResponse :=
  let header := setupHeader env session
  if validateHeader session req.header.sessionId = false then
    { header, responseCode := .failedUnknownSession }
  else { header, presentVoltage := fromFloat presentVoltage, responseCode := .ok }

/-- What `DC_WeldingDetection` and `SessionStop` do after they answered a `SessionStopReq`, whatever
the answer was. -/
def endSession (chargingSession : ChargingSession) : Feed Unit :=
  match chargingSession with
  | .pause =>
      Act.modify fun ctx =>
        { ctx with
          sessionPaused := true
          pauseCtx := ctx.pauseCtx.map fun pauseCtx =>
            { pauseCtx with selectedServiceParameters := ctx.session.selectedServices } }
  | .terminate => Act.modify fun ctx => { ctx with sessionStopped := true, pauseCtx := none }
  | .serviceRenegotiation => return

namespace State

def DcWeldingDetection.feed (platform : Platform) (env : Env) (self : DcWeldingDetection)
    (ev : Event) : Feed (DcWeldingDetection × Result) := do
  match ev with
  | .controlMessage => do
      let ctx ← Act.get
      match ctx.currentControlEvent with
      | some (.presentVoltageCurrent voltage _) =>
          return ({ self with presentVoltage := voltage }, {})
      | _ => return (self, {})
  | .v2gtpMessage => do
      match ← Feed.pullRequest with
      | .request (.dcWeldingDetection req) => do
          let ctx ← Act.get
          let res := handleDcWeldingDetection env req ctx.session self.presentVoltage
          Feed.respond platform (.dcWeldingDetection res)
          if res.responseCode.isFailed then
            Feed.stopSession
            return (self, {})
          if req.processing = .ongoing then return (self, {})
          return (self, .createState .sessionStop)
      | .request (.sessionStop req) => do
          let ctx ← Act.get
          Feed.respond platform (.sessionStop (handleSessionStop env req ctx.session))
          endSession req.chargingSession
          return (self, {})
      | variant => return (self, ← stopOnSequenceError platform env variant)
  | _ => return (self, {})

def SessionStop.feed (platform : Platform) (env : Env) (ev : Event) : Feed Result := do
  if ev ≠ .v2gtpMessage then return {}
  match ← Feed.pullRequest with
  | .request (.sessionStop req) => do
      let ctx ← Act.get
      let res := handleSessionStop env req ctx.session
      if req.evTerminationCode.isSome ∨ req.evTerminationExplanation.isSome then
        Feed.feedback (.evTermination (req.evTerminationCode.getD "")
          (req.evTerminationExplanation.getD ""))
      Feed.respond platform (.sessionStop res)
      endSession req.chargingSession
      return {}
  | variant => stopOnSequenceError platform env variant

end State

end LibIso15118
