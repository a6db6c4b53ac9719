import LibIso15118.D20.States

set_option autoImplicit false

namespace LibIso15118

open Datatypes Shared

def iso20DcNamespace : StdString := "urn:iso:std:iso:15118:-20:DC"
def iso20AcNamespace : StdString := "urn:iso:std:iso:15118:-20:AC"

/-- Does the EVSE speak this protocol? The three comparisons of `handle_request`. -/
def supportsNamespace (customProtocolNamespace : Option StdString) (name : StdString) : Bool :=
  name = iso20DcNamespace || name = iso20AcNamespace || name = customProtocolNamespace.getD ""

/-- The loop of `handle_request`: `operator[]` of the map overwrites the entry of a priority. -/
def evSupportedProtocols (custom : Option StdString) (protocols : List SupportedAppProtocol) :
    Table UInt8 UInt8 :=
  protocols.foldl (fun table protocol =>
    if supportsNamespace custom protocol.protocolNamespace then
      table.insert protocol.priority protocol.schemaId
    else table) .empty

/-- `begin()->second`: the value of the smallest key. -/
def Table.first (table : Table UInt8 UInt8) : Option UInt8 :=
  (List.range 256).findSome? fun key => table (UInt8.ofNat key)

def handleSupportedAppProtocol (req : SupportedAppProtocolRequest) (custom : Option StdString) :
    SupportedAppProtocolResponse :=
  match (evSupportedProtocols custom req.appProtocol).first with
  | none => { responseCode := .failedNoNegotiation }
  | some schemaId => { responseCode := .okSuccessfulNegotiation, schemaId := some schemaId }

namespace State

def SupportedAppProtocol.select (schemaId : Option UInt8) (protocol : SupportedAppProtocol) :
    Feed Unit := do
  if some protocol.schemaId = schemaId then
    let ctx ← Act.get
    Act.modify fun ctx =>
      { ctx with evInfo := { ctx.evInfo with selectedAppProtocol := some protocol } }
    if protocol.protocolNamespace = iso20DcNamespace then
      Feed.feedback (.selectedProtocol "ISO15118-20:DC")
    else if protocol.protocolNamespace = iso20AcNamespace then
      Feed.feedback (.selectedProtocol "ISO15118-20:AC")
    else if protocol.protocolNamespace = ctx.sessionConfig.customProtocol.getD "" then
      -- `custom_protocol.value()`, after a comparison with `value_or("")`
      match ctx.sessionConfig.customProtocol with
      | none => Act.throw .badOptionalAccess
      | some custom => Feed.feedback (.selectedProtocol custom)

def SupportedAppProtocol.selectAll (schemaId : Option UInt8) : List SupportedAppProtocol → Feed Unit
  | [] => return
  | protocol :: rest => do
      SupportedAppProtocol.select schemaId protocol
      SupportedAppProtocol.selectAll schemaId rest

def SupportedAppProtocol.feed (platform : Platform) (ev : Event) : Feed Result := do
  if ev ≠ .v2gtpMessage then return {}
  match ← Feed.pullRequest with
  | .request (.supportedAppProtocol req) => do
      let ctx ← Act.get
      let res := handleSupportedAppProtocol req ctx.sessionConfig.customProtocol
      Feed.respond platform (.supportedAppProtocol res)
      Act.modify fun ctx =>
        { ctx with evInfo := { ctx.evInfo with evSupportedAppProtocols := req.appProtocol } }
      if res.responseCode = .failedNoNegotiation then return {}
      SupportedAppProtocol.selectAll res.schemaId req.appProtocol
      return .createState .sessionSetup
  | _ => do
      Feed.stopSession
      return {}

end State

def sessionIsZero (sessionId : SessionId) : Bool := sessionId.all (· = 0)

def concatenatedSessionIdVehicle (vehicleCertHash : Sha512Hash) (sessionId : SessionId) :
    Vector UInt8 72 := sessionId ++ vehicleCertHash

/-- `calculate_new_cert_session_id_hash`; a failing digest gives the hash of zeros. -/
def calculateNewCertSessionIdHash (platform : Platform) (vehicleCertHash : Sha512Hash)
    (sessionId : SessionId) : Sha512Hash :=
  (platform.evpDigest (concatenatedSessionIdVehicle vehicleCertHash sessionId)).getD
    (Vector.replicate 64 0)

def handleSessionSetup (env : Env) (session : Session) (evseId : StdString) (newSession : Bool) :
    SessionSetupResponse :=
  { header := setupHeader env session
    evseid := evseId
    responseCode := if newSession then .okNewSessionEstablished else .okOldSessionJoined }

namespace State.SessionSetup

/-- `m_ctx.session = Session()` -/
def newSession (env : Env) : Feed Unit := do
  Act.emit (.generatedId env.newSessionId)
  Act.modify fun ctx => { ctx with session := .new env.newSessionId }

def certSessionIdHash (platform : Platform) (vehicleCertHash : Sha512Hash) (sessionId : SessionId) :
    Feed Sha512Hash := do
  Act.emit (.digest (concatenatedSessionIdVehicle vehicleCertHash sessionId))
  return calculateNewCertSessionIdHash platform vehicleCertHash sessionId

def chooseSession (platform : Platform) (env : Env) (req : SessionSetupRequest) : Feed Bool := do
  let ctx ← Act.get
  match ctx.vehicleCertHash, ctx.pauseCtx with
  | some vehicleCertHash, some pauseCtx => do
      if sessionIsZero req.header.sessionId then
        newSession env
        return true
      let hash ← certSessionIdHash platform vehicleCertHash req.header.sessionId
      if pauseCtx.vehicleCertSessionIdHash = hash then
        Act.modify fun ctx => { ctx with session := .ofPauseContext pauseCtx }
        return false
      newSession env
      return true
  | _, _ => do
      newSession env
      return true

/-- `pause_ctx.emplace()` for a new session of a vehicle that presented a certificate. -/
def emplacePauseContext (platform : Platform) : Feed Unit := do
  let ctx ← Act.get
  match ctx.vehicleCertHash with
  | none => return
  | some vehicleCertHash => do
      let hash ← certSessionIdHash platform vehicleCertHash ctx.session.id
      Act.modify fun ctx =>
        { ctx with
          pauseCtx := some { vehicleCertSessionIdHash := hash, oldSessionId := ctx.session.id } }

def feed (platform : Platform) (env : Env) (ev : Event) : Feed Result := do
  if ev ≠ .v2gtpMessage then return {}
  match ← Feed.pullRequest with
  | .request (.sessionSetup req) => do
      Feed.feedback (.evccId req.evccid)
      Act.modify fun ctx => { ctx with evInfo := { ctx.evInfo with evccId := req.evccid } }
      let ctx ← Act.get
      Feed.feedback (.evInformation ctx.evInfo)
      let isNew ← chooseSession platform env req
      if isNew then emplacePauseContext platform
      let ctx ← Act.get
      Feed.respond platform
        (.sessionSetup (handleSessionSetup env ctx.session ctx.sessionConfig.evseId isNew))
      if isNew then return .createState .authorizationSetup
      Feed.feedback (.selectedServiceParameters ctx.session.selectedServices)
      if ctx.session.isAcCharger then return .createState (.acChargeParameterDiscovery {})
      if ctx.session.isDcCharger then return .createState .dcChargeParameterDiscovery
      -- "TODO(sl): Error handling"
      return {}
  | variant => stopOnSequenceError platform env variant

end State.SessionSetup

/-- `handle_request` of `AuthorizationSetup`, which also writes the offered services. -/
def handleAuthorizationSetup (env : Env) (req : AuthorizationSetupRequest) (session : Session)
    (certInstallService : Bool) (authorizationServices : List Authorization) :
    AuthorizationSetupResponse × Session :=
  let header := setupHeader env session
  if validateHeader session req.header.sessionId = false then
    ({ header, responseCode := .failedUnknownSession }, session)
  else
    let services := if authorizationServices = [] then [.eim] else authorizationServices
    ({ header
       responseCode := .ok
       certificateInstallationService := certInstallService
       authorizationServices := services
       authorizationMode := if services = [.eim] then .eim else .pnc env.genChallenge none },
     { session with
       offeredServices := { session.offeredServices with authServices := services } })

namespace State

def AuthorizationSetup.feed (platform : Platform) (env : Env) (ev : Event) : Feed Result := do
  if ev ≠ .v2gtpMessage then return {}
  match ← Feed.pullRequest with
  | .request (.authorizationSetup req) => do
      let ctx ← Act.get
      let (res, session) := handleAuthorizationSetup env req ctx.session
        ctx.sessionConfig.certInstallService ctx.sessionConfig.authorizationServices
      Act.modify fun ctx => { ctx with session }
      Feed.respond platform (.authorizationSetup res)
      if res.responseCode.isFailed then
        Feed.stopSession
        return {}
      Feed.signal .requireAuthEim
      return .createState (.authorization {})
  | .request (.sessionStop req) => stopOnRequest platform env req
  | variant => stopOnSequenceError platform env variant

end State

def findAuthServiceInOfferedServices (service : Authorization) (session : Session) : Bool :=
  session.offeredServices.authServices.contains service

def handleAuthorization (env : Env) (req : AuthorizationRequest) (session : Session)
    (authorizationStatus : AuthStatus) (timeoutReached : Bool) : AuthorizationResponse :=
  let header := setupHeader env session
  if validateHeader session req.header.sessionId = false then
    { header, responseCode := .failedUnknownSession }
  else if timeoutReached then { header, responseCode := .failed }
  else if findAuthServiceInOfferedServices req.selectedAuthorizationService session = false then
    { header, responseCode := .warningAuthorizationSelectionInvalid }
  else
    match req.selectedAuthorizationService, authorizationStatus with
    | .eim, .accepted => { header, evseProcessing := .finished, responseCode := .ok }
    | .eim, .rejected =>
        { header, evseProcessing := .finished, responseCode := .warningEimAuthorizationFailure }
    | .eim, .pending => { header, evseProcessing := .ongoing, responseCode := .ok }
    | .pnc, _ => { header, responseCode := .ok }

namespace State

def Authorization.feed (platform : Platform) (env : Env) (self : Authorization) (ev : Event) :
    Feed (Authorization × Result) := do
  match ev with
  | .controlMessage => do
      let ctx ← Act.get
      match ctx.currentControlEvent with
      | some (.authorizationResponse authorized) =>
          return ({ self with
            authorizationStatus := if authorized then .accepted else .rejected }, {})
      | _ => return (self, {})
  | .timeout => do
      let ctx ← Act.get
      if ctx.currentTimeout = some .ongoing then
        return ({ self with timeoutOngoingReached := true }, {})
      return (self, {})
  | .v2gtpMessage => do
      match ← Feed.pullRequest with
      | .request (.authorization req) => do
          if self.firstReqMsg then Feed.startTimeout env .ongoing timeoutEimOngoing
          let self := { self with firstReqMsg := false }
          let ctx ← Act.get
          let res := handleAuthorization env req ctx.session self.authorizationStatus
            self.timeoutOngoingReached
          Feed.respond platform (.authorization res)
          if res.responseCode.isFailed then
            Feed.stopSession
            return (self, {})
          if self.authorizationStatus = .accepted then
            Feed.stopTimeout .ongoing
            return ({ self with authorizationStatus := .pending }, .createState .serviceDiscovery)
          return (self, {})
      | .request (.sessionStop req) => return (self, ← stopOnRequest platform env req)
      | variant => return (self, ← stopOnSequenceError platform env variant)
  | _ => return (self, {})

end State

end LibIso15118
