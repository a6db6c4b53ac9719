import LibIso15118.Fsm.PowerDelivery
import Mathlib.Data.List.DropRight

set_option autoImplicit false

namespace LibIso15118

open Datatypes Shared

namespace Fsm

variable (platform : Platform) (config : SessionConfig) (pauseCtx : Option PauseContext)
  (id : SessionId)

def run (inputs : List Input) : List FsmStep :=
  Machine.steps (step platform) (Fsm.new config pauseCtx id) inputs

def reached (inputs : List Input) : Fsm :=
  Machine.final (step platform) (Fsm.new config pauseCtx id) inputs

/-- The steps since the machine entered the state it is in, provided that it is the state `stateId`. -/
def stay (stateId : StateId) (past : List FsmStep) : List FsmStep :=
  past.rtakeWhile fun record => record.before.state.id = stateId

theorem stay_concat (stateId : StateId) (past : List FsmStep) (record : FsmStep) :
    stay stateId (past ++ [record]) =
      if record.before.state.id = stateId then stay stateId past ++ [record] else [] := by
  simp [stay, List.rtakeWhile_concat]

theorem run_concat (inputs : List Input) (input : Input) :
    run platform config pauseCtx id (inputs ++ [input]) =
      run platform config pauseCtx id inputs ++
        [Machine.stepOf (step platform) (reached platform config pauseCtx id inputs) input] :=
  Machine.steps_append _ _ _ _

@[simp] theorem new_request : (Fsm.new config pauseCtx id).ctx.request = none := rfl

@[simp] theorem new_state : (Fsm.new config pauseCtx id).state = .supportedAppProtocol := rfl

theorem reached_idle (inputs : List Input) :
    (reached platform config pauseCtx id inputs).ctx.request = none := by
  refine Machine.run_induction (step platform) (Fsm.new config pauseCtx id)
    (motive := fun _ fsm => fsm.ctx.request = none) rfl ?_ inputs
  exact fun _ fsm input idle => (step_frame platform fsm input idle).idle

end Fsm

theorem Session.isAcCharger_congr {session session' : Session}
    (same : session'.selectedServices = session.selectedServices) :
    session'.isAcCharger = session.isAcCharger := by
  simp only [Session.isAcCharger, same]

theorem Session.isDcCharger_congr {session session' : Session}
    (same : session'.selectedServices = session.selectedServices) :
    session'.isDcCharger = session.isDcCharger := by
  simp only [Session.isDcCharger, same]

theorem Session.not_dc_of_ac {session : Session} (ac : session.isAcCharger = true) :
    session.isDcCharger = false := by
  simp only [Session.isAcCharger, Bool.or_eq_true, decide_eq_true_eq] at ac
  rcases ac with (ac | ac) | ac <;> simp [Session.isDcCharger, ac] <;> decide

namespace Sample

def capacities : DocumentCapacities :=
  { appProtocol := { appProtocols := 20, protocolNamespace := 100 }
    session := sessionCapacities
    services := serviceCapacities
    schedules := scheduleCapacities
    dcMetering := meteringCapacities
    acMetering := meteringCapacities
    curvePoints := 10 }

def platform : Platform :=
  { evpDigest := fun input => some (input.take 64)
    capacities
    encodedSize := fun _ => 16
    decoders :=
      { appHand := fun _ => none, iso20 := fun _ => none, iso20Dc := fun _ => none, iso20Ac := fun _ => none } }

def limit : Limit RationalNumber := ⟨⟨100, 0⟩, ⟨0, 0⟩⟩

def dcLimits : DcTransferLimits := { chargeLimits := ⟨limit, limit⟩, voltage := limit }

def config : SessionConfig := .ofSetup
  { evseId := "DE*PNX*E12345*1"
    supportedEnergyServices := [.ac, .dc]
    authorizationServices := [.eim]
    supportedVasServices := []
    enableCertificateInstallService := false
    dcLimits
    acLimits := { chargePower := limit, nominalFrequency := ⟨50, 0⟩ }
    controlMobilityModes := []
    powersupplyLimits := dcLimits }

def sessionId (byte : UInt8) : SessionId := Vector.replicate 8 byte

def receive (id : SessionId) (req : Request) : Input := .message { newSessionId := id } (.request req)

def negotiate (id : SessionId) : Input :=
  receive id (.supportedAppProtocol ⟨[⟨iso20AcNamespace, 1, 0, 1, 1⟩, ⟨iso20DcNamespace, 1, 0, 2, 2⟩]⟩)

def selectService (id : SessionId) (service : ServiceCategory) : List Input :=
  let header : Header := { sessionId := id }
  [negotiate id,
    receive id (.sessionSetup ⟨{}, "EVCC"⟩),
    receive id (.authorizationSetup ⟨header⟩),
    .control {} (.authorizationResponse true),
    receive id (.authorization ⟨header, .eim, .eim⟩),
    receive id (.serviceDiscovery ⟨header, none⟩),
    receive id (.serviceDetail ⟨header, service.value⟩),
    receive id (.serviceSelection ⟨header, ⟨service, 0⟩, none⟩)]

def reachPowerDelivery (id : SessionId) : List Input :=
  selectService id .ac ++
    [receive id (.acChargeParameterDiscovery ⟨{ sessionId := id }, .ac {}⟩),
      receive id (.scheduleExchange ⟨{ sessionId := id }, 12, .scheduled {}⟩)]

def reachDcPowerDelivery (id : SessionId) : List Input :=
  let header : Header := { sessionId := id }
  selectService id .dc ++
    [receive id (.dcChargeParameterDiscovery ⟨header, .dc {}⟩),
      receive id (.scheduleExchange ⟨header, 12, .scheduled {}⟩),
      .control {} (.cableCheckFinished true),
      receive id (.dcCableCheck ⟨header⟩),
      receive id (.dcPreCharge ⟨header, .ongoing, ⟨0, 0⟩, ⟨400, 0⟩⟩)]

def deliver (id : SessionId) (progress : Progress) : Input :=
  receive id (.powerDelivery { header := { sessionId := id }, chargeProgress := progress })

def preCharge (id : SessionId) : Input :=
  receive id (.dcPreCharge ⟨{ sessionId := id }, .ongoing, ⟨0, 0⟩, ⟨400, 0⟩⟩)

end Sample

end LibIso15118
