import LibIso15118.Der.SeccProvider
import LibIso15118.Fsm.Branches

set_option autoImplicit false

namespace LibIso15118

open Datatypes Shared

namespace Datatypes

def AcCpdReqTransferMode.isDer : AcCpdReqTransferMode → Bool
  | .der _ => true
  | _ => false

def AcClReqControlMode.isDer : AcClReqControlMode → Bool
  | .derScheduled _ | .derDynamic _ => true
  | _ => false

def AcClResControlMode.setpoints : AcClResControlMode → Option (Option DsoQSetpoint × Option DsoCosPhiSetpoint)
  | .derScheduled mode => some (mode.dsoQSetpoint, mode.dsoCosPhiSetpoint)
  | .derDynamic mode => some (mode.dsoQSetpoint, mode.dsoCosPhiSetpoint)
  | _ => none

end Datatypes

def Output.diagnostic? : Output → Option AcDerControlDiagnostic
  | .feedback (.acDerControlDiagnostic diagnostic) => some diagnostic
  | _ => none

def diagnostics (log : List Output) : List AcDerControlDiagnostic := log.filterMap Output.diagnostic?

/-- The provider's configuration for a session with DER control. -/
structure DerGate (provider : AcDerControlProvider) (selected : SelectedServiceParameters)
    (config : AcDerControlConfig) : Prop where
  service : selected.selectedEnergyService = .acDer
  provided : (provider (acDerControlContext selected)).config = some config
  valid : ∃ controls, selected.selectedDerControlFunctions = some controls ∧
    hasRequiredAcDerControlFunctions controls = true ∧ validateAcDerControlConfig config controls = true

section Checks

variable {provider : AcDerControlProvider} {selected : SelectedServiceParameters}

theorem checkedAcDerControl_ok {config : AcDerControlConfig} {controls : DerControlFunctions}
    (service : selected.selectedEnergyService = .acDer)
    (checked : checkedAcDerControl provider selected = .ok (config, controls)) :
    DerGate provider selected config ∧ hasRequiredAcDerControlFunctions controls = true := by
  unfold checkedAcDerControl at checked
  split at checked
  · cases checked
  · rename_i controls' functions
    dsimp only at checked
    split_ifs at checked with required
    split at checked
    · cases checked
    · rename_i config' provided
      split_ifs at checked with valid
      cases checked
      rw [Bool.not_eq_false] at required valid
      exact ⟨⟨service, provided, controls, functions, required, valid⟩, required⟩

def Explains (provider : AcDerControlProvider) : Prop :=
  ∀ context, (provider context).config = none → (provider context).failureReason ≠ .none

theorem checkedAcDerControl_error (explains : Explains provider) {reason : AcDerControlFailureReason}
    (refused : checkedAcDerControl provider selected = .error reason) : reason ≠ .none := by
  unfold checkedAcDerControl at refused
  split at refused
  · cases refused
    decide
  · dsimp only at refused
    split_ifs at refused with required
    · cases refused
      decide
    · split at refused
      · rename_i missing
        cases refused
        exact explains _ missing
      · split_ifs at refused
        cases refused
        decide

end Checks

section Answers

variable {env : Env} {session : Session} {provider : AcDerControlProvider}

theorem acChargeParameterDiscovery_gated {req : AcChargeParameterDiscoveryRequest}
    {limits : AcTransferLimits} {powers : AcPresentPower} (der : req.transferMode.isDer = true)
    (ok : (handleAcChargeParameterDiscovery env req session limits powers provider).response.responseCode =
      .ok) :
    ∃ config, DerGate provider session.selectedServices config ∧
      ∃ mode, (handleAcChargeParameterDiscovery env req session limits powers provider).response.transferMode =
        .der mode ∧ mode.derControl = config.cpdControl := by
  obtain ⟨mode, isDer⟩ : ∃ mode, req.transferMode = .der mode := by
    cases eq : req.transferMode <;> simp_all [AcCpdReqTransferMode.isDer]
  revert ok
  simp only [handleAcChargeParameterDiscovery, isDer]
  split_ifs with foreign service
  · intro ok
    cases ok
  · intro ok
    cases ok
  · split
    · intro ok
      cases ok
    · rename_i config controls checked
      intro _
      exact ⟨config, (checkedAcDerControl_ok (not_not.mp service) checked).1, _, rfl, rfl⟩

theorem acClResControlMode_gated {mode : AcClReqControlMode} {limits : AcTransferLimits}
    {self : State.AcChargeLoop} {dynamic : DynamicClResControlMode} {res : AcClResControlMode}
    (der : mode.isDer = true)
    (ok : acClResControlMode mode session.selectedServices limits self dynamic provider = .ok res) :
    ∃ config, DerGate provider session.selectedServices config ∧
      res.setpoints = some (some config.dsoQSetpoint, some config.dsoCosPhiSetpoint) := by
  have given {controls : DerControlFunctions} (required : hasRequiredAcDerControlFunctions controls = true) :
      controls.dsoQSetpointProvision = true ∧ controls.dsoCosPhiSetpointProvision = true := by
    simp only [hasRequiredAcDerControlFunctions, Bool.and_eq_true] at required
    tauto
  cases mode with
  | scheduled _ | bptScheduled _ | dynamic _ | bptDynamic _ => simp [AcClReqControlMode.isDer] at der
  | derScheduled _ | derDynamic _ =>
      simp only [acClResControlMode] at ok
      split_ifs at ok with fits
      rw [not_or, not_not, not_not] at fits
      split at ok
      · cases ok
      · rename_i config controls checked
        obtain ⟨gate, required⟩ := checkedAcDerControl_ok fits.2 checked
        obtain ⟨q, cosPhi⟩ := given required
        cases ok
        exact ⟨config, gate, by simp [AcClResControlMode.setpoints, derClResLimits, q, cosPhi]⟩

theorem acChargeLoop_gated {req : AcChargeLoopRequest} {self : State.AcChargeLoop}
    {limits : AcTransferLimits} (der : req.controlMode.isDer = true)
    (ok : (handleAcChargeLoop env req session self limits provider).response.responseCode = .ok) :
    ∃ config, DerGate provider session.selectedServices config ∧
      (handleAcChargeLoop env req session self limits provider).response.controlMode.setpoints =
        some (some config.dsoQSetpoint, some config.dsoCosPhiSetpoint) := by
  revert ok
  simp only [handleAcChargeLoop]
  split_ifs with foreign
  · intro ok
    cases ok
  · split
    · intro ok
      cases ok
    · rename_i controlMode accepted
      intro _
      exact acClResControlMode_gated der accepted

theorem acChargeParameterDiscovery_unprovided {req : AcChargeParameterDiscoveryRequest}
    (other : req.transferMode.isDer = false) (limits : AcTransferLimits) (powers : AcPresentPower)
    (provider' : AcDerControlProvider) :
    handleAcChargeParameterDiscovery env req session limits powers provider' =
      handleAcChargeParameterDiscovery env req session limits powers provider := by
  -- The other alternatives do not come to the provider.
  cases mode : req.transferMode with
  | der _ => simp [mode, AcCpdReqTransferMode.isDer] at other
  | ac _ | bpt _ => simp only [handleAcChargeParameterDiscovery, mode]

theorem acChargeLoop_unprovided {req : AcChargeLoopRequest} (other : req.controlMode.isDer = false)
    (self : State.AcChargeLoop) (limits : AcTransferLimits) (provider' : AcDerControlProvider) :
    handleAcChargeLoop env req session self limits provider' =
      handleAcChargeLoop env req session self limits provider := by
  cases mode : req.controlMode with
  | derScheduled _ | derDynamic _ => simp [mode, AcClReqControlMode.isDer] at other
  | scheduled _ | bptScheduled _ | dynamic _ | bptDynamic _ =>
      simp only [handleAcChargeLoop, acClResControlMode, mode]

theorem acChargeParameterDiscovery_reason (explains : Explains provider)
    (req : AcChargeParameterDiscoveryRequest) (limits : AcTransferLimits) (powers : AcPresentPower)
    (failed : (handleAcChargeParameterDiscovery env req session limits powers
      provider).response.responseCode.isFailed = true) :
    (handleAcChargeParameterDiscovery env req session limits powers provider).acDerFailureReason ≠ .none ↔
      req.transferMode.isDer = true ∧ session.id = req.header.sessionId := by
  revert failed
  by_cases own : session.id = req.header.sessionId
  · simp only [handleAcChargeParameterDiscovery, validateHeader, own, decide_true, Bool.true_eq_false,
      if_false, and_true]
    cases mode : req.transferMode with
    | ac _ | bpt _ =>
        dsimp only
        split_ifs <;> simp [AcCpdReqTransferMode.isDer]
    | der _ =>
        dsimp only
        split_ifs with service
        · simp [AcCpdReqTransferMode.isDer]
        · split
          · rename_i reason refused
            simp [AcCpdReqTransferMode.isDer, checkedAcDerControl_error explains refused]
          · simp
  · simp [handleAcChargeParameterDiscovery, validateHeader, own]

theorem acClResControlMode_reason (explains : Explains provider) {mode : AcClReqControlMode}
    {selected : SelectedServiceParameters} {limits : AcTransferLimits} {self : State.AcChargeLoop}
    {dynamic : DynamicClResControlMode} {reason : AcDerControlFailureReason}
    (refused : acClResControlMode mode selected limits self dynamic provider = .error reason) :
    reason ≠ .none ↔ mode.isDer = true := by
  cases mode with
  | scheduled _ | bptScheduled _ | dynamic _ | bptDynamic _ =>
      simp only [acClResControlMode] at refused
      split_ifs at refused
      cases refused
      simp [AcClReqControlMode.isDer]
  | derScheduled _ | derDynamic _ =>
      simp only [acClResControlMode] at refused
      split_ifs at refused
      · cases refused
        simp [AcClReqControlMode.isDer]
      · split at refused
        · rename_i reason' checked
          cases refused
          simp [AcClReqControlMode.isDer, checkedAcDerControl_error explains checked]
        · cases refused

theorem acChargeLoop_reason (explains : Explains provider) (req : AcChargeLoopRequest)
    (self : State.AcChargeLoop) (limits : AcTransferLimits)
    (failed : (handleAcChargeLoop env req session self limits provider).response.responseCode.isFailed =
      true) :
    (handleAcChargeLoop env req session self limits provider).acDerFailureReason ≠ .none ↔
      req.controlMode.isDer = true ∧ session.id = req.header.sessionId := by
  revert failed
  by_cases own : session.id = req.header.sessionId
  · simp only [handleAcChargeLoop, validateHeader, own, decide_true, Bool.true_eq_false, if_false, and_true]
    split
    · rename_i reason refused
      intro _
      exact acClResControlMode_reason explains refused
    · simp
  · simp [handleAcChargeLoop, validateHeader, own]

end Answers

/-- The providers of the library: a fixed configuration, the snapshots, and what an implementation gets
that only says which configuration it has. -/
inductive ProvidedByLibrary : AcDerControlProvider → Prop
  | fixed (config : AcDerControlConfig) : ProvidedByLibrary (staticAcDerControlProvider config)
  | secc (snapshots : AcDerSeccControlSnapshots) : ProvidedByLibrary (seccAcDerControlProvider snapshots)
  | result (getAcDerControlConfig : AcDerControlContext → Option AcDerControlConfig) :
      ProvidedByLibrary (defaultAcDerControlResult getAcDerControlConfig)

theorem ProvidedByLibrary.explains {provider : AcDerControlProvider}
    (provided : ProvidedByLibrary provider) : Explains provider := by
  intro context missing
  cases provided with
  | fixed config =>
      revert missing
      simp only [staticAcDerControlProvider]
      split_ifs <;> simp
  | secc snapshots =>
      by_cases accepts : SeccAccepts snapshots context
      · rw [seccAcDerControlProvider_accepts accepts] at missing
        cases missing
      · obtain ⟨reason, named, refused⟩ := seccAcDerControlProvider_refuses accepts
        rw [refused]
        exact named
  | result getAcDerControlConfig =>
      revert missing
      simp only [defaultAcDerControlResult]
      split <;> simp

/-- What the log of a request says about DER control: one diagnostic when a request of this session with
a DER alternative is refused. -/
structure Diagnosed (type : MessageType) (der own : Prop) (res : Response) (log : List Output) : Prop where
  answered : responses log = [res]
  refused : der → own → res.isFailed = true →
    ∃ code reason, res.code? = some code ∧ reason ≠ .none ∧ diagnostics log = [⟨type, code, reason⟩]
  silent : ¬(der ∧ own ∧ res.isFailed = true) → diagnostics log = []

section Leaves

variable {type : MessageType} {der own : Prop} {res : Response} {log : List Output}
  (sent : responses log = [res])
include sent

theorem Diagnosed.given {code : ResponseCode} {reason : AcDerControlFailureReason}
    (coded : res.code? = some code) (named : reason ≠ .none) (which : der ∧ own)
    (failed : res.isFailed = true) (told : diagnostics log = [⟨type, code, reason⟩]) :
    Diagnosed type der own res log :=
  ⟨sent, fun _ _ _ => ⟨code, reason, coded, named, told⟩,
    fun silent => absurd ⟨which.1, which.2, failed⟩ silent⟩

theorem Diagnosed.ungiven (other : ¬(der ∧ own)) (untold : diagnostics log = []) :
    Diagnosed type der own res log :=
  ⟨sent, fun isDer isOwn _ => absurd ⟨isDer, isOwn⟩ other, fun _ => untold⟩

theorem Diagnosed.accepted (fine : ¬res.isFailed = true) (untold : diagnostics log = []) :
    Diagnosed type der own res log :=
  ⟨sent, fun _ _ failed => absurd failed fine, fun _ => untold⟩

end Leaves

section Feed

variable (platform : Platform) (env : Env) (ctx : Context)
  (explains : Explains ctx.sessionConfig.acDerControlProvider)
include explains

theorem acChargeParameterDiscovery_diagnosed (self : State.AcChargeParameterDiscovery)
    (req : AcChargeParameterDiscoveryRequest)
    (pending : ctx.request = some (.request (.acChargeParameterDiscovery req))) :
    Act.wp (State.feed platform env (.acChargeParameterDiscovery self) .v2gtpMessage)
      (fun _ _ log => Diagnosed .acChargeParameterDiscoveryReq (req.transferMode.isDer = true)
        (ctx.session.id = req.header.sessionId)
        (.acChargeParameterDiscovery (handleAcChargeParameterDiscovery env req ctx.session
          ctx.sessionConfig.acLimits self.presentPowers ctx.sessionConfig.acDerControlProvider).response)
        log) ctx := by
  simp only [State.feed, State.AcChargeParameterDiscovery.feed, Act.wp_bind, Feed.wp_pullRequest _ pending]
  simp only [Act.wp_bind, Act.wp_get, Act.wp_modify, Act.wp_pure, Act.wp_ite, Feed.wp_feedback,
    Feed.wp_respond, Feed.wp_stopSession, Platform.stringsFit, true_implies, reduceCtorEq,
    false_implies, and_true]
  have reason := @acChargeParameterDiscovery_reason env ctx.session _ explains req
    ctx.sessionConfig.acLimits self.presentPowers
  refine ⟨fun failed => ⟨fun given => ?_, fun ungiven => ?_⟩, fun fine => ?_⟩
  · exact .given rfl rfl given ((reason failed).mp given) failed rfl
  · exact .ungiven rfl (fun which => ungiven ((reason failed).mpr which)) rfl
  · exact .accepted rfl fine rfl

theorem acChargeLoop_diagnosed (self : State.AcChargeLoop) (req : AcChargeLoopRequest)
    (pending : ctx.request = some (.request (.acChargeLoop req))) :
    Act.wp (State.feed platform env (.acChargeLoop self) .v2gtpMessage)
      (fun _ _ log => Diagnosed .acChargeLoopReq (req.controlMode.isDer = true)
        (ctx.session.id = req.header.sessionId)
        (.acChargeLoop (handleAcChargeLoop env req ctx.session
          { self with firstEntryInChargeLoop := false } ctx.sessionConfig.acLimits
          ctx.sessionConfig.acDerControlProvider).response) log) ctx := by
  simp only [State.feed, State.AcChargeLoop.feed, Act.wp_bind, Feed.wp_pullRequest _ pending]
  simp only [Act.wp_bind, Act.wp_get, Act.wp_pure, Act.wp_ite, Feed.wp_feedback, Feed.wp_signal,
    Feed.wp_feedbackIfSome, Feed.wp_respond, Feed.wp_stopSession, Platform.stringsFit, true_implies,
    reduceCtorEq, false_implies, and_true]
  have reason := @acChargeLoop_reason env ctx.session _ explains req
    { self with firstEntryInChargeLoop := false } ctx.sessionConfig.acLimits
  refine ⟨fun _ => ⟨fun failed => ⟨fun given => ?_, fun ungiven => ?_⟩, fun fine => ?_⟩,
    fun _ => ⟨fun failed => ⟨fun given => ?_, fun ungiven => ?_⟩, fun fine => ?_⟩⟩
  · exact .given rfl rfl given ((reason failed).mp given) failed rfl
  · exact .ungiven rfl (fun which => ungiven ((reason failed).mpr which)) rfl
  · cases req.displayParameters <;> exact .accepted rfl fine rfl
  · exact .given rfl rfl given ((reason failed).mp given) failed rfl
  · exact .ungiven rfl (fun which => ungiven ((reason failed).mpr which)) rfl
  · cases req.displayParameters <;> exact .accepted rfl fine rfl

end Feed

def Context.asked (ctx : Context) (req : Request) : Context := { ctx with request := some (.request req) }

/-- A request with a DER alternative is accepted only with a valid configuration of the provider, which
the answer carries; no other request comes to the provider; and the providers of the library say why a
request is refused. -/
theorem der_answers (provider : AcDerControlProvider) (env : Env) (session : Session) :
    (∀ (req : AcChargeParameterDiscoveryRequest) limits powers, req.transferMode.isDer = true →
      (handleAcChargeParameterDiscovery env req session limits powers provider).response.responseCode = .ok →
        ∃ config, DerGate provider session.selectedServices config ∧
          ∃ mode, (handleAcChargeParameterDiscovery env req session limits powers
            provider).response.transferMode = .der mode ∧ mode.derControl = config.cpdControl) ∧
    (∀ (req : AcChargeLoopRequest) self limits, req.controlMode.isDer = true →
      (handleAcChargeLoop env req session self limits provider).response.responseCode = .ok →
        ∃ config, DerGate provider session.selectedServices config ∧
          (handleAcChargeLoop env req session self limits provider).response.controlMode.setpoints =
            some (some config.dsoQSetpoint, some config.dsoCosPhiSetpoint)) ∧
    (∀ (req : AcChargeParameterDiscoveryRequest) limits powers provider', req.transferMode.isDer = false →
      handleAcChargeParameterDiscovery env req session limits powers provider' =
        handleAcChargeParameterDiscovery env req session limits powers provider) ∧
    (∀ (req : AcChargeLoopRequest) self limits provider', req.controlMode.isDer = false →
      handleAcChargeLoop env req session self limits provider' =
        handleAcChargeLoop env req session self limits provider) ∧
    (ProvidedByLibrary provider → ∀ (platform : Platform) (ctx : Context), ctx.session = session →
      ctx.sessionConfig.acDerControlProvider = provider →
      (∀ self (req : AcChargeParameterDiscoveryRequest),
        Act.wp (State.feed platform env (.acChargeParameterDiscovery self) .v2gtpMessage)
          (fun _ _ log => Diagnosed .acChargeParameterDiscoveryReq (req.transferMode.isDer = true)
            (session.id = req.header.sessionId)
            (.acChargeParameterDiscovery (handleAcChargeParameterDiscovery env req session
              ctx.sessionConfig.acLimits self.presentPowers provider).response) log)
          (ctx.asked (.acChargeParameterDiscovery req))) ∧
      ∀ self (req : AcChargeLoopRequest),
        Act.wp (State.feed platform env (.acChargeLoop self) .v2gtpMessage)
          (fun _ _ log => Diagnosed .acChargeLoopReq (req.controlMode.isDer = true)
            (session.id = req.header.sessionId)
            (.acChargeLoop (handleAcChargeLoop env req session
              { self with firstEntryInChargeLoop := false } ctx.sessionConfig.acLimits provider).response) log)
          (ctx.asked (.acChargeLoop req))) := by
  refine ⟨fun req limits powers => acChargeParameterDiscovery_gated,
    fun req self limits => acChargeLoop_gated,
    fun req limits powers provider' other => acChargeParameterDiscovery_unprovided other limits powers _,
    fun req self limits provider' other => acChargeLoop_unprovided other self limits _, ?_⟩
  rintro provided platform ctx rfl rfl
  exact ⟨fun self req => acChargeParameterDiscovery_diagnosed platform env (ctx.asked _)
      provided.explains self req rfl,
    fun self req => acChargeLoop_diagnosed platform env (ctx.asked _) provided.explains self req rfl⟩

namespace Sample

def derSession : Session :=
  { id := Vector.replicate 8 1
    selectedServices :=
      { selectedEnergyService := .acDer
        selectedControlMode := .dynamic
        selectedMobilityNeedsMode := .providedByEvcc
        selectedDerControlFunctions := some makeRequiredAcDerControlFunctions } }

def derLimits : AcTransferLimits := { chargePower := ⟨⟨11, 3⟩, ⟨0, 0⟩⟩, nominalFrequency := ⟨50, 0⟩ }

end Sample

open Sample in
theorem der_answers_secc :
    ∃ config, DerGate (seccAcDerControlProvider makeAcDerIecDynamicEimProfileSnapshots)
        derSession.selectedServices config ∧
      ∃ mode, (handleAcChargeParameterDiscovery {} ⟨{ sessionId := derSession.id }, .der {}⟩ derSession derLimits
          {} (seccAcDerControlProvider makeAcDerIecDynamicEimProfileSnapshots)).response.transferMode =
        .der mode ∧ mode.derControl = config.cpdControl :=
  (der_answers (seccAcDerControlProvider makeAcDerIecDynamicEimProfileSnapshots) {} derSession).1
    ⟨{ sessionId := derSession.id }, .der {}⟩ derLimits {} rfl (by decide +kernel)

end LibIso15118
