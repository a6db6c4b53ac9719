import LibIso15118.Controller.Registrations
import LibIso15118.Session.Settings

set_option autoImplicit false

namespace LibIso15118

open Datatypes Shared

def ControllerInput.event? : ControllerInput → Option ControlEvent
  | .sendControlEvent event => some event
  | .updateDcLimits limits => some (.dcTransferLimits limits)
  | .updateEnergyModes modes => some (.energyServices modes)
  | .updateSupportedVasServices vasServices => some (.supportedVass vasServices)
  | .updateAcLimits limits => some (.acTransferLimits limits)
  | _ => none

/-- The events that the configuration of a session takes over. -/
def ControlEvent.isSetting : ControlEvent → Bool
  | .dcTransferLimits _ | .energyServices _ | .supportedVass _ | .acTransferLimits _ => true
  | _ => false

theorem SessionConfig.receive_other (config : SessionConfig) {event : ControlEvent}
    (other : event.isSetting = false) : config.receive event = config := by
  cases event <;> first | rfl | cases other

structure EvseSetupConfig.Governs (setup : EvseSetupConfig) (config : SessionConfig) : Prop where
  dcLimits : config.dcLimits = setup.dcLimits
  energyServices : config.supportedEnergyTransferServices = setup.supportedEnergyServices
  vasServices : config.supportedVasServices = setup.supportedVasServices
  acLimits : config.acLimits = setup.acLimits

namespace LinkedSession

def Expects (linked linked' : LinkedSession) (events : List ControlEvent) : Prop :=
  linked.session.fsm.ctx.request = none → linked'.session.fsm.ctx.request = none ∧
    linked'.session.expects = events.foldl .receive linked.session.expects

theorem Expects.of_unheard {linked linked' : LinkedSession} {log : List SessionOutput}
    (unheard : IsoSession.Unheard linked.session linked'.session log) : linked.Expects linked' [] :=
  unheard.expects

theorem Expects.trans {linked linked' linked'' : LinkedSession} {events events' : List ControlEvent}
    (first : linked.Expects linked' events) (next : linked'.Expects linked'' events') :
    linked.Expects linked'' (events ++ events') := by
  intro idle
  obtain ⟨idle', expects⟩ := first idle
  obtain ⟨idle'', expects'⟩ := next idle'
  exact ⟨idle'', by rw [expects', expects, List.foldl_append]⟩

structure Fresh (setup : EvseSetupConfig) (linked : LinkedSession) : Prop where
  idle : linked.session.fsm.ctx.request = none
  expects : linked.session.expects = (SessionConfig.ofSetup setup).settings

theorem fresh_new (setup : EvseSetupConfig) (pauseCtx : Option PauseContext) (vehicle : Option Sha512Hash)
    (id : SessionId) (now : TimePoint) : Fresh setup (.new (.ofSetup setup) pauseCtx vehicle id now) :=
  ⟨rfl, rfl⟩

theorem Fresh.expecting {setup : EvseSetupConfig} {linked linked' : LinkedSession}
    (fresh : linked.Fresh setup)
    (expects : linked.Expects linked' []) : linked'.Fresh setup := by
  obtain ⟨idle, same⟩ := expects fresh.idle
  exact ⟨idle, same.trans fresh.expects⟩

theorem Fresh.governed {setup : EvseSetupConfig} {linked : LinkedSession}
    (fresh : linked.Fresh setup) : setup.Governs linked.session.expects := by
  rw [fresh.expects]
  exact ⟨rfl, rfl, rfl, rfl⟩

variable (platform : Platform)

theorem push_expects (event : ControlEvent) (linked : LinkedSession) :
    linked.Expects (act platform (.push event) linked).state [event] := by
  intro idle
  refine ⟨idle, ?_⟩
  simp only [act, call, IsoSession.pushControlEvent, Act.modify_apply, IsoSession.expects, List.foldl_append]

theorem act_expects (input : SessionInput) (unpushed : ∀ event, input ≠ .push event)
    (linked : LinkedSession) :
    linked.Expects (act platform input linked).state [] := by
  have reports (before after : Link) (event : ConnectionEvent)
      (unheard : Act.Keeps IsoSession.Unheard (IsoSession.handleConnectionEvent platform event)) :
      linked.Expects (report platform before after event linked).state [] := by
    unfold report
    split
    · exact .of_unheard (unheard linked.session)
    · exact .of_unheard (.refl linked.session)
  cases input with
  | push event => exact absurd rfl (unpushed event)
  | accept => exact reports _ _ .accepted fun _ => .of_fsm rfl rfl
  | data => exact reports _ _ .newData fun _ => .of_fsm rfl rfl
  | opened =>
      refine reports _ _ .opened (.bind .trans (.get .refl) fun session => ?_)
      cases session.vehicle with
      | none => exact .pure .refl ()
      | some hash => exact IsoSession.dispatch_unheard platform rfl
  | poll env => exact fun idle => (IsoSession.poll_heeds platform env linked.session idle).1
  | close =>
      have closes : Act.Keeps IsoSession.Unheard (IsoSession.close platform) := by
        refine .bind .trans (.bind .trans (fun _ => .of_fsm rfl rfl) fun _ _ => .of_fsm rfl rfl) fun _ => ?_
        exact .bind .trans (fun _ => .of_fsm rfl rfl) fun _ => IsoSession.dispatch_unheard platform rfl
      exact .of_unheard (closes linked.session)

end LinkedSession

namespace TbdController

structure Tends (s t : TbdController) (_log : List ControllerOutput) : Prop where
  setup : t.evseSetup = s.evseSetup
  count : s.count ≤ t.count
  sessions : ∀ number linked', t.session = some (number, linked') →
    (∃ linked, s.session = some (number, linked) ∧ linked.Expects linked' []) ∨
      s.count < number ∧ linked'.Fresh s.evseSetup

namespace Tends

theorem still {s t : TbdController} {log : List ControllerOutput} (setup : t.evseSetup = s.evseSetup)
    (count : t.count = s.count) (session : t.session = s.session) : Tends s t log := by
  refine ⟨setup, count.ge, fun number linked' current => .inl ⟨linked', session ▸ current, ?_⟩⟩
  exact fun idle => ⟨idle, rfl⟩

theorem refl (controller : TbdController) : Tends controller controller [] := still rfl rfl rfl

theorem trans {s t u : TbdController} {l l' : List ControllerOutput} (first : Tends s t l)
    (next : Tends t u l') :
    Tends s u (l ++ l') := by
  refine ⟨next.setup.trans first.setup, first.count.trans next.count, fun number linked'' current => ?_⟩
  rcases next.sessions number linked'' current with ⟨linked', current', expects'⟩ | ⟨later, fresh⟩
  · rcases first.sessions number linked' current' with ⟨linked, current, expects⟩ | ⟨later, fresh⟩
    · exact .inl ⟨linked, current, expects.trans expects'⟩
    · exact .inr ⟨later, fresh.expecting expects'⟩
  · exact .inr ⟨Nat.lt_of_le_of_lt first.count later, first.setup ▸ fresh⟩

variable (platform : Platform)

theorem callSession (input : SessionInput) (unpushed : ∀ event, input ≠ .push event) :
    Act.Keeps Tends (TbdController.callSession platform input) := by
  intro controller
  unfold TbdController.callSession
  cases current : controller.session with
  | none => exact .refl controller
  | some session =>
      refine ⟨rfl, le_refl _, fun number linked' same => .inl ?_⟩
      obtain ⟨rfl, rfl⟩ := Prod.mk.inj (Option.some.inj same)
      exact ⟨session.2, current, session.2.act_expects platform input unpushed⟩

theorem pollSession (env : PollEnv) : Act.Keeps Tends (TbdController.pollSession platform env) := by
  intro controller
  unfold TbdController.pollSession
  cases current : controller.session with
  | none => exact .refl controller
  | some session =>
      refine ⟨rfl, le_refl _, fun number linked' same => .inl ?_⟩
      obtain ⟨rfl, rfl⟩ := Prod.mk.inj (Option.some.inj same)
      exact ⟨session.2, current, session.2.act_expects platform (.poll env) (by simp)⟩

theorem buildSession (new : NewSession) (controller : TbdController) :
    Tends controller (controller.buildSession new) [] := by
  refine ⟨rfl, Nat.le_succ _, fun number linked' same => .inr ?_⟩
  obtain ⟨rfl, rfl⟩ := Prod.mk.inj (Option.some.inj same)
  exact ⟨Nat.lt_succ_self _, LinkedSession.fresh_new ..⟩

theorem resetFinished (new : NewSession) : Act.Keeps Tends (TbdController.resetFinished new) := by
  intro controller
  unfold TbdController.resetFinished
  cases current : controller.session with
  | none => exact .refl controller
  | some session =>
      dsimp only
      split
      · split
        · exact ⟨rfl, le_refl _, by simp⟩
        · have built := buildSession { new with vehicle := none } { controller with session := none }
          refine ⟨built.setup, built.count, fun number linked' same => .inr ?_⟩
          exact (built.sessions number linked' same).resolve_left (by simp)
      · exact .refl controller

theorem iterate (clock : TimePoint) (env : PollEnv) (new : NewSession) :
    Act.Keeps Tends (TbdController.iterate platform clock env new) := by
  refine .bind .trans (fun _ => .still rfl rfl rfl) fun _ =>
    .bind .trans (.tryCatch .trans ?_ fun e => ?_) fun _ =>
    resetFinished new
  · exact pollSession platform env
  · cases e with
    | runtimeError => exact callSession platform .close (by simp)
    | _ =>
        exact .bind .trans (fun _ => .still rfl rfl rfl) fun _ => .throw .refl _

theorem handleSdpServerInput (request : Option Security) (established : Bool) (new : NewSession) :
    Act.Keeps Tends (TbdController.handleSdpServerInput request established new) := by
  refine .bind .trans (.get .refl) fun controller => .ite (fun _ => .pure .refl ()) fun _ => ?_
  cases request with
  | none => exact .pure .refl ()
  | some request =>
      refine .ite (fun _ => .pure .refl ()) fun _ => .ite (fun _ => ?_) fun _ => ?_
      · exact buildSession new
      · exact buildSession _

end Tends

def Governing (input : ControllerInput) (setup setup' : EvseSetupConfig) : Prop :=
  (∀ event, input = .sendControlEvent event → event.isSetting = false) →
    ∀ config, setup.Governs config → setup'.Governs (input.event?.toList.foldl .receive config)

theorem governing_of_eventless {input : ControllerInput} (eventless : input.event? = none)
    {setup setup' : EvseSetupConfig} (same : ∀ config, setup.Governs config → setup'.Governs config) :
    Governing input setup setup' := by
  intro _ config governs
  rw [eventless]
  exact same config governs

structure Pushes (input : ControllerInput) (s t : TbdController) : Prop where
  governing : Governing input s.evseSetup t.evseSetup
  count : t.count = s.count
  sessions : ∀ number linked', t.session = some (number, linked') →
    ∃ linked, s.session = some (number, linked) ∧ linked.Expects linked' input.event?.toList

variable (platform : Platform)

theorem callSession_pushes (input : ControllerInput) {event : ControlEvent}
    (pushes : input.event? = some event)
    {s t : TbdController} (governing : Governing input s.evseSetup t.evseSetup) (count : t.count = s.count)
    (session : t.session = s.session) : Pushes input s (callSession platform (.push event) t).state := by
  rw [callSession, session]
  cases current : s.session with
  | none => exact ⟨governing, count, by simp [session, current]⟩
  | some session =>
      refine ⟨governing, count, fun number linked' same => ?_⟩
      obtain ⟨rfl, rfl⟩ := Prod.mk.inj (Option.some.inj same)
      rw [pushes]
      exact ⟨session.2, current, session.2.push_expects platform event⟩

theorem update_pushes (input : ControllerInput) (controller : TbdController) :
    Pushes input controller (update platform input controller).state := by
  have silent {t : TbdController} (eventless : input.event? = none)
      (governs : ∀ config, controller.evseSetup.Governs config → t.evseSetup.Governs config)
      (count : t.count = controller.count) (session : t.session = controller.session) :
      Pushes input controller t := by
    refine ⟨governing_of_eventless eventless governs, count, fun number linked' same =>
      ⟨linked', session ▸ same, ?_⟩⟩
    rw [eventless]
    exact fun idle => ⟨idle, rfl⟩
  cases input with
  | updateAuthorizationServices services certInstallService =>
      simp only [update, setup, Act.bind_apply, Act.modify_apply]
      split <;> exact silent rfl (fun _ governs => { governs with }) rfl rfl
  | updateDcLimits limits =>
      exact callSession_pushes platform _ rfl (fun _ _ governs => { governs with dcLimits := rfl }) rfl rfl
  | updateEnergyModes modes =>
      exact callSession_pushes platform _ rfl
        (fun _ _ governs => { governs with energyServices := rfl }) rfl rfl
  | updateSupportedVasServices vasServices =>
      exact callSession_pushes platform _ rfl (fun _ _ governs => { governs with vasServices := rfl }) rfl rfl
  | updateAcLimits limits =>
      exact callSession_pushes platform _ rfl (fun _ _ governs => { governs with acLimits := rfl }) rfl rfl
  | updatePowersupplyLimits limits => exact silent rfl (fun _ governs => { governs with }) rfl rfl
  | sendControlEvent event =>
      refine callSession_pushes platform _ rfl (fun unset config governs => ?_) rfl rfl
      have other : [event].foldl .receive config = config := config.receive_other (unset event rfl)
      exact other.symm ▸ governs
  | _ => exact silent rfl (fun _ governs => governs) rfl rfl

structure Informs (input : ControllerInput) (s t : TbdController) : Prop where
  governing : Governing input s.evseSetup t.evseSetup
  count : s.count ≤ t.count
  sessions : ∀ number linked', t.session = some (number, linked') →
    (∃ linked, s.session = some (number, linked) ∧ linked.Expects linked' input.event?.toList) ∨
      s.count < number ∧ linked'.Fresh t.evseSetup

theorem Informs.of_tends {input : ControllerInput} (eventless : input.event? = none) {s t : TbdController}
    {log : List ControllerOutput} (tends : Tends s t log) : Informs input s t := by
  refine ⟨governing_of_eventless eventless fun _ => ?_, tends.count, fun number linked' current => ?_⟩
  · rw [tends.setup]
    exact id
  rw [eventless, tends.setup]
  exact tends.sessions number linked' current

theorem Informs.of_pushes {input : ControllerInput} {s t : TbdController} (pushes : Pushes input s t) :
    Informs input s t :=
  ⟨pushes.governing, pushes.count.ge, fun number linked' current =>
    .inl (pushes.sessions number linked' current)⟩

theorem act_informs (input : ControllerInput) (controller : TbdController) :
    Informs input controller (act platform input controller).state := by
  have nothing : Act.Keeps Tends (Pure.pure () : ControllerAct Unit) := .pure .refl ()
  have loops {m : ControllerAct Unit} (eventless : input.event? = none) (tends : Act.Keeps Tends m)
      (acts : act platform input controller =
        if controller.looping then m controller else ⟨.ok (), controller, []⟩) :
      Informs input controller (act platform input controller).state := by
    have tends : Tends controller (act platform input controller).state
        (act platform input controller).log := by
      rw [acts]
      split
      · exact tends controller
      · exact .refl controller
    exact .of_tends eventless tends
  cases input with
  | sdp request established new =>
      have tends : Act.Keeps Tends (act platform (.sdp request established new)) :=
        .bind .trans (.get .refl) fun _ => .ite (fun _ => Tends.handleSdpServerInput request established new)
          fun _ => nothing
      exact .of_tends rfl (tends controller)
  | accept =>
      refine loops rfl (Tends.callSession platform .accept (by simp)) ?_
      by_cases looping : controller.looping = true <;> simp [act, Act.bind_apply, looping]
  | opened =>
      refine loops rfl (Tends.callSession platform .opened (by simp)) ?_
      by_cases looping : controller.looping = true <;> simp [act, Act.bind_apply, looping]
  | data =>
      refine loops rfl (Tends.callSession platform .data (by simp)) ?_
      by_cases looping : controller.looping = true <;> simp [act, Act.bind_apply, looping]
  | wait clock throws =>
      refine loops rfl ?_ (act_wait platform clock throws controller)
      refine .bind .trans (.get .refl) fun _ => .bind .trans (fun _ => .still rfl rfl rfl) fun _ => ?_
      exact .ite (fun _ _ => .still rfl rfl rfl) fun _ => nothing
  | iterate clock env new =>
      exact loops rfl (Tends.iterate platform clock env new) (act_iterate platform clock env new controller)
  | _ => exact .of_pushes (update_pushes platform _ controller)

/-- The session that is there has heard of every update since, unless it is a later one. -/
structure Heard (start : TbdController) (events : List ControlEvent) (controller : TbdController) : Prop where
  count : start.count ≤ controller.count
  sessions : ∀ number linked', controller.session = some (number, linked') →
    (∃ linked, start.session = some (number, linked) ∧ linked.Expects linked' events) ∨ start.count < number

theorem Heard.refl (controller : TbdController) : Heard controller [] controller := by
  refine ⟨le_refl _, fun number linked current => .inl ⟨linked, current, ?_⟩⟩
  exact fun idle => ⟨idle, rfl⟩

theorem Heard.step {start controller next : TbdController} {events : List ControlEvent}
    {input : ControllerInput}
    (heard : Heard start events controller) (informs : Informs input controller next) :
    Heard start (events ++ input.event?.toList) next := by
  refine ⟨heard.count.trans informs.count, fun number linked'' current => ?_⟩
  rcases informs.sessions number linked'' current with ⟨linked', current', expects'⟩ | ⟨later, -⟩
  · rcases heard.sessions number linked' current' with ⟨linked, current, expects⟩ | later
    · exact .inl ⟨linked, current, expects.trans expects'⟩
    · exact .inr later
  · exact .inr (Nat.lt_of_le_of_lt heard.count later)

theorem run_heard (controller : TbdController) (inputs : List ControllerInput) :
    Heard controller (inputs.filterMap (·.event?)) (Machine.final (act platform) controller inputs) := by
  induction inputs using List.reverseRecOn with
  | nil => exact .refl controller
  | append_singleton inputs input hyp =>
      rw [Machine.final_append, List.filterMap_append]
      have step := hyp.step (act_informs platform input (Machine.final (act platform) controller inputs))
      have last : [input].filterMap (·.event?) = input.event?.toList := by
        cases event : input.event? <;> simp [event]
      rw [last]
      exact step

def Governed (controller : TbdController) : Prop :=
  ∀ number linked, controller.session = some (number, linked) →
    linked.session.fsm.ctx.request = none ∧ controller.evseSetup.Governs linked.session.expects

theorem Governed.step {controller next : TbdController} {input : ControllerInput}
    (governed : controller.Governed)
    (updates : ∀ event, input = .sendControlEvent event → event.isSetting = false)
    (informs : Informs input controller next) : next.Governed := by
  intro number linked' current
  rcases informs.sessions number linked' current with ⟨linked, current', expects⟩ | ⟨-, fresh⟩
  · obtain ⟨idle, governs⟩ := governed number linked current'
    obtain ⟨idle', expected⟩ := expects idle
    rw [expected]
    exact ⟨idle', informs.governing updates _ governs⟩
  · exact ⟨fresh.idle, fresh.governed⟩

theorem governed_new (config : TbdConfig) (setup : EvseSetupConfig) (first : NewSession) (clock : TimePoint) :
    (new config setup first clock).Governed := by
  unfold new
  split
  · exact fun _ _ current => absurd current (by simp)
  · intro number linked current
    obtain ⟨rfl, rfl⟩ := Prod.mk.inj (Option.some.inj current)
    exact ⟨rfl, (LinkedSession.fresh_new ..).governed⟩

theorem run_governed {controller : TbdController} (governed : controller.Governed)
    (inputs : List ControllerInput)
    (updates : ∀ event, .sendControlEvent event ∈ inputs → event.isSetting = false) :
    (Machine.final (act platform) controller inputs).Governed := by
  induction inputs using List.reverseRecOn with
  | nil => exact governed
  | append_singleton inputs input hyp =>
      rw [Machine.final_append]
      refine (hyp fun event member => updates event (by simp [member])).step (fun event same => ?_)
        (act_informs platform input _)
      exact updates event (by simp [same])

theorem iterate_drains (clock : TimePoint) (env : PollEnv) (new : NewSession) {controller : TbdController}
    (sound : controller.Sound) {number : Nat} {linked' : LinkedSession}
    (later : (iterate platform clock env new controller).state.session = some (number, linked'))
    (looping : (iterate platform clock env new controller).state.looping = true)
    (connected : linked'.session.connected = true) : linked'.session.controlEventQueue = [] := by
  cases current : controller.session with
  | none => simp [iterate, Act.bind_apply, Act.tryCatch, pollSession, resetFinished, current] at later
  | some session =>
      obtain ⟨other, linked⟩ := session
      have idle := (sound.linked other linked current).idle
      have bounded := sound.numbered other linked current
      have fresh := (PolledController.iterate_fresh platform clock env new current).1 number linked' later
      have round := iterate_round platform clock env new current
      -- A new session is not connected.
      have replaced {next : TbdController} (replaced : controller.Replaced next)
          (later : next.session = some (number, linked')) : linked'.session.controlEventQueue = [] := by
        have after := replaced.later number (.inr ⟨linked', later⟩)
        rcases fresh with same | disconnected
        · omega
        · simp [disconnected] at connected
      have heeds := IsoSession.poll_heeds platform env linked.session idle
      generalize (iterate platform clock env new controller).state = next at *
      generalize (iterate platform clock env new controller).log = log at round
      cases round with
      | goesOn returned unfinished session count =>
          obtain ⟨rfl, rfl⟩ := Prod.mk.inj (Option.some.inj (later.symm.trans session))
          cases before : linked.session.connected with
          | false =>
              rw [(LinkedSession.poll_disconnected platform env before).2] at connected
              simp [before] at connected
          | true => exact heeds.2 before returned
      | finished returned finished next => exact replaced next later
      | caught threw next => exact replaced next later
      | aborted threw other session count stopped => simp [stopped] at looping

theorem run_sound (config : TbdConfig) (setup : EvseSetupConfig) (first : NewSession) (clock : TimePoint)
    (inputs : List ControllerInput) :
    (Machine.final (act platform) (new config setup first clock) inputs).Sound :=
  (Machine.run_induction (act platform) _ (calm_new config setup first clock)
    (fun _ _ input calm => calm_step platform calm input) inputs).sound

end TbdController

namespace Sample

def offeringAc : List ControllerInput := [.accept, .updateEnergyModes [.ac], .opened, .iterate 0 {} {}]

end Sample

end LibIso15118
