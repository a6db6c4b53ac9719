import LibIso15118.Fsm.Offers
import LibIso15118.Service.Advertised
import LibIso15118.Service.VasParameters

set_option autoImplicit false

namespace LibIso15118

open Datatypes Shared

theorem Env.given_of_vas {env : Env} {service : UInt16} (vas : service ∉ energyServiceIds) :
    env.given service = env.vasParameters service := by
  simp [Env.given, vas]

theorem Env.readable_iff {env : Env} {service : UInt16} {parameters : ServiceParameterList}
    (given : env.given service = some parameters) :
    env.readable service = true ↔ (service = ServiceCategory.parkingStatus.value →
      ∀ set ∈ parameters, ∀ parameter ∈ set.parameter, ∃ value, parameter.value = .int32 value) := by
  rw [← fillParkingParameterList_readable]
  by_cases parking : service = ServiceCategory.parkingStatus.value
  · simp [Env.readable, given, ← parking]
  · simp [Env.readable, parking]

namespace Fsm

theorem listedSets_iff (fsm : Fsm) {env : Env} {service : UInt16} {parameters : ServiceParameterList}
    (given : env.given service = some parameters) (distinct : (parameters.map (·.id)).Nodup) :
    env.readable service = true ∧ fsm.listedSets env service = parameters ↔ Reproduced service parameters := by
  by_cases internet : service = ServiceCategory.internet.value
  · subst internet
    have asked : (fsm.ctx.sessionConfig.asked env ServiceCategory.internet.value).internetParameterList =
        fillInternetParameterList parameters := by
      simp [SessionConfig.asked, given]
    have other : ServiceCategory.internet.value ≠ ServiceCategory.parkingStatus.value := by decide
    simp only [Reproduced, Env.readable, listedSets, Env.custom, true_or, if_true, Option.getD_none,
      offerService_internet, asked, internet_reproduced_iff distinct]
    simp [other]
  by_cases parking : service = ServiceCategory.parkingStatus.value
  · subst parking
    have asked : (fsm.ctx.sessionConfig.asked env ServiceCategory.parkingStatus.value).parkingParameterList =
        (fillParkingParameterList parameters).2 := by
      simp [SessionConfig.asked, given, internet]
    have read : env.readable ServiceCategory.parkingStatus.value = (fillParkingParameterList parameters).1 := by
      simp [Env.readable, given]
    have kept := offerParking_reproduced_iff parameters 0 fsm.ctx.session.offeredServices.parkingParameterList
    simp only [Reproduced, read, listedSets, Env.custom, or_true, if_true, Option.getD_none, offerService_parking,
      asked]
    simpa [internet, ParkingReproduced] using kept
  · simp [Reproduced, Env.readable, listedSets, Env.custom, internet, parking, given]

/-- A `ServiceDetailReq` is answered with the list of the application and nothing is thrown. -/
structure ListsAs (platform : Platform) (fsm : Fsm) (env : Env) (req : ServiceDetailRequest)
    (parameters : ServiceParameterList) : Prop where
  returns : (step platform (.message env (.request (.serviceDetail req))) fsm).result = .ok ()
  lists : validateHeader fsm.ctx.session req.header.sessionId = true →
    ∃ res, responses (step platform (.message env (.request (.serviceDetail req))) fsm).log = [.serviceDetail res] ∧
      res.responseCode = .ok ∧ res.service = req.service ∧ res.serviceParameterList = parameters

/-- In a request for this session the list has to come out as it went in and to fit into the strings of the
encoder. One for another session is refused, after the list has been read. -/
def Listable (platform : Platform) (fsm : Fsm) (req : ServiceDetailRequest) (parameters : ServiceParameterList) :
    Prop :=
  if validateHeader fsm.ctx.session req.header.sessionId then
    Reproduced req.service parameters ∧
      ∀ set ∈ parameters, ∀ parameter ∈ set.parameter, platform.parameterFits parameter = true
  else
    req.service = ServiceCategory.parkingStatus.value →
      ∀ set ∈ parameters, ∀ parameter ∈ set.parameter, ∃ value, parameter.value = .int32 value

theorem listsAs_iff (platform : Platform) {fsm : Fsm} (idle : fsm.ctx.request = none) (asks : fsm.details)
    {env : Env} {req : ServiceDetailRequest} {parameters : ServiceParameterList}
    (offered : req.service ∈ fsm.ctx.session.offeredServices.vasServices) (vas : req.service ∉ energyServiceIds)
    (given : env.vasParameters req.service = some parameters) (distinct : (parameters.map (·.id)).Nodup) :
    ListsAs platform fsm env req parameters ↔ Listable platform fsm req parameters := by
  have given : env.given req.service = some parameters := (Env.given_of_vas vas).trans given
  have effect := detail_effect platform idle asks env req
  have result := effect.result
  have answer := effect.answer
  by_cases own : validateHeader fsm.ctx.session req.header.sessionId = true
  · have lists : fsm.Lists req := ⟨own, by simp [offered]⟩
    have der : req.service ≠ ServiceCategory.acDer.value := by
      rintro same
      simp [same, energyServiceIds] at vas
    simp only [detailAnswer_lists lists, Platform.stringsFit] at result answer
    have listed := listedSets_iff fsm given distinct
    rw [Listable, if_pos own, ← listed]
    simp only [der, false_and, if_false] at result answer
    constructor
    · rintro ⟨returns, lists⟩
      rw [returns] at result
      by_cases readable : env.readable req.service = true
      · by_cases fits : ((fsm.listedSets env req.service).all fun set =>
            set.parameter.all platform.parameterFits) = true
        · obtain ⟨res, sent, -, -, same⟩ := lists own
          rw [answer, readable, fits] at sent
          obtain rfl : res = _ := by simpa using sent.symm
          exact ⟨⟨readable, same⟩, by simpa [← same] using fits⟩
        · simp [readable, fits] at result
      · simp [readable] at result
    · rintro ⟨⟨readable, same⟩, fits⟩
      have fits : (parameters.all fun set => set.parameter.all platform.parameterFits) = true := by simpa using fits
      rw [same, readable, fits] at answer result
      exact ⟨result, fun _ => ⟨_, answer, rfl, rfl, rfl⟩⟩
  · have refused : ¬fsm.Lists req := fun lists => own lists.1
    have fits : platform.stringsFit (.serviceDetail (fsm.detailAnswer env req).1) = true := by
      simp [Platform.stringsFit, (detailAnswer_refused refused).2.2]
    rw [Listable, if_neg own, ← Env.readable_iff given]
    constructor
    · rintro ⟨returns, -⟩
      rw [returns] at result
      by_contra unreadable
      simp [unreadable] at result
    · intro readable
      refine ⟨?_, fun same => absurd same own⟩
      rw [result, if_pos readable, if_pos fits]

end Fsm

def Defined (past : List FsmStep) (service id : UInt16) : Prop :=
  ∃ record ∈ past, ∃ env req parameters, record.input = .message env (.request (.serviceDetail req)) ∧
    req.service = service ∧ .feedback (.getVasParameters service) ∈ record.outputs ∧
    env.vasParameters service = some parameters ∧ id ∈ parameters.map (·.id)

def Reproduces (record : FsmStep) : Prop :=
  ∀ env req parameters, record.input = .message env (.request (.serviceDetail req)) →
    .feedback (.getVasParameters req.service) ∈ record.outputs → env.vasParameters req.service = some parameters →
    (parameters.map (·.id)).Nodup ∧ Reproduced req.service parameters

theorem Defined.later {past : List FsmStep} {service id : UInt16} (defined : Defined past service id)
    (record : FsmStep) : Defined (past ++ [record]) service id := by
  obtain ⟨earlier, member, rest⟩ := defined
  exact ⟨earlier, List.mem_append_left _ member, rest⟩

theorem Defined.small {past : List FsmStep} {service id : UInt16} (defined : Defined past service id)
    (reproduces : ∀ record ∈ past, Reproduces record) (standard : service ∈ standardServices) : id < 256 := by
  -- The sets of the standard services are numbered by one byte.
  obtain ⟨record, member, env, req, parameters, input, rfl, told, given, listed⟩ := defined
  obtain ⟨-, reproduced⟩ := reproduces record member env req parameters input told given
  obtain ⟨set, offered, rfl⟩ := List.mem_map.mp listed
  simp only [standardServices, List.mem_cons, List.not_mem_nil, or_false] at standard
  rcases standard with internet | parking
  · rcases reproduced.1 internet set offered with ported | ⟨rfl, -⟩
    · simp only [internetSets, List.mem_cons, List.not_mem_nil, or_false] at ported
      rcases ported with rfl | rfl | rfl | rfl <;> decide
    · decide
  · obtain ⟨index, found⟩ := List.getElem?_of_mem offered
    obtain ⟨list, rfl⟩ := reproduced.2 parking index set found
    exact ((Table.toUInt16_eq_iff _ _).mp rfl).1

theorem Env.given_eq_some {env : Env} {service : UInt16} {parameters : ServiceParameterList} :
    env.given service = some parameters ↔
      energyServiceIds.contains service = false ∧ env.vasParameters service = some parameters := by
  by_cases energy : service ∈ energyServiceIds <;> simp [Env.given, energy]

theorem offerService_asked (config : SessionConfig) (env : Env) {asked service : UInt16} (offered : OfferedServices)
    (standard : service ∈ standardServices) (other : env.given asked = none ∨ asked ≠ service) :
    (offerService (config.asked env asked) service offered).1 = (offerService config service offered).1 := by
  rcases other with silent | other
  · simp [SessionConfig.asked, silent]
  simp only [standardServices, List.mem_cons, List.not_mem_nil, or_false] at standard
  unfold SessionConfig.asked
  split
  · rfl
  · rcases standard with rfl | rfl
    · rw [if_neg other]
      split <;> rfl
    · split <;> rfl

theorem offerService_standard (config : SessionConfig) {service : UInt16} (offered offered' : OfferedServices)
    (standard : service ∈ standardServices) :
    (offerService config service offered).1 = (offerService config service offered').1 := by
  -- The sets do not depend on what has been offered before.
  simp only [standardServices, List.mem_cons, List.not_mem_nil, or_false] at standard
  rcases standard with rfl | rfl
  · simp only [offerService_internet, offerInternetSets_eq]
  · simp only [offerService_parking, offerParameterSets_eq]

theorem Env.given_of_custom {env : Env} {service : UInt16} {parameters : ServiceParameterList}
    (handed : env.custom service = some parameters) : env.given service = some parameters := by
  unfold Env.custom at handed
  split at handed
  · cases handed
  · exact handed

namespace Fsm

theorem DetailEffect.offered {platform : Platform} {fsm fsm' : Fsm} {env : Env} {req : ServiceDetailRequest}
    {result : Except Exn Unit} {log : List Output} (effect : DetailEffect platform fsm env req result fsm' log) :
    fsm'.ctx.session.offeredServices = fsm.ctx.session.offeredServices ∨
      fsm'.ctx.session.offeredServices = fsm.recorded env req.service := by
  rw [effect.session]
  split
  · by_cases lists : fsm.Lists req
    · rw [detailAnswer_lists lists]
      exact .inr rfl
    · rw [(detailAnswer_refused lists).1]
      exact .inl rfl
  · exact .inl rfl

/-- Whatever can be listed or selected has been defined. -/
structure VasInvariant (past : List FsmStep) (fsm : Fsm) : Prop where
  configured : ∀ service ∈ standardServices, ∀ offered,
    ∀ set ∈ (offerService fsm.ctx.sessionConfig service offered).1, Defined past service set.id
  known : ∀ service ∈ standardServices, ∀ key, fsm.ctx.session.offeredServices.contains service key = true →
    Defined past service key.toUInt16
  custom : ∀ service ids, fsm.ctx.session.offeredServices.customVasList service = some ids →
    ∀ id ∈ ids, Defined past service id

section Step

variable {past : List FsmStep} {fsm fsm' : Fsm} {record : FsmStep}

theorem VasInvariant.kept (inv : VasInvariant past fsm)
    (lists : fsm'.ctx.sessionConfig.lists = fsm.ctx.sessionConfig.lists)
    (known : ∀ service key, fsm'.ctx.session.offeredServices.contains service key = true →
      fsm.ctx.session.offeredServices.contains service key = true)
    (custom : ∀ service ids, fsm'.ctx.session.offeredServices.customVasList service = some ids →
      fsm.ctx.session.offeredServices.customVasList service = some ids) :
    VasInvariant (past ++ [record]) fsm' where
  configured service standard offered set member := by
    rw [offerService_congr lists] at member
    exact (inv.configured service standard offered set member).later record
  known service standard key contains := (inv.known service standard key (known service key contains)).later record
  custom service ids offered id member := (inv.custom service ids (custom service ids offered) id member).later record

theorem empty_contains (energy : List ServiceCategory) (vas : List UInt16) (service : UInt16) (key : UInt8) :
    OfferedServices.contains { energyServices := energy, vasServices := vas } service key = false := by
  simp only [OfferedServices.contains]
  repeat' split
  all_goals rfl

variable (platform : Platform)

theorem VasInvariant.detailed (inv : VasInvariant past fsm) {env : Env} {req : ServiceDetailRequest}
    {result : Except Exn Unit} (input : record.input = .message env (.request (.serviceDetail req)))
    (effect : DetailEffect platform fsm env req result fsm' record.outputs) (reproduces : Reproduces record) :
    VasInvariant (past ++ [record]) fsm' := by
  -- what the application gives now
  have defined (parameters : ServiceParameterList) (given : env.given req.service = some parameters) :
      ∀ id ∈ parameters.map (·.id), Defined (past ++ [record]) req.service id := by
    intro id member
    obtain ⟨vas, given⟩ := Env.given_eq_some.mp given
    exact ⟨record, by simp, env, req, parameters, input, rfl, effect.told vas, given, member⟩
  have configured : ∀ service ∈ standardServices, ∀ offered,
      ∀ set ∈ (offerService (fsm.ctx.sessionConfig.asked env req.service) service offered).1,
        Defined (past ++ [record]) service set.id := by
    intro service standard offered set member
    by_cases other : env.given req.service = none ∨ req.service ≠ service
    · rw [offerService_asked _ _ _ standard other] at member
      exact (inv.configured service standard offered set member).later record
    · obtain ⟨told, rfl⟩ := not_or.mp other |>.imp_right not_not.mp
      obtain ⟨parameters, given⟩ := Option.ne_none_iff_exists'.mp told
      obtain ⟨vas, told⟩ := Env.given_eq_some.mp given
      obtain ⟨distinct, reproduced⟩ := reproduces env req parameters input (effect.told vas) told
      have listed := ((listedSets_iff fsm given distinct).mpr reproduced).2
      have handed : env.custom req.service = none := by
        simp only [standardServices, List.mem_cons, List.not_mem_nil, or_false] at standard
        simp [Env.custom, standard]
      rw [listedSets, handed, Option.getD_none, offerService_standard _ _ offered standard] at listed
      rw [listed] at member
      exact defined parameters given set.id (List.mem_map_of_mem member)
  constructor
  · rw [effect.config]
    exact configured
  · intro service standard key contains
    rcases effect.offered with same | recorded
    · rw [same] at contains
      exact (inv.known service standard key contains).later record
    · rw [recorded, recorded_contains] at contains
      rcases contains with ⟨rfl, handed, member⟩ | before
      · rw [listedSets, handed, Option.getD_none] at member
        obtain ⟨set, listed, same⟩ := List.mem_map.mp member
        rw [← same]
        exact configured _ standard _ set listed
      · exact (inv.known service standard key before).later record
  · intro service ids offered id member
    rcases effect.offered with same | recorded
    · rw [same] at offered
      exact (inv.custom service ids offered id member).later record
    · rw [recorded, recorded_customVasList] at offered
      split at offered
      · rename_i given
        obtain ⟨rfl, some⟩ := given
        obtain ⟨parameters, handed⟩ := Option.isSome_iff_exists.mp some
        obtain rfl := Option.some.inj offered
        rw [listedSets, handed, Option.getD_some] at member
        exact defined parameters (Env.given_of_custom handed) id member
      · exact (inv.custom service ids offered id member).later record

theorem vasInvariant_step {fsm : Fsm} (idle : fsm.ctx.request = none) (early : fsm.Early) (input : Input)
    (inv : VasInvariant past fsm) (reproduces : Reproduces (Machine.stepOf (step platform) fsm input)) :
    VasInvariant (past ++ [Machine.stepOf (step platform) fsm input]) (step platform input fsm).state := by
  cases step_offers platform idle early input with
  | detailed env req message asks effect => exact inv.detailed platform message effect reproduces
  | discovered env req message state effect =>
      have offered : (step platform input fsm).state.ctx.session.offeredServices =
            fsm.ctx.session.offeredServices ∨
          ∃ energy vas, (step platform input fsm).state.ctx.session.offeredServices =
            { energyServices := energy, vasServices := vas } := by
        rw [effect.session]
        simp only [discoveryAnswer, handleServiceDiscovery]
        split
        · exact .inl rfl
        · exact .inr ⟨_, _, rfl⟩
      rcases offered with same | ⟨energy, vas, same⟩
      · exact inv.kept effect.lists (by simp [same]) (by simp [same])
      · exact inv.kept effect.lists (by simp [same, empty_contains]) (by simp [same, Table.empty])
  | renewed state lists offered quiet =>
      refine inv.kept lists ?_ (by simp [offered, Table.empty])
      intro service key contains
      rw [offered] at contains
      have none := empty_contains [] [] service key
      exact absurd contains (by simp [none])
  | kept lists offered quiet =>
      obtain ⟨authServices, offered⟩ := offered
      exact inv.kept lists (by simp [offered, OfferedServices.contains]) (by simp [offered])

end Step

theorem new_vasInvariant (setup : EvseSetupConfig) (pauseCtx : Option PauseContext) (id : SessionId) :
    VasInvariant [] (.new (.ofSetup setup) pauseCtx id) where
  configured service standard offered set member := by
    simp only [standardServices, List.mem_cons, List.not_mem_nil, or_false] at standard
    rcases standard with rfl | rfl <;> simp [offerService_internet, offerService_parking, offerInternetSets,
      offerParameterSets, new, SessionConfig.ofSetup] at member
  known service standard key contains := by
    have none : OfferedServices.contains {} service key = false := empty_contains [] [] service key
    exact absurd contains (ne_true_of_eq_false none)
  custom service ids offered := by cases offered

theorem vasInvariant_reached (platform : Platform) (setup : EvseSetupConfig) (pauseCtx : Option PauseContext)
    (id : SessionId) (inputs : List Input)
    (reproduces : ∀ record ∈ run platform (.ofSetup setup) pauseCtx id inputs, Reproduces record)
    (early : (reached platform (.ofSetup setup) pauseCtx id inputs).Early) :
    VasInvariant (run platform (.ofSetup setup) pauseCtx id inputs)
      (reached platform (.ofSetup setup) pauseCtx id inputs) := by
  refine (Machine.run_invariant (step platform) (.new (.ofSetup setup) pauseCtx id)
    (fun past fsm => fsm.ctx.request = none ∧ (fsm.Early → VasInvariant past fsm))
    (fun past => ∀ record ∈ past, Reproduces record) ?_ ?_ ?_ inputs reproduces).2 early
  · exact fun past record all earlier member => all earlier (List.mem_append_left _ member)
  · exact ⟨rfl, fun _ => new_vasInvariant setup pauseCtx id⟩
  · rintro past fsm input all ⟨idle, inv⟩
    have frame := step_frame platform fsm input idle
    refine ⟨frame.idle, fun early => ?_⟩
    have before : fsm.Early := frame.rank_le.trans early
    exact vasInvariant_step platform idle before input (inv before) (all _ (by simp))

theorem handleServiceSelection_ok {env : Env} {req : ServiceSelectionRequest} {session : Session}
    (unfailed : (handleServiceSelection env req session).1.responseCode.isFailed = false) :
    (handleServiceSelection env req session).1.responseCode = .ok := by
  revert unfailed
  simp only [handleServiceSelection]
  repeat' split
  all_goals first | exact fun _ => rfl | exact fun failed => by cases failed

theorem handleServiceSelection_knows {env : Env} {req : ServiceSelectionRequest} {session : Session}
    (ok : (handleServiceSelection env req session).1.responseCode = .ok) :
    ∀ vas ∈ req.selectedVasList.getD [], session.findVasParameterSetId vas.serviceId vas.parameterSetId = true := by
  by_cases selectable : Selectable req session
  · rw [handleServiceSelection_selectable env req session selectable] at ok
    simp only [selectVasList_fst, Session.selectServiceParameters_knows] at ok
    split at ok
    · rename_i all
      simpa [Session.knows] using all
    · cases ok
  · exact absurd ok (handleServiceSelection_refused env req session selectable).1

theorem selection_reports (platform : Platform) {fsm : Fsm} (idle : fsm.ctx.request = none) (env : Env)
    (req : ServiceSelectionRequest) :
    Act.wp (step platform (.message env (.request (.serviceSelection req)))) (fun _ _ log =>
      ∀ services, .feedback (.selectedVasServices services) ∈ log → fsm.state.id = .serviceSelection ∧
        (handleServiceSelection env req fsm.ctx.session).1.responseCode = .ok ∧
        req.selectedVasList = some services) fsm := by
  -- A selection is reported by `ServiceSelection` alone, after it has answered OK.
  rw [wp_step_message platform env _ fsm idle]
  have pending := messageContext_request fsm.ctx (.request (.serviceSelection req))
  by_cases selecting : fsm.state.id = .serviceSelection
  · have state : fsm.state = .serviceSelection := by cases state : fsm.state <;> simp_all [State.id]
    simp only [state, State.feed, State.ServiceSelection.feed, Act.wp_bind, Act.wp_ite, Feed.wp_pullRequest _ pending]
    simp
    intro _ unfailed
    have ok := handleServiceSelection_ok unfailed
    exact ⟨fun _ services same => ⟨rfl, ok, same⟩,
      fun _ => ⟨fun _ services same => ⟨rfl, ok, same⟩, fun _ services same => ⟨rfl, ok, same⟩⟩⟩
  · apply State.wp_unexpected platform env pending
    · intro other same
      cases same
      cases state : fsm.state <;> simp_all [State.id, StateId.accepts]
    · intro response log failed services member
      obtain ⟨_, ⟨⟩, -⟩ := failed _ (by simpa using member)

end Fsm

namespace Sample

def vasSetup : EvseSetupConfig := { setupOf [] with supportedVasServices := [ServiceCategory.internet.value] }

def discover (id : SessionId) : List Input := (selectService id .dc).take 6

def ownSet : ParameterSet := ⟨7, [⟨"Protocol", .name "https"⟩, ⟨"Port", .int32 8443⟩]⟩

def internetDetail (id : SessionId) : ServiceDetailRequest :=
  ⟨{ sessionId := id }, ServiceCategory.internet.value⟩

def webSets : ServiceParameterList := [.ofInternet 3 ⟨.http, .port80⟩, .ofInternet 4 ⟨.https, .port443⟩]

def webEnv : Env := { vasParameters := fun _ => some webSets }

def detailWeb (id : SessionId) : List Input :=
  discover id ++ [receive id (.serviceDetail ⟨{ sessionId := id }, ServiceCategory.dc.value⟩),
    .message webEnv (.request (.serviceDetail (internetDetail id)))]

def selectWeb (id : SessionId) : ServiceSelectionRequest :=
  ⟨{ sessionId := id }, ⟨.dc, 0⟩, some [⟨ServiceCategory.internet.value, 4⟩]⟩

theorem webSets_reproduced : Reproduced ServiceCategory.internet.value webSets :=
  ⟨fun _ => by simp [InternetReproduced, webSets, internetSets], fun parking => absurd parking (by decide)⟩

end Sample

def vasSelection : Output → Option VasSelectedServiceList
  | .feedback (.selectedVasServices services) => some services
  | _ => none

theorem vasSelection_eq_some {output : Output} {services : VasSelectedServiceList}
    (reported : vasSelection output = some services) : output = .feedback (.selectedVasServices services) := by
  unfold vasSelection at reported
  split at reported
  · rw [Option.some.inj reported]
  · cases reported

end LibIso15118
