import LibIso15118.Fsm.VasIdentity

set_option autoImplicit false

namespace LibIso15118

open Datatypes Shared

def newest {α : Type} (past : List FsmStep) (found : FsmStep → Option α) : Option α :=
  past.reverse.findSome? found

theorem newest_concat {α : Type} (past : List FsmStep) (record : FsmStep) (found : FsmStep → Option α) :
    newest (past ++ [record]) found = (found record).or (newest past found) := by
  cases here : found record <;> simp [newest, here]

instance (fsm : Fsm) : Decidable fsm.details := inferInstanceAs (Decidable (_ ∨ _))

instance (fsm : Fsm) (req : ServiceDetailRequest) : Decidable (fsm.Lists req) := inferInstanceAs (Decidable (_ ∧ _))

/-- The services of a successful `ServiceDiscoveryRes`. -/
def discovered (record : FsmStep) : Option (List ServiceCategory × List UInt16) :=
  (responses record.outputs).findSome? fun
    | .serviceDiscovery res =>
        if res.responseCode = .ok then
          some (res.energyTransferServiceList.map (·.serviceId), (res.vasList.getD []).map (·.serviceId))
        else none
    | _ => none

def setsSent (service : UInt16) (record : FsmStep) : Option (List UInt16) :=
  (responses record.outputs).findSome? fun
    | .serviceDetail res =>
        if res.responseCode = .ok ∧ res.service = service then some (res.serviceParameterList.map (·.id)) else none
    | _ => none

/-- The ids that a `ServiceDetailReq` adds for a service. The answer may be lost when it cannot be encoded. -/
def setsKept (service : UInt16) (record : FsmStep) : Option (List UInt16) :=
  match record.input with
  | .message env (.request (.serviceDetail req)) =>
      if req.service = service ∧ record.before.details ∧ env.readable service ∧ record.before.Lists req then
        some ((record.before.listedSets env service).map (·.id))
      else none
  | _ => none

def setsHanded (service : UInt16) (record : FsmStep) : Option (List UInt16) :=
  match record.input with
  | .message env (.request (.serviceDetail _)) =>
      if (env.custom service).isSome then setsKept service record else none
  | _ => none

def tabledServices : List UInt16 := selectableServices.map (·.value) ++ standardServices

/-- The table of a service is never cleared, and it looks at the lower byte of an id. -/
def Tabled (past : List FsmStep) (service id : UInt16) : Prop :=
  ∃ record ∈ past, id.toUInt8.toUInt16 ∈ (setsKept service record).getD []

def EnergyRemembered (past : List FsmStep) (selected : SelectedService) : Prop :=
  selected.serviceId ∈ selectableServices ∧ Tabled past selected.serviceId.value selected.parameterSetId

def VasRemembered (past : List FsmStep) (vas : VasSelectedService) : Prop :=
  if vas.serviceId ∈ standardServices then Tabled past vas.serviceId vas.parameterSetId
  else vas.parameterSetId < 32768 ∧ vas.parameterSetId ∈ (newest past (setsHanded vas.serviceId)).getD []

def Listed (past : List FsmStep) (service id : UInt16) : Prop :=
  id ∈ (newest past (setsSent service)).getD []

namespace ServiceSelectionRequest

variable (req : ServiceSelectionRequest) (past : List FsmStep)

def vas : VasSelectedServiceList := req.selectedVasList.getD []

def OfOffered : Prop :=
  ∃ services, newest past discovered = some services ∧ req.selectedEnergyTransferService.serviceId ∈ services.1 ∧
    ∀ vas ∈ req.vas, vas.serviceId ∈ services.2

def OfListed : Prop :=
  Listed past req.selectedEnergyTransferService.serviceId.value req.selectedEnergyTransferService.parameterSetId ∧
    ∀ vas ∈ req.vas, Listed past vas.serviceId vas.parameterSetId

def OfRemembered : Prop :=
  EnergyRemembered past req.selectedEnergyTransferService ∧ ∀ vas ∈ req.vas, VasRemembered past vas

end ServiceSelectionRequest

section Found

variable (record : FsmStep) (service : UInt16)

theorem setsKept_of_other (other : ¬∃ env req, record.input = .message env (.request (.serviceDetail req)) ∧
    record.before.details) : setsKept service record = none := by
  unfold setsKept
  split
  · rename_i env req input
    exact if_neg fun kept => other ⟨env, req, input, kept.2.1⟩
  · rfl

theorem setsHanded_of_kept (unkept : setsKept service record = none) : setsHanded service record = none := by
  unfold setsHanded
  split
  · split
    · exact unkept
    · rfl
  · rfl

theorem discovered_of_quiet (quiet : ∀ out ∈ responses record.outputs, out.code? = some .ok → out.offers = false) :
    discovered record = none := by
  unfold discovered
  rw [List.findSome?_eq_none_iff]
  intro out member
  have quiet := quiet out member
  cases out <;> try rfl
  rename_i res
  have failed : res.responseCode ≠ .ok := by
    intro ok
    simp [Response.code?, ok, Response.offers] at quiet
  simp [failed]

end Found

section AcDer

def Table.Required (table : Table UInt8 AcDerParameterList) : Prop :=
  ∀ key list, table key = some list → hasRequiredAcDerControlFunctions list.controlFunctions = true

theorem Table.Required.insertAll {table : Table UInt8 AcDerParameterList} (required : table.Required)
    {pairs : List (UInt8 × AcDerParameterList)}
    (new : ∀ pair ∈ pairs, hasRequiredAcDerControlFunctions pair.2.controlFunctions = true) :
    (table.insertAll pairs).Required := by
  induction pairs generalizing table with
  | nil => exact required
  | cons pair rest hyp =>
      refine hyp ?_ fun other member => new other (List.mem_cons_of_mem _ member)
      intro key list found
      simp only [Table.insert] at found
      split at found
      · obtain rfl := Option.some.inj found
        exact new pair (List.mem_cons_self ..)
      · exact required key list found

theorem offerService_required (config : SessionConfig) (service : UInt16) {offered : OfferedServices}
    (required : offered.acDerParameterList.Required) :
    (offerService config service offered).2.acDerParameterList.Required := by
  by_cases der : service = ServiceCategory.acDer.value
  · subst der
    rw [offerService_acDer, offerParameterSets_eq]
    refine required.insertAll fun pair member => ?_
    have listed : pair.2 ∈ (numbered (config.acDerParameterList.filter fun list =>
        hasRequiredAcDerControlFunctions list.controlFunctions) 0).map (·.2) := List.mem_map_of_mem member
    rw [numbered_snd] at listed
    exact (List.mem_filter.mp listed).2
  · have same : (offerService config service offered).2.acDerParameterList = offered.acDerParameterList := by
      simp only [offerService, if_neg der]
      repeat' split
      all_goals rfl
    rw [same]
    exact required

end AcDer

section Discovery

variable (env : Env) {req : ServiceDiscoveryRequest} {session : Session} (energy : List ServiceCategory)
  (vas : List UInt16) (ev : List ServiceCategory)

theorem handleServiceDiscovery_foreign (foreign : validateHeader session req.header.sessionId = false) :
    (handleServiceDiscovery env req session energy vas ev).response.responseCode ≠ .ok ∧
      (handleServiceDiscovery env req session energy vas ev).session = session := by
  simp [handleServiceDiscovery, foreign]

theorem energyList_serviceId (services : List ServiceCategory) :
    (services.map fun service => (⟨service, false⟩ : Service)).map (·.serviceId) = services := by
  simp [Function.comp_def]

theorem vasList_serviceId (services : List UInt16) :
    ((if services = [] then none
      else some (services.map fun service => (⟨service, false⟩ : VasService))).getD []).map (·.serviceId) =
      services := by
  cases services <;> simp [Function.comp_def]

theorem handleServiceDiscovery_own (own : validateHeader session req.header.sessionId = true) :
    (handleServiceDiscovery env req session energy vas ev).response.responseCode = .ok ∧
      ∃ energyServices vasServices,
        (handleServiceDiscovery env req session energy vas ev).session.offeredServices =
          { energyServices, vasServices } ∧
        (handleServiceDiscovery env req session energy vas ev).response.energyTransferServiceList.map
          (·.serviceId) = energyServices ∧
        ((handleServiceDiscovery env req session energy vas ev).response.vasList.getD []).map (·.serviceId) =
          vasServices := by
  simp only [handleServiceDiscovery]
  rw [if_neg (by simp [own])]
  exact ⟨rfl, _, _, rfl, energyList_serviceId _, vasList_serviceId _⟩

end Discovery

namespace Fsm

structure AdvertisedInvariant (past : List FsmStep) (fsm : Fsm) : Prop where
  ranks : ∀ record ∈ past, record.before.state.id.rank ≤ fsm.state.id.rank
  services : fsm.details → newest past discovered =
    some (fsm.ctx.session.offeredServices.energyServices, fsm.ctx.session.offeredServices.vasServices)
  tables : ∀ service ∈ tabledServices, ∀ key, fsm.ctx.session.offeredServices.contains service key = true ↔
    ∃ record ∈ past, key.toUInt16 ∈ (setsKept service record).getD []
  custom : ∀ service, fsm.ctx.session.offeredServices.customVasList service = newest past (setsHanded service)
  der : fsm.ctx.session.offeredServices.acDerParameterList.Required

section Step

variable {past : List FsmStep} {fsm fsm' : Fsm} {record : FsmStep}

theorem AdvertisedInvariant.unkept (inv : AdvertisedInvariant past fsm)
    (before : fsm.state.id.rank < StateId.serviceDetail.rank) (service : UInt16) :
    ∀ record ∈ past, setsKept service record = none := by
  -- Before the services have been discovered no parameter set has been kept.
  intro record member
  apply setsKept_of_other
  rintro ⟨env, req, -, detail | selection⟩
  · have rank := inv.ranks record member
    rw [detail] at rank
    omega
  · have rank := inv.ranks record member
    rw [selection] at rank
    have later : StateId.serviceDetail.rank < StateId.serviceSelection.rank := by decide
    omega

theorem DetailEffect.offered_eq {platform : Platform} {env : Env} {req : ServiceDetailRequest}
    {result : Except Exn Unit} {log : List Output} (effect : DetailEffect platform fsm env req result fsm' log) :
    fsm'.ctx.session.offeredServices =
      if env.readable req.service ∧ fsm.Lists req then fsm.recorded env req.service
      else fsm.ctx.session.offeredServices := by
  -- The session keeps the answer to a request that is its own and can be read.
  rw [effect.session]
  by_cases readable : env.readable req.service = true
  · by_cases lists : fsm.Lists req
    · simp [readable, lists, detailAnswer_lists]
    · simp [readable, lists, detailAnswer_refused]
  · simp [readable]

theorem custom_of_tabled {env : Env} {service : UInt16} (tabled : service ∈ tabledServices) :
    env.custom service = none := by
  rcases List.mem_append.mp tabled with energy | standard
  · have energy : service ∈ energyServiceIds := by
      simp only [selectableServices, List.map_cons, List.map_nil, List.mem_cons, List.not_mem_nil, or_false] at energy
      rcases energy with rfl | rfl | rfl | rfl | rfl | rfl | rfl <;> decide
    simp [Env.custom, Env.given, energy]
  · simp only [standardServices, List.mem_cons, List.not_mem_nil, or_false] at standard
    simp [Env.custom, standard]

theorem recorded_required (env : Env) (service : UInt16)
    (required : fsm.ctx.session.offeredServices.acDerParameterList.Required) :
    (fsm.recorded env service).acDerParameterList.Required := by
  unfold recorded
  split
  · exact required
  · exact offerService_required _ _ required

variable (platform : Platform)

theorem AdvertisedInvariant.detailed (inv : AdvertisedInvariant past fsm) {env : Env} {req : ServiceDetailRequest}
    {result : Except Exn Unit} (before : record.before = fsm) (asks : fsm.details)
    (input : record.input = .message env (.request (.serviceDetail req)))
    (effect : DetailEffect platform fsm env req result fsm' record.outputs)
    (rank : fsm.state.id.rank ≤ fsm'.state.id.rank) :
    AdvertisedInvariant (past ++ [record]) fsm' := by
  have offered := effect.offered_eq
  have kept (service : UInt16) : setsKept service record =
      if req.service = service ∧ env.readable service ∧ fsm.Lists req then
        some ((fsm.listedSets env service).map (·.id)) else none := by
    simp [setsKept, input, before, asks]
  have handed (service : UInt16) : setsHanded service record =
      if (env.custom service).isSome then setsKept service record else none := by
    simp [setsHanded, input]
  have quiet : discovered record = none := by
    unfold discovered
    rw [effect.answer]
    split <;> rfl
  constructor
  · intro earlier member
    rcases List.mem_append.mp member with old | new
    · exact (inv.ranks earlier old).trans rank
    · rw [List.mem_singleton.mp new, before]
      exact rank
  · intro _
    rw [newest_concat, quiet, Option.none_or, inv.services asks, offered]
    split
    · rw [(recorded_services fsm env req.service).1, (recorded_services fsm env req.service).2]
    · rfl
  · intro service tabled key
    have old := inv.tables service tabled key
    simp only [List.mem_append, List.mem_singleton, or_and_right, exists_or, exists_eq_left, ← old, kept, offered]
    by_cases recorded : env.readable req.service = true ∧ fsm.Lists req
    · rw [if_pos recorded, recorded_contains]
      by_cases same : service = req.service
      · subst same
        simp [recorded, custom_of_tabled tabled, or_comm]
      · simp [same, Ne.symm same]
    · rw [if_neg recorded]
      by_cases same : req.service = service
      · subst same
        simp [recorded]
      · simp [same]
  · intro service
    rw [newest_concat, ← inv.custom service, handed, kept, offered]
    by_cases recorded : env.readable req.service = true ∧ fsm.Lists req
    · rw [if_pos recorded, recorded_customVasList]
      by_cases same : service = req.service
      · subst same
        by_cases custom : (env.custom req.service).isSome = true <;> simp [recorded, custom]
      · simp [same, Ne.symm same]
    · rw [if_neg recorded]
      by_cases same : req.service = service
      · subst same
        simp [recorded]
      · simp [same]
  · rw [offered]
    split
    · exact recorded_required env _ inv.der
    · exact inv.der

theorem AdvertisedInvariant.kept (inv : AdvertisedInvariant past fsm) (before : record.before = fsm)
    (rank : fsm.state.id.rank ≤ fsm'.state.id.rank) (unkept : ∀ service, setsKept service record = none)
    (offered : fsm'.ctx.OffersAs fsm.ctx)
    (services : fsm'.details → fsm.details ∧ discovered record = none) :
    AdvertisedInvariant (past ++ [record]) fsm' := by
  obtain ⟨authServices, offered⟩ := offered
  constructor
  · intro earlier member
    rcases List.mem_append.mp member with old | new
    · exact (inv.ranks earlier old).trans rank
    · rw [List.mem_singleton.mp new, before]
      exact rank
  · intro later
    obtain ⟨asks, quiet⟩ := services later
    rw [newest_concat, quiet, Option.none_or, inv.services asks, offered]
  · intro service tabled key
    have old := inv.tables service tabled key
    simp only [List.mem_append, List.mem_singleton, or_and_right, exists_or, exists_eq_left, ← old, unkept, offered]
    simp [OfferedServices.contains]
  · intro service
    rw [newest_concat, setsHanded_of_kept _ _ (unkept service), Option.none_or, ← inv.custom service, offered]
  · rw [offered]
    exact inv.der

theorem AdvertisedInvariant.renewed (inv : AdvertisedInvariant past fsm) (before : record.before = fsm)
    (rank : fsm.state.id.rank ≤ fsm'.state.id.rank) (early : fsm.state.id.rank < StateId.serviceDetail.rank)
    (unkept : ∀ service, setsKept service record = none) {energy : List ServiceCategory} {vas : List UInt16}
    (offered : fsm'.ctx.session.offeredServices = { energyServices := energy, vasServices := vas })
    (services : fsm'.details → discovered record = some (energy, vas)) :
    AdvertisedInvariant (past ++ [record]) fsm' := by
  have none (service : UInt16) : ∀ other ∈ past ++ [record], setsKept service other = none := by
    intro other member
    rcases List.mem_append.mp member with old | new
    · exact inv.unkept early service other old
    · rw [List.mem_singleton.mp new]
      exact unkept service
  constructor
  · intro earlier member
    rcases List.mem_append.mp member with old | new
    · exact (inv.ranks earlier old).trans rank
    · rw [List.mem_singleton.mp new, before]
      exact rank
  · intro later
    rw [newest_concat, services later, Option.some_or, offered]
  · intro service tabled key
    rw [offered, empty_contains]
    refine iff_of_false (by simp) ?_
    rintro ⟨other, member, listed⟩
    simp [none service other member] at listed
  · intro service
    have unhanded : newest (past ++ [record]) (setsHanded service) = Option.none := by
      rw [newest, List.findSome?_eq_none_iff]
      intro other member
      exact setsHanded_of_kept _ _ (none service other (List.mem_reverse.mp member))
    rw [unhanded, offered]
    rfl
  · intro key list found
    rw [offered] at found
    cases found

theorem AdvertisedInvariant.discovery (inv : AdvertisedInvariant past fsm) {env : Env}
    {req : ServiceDiscoveryRequest} (before : record.before = fsm) (state : fsm.state.id = .serviceDiscovery)
    (effect : DiscoveryEffect fsm env req fsm' record.outputs)
    (rank : fsm.state.id.rank ≤ fsm'.state.id.rank) (unkept : ∀ service, setsKept service record = none) :
    AdvertisedInvariant (past ++ [record]) fsm' := by
  have early : fsm.state.id.rank < StateId.serviceDetail.rank := by rw [state]; decide
  by_cases own : validateHeader fsm.ctx.session req.header.sessionId = true
  · obtain ⟨ok, energy, vas, offered, energyListed, vasListed⟩ := handleServiceDiscovery_own env
      fsm.ctx.sessionConfig.supportedEnergyTransferServices fsm.ctx.sessionConfig.supportedVasServices
      fsm.ctx.sessionEvInfo.evEnergyServices own
    refine inv.renewed before rank early unkept (by rw [effect.session]; exact offered) fun _ => ?_
    rw [discovered, effect.answer]
    simp [discoveryAnswer, ok, ← energyListed, ← vasListed]
  · obtain ⟨failed, same⟩ := handleServiceDiscovery_foreign env
      fsm.ctx.sessionConfig.supportedEnergyTransferServices fsm.ctx.sessionConfig.supportedVasServices
      fsm.ctx.sessionEvInfo.evEnergyServices (Bool.eq_false_of_not_eq_true own)
    have session : fsm'.ctx.session = fsm.ctx.session := effect.session.trans same
    refine inv.kept before rank unkept (Context.offersAs_of_eq (by rw [session])) fun later => ?_
    have next := effect.next
    rw [discoveryAnswer, if_neg failed] at next
    simp [details, next] at later

theorem StepFrame.details_before {input : Input} (frame : StepFrame fsm input fsm') (later : fsm'.details) :
    fsm.details ∨ fsm.state.id = .serviceDiscovery := by
  rcases frame.next with same | ⟨next, successor, created⟩
  · exact .inl (by rwa [details, ← same])
  · rw [details, created, State.enter_id, StateId.create_id] at later
    unfold details
    cases state : fsm.state.id <;> rcases later with rfl | rfl <;> simp [state, StateId.successors] at successor ⊢

theorem advertisedInvariant_step (idle : fsm.ctx.request = none) (early : fsm.Early) (input : Input)
    (inv : AdvertisedInvariant past fsm) :
    AdvertisedInvariant (past ++ [Machine.stepOf (step platform) fsm input]) (step platform input fsm).state := by
  have frame := step_frame platform fsm input idle
  by_cases detail : ∃ env req, input = .message env (.request (.serviceDetail req)) ∧ fsm.details
  · obtain ⟨env, req, rfl, asks⟩ := detail
    exact inv.detailed platform rfl asks rfl (detail_effect platform idle asks env req) frame.rank_le
  have unkept (service : UInt16) : setsKept service (Machine.stepOf (step platform) fsm input) = none :=
    setsKept_of_other _ _ detail
  by_cases discovery : ∃ env req, input = .message env (.request (.serviceDiscovery req)) ∧
      fsm.state.id = .serviceDiscovery
  · obtain ⟨env, req, rfl, state⟩ := discovery
    exact inv.discovery rfl state (discovery_effect platform idle state env req) frame.rank_le unkept
  cases step_offers platform idle early input with
  | detailed env req message asks effect => exact absurd ⟨env, req, message, asks⟩ detail
  | discovered env req message state effect => exact absurd ⟨env, req, message, state⟩ discovery
  | renewed state lists offered quiet =>
      refine inv.renewed rfl frame.rank_le (by rw [state]; decide) unkept offered fun later => ?_
      rcases frame.details_before later with asks | before
      · simp [details, state] at asks
      · simp [state] at before
  | kept lists offered quiet =>
      refine inv.kept rfl frame.rank_le unkept offered fun later => ⟨?_, discovered_of_quiet _ quiet⟩
      rcases frame.details_before later with asks | before
      · exact asks
      · have stays := discovery_stays platform idle before input fun env req message =>
          discovery ⟨env, req, message, before⟩
        simp [details, stays] at later

end Step

theorem advertisedInvariant_reached (platform : Platform) (config : SessionConfig) (pauseCtx : Option PauseContext)
    (id : SessionId) (inputs : List Input) (early : (reached platform config pauseCtx id inputs).Early) :
    AdvertisedInvariant (run platform config pauseCtx id inputs) (reached platform config pauseCtx id inputs) := by
  refine (Machine.run_induction (step platform) (.new config pauseCtx id)
    (motive := fun past fsm => fsm.ctx.request = none ∧ (fsm.Early → AdvertisedInvariant past fsm)) ⟨rfl, fun _ => ?_⟩
    ?_ inputs).2 early
  · exact
      { ranks := by simp
        services := fun asks => by rcases asks with ⟨⟨⟩⟩ | ⟨⟨⟩⟩
        tables := fun service _ key => by
          have none : OfferedServices.contains {} service key = false := empty_contains [] [] service key
          exact iff_of_false (ne_true_of_eq_false none) (by simp)
        custom := fun _ => rfl
        der := fun key list found => by cases found }
  · rintro past fsm input ⟨idle, inv⟩
    have frame := step_frame platform fsm input idle
    refine ⟨frame.idle, fun early => ?_⟩
    have before : fsm.Early := frame.rank_le.trans early
    exact advertisedInvariant_step platform idle before input (inv before)

end Fsm

section Selection

theorem vasServicesFound_eq (offered : List UInt16) (list : VasSelectedServiceList) (found : Bool) :
    vasServicesFound offered list found =
      if list = [] then found else list.all fun vas => offered.contains vas.serviceId := by
  induction list generalizing found with
  | nil => rfl
  | cons vas rest hyp =>
      rw [vasServicesFound, hyp]
      by_cases offers : vas.serviceId ∈ offered <;> cases rest <;> simp [offers]

theorem findEnergyParameterSetId_iff (session : Session) (service : ServiceCategory) (id : UInt16) :
    session.findEnergyParameterSetId service id = true ↔
      service ∈ selectableServices ∧ session.offeredServices.contains service.value id.toUInt8 = true := by
  by_cases selectable : service ∈ selectableServices
  · simp only [selectable, true_and]
    simp only [selectableServices, List.mem_cons, List.not_mem_nil, or_false] at selectable
    rcases selectable with rfl | rfl | rfl | rfl | rfl | rfl | rfl <;> exact Iff.rfl
  · refine iff_of_false ?_ fun found => selectable found.1
    simp only [selectableServices, List.mem_cons, List.not_mem_nil, or_false, not_or] at selectable
    obtain ⟨ac, acBpt, acDer, dc, dcBpt, mcs, mcsBpt⟩ := selectable
    simp [Session.findEnergyParameterSetId, ac, acBpt, acDer, dc, dcBpt, mcs, mcsBpt]

variable (env : Env) (req : ServiceSelectionRequest) (session : Session)

theorem handleServiceSelection_codes (own : validateHeader session req.header.sessionId = true) :
    (handleServiceSelection env req session).1.responseCode = .ok ∨
      (handleServiceSelection env req session).1.responseCode = .failedNoEnergyTransferServiceSelected ∨
      (handleServiceSelection env req session).1.responseCode = .failedServiceSelectionInvalid := by
  simp only [handleServiceSelection]
  rw [if_neg (by simp [own])]
  repeat' split
  all_goals simp

theorem handleServiceSelection_ok_iff (own : validateHeader session req.header.sessionId = true)
    (filled : req.selectedVasList ≠ some []) (der : session.offeredServices.acDerParameterList.Required) :
    (handleServiceSelection env req session).1.responseCode = .ok ↔
      (req.selectedEnergyTransferService.serviceId ∈ session.offeredServices.energyServices ∧
        ∀ vas ∈ req.vas, vas.serviceId ∈ session.offeredServices.vasServices) ∧
      session.findEnergyParameterSetId req.selectedEnergyTransferService.serviceId
          req.selectedEnergyTransferService.parameterSetId = true ∧
        ∀ vas ∈ req.vas, session.findVasParameterSetId vas.serviceId vas.parameterSetId = true := by
  have offered : req.selectedVasList.any (vasServicesFound session.offeredServices.vasServices · false = false) =
      false ↔ ∀ vas ∈ req.vas, vas.serviceId ∈ session.offeredServices.vasServices := by
    unfold ServiceSelectionRequest.vas
    rcases Option.eq_none_or_eq_some req.selectedVasList with none | ⟨list, some⟩
    · simp [none]
    · have nonempty : list ≠ [] := by
        rintro rfl
        exact filled some
      simp [some, vasServicesFound_eq, nonempty]
  have fit (found : session.findEnergyParameterSetId req.selectedEnergyTransferService.serviceId
      req.selectedEnergyTransferService.parameterSetId = true) :
      req.selectedEnergyTransferService.serviceId = .acDer →
        (session.offeredServices.acDerParameterList req.selectedEnergyTransferService.parameterSetId.toUInt8).any
          (fun list => hasRequiredAcDerControlFunctions list.controlFunctions) = true := by
    intro same
    rw [findEnergyParameterSetId_iff, same] at found
    obtain ⟨list, present⟩ := Option.isSome_iff_exists.mp (show (session.offeredServices.acDerParameterList
      req.selectedEnergyTransferService.parameterSetId.toUInt8).isSome = true from found.2)
    rw [present]
    exact der _ _ present
  by_cases selectable : Selectable req session
  · rw [handleServiceSelection_selectable env req session selectable]
    obtain ⟨-, energy, vas, found, -⟩ := selectable
    simp only [selectVasList_fst, Session.selectServiceParameters_knows]
    rw [offered] at vas
    have energy : req.selectedEnergyTransferService.serviceId ∈ session.offeredServices.energyServices := by
      simpa using energy
    simp only [energy, found, true_and, and_iff_right vas]
    rw [ServiceSelectionRequest.vas]
    split
    · rename_i all
      exact iff_of_true rfl (by simpa [Session.knows] using all)
    · rename_i all
      exact iff_of_false (by simp) (by simpa [Session.knows] using all)
  · refine iff_of_false (handleServiceSelection_refused env req session selectable).1 ?_
    rintro ⟨⟨energy, vas⟩, found, -⟩
    exact selectable ⟨own, by simpa using energy, offered.mpr vas, found, fit found⟩

end Selection

namespace Fsm

theorem selection_answers (platform : Platform) {fsm : Fsm} (idle : fsm.ctx.request = none)
    (selecting : fsm.state.id = .serviceSelection) (env : Env) (req : ServiceSelectionRequest) :
    Act.wp (step platform (.message env (.request (.serviceSelection req)))) (fun _ _ log =>
      responses log = [.serviceSelection (handleServiceSelection env req fsm.ctx.session).1]) fsm := by
  rw [wp_step_message platform env _ fsm idle]
  have state : fsm.state = .serviceSelection := by cases state : fsm.state <;> simp_all [State.id]
  simp only [state, State.feed, State.ServiceSelection.feed, Act.wp_bind, Act.wp_ite,
    Feed.wp_pullRequest _ (messageContext_request fsm.ctx (.request (.serviceSelection req)))]
  cases list : req.selectedVasList <;> simp [Platform.stringsFit, Output.response?]

structure SelectsAdvertised (past : List FsmStep) (req : ServiceSelectionRequest) (log : List Output) : Prop where
  ok : (∃ res, responses log = [.serviceSelection res] ∧ res.responseCode = .ok) ↔
    req.OfOffered past ∧ req.OfListed past
  failed : ¬(req.OfOffered past ∧ req.OfListed past) → ∃ res, responses log = [.serviceSelection res] ∧
    (res.responseCode = .failedNoEnergyTransferServiceSelected ∨
      res.responseCode = .failedServiceSelectionInvalid)

theorem AdvertisedInvariant.selection_ok_iff {past : List FsmStep} {fsm : Fsm} (inv : AdvertisedInvariant past fsm)
    (asks : fsm.details) (env : Env) {req : ServiceSelectionRequest}
    (own : validateHeader fsm.ctx.session req.header.sessionId = true) (filled : req.selectedVasList ≠ some []) :
    (handleServiceSelection env req fsm.ctx.session).1.responseCode = .ok ↔
      req.OfOffered past ∧ req.OfRemembered past := by
  rw [handleServiceSelection_ok_iff env req _ own filled inv.der]
  apply and_congr
  · rw [ServiceSelectionRequest.OfOffered, inv.services asks]
    simp
  · apply and_congr
    · rw [findEnergyParameterSetId_iff, EnergyRemembered]
      refine and_congr_right fun selectable => inv.tables _ ?_ _
      exact List.mem_append_left _ (List.mem_map_of_mem selectable)
    · refine forall₂_congr fun vas member => ?_
      rw [findVasParameterSetId_iff, VasRemembered]
      split
      · rename_i standard
        exact inv.tables _ (List.mem_append_right _ standard) _
      · refine and_congr_right fun _ => ?_
        rw [inv.custom]
        cases newest past (setsHanded vas.serviceId) <;> simp

end Fsm

namespace Sample

def askDetail (id : SessionId) : List Input := (selectService id .dc).take 7

def selectDc (id : SessionId) (parameterSetId : UInt16) : ServiceSelectionRequest :=
  ⟨{ sessionId := id }, ⟨.dc, parameterSetId⟩, none⟩

end Sample

end LibIso15118
