import LibIso15118.D20.State.Service
import Mathlib.Data.List.TakeWhile

set_option autoImplicit false

namespace LibIso15118

open Datatypes

def Datatypes.VasSelectedService.standard? (vas : VasSelectedService) : Option ServiceCategory :=
  if vas.serviceId = ServiceCategory.internet.value then some .internet
  else if vas.serviceId = ServiceCategory.parkingStatus.value then some .parkingStatus
  else none

namespace Table

variable {α : Type}

def Offers (table : Table UInt8 α) (id : UInt16) (parameters : α) : Prop :=
  ∃ key : UInt8, key.toUInt16 = id ∧ table key = some parameters

theorem toUInt16_eq_iff (key : UInt8) (id : UInt16) : key.toUInt16 = id ↔ id < 256 ∧ key = id.toUInt8 := by
  rw [← UInt16.toNat_inj, ← UInt8.toNat_inj, UInt16.lt_iff_toNat_lt, UInt8.toNat_toUInt16, UInt16.toNat_toUInt8]
  have bound := key.toNat_lt
  simp only [show (256 : UInt16).toNat = 256 from rfl]
  omega

theorem offers_iff (table : Table UInt8 α) (id : UInt16) (parameters : α) :
    table.Offers id parameters ↔ id < 256 ∧ table id.toUInt8 = some parameters := by
  simp only [Offers, toUInt16_eq_iff]
  constructor
  · rintro ⟨key, ⟨small, rfl⟩, found⟩
    exact ⟨small, found⟩
  · rintro ⟨small, found⟩
    exact ⟨_, ⟨small, rfl⟩, found⟩

def picks (table : Table UInt8 α) (category : ServiceCategory) (list : VasSelectedServiceList) : List α :=
  list.filterMap fun vas => if vas.standard? = some category then table vas.parameterSetId.toUInt8 else none

/-- The entries of one category stand for the same offered parameters. -/
def Agreed (table : Table UInt8 α) (category : ServiceCategory) (list : VasSelectedServiceList) : Prop :=
  ∀ vas ∈ list, vas.standard? = some category → vas.parameterSetId < 256 ∧
    ∀ other ∈ list, other.standard? = some category →
      table other.parameterSetId.toUInt8 = table vas.parameterSetId.toUInt8

theorem mem_picks {table : Table UInt8 α} {category : ServiceCategory} {list : VasSelectedServiceList}
    {parameters : α} :
    parameters ∈ table.picks category list ↔
      ∃ vas ∈ list, vas.standard? = some category ∧ table vas.parameterSetId.toUInt8 = some parameters := by
  simp only [picks, List.mem_filterMap]
  refine exists_congr fun vas => and_congr_right fun _ => ?_
  split <;> simp [*]

theorem picks_cons_getLastD (table : Table UInt8 α) (category : ServiceCategory) (vas : VasSelectedService)
    (rest : VasSelectedServiceList) (before : α) :
    (table.picks category (vas :: rest)).getLastD before =
      (table.picks category rest).getLastD ((table.picks category [vas]).getLastD before) := by
  simp only [picks, List.filterMap_cons, List.filterMap_nil]
  split <;> simp [List.getLastD_eq_getLast?, List.getLast?_cons]

theorem offers_last_iff (table : Table UInt8 α) (category : ServiceCategory) (list : VasSelectedServiceList)
    (before : α) (known : ∀ vas ∈ list, vas.standard? = some category →
      (table vas.parameterSetId.toUInt8).isSome = true) :
    (∀ vas ∈ list, vas.standard? = some category →
        table.Offers vas.parameterSetId ((table.picks category list).getLastD before)) ↔
      table.Agreed category list := by
  -- The loop keeps the last entry of a category, which is what was offered for each exactly when
  -- they agree.
  simp only [offers_iff]
  constructor
  · intro offered vas member standard
    refine ⟨(offered vas member standard).1, fun other member' standard' => ?_⟩
    rw [(offered vas member standard).2, (offered other member' standard').2]
  · intro agreed vas member standard
    refine ⟨(agreed vas member standard).1, ?_⟩
    obtain ⟨parameters, found⟩ := Option.isSome_iff_exists.mp (known vas member standard)
    have picked : parameters ∈ table.picks category list := mem_picks.mpr ⟨vas, member, standard, found⟩
    have last : (table.picks category list).getLastD before ∈ table.picks category list := by
      rw [List.getLastD_eq_getLast?, List.getLast?_eq_some_getLast (List.ne_nil_of_mem picked)]
      exact List.getLast_mem _
    obtain ⟨other, member', standard', taken⟩ := mem_picks.mp last
    rw [← (agreed vas member standard).2 other member' standard', taken]

end Table

namespace SelectedVasParameter

def internet (vas : SelectedVasParameter) : InternetParameterList := ⟨vas.internetProtocol, vas.internetPort⟩

def parking (vas : SelectedVasParameter) : ParkingParameterList :=
  ⟨vas.parkingIntendedService, vas.parkingStatus⟩

end SelectedVasParameter

namespace Session

def knows (session : Session) (vas : VasSelectedService) : Bool :=
  session.findVasParameterSetId vas.serviceId vas.parameterSetId

variable (session : Session) (vas : VasSelectedService)

@[simp] theorem selectVasParameters_offeredServices (service id : UInt16) :
    (session.selectVasParameters service id).offeredServices = session.offeredServices := by
  simp only [selectVasParameters]
  repeat' split
  all_goals rfl

theorem selectVasParameters_frame (service id : UInt16) :
    session.selectVasParameters service id =
      { session with selectedVasServices := (session.selectVasParameters service id).selectedVasServices } := by
  simp only [selectVasParameters]
  repeat' split
  all_goals rfl

@[simp] theorem selectVasParameters_knows (service id : UInt16) :
    (session.selectVasParameters service id).knows = session.knows := by
  funext vas
  simp only [knows, findVasParameterSetId, selectVasParameters_offeredServices]

@[simp] theorem selectServiceParameters_offeredServices (service : ServiceCategory) (id : UInt16) :
    (session.selectServiceParameters service id).offeredServices = session.offeredServices := by
  unfold selectServiceParameters
  split <;> rfl

@[simp] theorem selectServiceParameters_knows (service : ServiceCategory) (id : UInt16) :
    (session.selectServiceParameters service id).knows = session.knows := by
  funext vas
  simp only [knows, findVasParameterSetId, selectServiceParameters_offeredServices]

theorem selectServiceParameters_frame (service : ServiceCategory) (id : UInt16) :
    session.selectServiceParameters service id =
      { session with selectedServices := (session.selectServiceParameters service id).selectedServices } := by
  unfold selectServiceParameters
  split <;> rfl

variable {session vas}

theorem selectVasParameters_custom (custom : vas.standard? = none) :
    session.selectVasParameters vas.serviceId vas.parameterSetId = session := by
  simp only [VasSelectedService.standard?] at custom
  split at custom <;> try cases custom
  split at custom <;> try cases custom
  simp [selectVasParameters, *]

variable (known : session.knows vas = true)

include known in
theorem internet_known (standard : vas.standard? = some .internet) :
    (session.offeredServices.internetParameterList vas.parameterSetId.toUInt8).isSome = true := by
  simp only [VasSelectedService.standard?] at standard
  simp only [knows, findVasParameterSetId, Table.contains] at known
  split at standard
  · simp_all
  · split at standard <;> simp_all [ServiceCategory.internet, ServiceCategory.parkingStatus]

include known in
theorem parking_known (standard : vas.standard? = some .parkingStatus) :
    (session.offeredServices.parkingParameterList vas.parameterSetId.toUInt8).isSome = true := by
  simp only [VasSelectedService.standard?] at standard
  simp only [knows, findVasParameterSetId, Table.contains] at known
  split at standard
  · simp_all [ServiceCategory.internet, ServiceCategory.parkingStatus]
  · split at standard <;> simp_all [ServiceCategory.internet, ServiceCategory.parkingStatus]

include known in
theorem selectVasParameters_vasServices :
    (session.selectVasParameters vas.serviceId vas.parameterSetId).selectedVasServices.vasServices =
      session.selectedVasServices.vasServices ++ vas.standard?.toList := by
  simp only [knows, findVasParameterSetId, Table.contains] at known
  simp only [selectVasParameters, VasSelectedService.standard?]
  repeat' split
  all_goals simp_all

include known in
theorem selectVasParameters_internet :
    (session.selectVasParameters vas.serviceId vas.parameterSetId).selectedVasServices.internet =
      (session.offeredServices.internetParameterList.picks .internet [vas]).getLastD
        session.selectedVasServices.internet := by
  simp only [knows, findVasParameterSetId, Table.contains] at known
  simp only [selectVasParameters, VasSelectedService.standard?, Table.picks]
  repeat' split
  all_goals simp_all [SelectedVasParameter.internet, ServiceCategory.internet, ServiceCategory.parkingStatus]

include known in
theorem selectVasParameters_parking :
    (session.selectVasParameters vas.serviceId vas.parameterSetId).selectedVasServices.parking =
      (session.offeredServices.parkingParameterList.picks .parkingStatus [vas]).getLastD
        session.selectedVasServices.parking := by
  simp only [knows, findVasParameterSetId, Table.contains] at known
  simp only [selectVasParameters, VasSelectedService.standard?, Table.picks]
  repeat' split
  all_goals simp_all [SelectedVasParameter.parking, ServiceCategory.internet, ServiceCategory.parkingStatus]

end Session

section Loop

variable (list : VasSelectedServiceList) (session : Session)

theorem selectVasList_cons (vas : VasSelectedService) :
    selectVasList (vas :: list) session =
      if session.knows vas then
        selectVasList list (session.selectVasParameters vas.serviceId vas.parameterSetId)
      else (false, session) := rfl

theorem selectVasList_fst : (selectVasList list session).1 = list.all session.knows := by
  induction list generalizing session with
  | nil => rfl
  | cons vas rest hyp =>
      by_cases known : session.knows vas = true
      · rw [List.all_cons, known, Bool.true_and, selectVasList_cons, if_pos known, hyp,
          Session.selectVasParameters_knows]
      · simp [selectVasList_cons, known]

theorem selectVasList_frame :
    (selectVasList list session).2 =
      { session with selectedVasServices := (selectVasList list session).2.selectedVasServices } := by
  induction list generalizing session with
  | nil => rfl
  | cons vas rest hyp =>
      rw [selectVasList]
      split
      · rw [hyp, Session.selectVasParameters_frame]
      · rfl

theorem selectVasList_vasServices :
    (selectVasList list session).2.selectedVasServices.vasServices =
      session.selectedVasServices.vasServices ++ (list.takeWhile session.knows).filterMap (·.standard?) := by
  induction list generalizing session with
  | nil => simp [selectVasList]
  | cons vas rest hyp =>
      by_cases known : session.knows vas = true
      · rw [selectVasList_cons, if_pos known, hyp, Session.selectVasParameters_vasServices known,
          Session.selectVasParameters_knows, List.takeWhile_cons_of_pos known, List.append_assoc]
        cases standard : vas.standard? <;> simp [standard]
      · rw [selectVasList_cons, if_neg known, List.takeWhile_cons_of_neg known]
        simp

theorem selectVasList_same_iff :
    (selectVasList list session).2 = session ↔
      ∀ vas ∈ list.takeWhile session.knows, vas.standard? = none := by
  -- The loop leaves the session alone exactly when it selects nothing.
  constructor
  · intro same
    have services := selectVasList_vasServices list session
    rw [same, List.self_eq_append_right, List.filterMap_eq_nil_iff] at services
    exact services
  · induction list with
    | nil => exact fun _ => rfl
    | cons vas rest hyp =>
        intro custom
        by_cases known : session.knows vas = true
        · rw [List.takeWhile_cons_of_pos known] at custom
          rw [selectVasList_cons, if_pos known,
            Session.selectVasParameters_custom (custom vas (List.mem_cons_self ..))]
          exact hyp fun other member => custom other (List.mem_cons_of_mem _ member)
        · rw [selectVasList_cons, if_neg known]

variable {list session}

theorem selectVasList_last {α : Type} (kept : SelectedVasParameter → α) (table : OfferedServices → Table UInt8 α)
    (category : ServiceCategory)
    (step : ∀ (session : Session) (vas : VasSelectedService), session.knows vas = true →
      kept (session.selectVasParameters vas.serviceId vas.parameterSetId).selectedVasServices =
        ((table session.offeredServices).picks category [vas]).getLastD (kept session.selectedVasServices))
    (known : ∀ vas ∈ list, session.knows vas = true) :
    kept (selectVasList list session).2.selectedVasServices =
      ((table session.offeredServices).picks category list).getLastD (kept session.selectedVasServices) := by
  -- A member that every step takes from its table holds the last entry in the end.
  induction list generalizing session with
  | nil => rfl
  | cons vas rest hyp =>
      have first := known vas (List.mem_cons_self ..)
      have later : ∀ other ∈ rest, (session.selectVasParameters vas.serviceId vas.parameterSetId).knows other :=
        fun other member => by simpa using known other (List.mem_cons_of_mem _ member)
      rw [selectVasList_cons, if_pos first, hyp later, step session vas first,
        Session.selectVasParameters_offeredServices, ← Table.picks_cons_getLastD]

end Loop

section Selection

variable (env : Env) (req : ServiceSelectionRequest) (session : Session)

/-- A selection that fails changes nothing; one that succeeds leaves the selected value-added services with
the parameters that were offered for them. -/
structure Atomic (outcome : ServiceSelectionResponse × Session) : Prop where
  refused : outcome.1.responseCode ≠ .ok → outcome.2 = session
  services : outcome.1.responseCode = .ok →
    outcome.2.selectedVasServices.vasServices = (req.selectedVasList.getD []).filterMap (·.standard?)
  internet : outcome.1.responseCode = .ok →
    ∀ vas ∈ req.selectedVasList.getD [], vas.standard? = some .internet →
      session.offeredServices.internetParameterList.Offers vas.parameterSetId
        outcome.2.selectedVasServices.internet
  parking : outcome.1.responseCode = .ok →
    ∀ vas ∈ req.selectedVasList.getD [], vas.standard? = some .parkingStatus →
      session.offeredServices.parkingParameterList.Offers vas.parameterSetId
        outcome.2.selectedVasServices.parking

def Selectable : Prop :=
  let service := req.selectedEnergyTransferService.serviceId
  let setId := req.selectedEnergyTransferService.parameterSetId
  validateHeader session req.header.sessionId = true ∧
    session.offeredServices.energyServices.contains service = true ∧
    req.selectedVasList.any (vasServicesFound session.offeredServices.vasServices · false = false) = false ∧
    session.findEnergyParameterSetId service setId = true ∧
    (service = .acDer → (session.offeredServices.acDerParameterList setId.toUInt8).any
      (fun list => hasRequiredAcDerControlFunctions list.controlFunctions) = true)

/-- Either every parameter set is known, nothing has been selected before and entries of one category agree,
or the energy service is the selected one already and nothing stands before the unknown entry. -/
def SelectsAtOnce : Prop :=
  let service := req.selectedEnergyTransferService.serviceId
  let setId := req.selectedEnergyTransferService.parameterSetId
  let list := req.selectedVasList.getD []
  if list.all session.knows then
    session.selectedVasServices.vasServices = [] ∧
      session.offeredServices.internetParameterList.Agreed .internet list ∧
      session.offeredServices.parkingParameterList.Agreed .parkingStatus list
  else
    (session.selectServiceParameters service setId).selectedServices = session.selectedServices ∧
      ∀ vas ∈ list.takeWhile session.knows, vas.standard? = none

theorem handleServiceSelection_refused (unselectable : ¬Selectable req session) :
    (handleServiceSelection env req session).1.responseCode ≠ .ok ∧
      (handleServiceSelection env req session).2 = session := by
  simp only [handleServiceSelection]
  by_cases own : validateHeader session req.header.sessionId = false
  · simp [own]
  rw [if_neg own]
  split
  · simp
  · split
    · simp
    · split
      · simp
      · split
        · simp
        · rename_i energy vas found der
          refine absurd ?_ unselectable
          simp only [Selectable]
          simp_all

theorem handleServiceSelection_selectable (selectable : Selectable req session) :
    handleServiceSelection env req session =
      let selected := selectVasList (req.selectedVasList.getD [])
        (session.selectServiceParameters req.selectedEnergyTransferService.serviceId
          req.selectedEnergyTransferService.parameterSetId)
      ({ header := setupHeader env session
         responseCode := if selected.1 then .ok else .failedServiceSelectionInvalid }, selected.2) := by
  obtain ⟨own, energy, vas, found, der⟩ := selectable
  simp only [handleServiceSelection]
  rw [if_neg (by simp [own]), if_neg (by simpa using energy), if_neg (by rw [vas]; simp), if_neg (by simp [found]),
    if_neg (by simpa using der)]
  obtain ⟨all, selected⟩ := selectVasList (req.selectedVasList.getD []) _
  cases all <;> rfl

theorem atomic_iff_of_ok {outcome : ServiceSelectionResponse × Session} (ok : outcome.1.responseCode = .ok) :
    Atomic req session outcome ↔
      outcome.2.selectedVasServices.vasServices = (req.selectedVasList.getD []).filterMap (·.standard?) ∧
        (∀ vas ∈ req.selectedVasList.getD [], vas.standard? = some .internet →
          session.offeredServices.internetParameterList.Offers vas.parameterSetId
            outcome.2.selectedVasServices.internet) ∧
        ∀ vas ∈ req.selectedVasList.getD [], vas.standard? = some .parkingStatus →
          session.offeredServices.parkingParameterList.Offers vas.parameterSetId
            outcome.2.selectedVasServices.parking :=
  ⟨fun atomic => ⟨atomic.services ok, atomic.internet ok, atomic.parking ok⟩,
    fun ⟨services, internet, parking⟩ => ⟨fun failed => absurd ok failed, fun _ => services, fun _ => internet,
      fun _ => parking⟩⟩

theorem atomic_iff_of_failed {outcome : ServiceSelectionResponse × Session} (failed : outcome.1.responseCode ≠ .ok) :
    Atomic req session outcome ↔ outcome.2 = session :=
  ⟨fun atomic => atomic.refused failed, fun same => ⟨fun _ => same, fun ok => absurd ok failed,
    fun ok => absurd ok failed, fun ok => absurd ok failed⟩⟩

theorem begun_kept :
    let begun := session.selectServiceParameters req.selectedEnergyTransferService.serviceId
      req.selectedEnergyTransferService.parameterSetId
    begun.selectedVasServices = session.selectedVasServices ∧ begun.offeredServices = session.offeredServices ∧
      begun.knows = session.knows := by
  refine ⟨?_, by simp, by simp⟩
  rw [Session.selectServiceParameters_frame]

theorem atomic_known_iff (selectable : Selectable req session)
    (known : ∀ vas ∈ req.selectedVasList.getD [], session.knows vas = true) :
    Atomic req session (handleServiceSelection env req session) ↔
      session.selectedVasServices.vasServices = [] ∧
        session.offeredServices.internetParameterList.Agreed .internet (req.selectedVasList.getD []) ∧
        session.offeredServices.parkingParameterList.Agreed .parkingStatus (req.selectedVasList.getD []) := by
  -- Every parameter set is known: the services selected before are still there, and of the
  -- entries of a category the last one counts.
  have answer := handleServiceSelection_selectable env req session selectable
  obtain ⟨vas, offered, knows⟩ := begun_kept req session
  generalize session.selectServiceParameters req.selectedEnergyTransferService.serviceId
    req.selectedEnergyTransferService.parameterSetId = begun at answer vas offered knows
  rw [← knows] at known
  have all : (selectVasList (req.selectedVasList.getD []) begun).1 = true := by
    rw [selectVasList_fst]
    exact List.all_eq_true.mpr known
  have services := selectVasList_vasServices (req.selectedVasList.getD []) begun
  rw [List.takeWhile_eq_self_iff.mpr known, vas] at services
  have internet := selectVasList_last SelectedVasParameter.internet (·.internetParameterList) .internet
    (fun _ _ => Session.selectVasParameters_internet) known
  have parking := selectVasList_last SelectedVasParameter.parking (·.parkingParameterList) .parkingStatus
    (fun _ _ => Session.selectVasParameters_parking) known
  rw [offered] at internet parking
  rw [knows] at known
  have internetLast := session.offeredServices.internetParameterList.offers_last_iff .internet
    (req.selectedVasList.getD []) begun.selectedVasServices.internet
    fun vas member => Session.internet_known (known vas member)
  have parkingLast := session.offeredServices.parkingParameterList.offers_last_iff .parkingStatus
    (req.selectedVasList.getD []) begun.selectedVasServices.parking
    fun vas member => Session.parking_known (known vas member)
  rw [← internet] at internetLast
  rw [← parking] at parkingLast
  have ok : (handleServiceSelection env req session).1.responseCode = .ok := by
    rw [answer]
    simp [all]
  rw [atomic_iff_of_ok req session ok, answer, services, List.append_left_eq_self, internetLast, parkingLast]

/-- A selection is atomic exactly when it is not selectable at all or selects at once. -/
theorem atomic_iff :
    Atomic req session (handleServiceSelection env req session) ↔
      (Selectable req session → SelectsAtOnce req session) := by
  by_cases selectable : Selectable req session
  swap
  · obtain ⟨failed, same⟩ := handleServiceSelection_refused env req session selectable
    exact iff_of_true ((atomic_iff_of_failed req session failed).mpr same) fun holds => absurd holds selectable
  simp only [selectable, true_implies, SelectsAtOnce]
  split
  · rename_i known
    exact atomic_known_iff env req session selectable (by simpa using known)
  · rename_i unknown
    rw [handleServiceSelection_selectable env req session selectable]
    obtain ⟨vas, offered, knows⟩ := begun_kept req session
    have frame := session.selectServiceParameters_frame req.selectedEnergyTransferService.serviceId
      req.selectedEnergyTransferService.parameterSetId
    generalize session.selectServiceParameters req.selectedEnergyTransferService.serviceId
      req.selectedEnergyTransferService.parameterSetId = begun at *
    have failed : (selectVasList (req.selectedVasList.getD []) begun).1 = false := by
      rw [selectVasList_fst, knows]
      simpa using unknown
    rw [atomic_iff_of_failed req session (by simp [failed]), ← knows, ← selectVasList_same_iff]
    constructor
    · intro same
      have selected : begun.selectedServices = session.selectedServices := by
        rw [← same, selectVasList_frame]
      rw [selected] at frame
      subst frame
      exact ⟨rfl, same⟩
    · rintro ⟨selected, same⟩
      rw [selected] at frame
      subst frame
      exact same

end Selection

namespace Sample

def withInternet : Session :=
  { id := Vector.replicate 8 1
    offeredServices :=
      { energyServices := [.dc]
        vasServices := [ServiceCategory.internet.value]
        dcParameterList := Table.empty.insert 0 ⟨.extended, .dynamic, .providedByEvcc, .noPricing⟩
        internetParameterList := Table.empty.insert 1 ⟨.ftp, .port20⟩ } }

def selectInternet (setIds : List UInt16) : ServiceSelectionRequest :=
  { header := { sessionId := Vector.replicate 8 1 }
    selectedEnergyTransferService := ⟨.dc, 0⟩
    selectedVasList := some (setIds.map fun id => ⟨ServiceCategory.internet.value, id⟩) }

end Sample

/-- The second parameter set is unknown; DC and the first one stay selected. -/
theorem atomic_left_behind :
    ¬∀ (env : Env) (req : ServiceSelectionRequest) (session : Session),
      Atomic req session (handleServiceSelection env req session) := by
  intro atomic
  have same := (atomic {} (Sample.selectInternet [1, 9]) Sample.withInternet).refused (by decide +kernel)
  have selected : (handleServiceSelection {} (Sample.selectInternet [1, 9])
      Sample.withInternet).2.selectedVasServices.vasServices = [.internet] := by decide +kernel
  rw [same] at selected
  cases selected

end LibIso15118
