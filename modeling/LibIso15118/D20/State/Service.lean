import LibIso15118.D20.States

set_option autoImplicit false

namespace LibIso15118

open Datatypes Shared

def convertServiceIdToServiceCategory (serviceId : UInt16) : ServiceCategory :=
  if 1 ≤ serviceId ∧ serviceId ≤ 10 then ⟨serviceId⟩
  -- "returning ParkingStatus as default to show nonsense"
  else .parkingStatus

structure ServiceDiscoveryResult where
  response : ServiceDiscoveryResponse
  session : Session
  evEnergyServices : List ServiceCategory

/-- `handle_request` of `ServiceDiscovery`, with the two objects it writes through references. -/
def handleServiceDiscovery (env : Env) (req : ServiceDiscoveryRequest) (session : Session)
    (energyServices : List ServiceCategory) (vasServices : List UInt16)
    (evEnergyServices : List ServiceCategory) : ServiceDiscoveryResult :=
  let header := setupHeader env session
  if validateHeader session req.header.sessionId = false then
    { response := { header, responseCode := .failedUnknownSession }, session, evEnergyServices }
  else
    let energy := match req.supportedServiceIds with
      | some ids => energyServices.filter fun service => ids.contains service.value
      | none => energyServices
    let vas := match req.supportedServiceIds with
      | some ids => vasServices.filter ids.contains
      | none => vasServices
    let reported := match req.supportedServiceIds with
      | some ids => (ids.map convertServiceIdToServiceCategory).filter (· ≠ .parkingStatus)
      | none => []
    { response :=
        { header
          responseCode := .ok
          serviceRenegotiationSupported := false
          energyTransferServiceList := energy.map fun service => ⟨service, false⟩
          vasList := if vas = [] then none else some (vas.map fun service => ⟨service, false⟩) }
      session :=
        { session with
          serviceRenegotiationSupported := false
          offeredServices := { energyServices := energy, vasServices := vas } }
      evEnergyServices := evEnergyServices ++ reported }

namespace State

def ServiceDiscovery.feed (platform : Platform) (env : Env) (ev : Event) : Feed Result := do
  if ev ≠ .v2gtpMessage then return {}
  match ← Feed.pullRequest with
  | .request (.serviceDiscovery req) => do
      let ctx ← Act.get
      let result := handleServiceDiscovery env req ctx.session
        ctx.sessionConfig.supportedEnergyTransferServices ctx.sessionConfig.supportedVasServices
        ctx.sessionEvInfo.evEnergyServices
      Act.modify fun ctx =>
        { ctx with
          session := result.session
          sessionEvInfo := { ctx.sessionEvInfo with evEnergyServices := result.evEnergyServices } }
      Feed.respond platform (.serviceDiscovery result.response)
      if result.response.responseCode.isFailed then
        Feed.stopSession
        return {}
      return .createState .serviceDetail
  | .request (.sessionStop req) => stopOnRequest platform env req
  | variant => stopOnSequenceError platform env variant

end State

namespace Datatypes.ParameterSet

/-- In scheduled mode the set always says `ProvidedByEvcc`. -/
def advertisedMobilityNeedsMode (controlMode : ControlMode) (mode : MobilityNeedsMode) :
    MobilityNeedsMode := if controlMode = .scheduled then .providedByEvcc else mode

def acParameters (list : AcParameterList) : List Parameter :=
  [⟨"Connector", .int32 list.connector.toInt⟩,
    ⟨"ControlMode", .int32 list.controlMode.toInt⟩,
    ⟨"EVSENominalVoltage", .int32 list.evseNominalVoltage.toInt32⟩,
    ⟨"MobilityNeedsMode",
      .int32 (advertisedMobilityNeedsMode list.controlMode list.mobilityNeedsMode).toInt⟩,
    ⟨"Pricing", .int32 list.pricing.toInt⟩]

def acBptParameters (list : AcBptParameterList) : List Parameter :=
  acParameters list.toAcParameterList ++
    [⟨"BPTChannel", .int32 list.bptChannel.toInt⟩,
      ⟨"GeneratorMode", .int32 list.generatorMode.toInt⟩,
      ⟨"DetectionMethodGridCodeIslanding", .int32 list.gridCodeDetectionMethod.toInt⟩]

def acDerParameters (list : AcDerParameterList) : List Parameter :=
  acBptParameters list.toAcBptParameterList ++
    [⟨"DERStandardControlFunctionsBitmap", .int32 list.controlFunctions.standardBitmap.toInt32⟩,
      ⟨"DERExtendedControlFunctionsBitmap", .int32 list.controlFunctions.extendedBitmap.toInt32⟩,
      ⟨"VoltWatt", .bool list.controlFunctions.voltWatt⟩,
      ⟨"DSOQSetPointProvision", .bool list.controlFunctions.dsoQSetpointProvision⟩,
      ⟨"DSOQCosphiSetPointProvision", .bool list.controlFunctions.dsoCosPhiSetpointProvision⟩,
      ⟨"DCInjectionRestriction", .bool list.controlFunctions.dcInjectionRestriction⟩,
      ⟨"UnderFrequencyWatt", .bool list.controlFunctions.underFrequencyWatt⟩,
      ⟨"OverFrequencyWatt", .bool list.controlFunctions.overFrequencyWatt⟩,
      ⟨"VoltVar", .bool list.controlFunctions.voltVar⟩,
      ⟨"WattVar", .bool list.controlFunctions.wattVar⟩,
      ⟨"WattCosphi", .bool list.controlFunctions.wattCosPhi⟩,
      ⟨"OverVoltageFaultRideThroughMode", .bool list.controlFunctions.overVoltageFaultRideThrough⟩,
      ⟨"UnderVoltageFaultRideThroughMode", .bool list.controlFunctions.underVoltageFaultRideThrough⟩,
      ⟨"ZeroCurrentMode", .bool list.controlFunctions.zeroCurrent⟩]

def dcParameters (connector : Int32) (controlMode : ControlMode) (mode : MobilityNeedsMode)
    (pricing : Pricing) : List Parameter :=
  [⟨"Connector", .int32 connector⟩,
    ⟨"ControlMode", .int32 controlMode.toInt⟩,
    ⟨"MobilityNeedsMode", .int32 (advertisedMobilityNeedsMode controlMode mode).toInt⟩,
    ⟨"Pricing", .int32 pricing.toInt⟩]

def bptParameters (bptChannel : BptChannel) (generatorMode : GeneratorMode) : List Parameter :=
  [⟨"BPTChannel", .int32 bptChannel.toInt⟩, ⟨"GeneratorMode", .int32 generatorMode.toInt⟩]

def ofAc (id : UInt16) (list : AcParameterList) : ParameterSet := ⟨id, acParameters list⟩

def ofAcBpt (id : UInt16) (list : AcBptParameterList) : ParameterSet := ⟨id, acBptParameters list⟩

def ofAcDer (id : UInt16) (list : AcDerParameterList) : ParameterSet := ⟨id, acDerParameters list⟩

def ofDc (id : UInt16) (list : DcParameterList) : ParameterSet :=
  ⟨id, dcParameters list.connector.toInt list.controlMode list.mobilityNeedsMode list.pricing⟩

def ofDcBpt (id : UInt16) (list : DcBptParameterList) : ParameterSet :=
  ⟨id, dcParameters list.connector.toInt list.controlMode list.mobilityNeedsMode list.pricing ++
    bptParameters list.bptChannel list.generatorMode⟩

def ofMcs (id : UInt16) (list : McsParameterList) : ParameterSet :=
  ⟨id, dcParameters list.connector.toInt list.controlMode list.mobilityNeedsMode list.pricing⟩

def ofMcsBpt (id : UInt16) (list : McsBptParameterList) : ParameterSet :=
  ⟨id, dcParameters list.connector.toInt list.controlMode list.mobilityNeedsMode list.pricing ++
    bptParameters list.bptChannel list.generatorMode⟩

def ofInternet (id : UInt16) (list : InternetParameterList) : ParameterSet :=
  ⟨id, [⟨"Protocol", .name (fromProtocol list.protocol)⟩, ⟨"Port", .int32 list.port.value⟩]⟩

def ofParking (id : UInt16) (list : ParkingParameterList) : ParameterSet :=
  ⟨id, [⟨"IntendedService", .int32 list.intendedService.value⟩,
    ⟨"ParkingStatusType", .int32 list.parkingStatus.value⟩]⟩

end Datatypes.ParameterSet

/-- One of the loops of `handle_request` that number the configured parameter sets from `id` on;
`id` is a `uint8_t` and wraps. -/
def offerParameterSets {α : Type} (toSet : UInt16 → α → ParameterSet) :
    List α → UInt8 → Table UInt8 α → List ParameterSet × Table UInt8 α
  | [], _, table => ([], table)
  | list :: rest, id, table =>
      let (sets, table) := offerParameterSets toSet rest (id + 1) (table.insert id list)
      (toSet id.toUInt16 list :: sets, table)

/-- The parameter set id of an internet port. A port that is none of the four keeps the id of the
set before it, and 0 when there is none. -/
def internetId (port : Port) (previous : UInt8) : UInt8 :=
  if port = .port20 then 1
  else if port = .port21 then 2
  else if port = .port80 then 3
  else if port = .port443 then 4
  else previous

def offerInternetSets : List InternetParameterList → UInt8 → Table UInt8 InternetParameterList →
    List ParameterSet × Table UInt8 InternetParameterList
  | [], _, table => ([], table)
  | list :: rest, previous, table =>
      let id := internetId list.port previous
      let (sets, table) := offerInternetSets rest id (table.insert id list)
      (.ofInternet id.toUInt16 list :: sets, table)

/-- The parameter sets for a service and the offered services afterwards. -/
def offerService (config : SessionConfig) (service : UInt16) (offered : OfferedServices) :
    List ParameterSet × OfferedServices :=
  if service = ServiceCategory.ac.value then
    let (sets, table) := offerParameterSets .ofAc config.acParameterList 0 offered.acParameterList
    (sets, { offered with acParameterList := table })
  else if service = ServiceCategory.acBpt.value then
    let (sets, table) :=
      offerParameterSets .ofAcBpt config.acBptParameterList 0 offered.acBptParameterList
    (sets, { offered with acBptParameterList := table })
  else if service = ServiceCategory.acDer.value then
    let (sets, table) := offerParameterSets .ofAcDer
      (config.acDerParameterList.filter fun list =>
        hasRequiredAcDerControlFunctions list.controlFunctions) 0 offered.acDerParameterList
    (sets, { offered with acDerParameterList := table })
  else if service = ServiceCategory.dc.value then
    let (sets, table) := offerParameterSets .ofDc config.dcParameterList 0 offered.dcParameterList
    (sets, { offered with dcParameterList := table })
  else if service = ServiceCategory.dcBpt.value then
    let (sets, table) :=
      offerParameterSets .ofDcBpt config.dcBptParameterList 0 offered.dcBptParameterList
    (sets, { offered with dcBptParameterList := table })
  else if service = ServiceCategory.mcs.value then
    let (sets, table) :=
      offerParameterSets .ofMcs config.mcsParameterList 0 offered.mcsParameterList
    (sets, { offered with mcsParameterList := table })
  else if service = ServiceCategory.mcsBpt.value then
    let (sets, table) :=
      offerParameterSets .ofMcsBpt config.mcsBptParameterList 0 offered.mcsBptParameterList
    (sets, { offered with mcsBptParameterList := table })
  else if service = ServiceCategory.internet.value then
    let (sets, table) := offerInternetSets config.internetParameterList 0 offered.internetParameterList
    (sets, { offered with internetParameterList := table })
  else if service = ServiceCategory.parkingStatus.value then
    let (sets, table) :=
      offerParameterSets .ofParking config.parkingParameterList 0 offered.parkingParameterList
    (sets, { offered with parkingParameterList := table })
  else ([], offered)

/-- `handle_request` of `ServiceDetail`, which also writes the offered services. -/
def handleServiceDetail (env : Env) (req : ServiceDetailRequest) (session : Session)
    (config : SessionConfig) (customVasParameters : Option ServiceParameterList) :
    ServiceDetailResponse × Session :=
  let header := setupHeader env session
  let offered := session.offeredServices
  if validateHeader session req.header.sessionId = false then
    ({ header, responseCode := .failedUnknownSession }, session)
  else if (offered.energyServices.any (·.value = req.service) ||
      offered.vasServices.contains req.service) = false then
    ({ header, responseCode := .failedServiceIdInvalid }, session)
  else
    match customVasParameters with
    | some vasServices =>
        ({ header
           responseCode := .ok
           service := req.service
           serviceParameterList := vasServices },
         { session with
           offeredServices :=
             { offered with
               customVasList := offered.customVasList.insert req.service (vasServices.map (·.id)) } })
    | none =>
        let (sets, offered) := offerService config req.service offered
        let code := if req.service = ServiceCategory.acDer.value ∧ sets = [] then
          ResponseCode.failedServiceIdInvalid else .ok
        ({ header, responseCode := code, service := req.service, serviceParameterList := sets },
         { session with offeredServices := offered })

def fillInternetParameterList (customVasParameters : ServiceParameterList) :
    List InternetParameterList :=
  customVasParameters.map fun set =>
    if set.id = 1 then ⟨.ftp, .port20⟩
    else if set.id = 2 then ⟨.ftp, .port21⟩
    else if set.id = 3 then ⟨.http, .port80⟩
    else if set.id = 4 then ⟨.https, .port443⟩
    else {}

/-- The inner loop of `fill_parking_parameter_list`. `std::get<int32_t>` throws on another
alternative; the set is in the list by then, as far as it has been filled. -/
def fillParkingParameter : List Parameter → ParkingParameterList → Bool × ParkingParameterList
  | [], list => (true, list)
  | parameter :: rest, list =>
      match parameter.value with
      | .int32 value =>
          if parameter.name = "IntendedService" then
            fillParkingParameter rest { list with intendedService := ⟨value⟩ }
          else if parameter.name = "ParkingStatusType" then
            fillParkingParameter rest { list with parkingStatus := ⟨value⟩ }
          else fillParkingParameter rest list
      | _ => (false, list)

def fillParkingParameterList : ServiceParameterList → Bool × List ParkingParameterList
  | [] => (true, [])
  | set :: rest =>
      match fillParkingParameter set.parameter {} with
      | (false, list) => (false, [list])
      | (true, list) =>
          let (ok, lists) := fillParkingParameterList rest
          (ok, list :: lists)

/-- The ids that are never looked up with `get_vas_parameters`. -/
def energyServiceIds : List UInt16 :=
  [ServiceCategory.ac.value, ServiceCategory.dc.value, ServiceCategory.wpt.value,
    ServiceCategory.dcAcdp.value, ServiceCategory.acBpt.value, ServiceCategory.dcBpt.value,
    ServiceCategory.dcAcdpBpt.value, ServiceCategory.mcs.value, ServiceCategory.mcsBpt.value,
    ServiceCategory.acDer.value]

/-- The part of the two `feed` functions that asks the application for VAS parameters. -/
def customVasParameters (env : Env) (service : UInt16) : Feed (Option ServiceParameterList) := do
  if energyServiceIds.contains service then return none
  Feed.feedback (.getVasParameters service)
  match env.vasParameters service with
  | none => return none
  | some parameters => do
      if service = ServiceCategory.internet.value then
        Act.modify fun ctx =>
          { ctx with
            sessionConfig :=
              { ctx.sessionConfig with
                internetParameterList := fillInternetParameterList parameters } }
        return none
      else if service = ServiceCategory.parkingStatus.value then
        let (ok, lists) := fillParkingParameterList parameters
        Act.modify fun ctx =>
          { ctx with sessionConfig := { ctx.sessionConfig with parkingParameterList := lists } }
        if ok then return none
        Act.throw .badVariantAccess
      else return some parameters

/-- The branch for `ServiceDetailReq`, the same in both states up to where a success leads. -/
def answerServiceDetail (platform : Platform) (env : Env) (req : ServiceDetailRequest)
    (onSuccess : Result) : Feed Result := do
  let custom ← customVasParameters env req.service
  let ctx ← Act.get
  let (res, session) := handleServiceDetail env req ctx.session ctx.sessionConfig custom
  Act.modify fun ctx => { ctx with session }
  Feed.respond platform (.serviceDetail res)
  if res.responseCode.isFailed then
    Feed.stopSession
    return {}
  return onSuccess

namespace State

def ServiceDetail.feed (platform : Platform) (env : Env) (ev : Event) : Feed Result := do
  if ev ≠ .v2gtpMessage then return {}
  match ← Feed.pullRequest with
  | .request (.serviceDetail req) =>
      answerServiceDetail platform env req (.createState .serviceSelection)
  | .request (.sessionStop req) => stopOnRequest platform env req
  | variant => stopOnSequenceError platform env variant

end State

/-- The loop over the selected VAS list: the value of `vas_services_found` when it ends. -/
def vasServicesFound (offered : List UInt16) : VasSelectedServiceList → Bool → Bool
  | [], found => found
  | vas :: rest, _ =>
      if offered.contains vas.serviceId then vasServicesFound offered rest true else false

/-- The loop that selects the VAS parameters; it stops at the first set id it does not know, with
the services before it selected. -/
def selectVasList : VasSelectedServiceList → Session → Bool × Session
  | [], session => (true, session)
  | vas :: rest, session =>
      if session.findVasParameterSetId vas.serviceId vas.parameterSetId then
        selectVasList rest (session.selectVasParameters vas.serviceId vas.parameterSetId)
      else (false, session)

/-- `handle_request` of `ServiceSelection`, which also writes the selected services. -/
def handleServiceSelection (env : Env) (req : ServiceSelectionRequest) (session : Session) :
    ServiceSelectionResponse × Session :=
  let header := setupHeader env session
  let offered := session.offeredServices
  let service := req.selectedEnergyTransferService.serviceId
  let setId := req.selectedEnergyTransferService.parameterSetId
  if validateHeader session req.header.sessionId = false then
    ({ header, responseCode := .failedUnknownSession }, session)
  else if offered.energyServices.contains service = false then
    ({ header, responseCode := .failedNoEnergyTransferServiceSelected }, session)
  else if req.selectedVasList.any (vasServicesFound offered.vasServices · false = false) then
    ({ header, responseCode := .failedServiceSelectionInvalid }, session)
  else if session.findEnergyParameterSetId service setId = false then
    ({ header, responseCode := .failedServiceSelectionInvalid }, session)
  else if service = .acDer ∧ (offered.acDerParameterList setId.toUInt8).any
      (fun list => hasRequiredAcDerControlFunctions list.controlFunctions) = false then
    ({ header, responseCode := .failedServiceSelectionInvalid }, session)
  else
    let session := session.selectServiceParameters service setId
    match selectVasList (req.selectedVasList.getD []) session with
    | (false, session) => ({ header, responseCode := .failedServiceSelectionInvalid }, session)
    | (true, session) => ({ header, responseCode := .ok }, session)

namespace State

def ServiceSelection.feed (platform : Platform) (env : Env) (ev : Event) : Feed Result := do
  if ev ≠ .v2gtpMessage then return {}
  match ← Feed.pullRequest with
  | .request (.serviceDetail req) => answerServiceDetail platform env req {}
  | .request (.serviceSelection req) => do
      let ctx ← Act.get
      let (res, session) := handleServiceSelection env req ctx.session
      Act.modify fun ctx => { ctx with session }
      if res.responseCode = .ok then
        Feed.feedback (.selectedServiceParameters session.selectedServices)
      Feed.respond platform (.serviceSelection res)
      if res.responseCode.isFailed then
        Feed.stopSession
        return {}
      Feed.feedbackIfSome (req.selectedVasList.map .selectedVasServices)
      if session.isAcCharger then return .createState (.acChargeParameterDiscovery {})
      if session.isDcCharger then return .createState .dcChargeParameterDiscovery
      Feed.stopSession
      return {}
  | .request (.sessionStop req) => stopOnRequest platform env req
  | variant => stopOnSequenceError platform env variant

end State

end LibIso15118
