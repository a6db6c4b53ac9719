import LibIso15118.D20.Config

set_option autoImplicit false

namespace LibIso15118

open Datatypes

abbrev Sha512Hash := Vector UInt8 64

/-- A `std::map` whose iteration order no modelled function looks at. -/
def Table (κ α : Type) : Type := κ → Option α

namespace Table

variable {κ α : Type}

def empty : Table κ α := fun _ => none

def insert [DecidableEq κ] (table : Table κ α) (key : κ) (value : α) : Table κ α := fun other =>
  if other = key then some value else table other

def contains (table : Table κ α) (key : κ) : Bool := (table key).isSome

end Table

structure OfferedServices where
  authServices : List Authorization := []
  energyServices : List ServiceCategory := []
  vasServices : List UInt16 := []
  acParameterList : Table UInt8 AcParameterList := .empty
  acBptParameterList : Table UInt8 AcBptParameterList := .empty
  acDerParameterList : Table UInt8 AcDerParameterList := .empty
  dcParameterList : Table UInt8 DcParameterList := .empty
  dcBptParameterList : Table UInt8 DcBptParameterList := .empty
  mcsParameterList : Table UInt8 McsParameterList := .empty
  mcsBptParameterList : Table UInt8 McsBptParameterList := .empty
  internetParameterList : Table UInt8 InternetParameterList := .empty
  parkingParameterList : Table UInt8 ParkingParameterList := .empty
  customVasList : Table UInt16 (List UInt16) := .empty

inductive ConnectorVariant where
  | ac (connector : AcConnector)
  | dc (connector : DcConnector)
  | mcs (connector : McsConnector)
  deriving DecidableEq

structure SelectedServiceParameters where
  selectedEnergyService : ServiceCategory := ⟨0⟩
  selectedConnector : ConnectorVariant := .ac .unset
  selectedControlMode : ControlMode := .unset
  selectedMobilityNeedsMode : MobilityNeedsMode := .unset
  selectedPricing : Pricing := .noPricing
  selectedBptChannel : Option BptChannel := none
  selectedGeneratorMode : Option GeneratorMode := none
  selectedDerControlFunctions : Option DerControlFunctions := none
  evseNominalVoltage : Option ℚ := none
  selectedGridCodeMethod : Option GridCodeIslandingDetectionMethod := none
  deriving DecidableEq

structure SelectedVasParameter where
  vasServices : List ServiceCategory := []
  internetProtocol : Protocol := .ftp
  internetPort : Port := {}
  parkingIntendedService : IntendedService := {}
  parkingStatus : ParkingStatus := {}

structure PauseContext where
  vehicleCertSessionIdHash : Sha512Hash := Vector.replicate 64 0
  oldSessionId : SessionId := Vector.replicate 8 0
  selectedServiceParameters : SelectedServiceParameters := {}
  deriving DecidableEq

structure Session where
  id : SessionId
  offeredServices : OfferedServices := {}
  serviceRenegotiationSupported : Bool := false
  selectedServices : SelectedServiceParameters := {}
  selectedVasServices : SelectedVasParameter := {}

namespace Session

/-- `Session()`, with the id that `generate_session_id` drew. -/
def new (id : SessionId) : Session := { id }

/-- `Session(const PauseContext&)` -/
def ofPauseContext (pauseCtx : PauseContext) : Session :=
  { id := pauseCtx.oldSessionId, selectedServices := pauseCtx.selectedServiceParameters }

def isAcCharger (session : Session) : Bool :=
  session.selectedServices.selectedEnergyService = .ac ||
    session.selectedServices.selectedEnergyService = .acBpt ||
    session.selectedServices.selectedEnergyService = .acDer

def isDcCharger (session : Session) : Bool :=
  session.selectedServices.selectedEnergyService = .dc ||
    session.selectedServices.selectedEnergyService = .dcBpt ||
    session.selectedServices.selectedEnergyService = .mcs ||
    session.selectedServices.selectedEnergyService = .mcsBpt

-- The maps are keyed by `uint8_t`, so the looked-up id loses its upper byte.
def findEnergyParameterSetId (session : Session) (service : ServiceCategory) (id : UInt16) : Bool :=
  let offered := session.offeredServices
  let key := id.toUInt8
  if service = .ac then offered.acParameterList.contains key
  else if service = .acBpt then offered.acBptParameterList.contains key
  else if service = .acDer then offered.acDerParameterList.contains key
  else if service = .dc then offered.dcParameterList.contains key
  else if service = .dcBpt then offered.dcBptParameterList.contains key
  else if service = .mcs then offered.mcsParameterList.contains key
  else if service = .mcsBpt then offered.mcsBptParameterList.contains key
  else false

def findVasParameterSetId (session : Session) (vasService : UInt16) (id : UInt16) : Bool :=
  let offered := session.offeredServices
  let key := id.toUInt8
  if vasService = ServiceCategory.internet.value then offered.internetParameterList.contains key
  else if vasService = ServiceCategory.parkingStatus.value then
    offered.parkingParameterList.contains key
  else
    match offered.customVasList vasService with
    | none => false
    -- `offered_id == id` compares a `uint16_t` with an `int16_t` as ints
    | some ids => ids.any fun offeredId => (offeredId.toNat : Int) = id.toInt16.toInt

def selectedOfAc (parameters : AcParameterList) : SelectedServiceParameters :=
  { selectedEnergyService := .ac
    selectedConnector := .ac parameters.connector
    selectedControlMode := parameters.controlMode
    selectedMobilityNeedsMode := parameters.mobilityNeedsMode
    selectedPricing := parameters.pricing
    evseNominalVoltage := some (floatOfUInt32 parameters.evseNominalVoltage) }

def selectedOfAcBpt (parameters : AcBptParameterList) : SelectedServiceParameters :=
  { selectedOfAc parameters.toAcParameterList with
    selectedEnergyService := .acBpt
    selectedBptChannel := some parameters.bptChannel
    selectedGeneratorMode := some parameters.generatorMode
    selectedGridCodeMethod := some parameters.gridCodeDetectionMethod }

def selectedOfAcDer (parameters : AcDerParameterList) : SelectedServiceParameters :=
  { selectedOfAcBpt parameters.toAcBptParameterList with
    selectedEnergyService := .acDer
    selectedDerControlFunctions := some parameters.controlFunctions }

def selectedOfDc (parameters : DcParameterList) : SelectedServiceParameters :=
  { selectedEnergyService := .dc
    selectedConnector := .dc parameters.connector
    selectedControlMode := parameters.controlMode
    selectedMobilityNeedsMode := parameters.mobilityNeedsMode
    selectedPricing := parameters.pricing }

def selectedOfDcBpt (parameters : DcBptParameterList) : SelectedServiceParameters :=
  { selectedOfDc parameters.toDcParameterList with
    selectedEnergyService := .dcBpt
    selectedBptChannel := some parameters.bptChannel
    selectedGeneratorMode := some parameters.generatorMode }

def selectedOfMcs (parameters : McsParameterList) : SelectedServiceParameters :=
  { selectedEnergyService := .mcs
    selectedConnector := .mcs parameters.connector
    selectedControlMode := parameters.controlMode
    selectedMobilityNeedsMode := parameters.mobilityNeedsMode
    selectedPricing := parameters.pricing }

def selectedOfMcsBpt (parameters : McsBptParameterList) : SelectedServiceParameters :=
  { selectedOfMcs parameters.toMcsParameterList with
    selectedEnergyService := .mcsBpt
    selectedBptChannel := some parameters.bptChannel
    selectedGeneratorMode := some parameters.generatorMode }

/-- The parameter set that `selected_service_parameters(ServiceCategory, uint16_t)` would install;
`none` when the id is unknown or the service is not supported. -/
def selectableParameters (offered : OfferedServices) (service : ServiceCategory) (key : UInt8) :
    Option SelectedServiceParameters :=
  if service = .ac then (offered.acParameterList key).map selectedOfAc
  else if service = .acBpt then (offered.acBptParameterList key).map selectedOfAcBpt
  else if service = .acDer then (offered.acDerParameterList key).map selectedOfAcDer
  else if service = .dc then (offered.dcParameterList key).map selectedOfDc
  else if service = .dcBpt then (offered.dcBptParameterList key).map selectedOfDcBpt
  else if service = .mcs then (offered.mcsParameterList key).map selectedOfMcs
  else if service = .mcsBpt then (offered.mcsBptParameterList key).map selectedOfMcsBpt
  else none

def selectServiceParameters (session : Session) (service : ServiceCategory) (id : UInt16) : Session :=
  match selectableParameters session.offeredServices service id.toUInt8 with
  | none => session
  | some selected => { session with selectedServices := selected }

/-- `selected_service_parameters(uint16_t, uint16_t)` -/
def selectVasParameters (session : Session) (vasService : UInt16) (id : UInt16) : Session :=
  let vas := session.selectedVasServices
  let key := id.toUInt8
  if vasService = ServiceCategory.internet.value then
    match session.offeredServices.internetParameterList key with
    | none => session
    | some parameters =>
        { session with
          selectedVasServices :=
            { vas with
              vasServices := vas.vasServices ++ [.internet]
              internetPort := parameters.port
              internetProtocol := parameters.protocol } }
  else if vasService = ServiceCategory.parkingStatus.value then
    match session.offeredServices.parkingParameterList key with
    | none => session
    | some parameters =>
        { session with
          selectedVasServices :=
            { vas with
              vasServices := vas.vasServices ++ [.parkingStatus]
              parkingIntendedService := parameters.intendedService
              parkingStatus := parameters.parkingStatus } }
  else session

@[simp] theorem selectServiceParameters_id (session : Session) (service : ServiceCategory)
    (id : UInt16) : (session.selectServiceParameters service id).id = session.id := by
  unfold selectServiceParameters
  split <;> rfl

@[simp] theorem selectVasParameters_id (session : Session) (service : UInt16) (id : UInt16) :
    (session.selectVasParameters service id).id = session.id := by
  simp only [selectVasParameters]
  repeat' split
  all_goals rfl

@[simp] theorem selectVasParameters_selectedServices (session : Session) (service : UInt16)
    (id : UInt16) :
    (session.selectVasParameters service id).selectedServices = session.selectedServices := by
  simp only [selectVasParameters]
  repeat' split
  all_goals rfl

@[simp] theorem ofPauseContext_id (pauseCtx : PauseContext) :
    (ofPauseContext pauseCtx).id = pauseCtx.oldSessionId := rfl

@[simp] theorem ofPauseContext_selectedServices (pauseCtx : PauseContext) :
    (ofPauseContext pauseCtx).selectedServices = pauseCtx.selectedServiceParameters := rfl

@[simp] theorem new_id (id : SessionId) : (new id).id = id := rfl

end Session

end LibIso15118
