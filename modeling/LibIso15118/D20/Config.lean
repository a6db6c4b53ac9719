import LibIso15118.D20.AcDerControl

set_option autoImplicit false

namespace LibIso15118

open Datatypes

structure Limit (α : Type) where
  max : α
  min : α
  deriving DecidableEq

structure Limits where
  power : Limit RationalNumber
  current : Limit RationalNumber
  deriving DecidableEq

structure DcTransferLimits where
  chargeLimits : Limits
  dischargeLimits : Option Limits := none
  voltage : Limit RationalNumber
  powerRampLimit : Option RationalNumber := none
  deriving DecidableEq

structure AcTransferLimits where
  chargePower : Limit RationalNumber
  chargePowerL2 : Option (Limit RationalNumber) := none
  chargePowerL3 : Option (Limit RationalNumber) := none
  nominalFrequency : RationalNumber
  maxPowerAsymmetry : Option RationalNumber := none
  powerRampLimitation : Option RationalNumber := none
  dischargePower : Option (Limit RationalNumber) := none
  dischargePowerL2 : Option (Limit RationalNumber) := none
  dischargePowerL3 : Option (Limit RationalNumber) := none
  deriving DecidableEq

structure ControlMobilityNeedsModes where
  controlMode : ControlMode
  mobilityMode : MobilityNeedsMode
  deriving DecidableEq

structure AcSetupConfig where
  voltage : UInt32
  connectors : List AcConnector

structure BptSetupConfig where
  bptChannel : BptChannel
  generatorMode : GeneratorMode
  gridCodeDetectionMethod : Option GridCodeIslandingDetectionMethod

structure EvseSetupConfig where
  evseId : StdString
  supportedEnergyServices : List ServiceCategory
  authorizationServices : List Authorization
  supportedVasServices : List UInt16
  enableCertificateInstallService : Bool
  dcLimits : DcTransferLimits
  acLimits : AcTransferLimits
  controlMobilityModes : List ControlMobilityNeedsModes
  customProtocol : Option StdString := none
  acSetupConfig : Option AcSetupConfig := none
  bptSetupConfig : Option BptSetupConfig := none
  powersupplyLimits : DcTransferLimits
  acDerControlConfig : Option AcDerControlConfig := none
  acDerControlProvider : Option AcDerControlProvider := none

structure SessionConfig where
  evseId : StdString
  certInstallService : Bool
  authorizationServices : List Authorization
  supportedEnergyTransferServices : List ServiceCategory
  supportedVasServices : List UInt16
  acParameterList : List AcParameterList
  acBptParameterList : List AcBptParameterList
  acDerParameterList : List AcDerParameterList
  dcParameterList : List DcParameterList
  dcBptParameterList : List DcBptParameterList
  mcsParameterList : List McsParameterList
  mcsBptParameterList : List McsBptParameterList
  internetParameterList : List InternetParameterList := []
  parkingParameterList : List ParkingParameterList := []
  dcLimits : DcTransferLimits
  acLimits : AcTransferLimits
  acDerControlConfig : AcDerControlConfig
  acDerControlProvider : AcDerControlProvider
  powersupplyLimits : DcTransferLimits
  supportedControlMobilityModes : List ControlMobilityNeedsModes
  customProtocol : Option StdString

def getMobilityNeedsMode (mode : ControlMobilityNeedsModes) : MobilityNeedsMode :=
  if mode.controlMode = .scheduled ∧ mode.mobilityMode = .providedBySecc then .providedByEvcc
  else mode.mobilityMode

/-- One parameter set for every mode and every connector, modes in the outer loop. -/
def getDefaultAcParameterList (modes : List ControlMobilityNeedsModes) (ac : AcSetupConfig) :
    List AcParameterList :=
  modes.flatMap fun mode => ac.connectors.map fun connector =>
    { connector
      controlMode := mode.controlMode
      mobilityNeedsMode := getMobilityNeedsMode mode
      evseNominalVoltage := ac.voltage
      pricing := .noPricing }

def getDefaultAcBptParameterList (modes : List ControlMobilityNeedsModes) (ac : AcSetupConfig)
    (bpt : BptSetupConfig) : List AcBptParameterList :=
  (getDefaultAcParameterList modes ac).map fun list =>
    { list with
      bptChannel := bpt.bptChannel
      generatorMode := bpt.generatorMode
      gridCodeDetectionMethod := bpt.gridCodeDetectionMethod.getD .passive }

def getDefaultDerControlFunctions : DerControlFunctions :=
  { standardBitmap := 0x3f
    extendedBitmap := 0x3f
    voltWatt := true
    dsoQSetpointProvision := true
    dsoCosPhiSetpointProvision := true
    dcInjectionRestriction := true
    underFrequencyWatt := true
    overFrequencyWatt := true
    voltVar := true
    wattVar := true
    wattCosPhi := true
    overVoltageFaultRideThrough := true
    underVoltageFaultRideThrough := true
    zeroCurrent := true }

def getDefaultAcDerParameterList (modes : List ControlMobilityNeedsModes) (ac : AcSetupConfig)
    (bpt : BptSetupConfig) : List AcDerParameterList :=
  (getDefaultAcBptParameterList modes ac bpt).map fun list =>
    { list with controlFunctions := getDefaultDerControlFunctions }

def getDefaultDcParameterList (modes : List ControlMobilityNeedsModes) : List DcParameterList :=
  modes.map fun mode =>
    { connector := .extended
      controlMode := mode.controlMode
      mobilityNeedsMode := getMobilityNeedsMode mode
      pricing := .noPricing }

def getDefaultDcBptParameterList (modes : List ControlMobilityNeedsModes) (bpt : BptSetupConfig) :
    List DcBptParameterList :=
  (getDefaultDcParameterList modes).map fun list =>
    { list with bptChannel := bpt.bptChannel, generatorMode := bpt.generatorMode }

def getDefaultMcsParameterList (modes : List ControlMobilityNeedsModes) : List McsParameterList :=
  modes.map fun mode =>
    { connector := .mcs
      controlMode := mode.controlMode
      mobilityNeedsMode := getMobilityNeedsMode mode
      pricing := .noPricing }

def getDefaultMcsBptParameterList (modes : List ControlMobilityNeedsModes) (bpt : BptSetupConfig) :
    List McsBptParameterList :=
  (getDefaultMcsParameterList modes).map fun list =>
    { list with bptChannel := bpt.bptChannel, generatorMode := bpt.generatorMode }

/-- The constructor `SessionConfig(EvseSetupConfig)`. -/
def SessionConfig.ofSetup (config : EvseSetupConfig) : SessionConfig :=
  let acDerControlConfig := config.acDerControlConfig.getD makeDefaultAcDerControlConfig
  let modes : List ControlMobilityNeedsModes :=
    if config.controlMobilityModes = [] then [⟨.scheduled, .providedByEvcc⟩]
    else config.controlMobilityModes
  let ac := config.acSetupConfig.getD ⟨230, [.singlePhase]⟩
  let acBpt := config.bptSetupConfig.getD ⟨.unified, .gridFollowing, some .passive⟩
  let dcBpt := config.bptSetupConfig.getD ⟨.unified, .gridFollowing, none⟩
  { evseId := config.evseId
    certInstallService := config.enableCertificateInstallService
    authorizationServices := config.authorizationServices
    supportedEnergyTransferServices := config.supportedEnergyServices
    supportedVasServices := config.supportedVasServices
    acParameterList := getDefaultAcParameterList modes ac
    acBptParameterList := getDefaultAcBptParameterList modes ac acBpt
    acDerParameterList := getDefaultAcDerParameterList modes ac acBpt
    dcParameterList := getDefaultDcParameterList modes
    dcBptParameterList := getDefaultDcBptParameterList modes dcBpt
    mcsParameterList := getDefaultMcsParameterList modes
    mcsBptParameterList := getDefaultMcsBptParameterList modes dcBpt
    dcLimits := config.dcLimits
    acLimits := config.acLimits
    acDerControlConfig
    acDerControlProvider :=
      config.acDerControlProvider.getD (staticAcDerControlProvider acDerControlConfig)
    powersupplyLimits := config.powersupplyLimits
    supportedControlMobilityModes := modes
    customProtocol := config.customProtocol }

end LibIso15118
