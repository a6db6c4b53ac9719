import LibIso15118.Codec.CommonTypes

set_option autoImplicit false

namespace LibIso15118

open Datatypes Codec

namespace Iso20.Dc

structure DcCpdReqEnergyTransferModeType where
  evMaximumChargePower : RationalNumberType
  evMinimumChargePower : RationalNumberType
  evMaximumChargeCurrent : RationalNumberType
  evMinimumChargeCurrent : RationalNumberType
  evMaximumVoltage : RationalNumberType
  evMinimumVoltage : RationalNumberType
  targetSoc : Used UInt8
  deriving Inhabited

structure BptDcCpdReqEnergyTransferModeType extends DcCpdReqEnergyTransferModeType where
  evMaximumDischargePower : RationalNumberType
  evMinimumDischargePower : RationalNumberType
  evMaximumDischargeCurrent : RationalNumberType
  evMinimumDischargeCurrent : RationalNumberType
  deriving Inhabited

structure DcChargeParameterDiscoveryReqType where
  header : MessageHeaderType
  dcCpdReqEnergyTransferMode : Used DcCpdReqEnergyTransferModeType
  bptDcCpdReqEnergyTransferMode : Used BptDcCpdReqEnergyTransferModeType
  deriving Inhabited

structure DcCpdResEnergyTransferModeType where
  evseMaximumChargePower : RationalNumberType
  evseMinimumChargePower : RationalNumberType
  evseMaximumChargeCurrent : RationalNumberType
  evseMinimumChargeCurrent : RationalNumberType
  evseMaximumVoltage : RationalNumberType
  evseMinimumVoltage : RationalNumberType
  evsePowerRampLimitation : Used RationalNumberType
  deriving Inhabited

structure BptDcCpdResEnergyTransferModeType extends DcCpdResEnergyTransferModeType where
  evseMaximumDischargePower : RationalNumberType
  evseMinimumDischargePower : RationalNumberType
  evseMaximumDischargeCurrent : RationalNumberType
  evseMinimumDischargeCurrent : RationalNumberType
  deriving Inhabited

structure DcChargeParameterDiscoveryResType where
  header : MessageHeaderType
  responseCode : Int32
  dcCpdResEnergyTransferMode : Used DcCpdResEnergyTransferModeType
  bptDcCpdResEnergyTransferMode : Used BptDcCpdResEnergyTransferModeType
  deriving Inhabited

-- The functions `init_iso20_dc_…`.
def DcCpdReqEnergyTransferModeType.init (out : DcCpdReqEnergyTransferModeType) : DcCpdReqEnergyTransferModeType :=
  { out with targetSoc := out.targetSoc.clear id }

def BptDcCpdReqEnergyTransferModeType.init (out : BptDcCpdReqEnergyTransferModeType) :
    BptDcCpdReqEnergyTransferModeType :=
  { out with toDcCpdReqEnergyTransferModeType := out.toDcCpdReqEnergyTransferModeType.init }

def DcChargeParameterDiscoveryReqType.init (out : DcChargeParameterDiscoveryReqType) :
    DcChargeParameterDiscoveryReqType :=
  { out with
    dcCpdReqEnergyTransferMode := out.dcCpdReqEnergyTransferMode.clear (·.init)
    bptDcCpdReqEnergyTransferMode := out.bptDcCpdReqEnergyTransferMode.clear (·.init) }

def DcCpdResEnergyTransferModeType.init (out : DcCpdResEnergyTransferModeType) : DcCpdResEnergyTransferModeType :=
  { out with evsePowerRampLimitation := out.evsePowerRampLimitation.clear id }

def BptDcCpdResEnergyTransferModeType.init (out : BptDcCpdResEnergyTransferModeType) :
    BptDcCpdResEnergyTransferModeType :=
  { out with toDcCpdResEnergyTransferModeType := out.toDcCpdResEnergyTransferModeType.init }

def DcChargeParameterDiscoveryResType.init (out : DcChargeParameterDiscoveryResType) :
    DcChargeParameterDiscoveryResType :=
  { out with
    dcCpdResEnergyTransferMode := out.dcCpdResEnergyTransferMode.clear (·.init)
    bptDcCpdResEnergyTransferMode := out.bptDcCpdResEnergyTransferMode.clear (·.init) }

-- From the generated records.
def DcCpdReqEnergyTransferModeType.convert (mode : DcCpdReqEnergyTransferModeType) : DcCpdReqEnergyTransferMode :=
  { maxChargePower := mode.evMaximumChargePower.convert
    minChargePower := mode.evMinimumChargePower.convert
    maxChargeCurrent := mode.evMaximumChargeCurrent.convert
    minChargeCurrent := mode.evMinimumChargeCurrent.convert
    maxVoltage := mode.evMaximumVoltage.convert
    minVoltage := mode.evMinimumVoltage.convert
    targetSoc := cb2cppAssignIfUsed mode.targetSoc }

def BptDcCpdReqEnergyTransferModeType.convert (mode : BptDcCpdReqEnergyTransferModeType) :
    BptDcCpdReqEnergyTransferMode :=
  { toDcCpdReqEnergyTransferMode := mode.toDcCpdReqEnergyTransferModeType.convert
    maxDischargePower := mode.evMaximumDischargePower.convert
    minDischargePower := mode.evMinimumDischargePower.convert
    maxDischargeCurrent := mode.evMaximumDischargeCurrent.convert
    minDischargeCurrent := mode.evMinimumDischargeCurrent.convert }

def DcChargeParameterDiscoveryReqType.transferMode (req : DcChargeParameterDiscoveryReqType) : DcCpdReqTransferMode :=
  if req.dcCpdReqEnergyTransferMode.isUsed then .dc req.dcCpdReqEnergyTransferMode.value.convert
  else if req.bptDcCpdReqEnergyTransferMode.isUsed then .bpt req.bptDcCpdReqEnergyTransferMode.value.convert
  -- "fail, should not happen": a variant is made with its first alternative
  else .dc {}

def DcChargeParameterDiscoveryReqType.convert (req : DcChargeParameterDiscoveryReqType) :
    Except Fault DcChargeParameterDiscoveryRequest := do
  let header ← req.header.convert
  return { header, transferMode := req.transferMode }

def DcCpdResEnergyTransferModeType.convert (mode : DcCpdResEnergyTransferModeType) : DcCpdResEnergyTransferMode :=
  { maxChargePower := mode.evseMaximumChargePower.convert
    minChargePower := mode.evseMinimumChargePower.convert
    maxChargeCurrent := mode.evseMaximumChargeCurrent.convert
    minChargeCurrent := mode.evseMinimumChargeCurrent.convert
    maxVoltage := mode.evseMaximumVoltage.convert
    minVoltage := mode.evseMinimumVoltage.convert
    powerRampLimit := cb2cppConvertIfUsed mode.evsePowerRampLimitation }

def BptDcCpdResEnergyTransferModeType.convert (mode : BptDcCpdResEnergyTransferModeType) :
    BptDcCpdResEnergyTransferMode :=
  { toDcCpdResEnergyTransferMode := mode.toDcCpdResEnergyTransferModeType.convert
    maxDischargePower := mode.evseMaximumDischargePower.convert
    minDischargePower := mode.evseMinimumDischargePower.convert
    maxDischargeCurrent := mode.evseMaximumDischargeCurrent.convert
    minDischargeCurrent := mode.evseMinimumDischargeCurrent.convert }

def DcChargeParameterDiscoveryResType.transferMode (res : DcChargeParameterDiscoveryResType) : DcCpdResTransferMode :=
  if res.dcCpdResEnergyTransferMode.isUsed then .dc res.dcCpdResEnergyTransferMode.value.convert
  else if res.bptDcCpdResEnergyTransferMode.isUsed then .bpt res.bptDcCpdResEnergyTransferMode.value.convert
  else .dc {}

def DcChargeParameterDiscoveryResType.convert (res : DcChargeParameterDiscoveryResType) :
    Except Fault DcChargeParameterDiscoveryResponse := do
  let responseCode ← cppEnum res.responseCode
  let header ← res.header.convert
  return { header, responseCode, transferMode := res.transferMode }

end Iso20.Dc

-- To the generated records.

namespace Datatypes

/-- `ModeRequestVisitor::convert_common` -/
def DcCpdReqEnergyTransferMode.convert (mode : DcCpdReqEnergyTransferMode)
    (out : Iso20.Dc.DcCpdReqEnergyTransferModeType) : Iso20.Dc.DcCpdReqEnergyTransferModeType :=
  { evMaximumChargePower := mode.maxChargePower.convert
    evMinimumChargePower := mode.minChargePower.convert
    evMaximumChargeCurrent := mode.maxChargeCurrent.convert
    evMinimumChargeCurrent := mode.minChargeCurrent.convert
    evMaximumVoltage := mode.maxVoltage.convert
    evMinimumVoltage := mode.minVoltage.convert
    targetSoc := cpp2cbAssignIfUsed mode.targetSoc out.targetSoc }

def BptDcCpdReqEnergyTransferMode.convert (mode : BptDcCpdReqEnergyTransferMode)
    (out : Iso20.Dc.BptDcCpdReqEnergyTransferModeType) : Iso20.Dc.BptDcCpdReqEnergyTransferModeType :=
  { toDcCpdReqEnergyTransferModeType := mode.toDcCpdReqEnergyTransferMode.convert out.toDcCpdReqEnergyTransferModeType
    evMaximumDischargePower := mode.maxDischargePower.convert
    evMinimumDischargePower := mode.minDischargePower.convert
    evMaximumDischargeCurrent := mode.maxDischargeCurrent.convert
    evMinimumDischargeCurrent := mode.minDischargeCurrent.convert }

/-- `ModeRequestVisitor` -/
def DcCpdReqTransferMode.convert (mode : DcCpdReqTransferMode) (req : Iso20.Dc.DcChargeParameterDiscoveryReqType) :
    Iso20.Dc.DcChargeParameterDiscoveryReqType :=
  match mode with
  | .dc mode => {
      req with dcCpdReqEnergyTransferMode := req.dcCpdReqEnergyTransferMode.set (mode.convert ·.init) }
  | .bpt mode => {
      req with bptDcCpdReqEnergyTransferMode := req.bptDcCpdReqEnergyTransferMode.set (mode.convert ·.init) }

/-- `ModeResponseVisitor::convert_common` -/
def DcCpdResEnergyTransferMode.convert (mode : DcCpdResEnergyTransferMode)
    (out : Iso20.Dc.DcCpdResEnergyTransferModeType) : Iso20.Dc.DcCpdResEnergyTransferModeType :=
  { evseMaximumChargePower := mode.maxChargePower.convert
    evseMinimumChargePower := mode.minChargePower.convert
    evseMaximumChargeCurrent := mode.maxChargeCurrent.convert
    evseMinimumChargeCurrent := mode.minChargeCurrent.convert
    evseMaximumVoltage := mode.maxVoltage.convert
    evseMinimumVoltage := mode.minVoltage.convert
    evsePowerRampLimitation := cpp2cbConvertIfUsed mode.powerRampLimit out.evsePowerRampLimitation }

def BptDcCpdResEnergyTransferMode.convert (mode : BptDcCpdResEnergyTransferMode)
    (out : Iso20.Dc.BptDcCpdResEnergyTransferModeType) : Iso20.Dc.BptDcCpdResEnergyTransferModeType :=
  { toDcCpdResEnergyTransferModeType := mode.toDcCpdResEnergyTransferMode.convert out.toDcCpdResEnergyTransferModeType
    evseMaximumDischargePower := mode.maxDischargePower.convert
    evseMinimumDischargePower := mode.minDischargePower.convert
    evseMaximumDischargeCurrent := mode.maxDischargeCurrent.convert
    evseMinimumDischargeCurrent := mode.minDischargeCurrent.convert }

/-- `ModeResponseVisitor` -/
def DcCpdResTransferMode.convert (mode : DcCpdResTransferMode) (res : Iso20.Dc.DcChargeParameterDiscoveryResType) :
    Iso20.Dc.DcChargeParameterDiscoveryResType :=
  match mode with
  | .dc mode => {
      res with dcCpdResEnergyTransferMode := res.dcCpdResEnergyTransferMode.set (mode.convert ·.init) }
  | .bpt mode => {
      res with bptDcCpdResEnergyTransferMode := res.bptDcCpdResEnergyTransferMode.set (mode.convert ·.init) }

end Datatypes

def DcChargeParameterDiscoveryRequest.convert (req : DcChargeParameterDiscoveryRequest)
    (out : Iso20.Dc.DcChargeParameterDiscoveryReqType) : Iso20.Dc.DcChargeParameterDiscoveryReqType :=
  { req.transferMode.convert out.init with header := req.header.convert }

def DcChargeParameterDiscoveryResponse.convert (res : DcChargeParameterDiscoveryResponse)
    (out : Iso20.Dc.DcChargeParameterDiscoveryResType) : Iso20.Dc.DcChargeParameterDiscoveryResType :=
  res.transferMode.convert
    { out.init with header := res.header.convert, responseCode := cbEnum res.responseCode }

namespace Datatypes

@[simp] theorem DcCpdReqEnergyTransferMode.convert_convert (mode : DcCpdReqEnergyTransferMode)
    (out : Iso20.Dc.DcCpdReqEnergyTransferModeType) : (mode.convert out).convert = mode := by
  simp [DcCpdReqEnergyTransferMode.convert, Iso20.Dc.DcCpdReqEnergyTransferModeType.convert]

@[simp] theorem BptDcCpdReqEnergyTransferMode.convert_convert (mode : BptDcCpdReqEnergyTransferMode)
    (out : Iso20.Dc.BptDcCpdReqEnergyTransferModeType) : (mode.convert out).convert = mode := by
  simp [BptDcCpdReqEnergyTransferMode.convert, Iso20.Dc.BptDcCpdReqEnergyTransferModeType.convert]

@[simp] theorem DcCpdResEnergyTransferMode.convert_convert (mode : DcCpdResEnergyTransferMode)
    (out : Iso20.Dc.DcCpdResEnergyTransferModeType) : (mode.convert out).convert = mode := by
  simp [DcCpdResEnergyTransferMode.convert, Iso20.Dc.DcCpdResEnergyTransferModeType.convert]

@[simp] theorem BptDcCpdResEnergyTransferMode.convert_convert (mode : BptDcCpdResEnergyTransferMode)
    (out : Iso20.Dc.BptDcCpdResEnergyTransferModeType) : (mode.convert out).convert = mode := by
  simp [BptDcCpdResEnergyTransferMode.convert, Iso20.Dc.BptDcCpdResEnergyTransferModeType.convert]

end Datatypes

theorem DcChargeParameterDiscoveryRequest.convert_convert (req : DcChargeParameterDiscoveryRequest)
    (out : Iso20.Dc.DcChargeParameterDiscoveryReqType) : (req.convert out).convert = .ok req := by
  obtain ⟨header, transferMode⟩ := req
  cases transferMode <;>
    simp [DcChargeParameterDiscoveryRequest.convert, Iso20.Dc.DcChargeParameterDiscoveryReqType.convert,
      DcCpdReqTransferMode.convert, Iso20.Dc.DcChargeParameterDiscoveryReqType.transferMode,
      Iso20.Dc.DcChargeParameterDiscoveryReqType.init, Used.set]

theorem DcChargeParameterDiscoveryResponse.convert_convert (res : DcChargeParameterDiscoveryResponse)
    (out : Iso20.Dc.DcChargeParameterDiscoveryResType) : (res.convert out).convert = .ok res := by
  obtain ⟨header, responseCode, transferMode⟩ := res
  cases transferMode <;>
    simp [DcChargeParameterDiscoveryResponse.convert, Iso20.Dc.DcChargeParameterDiscoveryResType.convert,
      DcCpdResTransferMode.convert, Iso20.Dc.DcChargeParameterDiscoveryResType.transferMode,
      Iso20.Dc.DcChargeParameterDiscoveryResType.init, Used.set, bind_eq_ok]

end LibIso15118
