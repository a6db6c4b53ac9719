import LibIso15118.Codec.AcChargeLoopRequest
import LibIso15118.Codec.AcChargeLoopResponse
import LibIso15118.Codec.AcChargeParameterDiscovery
import LibIso15118.Codec.AppProtocol
import LibIso15118.Codec.DcChargeLoop
import LibIso15118.Codec.DcChargeParameterDiscovery
import LibIso15118.Codec.DcPreparation
import LibIso15118.Codec.ScheduleExchange
import LibIso15118.Codec.Services
import LibIso15118.Codec.Session

set_option autoImplicit false

namespace LibIso15118

open Datatypes Codec

structure DocumentCapacities where
  appProtocol : AppProtocolCapacities
  session : SessionCapacities
  services : ServiceCapacities
  schedules : ScheduleCapacities
  dcMetering : MeteringCapacities
  acMetering : MeteringCapacities
  curvePoints : Nat

-- `unhandled` stands for the messages that `Variant` does not look for.
inductive AppHandExiDocument (capacities : DocumentCapacities) where
  | supportedAppProtocolReq (req : AppHand.SupportedAppProtocolReqType capacities.appProtocol)
  | unhandled

inductive Iso20ExiDocument (capacities : DocumentCapacities) where
  | sessionSetupReq (req : Iso20.SessionSetupReqType capacities.session)
  | sessionSetupRes (res : Iso20.SessionSetupResType capacities.session)
  | authorizationSetupReq (req : Iso20.AuthorizationSetupReqType)
  | authorizationSetupRes (res : Iso20.AuthorizationSetupResType capacities.session)
  | authorizationReq (req : Iso20.AuthorizationReqType capacities.session)
  | authorizationRes (res : Iso20.AuthorizationResType)
  | serviceDiscoveryReq (req : Iso20.ServiceDiscoveryReqType capacities.services)
  | serviceDiscoveryRes (res : Iso20.ServiceDiscoveryResType capacities.services)
  | serviceDetailReq (req : Iso20.ServiceDetailReqType)
  | serviceDetailRes (res : Iso20.ServiceDetailResType capacities.services)
  | serviceSelectionReq (req : Iso20.ServiceSelectionReqType capacities.services)
  | serviceSelectionRes (res : Iso20.ServiceSelectionResType)
  | scheduleExchangeReq (req : Iso20.ScheduleExchangeReqType capacities.schedules)
  | scheduleExchangeRes (res : Iso20.ScheduleExchangeResType capacities.schedules)
  | powerDeliveryReq (req : Iso20.PowerDeliveryReqType capacities.session)
  | powerDeliveryRes (res : Iso20.PowerDeliveryResType)
  | sessionStopReq (req : Iso20.SessionStopReqType capacities.session)
  | sessionStopRes (res : Iso20.SessionStopResType)
  | unhandled

inductive Iso20DcExiDocument (capacities : DocumentCapacities) where
  | chargeParameterDiscoveryReq (req : Iso20.Dc.DcChargeParameterDiscoveryReqType)
  | chargeParameterDiscoveryRes (res : Iso20.Dc.DcChargeParameterDiscoveryResType)
  | cableCheckReq (req : Iso20.Dc.DcCableCheckReqType)
  | cableCheckRes (res : Iso20.Dc.DcCableCheckResType)
  | preChargeReq (req : Iso20.Dc.DcPreChargeReqType)
  | preChargeRes (res : Iso20.Dc.DcPreChargeResType)
  | chargeLoopReq (req : Iso20.Dc.DcChargeLoopReqType)
  | chargeLoopRes (res : Iso20.Dc.DcChargeLoopResType capacities.dcMetering)
  | weldingDetectionReq (req : Iso20.Dc.DcWeldingDetectionReqType)
  | weldingDetectionRes (res : Iso20.Dc.DcWeldingDetectionResType)
  | unhandled

inductive Iso20AcExiDocument (capacities : DocumentCapacities) where
  | chargeParameterDiscoveryReq (req : Iso20.Ac.AcChargeParameterDiscoveryReqType)
  | chargeParameterDiscoveryRes (res : Iso20.Ac.AcChargeParameterDiscoveryResType capacities.curvePoints)
  | chargeLoopReq (req : Iso20.Ac.AcChargeLoopReqType)
  | chargeLoopRes (res : Iso20.Ac.AcChargeLoopResType capacities.acMetering)
  | unhandled

/-- The generated decoders. A status other than 0 is `none`. -/
structure ExiDecoders (capacities : DocumentCapacities) where
  appHand : List UInt8 → Option (AppHandExiDocument capacities)
  iso20 : List UInt8 → Option (Iso20ExiDocument capacities)
  iso20Dc : List UInt8 → Option (Iso20DcExiDocument capacities)
  iso20Ac : List UInt8 → Option (Iso20AcExiDocument capacities)

/-- `io::v2gtp::PayloadType` -/
def payloadTypeSap : UInt16 := 0x8001
def payloadTypePart20Main : UInt16 := 0x8002
def payloadTypePart20Ac : UInt16 := 0x8003
def payloadTypePart20Dc : UInt16 := 0x8004

variable {capacities : DocumentCapacities}

def handleSap : Option (AppHandExiDocument capacities) → Except Fault Variant
  | some (.supportedAppProtocolReq req) => do return .request (.supportedAppProtocol (← req.convert))
  | some .unhandled | none => return .none

/-- The response code that a new `SessionSetupRes` holds is left in it. -/
def handleMain : Option (Iso20ExiDocument capacities) → Except Fault Variant
  | some (.sessionSetupReq req) => do return .request (.sessionSetup (← req.convert))
  | some (.sessionSetupRes res) => do return .response (.sessionSetup (← res.convert .ok))
  | some (.authorizationSetupReq req) => do return .request (.authorizationSetup (← req.convert))
  | some (.authorizationSetupRes res) => do return .response (.authorizationSetup (← res.convert))
  | some (.authorizationReq req) => do return .request (.authorization (← req.convert))
  | some (.authorizationRes res) => do return .response (.authorization (← res.convert))
  | some (.serviceDiscoveryReq req) => do return .request (.serviceDiscovery (← req.convert))
  | some (.serviceDiscoveryRes res) => do return .response (.serviceDiscovery (← res.convert))
  | some (.serviceDetailReq req) => do return .request (.serviceDetail (← req.convert))
  | some (.serviceDetailRes res) => do return .response (.serviceDetail (← res.convert))
  | some (.serviceSelectionReq req) => do return .request (.serviceSelection (← req.convert))
  | some (.serviceSelectionRes res) => do return .response (.serviceSelection (← res.convert))
  | some (.scheduleExchangeReq req) => do return .request (.scheduleExchange (← req.convert))
  | some (.scheduleExchangeRes res) => do return .response (.scheduleExchange (← res.convert))
  | some (.powerDeliveryReq req) => do return .request (.powerDelivery (← req.convert))
  | some (.powerDeliveryRes res) => do return .response (.powerDelivery (← res.convert))
  | some (.sessionStopReq req) => do return .request (.sessionStop (← req.convert))
  | some (.sessionStopRes res) => do return .response (.sessionStop (← res.convert))
  | some .unhandled | none => return .none

def handleDc : Option (Iso20DcExiDocument capacities) → Except Fault Variant
  | some (.chargeParameterDiscoveryReq req) => do return .request (.dcChargeParameterDiscovery (← req.convert))
  | some (.chargeParameterDiscoveryRes res) => do return .response (.dcChargeParameterDiscovery (← res.convert))
  | some (.cableCheckReq req) => do return .request (.dcCableCheck (← req.convert))
  | some (.cableCheckRes res) => do return .response (.dcCableCheck (← res.convert))
  | some (.preChargeReq req) => do return .request (.dcPreCharge (← req.convert))
  | some (.preChargeRes res) => do return .response (.dcPreCharge (← res.convert))
  | some (.chargeLoopReq req) => do return .request (.dcChargeLoop (← req.convert))
  | some (.chargeLoopRes res) => do return .response (.dcChargeLoop (← res.convert))
  | some (.weldingDetectionReq req) => do return .request (.dcWeldingDetection (← req.convert))
  | some (.weldingDetectionRes res) => do return .response (.dcWeldingDetection (← res.convert))
  | some .unhandled | none => return .none

def handleAc : Option (Iso20AcExiDocument capacities) → Except Fault Variant
  | some (.chargeParameterDiscoveryReq req) => do return .request (.acChargeParameterDiscovery (← req.convert))
  | some (.chargeParameterDiscoveryRes res) => do return .response (.acChargeParameterDiscovery (← res.convert))
  | some (.chargeLoopReq req) => do return .request (.acChargeLoop (← req.convert))
  | some (.chargeLoopRes res) => do return .response (.acChargeLoop (← res.convert))
  | some .unhandled | none => return .none

/-- The constructor of `Variant`, which is empty after a payload of an unknown type. -/
def Variant.new (decoders : ExiDecoders capacities) (payloadType : UInt16) (payload : List UInt8) :
    Except Fault Variant :=
  if payloadType = payloadTypeSap then handleSap (decoders.appHand payload)
  else if payloadType = payloadTypePart20Main then handleMain (decoders.iso20 payload)
  else if payloadType = payloadTypePart20Dc then handleDc (decoders.iso20Dc payload)
  else if payloadType = payloadTypePart20Ac then handleAc (decoders.iso20Ac payload)
  else return .none

end LibIso15118
