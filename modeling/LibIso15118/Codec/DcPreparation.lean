import LibIso15118.Codec.CommonTypes

set_option autoImplicit false

namespace LibIso15118

open Datatypes Codec

namespace Iso20.Dc

structure DcCableCheckReqType where
  header : MessageHeaderType
  deriving Inhabited

structure DcCableCheckResType where
  header : MessageHeaderType
  responseCode : Int32
  evseProcessing : Int32
  deriving Inhabited

structure DcPreChargeReqType where
  header : MessageHeaderType
  evProcessing : Int32
  evPresentVoltage : RationalNumberType
  evTargetVoltage : RationalNumberType
  deriving Inhabited

structure DcPreChargeResType where
  header : MessageHeaderType
  responseCode : Int32
  evsePresentVoltage : RationalNumberType
  deriving Inhabited

structure DcWeldingDetectionReqType where
  header : MessageHeaderType
  evProcessing : Int32
  deriving Inhabited

structure DcWeldingDetectionResType where
  header : MessageHeaderType
  responseCode : Int32
  evsePresentVoltage : RationalNumberType
  deriving Inhabited

def DcCableCheckReqType.convert (req : DcCableCheckReqType) : Except Fault DcCableCheckRequest := do
  let header ← req.header.convert
  return { header }

def DcCableCheckResType.convert (res : DcCableCheckResType) : Except Fault DcCableCheckResponse := do
  let responseCode ← cppEnum res.responseCode
  let processing ← cppEnum res.evseProcessing
  let header ← res.header.convert
  return { header, responseCode, processing }

def DcPreChargeReqType.convert (req : DcPreChargeReqType) : Except Fault DcPreChargeRequest := do
  let header ← req.header.convert
  let processing ← cppEnum req.evProcessing
  return {
    header
    processing
    presentVoltage := req.evPresentVoltage.convert
    targetVoltage := req.evTargetVoltage.convert }

def DcPreChargeResType.convert (res : DcPreChargeResType) : Except Fault DcPreChargeResponse := do
  let responseCode ← cppEnum res.responseCode
  let header ← res.header.convert
  return { header, responseCode, presentVoltage := res.evsePresentVoltage.convert }

def DcWeldingDetectionReqType.convert (req : DcWeldingDetectionReqType) :
    Except Fault DcWeldingDetectionRequest := do
  let header ← req.header.convert
  let processing ← cppEnum req.evProcessing
  return { header, processing }

def DcWeldingDetectionResType.convert (res : DcWeldingDetectionResType) :
    Except Fault DcWeldingDetectionResponse := do
  let responseCode ← cppEnum res.responseCode
  let header ← res.header.convert
  return { header, responseCode, presentVoltage := res.evsePresentVoltage.convert }

end Iso20.Dc

def DcCableCheckRequest.convert (req : DcCableCheckRequest) : Iso20.Dc.DcCableCheckReqType :=
  { header := req.header.convert }

def DcCableCheckResponse.convert (res : DcCableCheckResponse) : Iso20.Dc.DcCableCheckResType :=
  { header := res.header.convert
    responseCode := cbEnum res.responseCode
    evseProcessing := cbEnum res.processing }

def DcPreChargeRequest.convert (req : DcPreChargeRequest) : Iso20.Dc.DcPreChargeReqType :=
  { header := req.header.convert
    evProcessing := cbEnum req.processing
    evPresentVoltage := req.presentVoltage.convert
    evTargetVoltage := req.targetVoltage.convert }

def DcPreChargeResponse.convert (res : DcPreChargeResponse) : Iso20.Dc.DcPreChargeResType :=
  { header := res.header.convert
    responseCode := cbEnum res.responseCode
    evsePresentVoltage := res.presentVoltage.convert }

def DcWeldingDetectionRequest.convert (req : DcWeldingDetectionRequest) : Iso20.Dc.DcWeldingDetectionReqType :=
  { header := req.header.convert, evProcessing := cbEnum req.processing }

def DcWeldingDetectionResponse.convert (res : DcWeldingDetectionResponse) : Iso20.Dc.DcWeldingDetectionResType :=
  { header := res.header.convert
    responseCode := cbEnum res.responseCode
    evsePresentVoltage := res.presentVoltage.convert }

@[simp] theorem DcCableCheckRequest.convert_convert (req : DcCableCheckRequest) : req.convert.convert = .ok req := by
  simp [DcCableCheckRequest.convert, Iso20.Dc.DcCableCheckReqType.convert]

@[simp] theorem DcCableCheckResponse.convert_convert (res : DcCableCheckResponse) :
    res.convert.convert = .ok res := by
  simp [DcCableCheckResponse.convert, Iso20.Dc.DcCableCheckResType.convert, bind_eq_ok]

@[simp] theorem DcPreChargeRequest.convert_convert (req : DcPreChargeRequest) : req.convert.convert = .ok req := by
  simp [DcPreChargeRequest.convert, Iso20.Dc.DcPreChargeReqType.convert, bind_eq_ok]

@[simp] theorem DcPreChargeResponse.convert_convert (res : DcPreChargeResponse) : res.convert.convert = .ok res := by
  simp [DcPreChargeResponse.convert, Iso20.Dc.DcPreChargeResType.convert, bind_eq_ok]

@[simp] theorem DcWeldingDetectionRequest.convert_convert (req : DcWeldingDetectionRequest) :
    req.convert.convert = .ok req := by
  simp [DcWeldingDetectionRequest.convert, Iso20.Dc.DcWeldingDetectionReqType.convert, bind_eq_ok]

@[simp] theorem DcWeldingDetectionResponse.convert_convert (res : DcWeldingDetectionResponse) :
    res.convert.convert = .ok res := by
  simp [DcWeldingDetectionResponse.convert, Iso20.Dc.DcWeldingDetectionResType.convert, bind_eq_ok]

end LibIso15118
