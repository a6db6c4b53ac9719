import LibIso15118.Codec.CommonTypes

set_option autoImplicit false

/-!
# Conversion of the service discovery, detail and selection messages

The encoders count the entries of a list in a `uint8_t`. No generated array has that many entries.
-/

namespace LibIso15118

open Datatypes Codec

structure ServiceCapacities where
  supportedServiceIds : Nat
  energyServices : Nat
  vasServices : Nat
  selectedServices : Nat
  parameterSets : Nat
  parameters : Nat
  parameterName : Nat
  finiteString : Nat
  energyServices_lt : energyServices < 256
  vasServices_lt : vasServices < 256
  parameterSets_lt : parameterSets < 256
  parameters_lt : parameters < 256

namespace Iso20

structure ServiceDiscoveryReqType (capacities : ServiceCapacities) where
  header : MessageHeaderType
  supportedServiceIds : Used (Bounded capacities.supportedServiceIds UInt16)
  deriving Inhabited

structure ServiceType where
  serviceId : UInt16
  freeService : Int32
  deriving Inhabited

structure ServiceDiscoveryResType (capacities : ServiceCapacities) where
  header : MessageHeaderType
  responseCode : Int32
  serviceRenegotiationSupported : Int32
  energyTransferServiceList : Bounded capacities.energyServices ServiceType
  vasList : Used (Bounded capacities.vasServices ServiceType)
  deriving Inhabited

structure ServiceDetailReqType where
  header : MessageHeaderType
  serviceId : UInt16
  deriving Inhabited

structure ParameterType (capacities : ServiceCapacities) where
  name : CbString capacities.parameterName
  boolValue : Used Int32
  byteValue : Used Int8
  shortValue : Used Int16
  intValue : Used Int32
  finiteString : Used (CbString capacities.finiteString)
  rationalNumber : Used RationalNumberType
  deriving Inhabited

structure ParameterSetType (capacities : ServiceCapacities) where
  parameterSetId : UInt16
  parameter : Bounded capacities.parameters (ParameterType capacities)
  deriving Inhabited

structure ServiceDetailResType (capacities : ServiceCapacities) where
  header : MessageHeaderType
  responseCode : Int32
  serviceId : UInt16
  serviceParameterList : Bounded capacities.parameterSets (ParameterSetType capacities)
  deriving Inhabited

structure SelectedServiceType where
  serviceId : UInt16
  parameterSetId : UInt16
  deriving Inhabited

structure ServiceSelectionReqType (capacities : ServiceCapacities) where
  header : MessageHeaderType
  selectedEnergyTransferService : SelectedServiceType
  selectedVasList : Used (Bounded capacities.selectedServices SelectedServiceType)
  deriving Inhabited

structure ServiceSelectionResType where
  header : MessageHeaderType
  responseCode : Int32
  deriving Inhabited

variable {capacities : ServiceCapacities}

-- The functions `init_iso20_…`.
def ServiceDiscoveryReqType.init (out : ServiceDiscoveryReqType capacities) : ServiceDiscoveryReqType capacities :=
  { out with supportedServiceIds := out.supportedServiceIds.clear Bounded.clear }

def ServiceDiscoveryResType.init (out : ServiceDiscoveryResType capacities) : ServiceDiscoveryResType capacities :=
  { out with
    energyTransferServiceList := out.energyTransferServiceList.clear
    vasList := out.vasList.clear Bounded.clear }

def ParameterType.init (out : ParameterType capacities) : ParameterType capacities :=
  { name := out.name.clear
    boolValue := out.boolValue.clear id
    byteValue := out.byteValue.clear id
    shortValue := out.shortValue.clear id
    intValue := out.intValue.clear id
    finiteString := out.finiteString.clear Bounded.clear
    rationalNumber := out.rationalNumber.clear id }

def ServiceDetailResType.init (out : ServiceDetailResType capacities) : ServiceDetailResType capacities :=
  { out with serviceParameterList := out.serviceParameterList.clear }

def ServiceSelectionReqType.init (out : ServiceSelectionReqType capacities) : ServiceSelectionReqType capacities :=
  { out with selectedVasList := out.selectedVasList.clear Bounded.clear }

-- From the generated records.
def ServiceDiscoveryReqType.convert (req : ServiceDiscoveryReqType capacities) :
    Except Fault ServiceDiscoveryRequest := do
  let header ← req.header.convert
  let supportedServiceIds ← req.supportedServiceIds.readM (·.entries .outsideArray .ok)
  return { header, supportedServiceIds }

def ServiceType.service (service : ServiceType) : Service :=
  { serviceId := ⟨service.serviceId⟩, freeService := cppBool service.freeService }

def ServiceType.vasService (service : ServiceType) : VasService :=
  { serviceId := service.serviceId, freeService := cppBool service.freeService }

def ServiceDiscoveryResType.convert (res : ServiceDiscoveryResType capacities) :
    Except Fault ServiceDiscoveryResponse := do
  let responseCode ← cppEnum res.responseCode
  let energyTransferServiceList ←
    res.energyTransferServiceList.entries .outsideArray fun service => .ok service.service
  let vasList ← res.vasList.readM (·.entries .outsideArray fun service => .ok service.vasService)
  let header ← res.header.convert
  return {
    header
    responseCode
    serviceRenegotiationSupported := cppBool res.serviceRenegotiationSupported
    energyTransferServiceList
    vasList }

def ServiceDetailReqType.convert (req : ServiceDetailReqType) : Except Fault ServiceDetailRequest := do
  let header ← req.header.convert
  return { header, service := req.serviceId }

/-- The `int` of a truth value is assigned to the alternative `int32_t`. -/
def ParameterType.value (parameter : ParameterType capacities) : Except Fault ParameterValue :=
  if parameter.boolValue.isUsed then return .int32 parameter.boolValue.value
  else if parameter.byteValue.isUsed then return .int8 parameter.byteValue.value
  else if parameter.shortValue.isUsed then return .int16 parameter.shortValue.value
  else if parameter.intValue.isUsed then return .int32 parameter.intValue.value
  else if parameter.finiteString.isUsed then do
    let string ← cb2cppString parameter.finiteString.value
    return .name string
  else if parameter.rationalNumber.isUsed then return .rational parameter.rationalNumber.value.convert
  -- A variant is made with its first alternative.
  else return .bool false

def ParameterType.convert (parameter : ParameterType capacities) : Except Fault Parameter := do
  let name ← cb2cppString parameter.name
  let value ← parameter.value
  return { name, value }

def ParameterSetType.convert (set : ParameterSetType capacities) : Except Fault ParameterSet := do
  let parameter ← set.parameter.entries .outsideArray (·.convert)
  return { id := set.parameterSetId, parameter }

def ServiceDetailResType.convert (res : ServiceDetailResType capacities) : Except Fault ServiceDetailResponse := do
  let responseCode ← cppEnum res.responseCode
  let serviceParameterList ← res.serviceParameterList.entries .outsideArray (·.convert)
  let header ← res.header.convert
  return { header, responseCode, service := res.serviceId, serviceParameterList }

def SelectedServiceType.selectedService (service : SelectedServiceType) : SelectedService :=
  { serviceId := ⟨service.serviceId⟩, parameterSetId := service.parameterSetId }

def SelectedServiceType.vasSelectedService (service : SelectedServiceType) : VasSelectedService :=
  { serviceId := service.serviceId, parameterSetId := service.parameterSetId }

def ServiceSelectionReqType.convert (req : ServiceSelectionReqType capacities) :
    Except Fault ServiceSelectionRequest := do
  let header ← req.header.convert
  let selectedVasList ←
    req.selectedVasList.readM (·.entries .outsideArray fun service => .ok service.vasSelectedService)
  return {
    header
    selectedEnergyTransferService := req.selectedEnergyTransferService.selectedService
    selectedVasList }

def ServiceSelectionResType.convert (res : ServiceSelectionResType) : Except Fault ServiceSelectionResponse := do
  let responseCode ← cppEnum res.responseCode
  let header ← res.header.convert
  return { header, responseCode }

end Iso20

-- To the generated records.

variable {capacities : ServiceCapacities}

def ServiceDiscoveryRequest.convert (req : ServiceDiscoveryRequest) (out : Iso20.ServiceDiscoveryReqType capacities) :
    Except Fault (Iso20.ServiceDiscoveryReqType capacities) := do
  let out := out.init
  let supportedServiceIds ←
    out.supportedServiceIds.setM (fun ids out => out.fill .outsideArray (fun id _ => .ok id) ids)
      req.supportedServiceIds
  return { header := req.header.convert, supportedServiceIds }

def Datatypes.Service.convert (service : Service) : Iso20.ServiceType :=
  { serviceId := service.serviceId.value, freeService := cbBool service.freeService }

def Datatypes.VasService.convert (service : VasService) : Iso20.ServiceType :=
  { serviceId := service.serviceId, freeService := cbBool service.freeService }

def ServiceDiscoveryResponse.convert (res : ServiceDiscoveryResponse)
    (out : Iso20.ServiceDiscoveryResType capacities) : Except Fault (Iso20.ServiceDiscoveryResType capacities) := do
  let out := out.init
  let energyTransferServiceList ←
    out.energyTransferServiceList.fill .outsideArray (fun service _ => .ok service.convert)
      res.energyTransferServiceList
  let vasList ←
    out.vasList.setM (fun services out => out.fill .outsideArray (fun service _ => .ok service.convert) services)
      res.vasList
  return {
    header := res.header.convert
    responseCode := cbEnum res.responseCode
    serviceRenegotiationSupported := cbBool res.serviceRenegotiationSupported
    energyTransferServiceList
    vasList }

def ServiceDetailRequest.convert (req : ServiceDetailRequest) : Iso20.ServiceDetailReqType :=
  { header := req.header.convert, serviceId := req.service }

/-- `ParameterValueVisitor` -/
def Datatypes.ParameterValue.convert (value : ParameterValue) (parameter : Iso20.ParameterType capacities) :
    Except Fault (Iso20.ParameterType capacities) :=
  match value with
  | .bool value => return { parameter with boolValue := { value := cbBool value, isUsed := true } }
  | .int8 value => return { parameter with byteValue := { value, isUsed := true } }
  | .int16 value => return { parameter with shortValue := { value, isUsed := true } }
  | .int32 value => return { parameter with intValue := { value, isUsed := true } }
  | .name string => do
      let value ← cpp2cbString string parameter.finiteString.value
      return { parameter with finiteString := { value, isUsed := true } }
  | .rational number => return { parameter with rationalNumber := { value := number.convert, isUsed := true } }

def Datatypes.Parameter.convert (parameter : Parameter) (out : Iso20.ParameterType capacities) :
    Except Fault (Iso20.ParameterType capacities) := do
  let out := out.init
  let name ← cpp2cbString parameter.name out.name
  parameter.value.convert { out with name }

def Datatypes.ParameterSet.convert (set : ParameterSet) (out : Iso20.ParameterSetType capacities) :
    Except Fault (Iso20.ParameterSetType capacities) := do
  let parameter ← out.parameter.fill .outsideArray Parameter.convert set.parameter
  return { parameterSetId := set.id, parameter }

def ServiceDetailResponse.convert (res : ServiceDetailResponse) (out : Iso20.ServiceDetailResType capacities) :
    Except Fault (Iso20.ServiceDetailResType capacities) := do
  let out := out.init
  let serviceParameterList ←
    out.serviceParameterList.fill .outsideArray ParameterSet.convert res.serviceParameterList
  return {
    header := res.header.convert
    responseCode := cbEnum res.responseCode
    serviceId := res.service
    serviceParameterList }

def Datatypes.SelectedService.convert (service : SelectedService) : Iso20.SelectedServiceType :=
  { serviceId := service.serviceId.value, parameterSetId := service.parameterSetId }

def Datatypes.VasSelectedService.convert (service : VasSelectedService) : Iso20.SelectedServiceType :=
  { serviceId := service.serviceId, parameterSetId := service.parameterSetId }

def ServiceSelectionRequest.convert (req : ServiceSelectionRequest) (out : Iso20.ServiceSelectionReqType capacities) :
    Except Fault (Iso20.ServiceSelectionReqType capacities) := do
  let out := out.init
  let selectedVasList ←
    out.selectedVasList.writeM
      (fun services out => out.fill .outsideArray (fun service _ => .ok service.convert) services)
      req.selectedVasList
  return {
    header := req.header.convert
    selectedEnergyTransferService := req.selectedEnergyTransferService.convert
    selectedVasList }

def ServiceSelectionResponse.convert (res : ServiceSelectionResponse) : Iso20.ServiceSelectionResType :=
  { header := res.header.convert, responseCode := cbEnum res.responseCode }

namespace Datatypes

theorem Service.convert_codes (service : Service) :
    Codes Fault.isThrown (fun service (_ : Iso20.ServiceType) => .ok service.convert)
      (fun service => .ok service.service) (fun _ => True) (fun _ => True) service :=
  Codes.of_same (fun service _ => by simp [Service.convert, Iso20.ServiceType.service]) service

theorem VasService.convert_codes (service : VasService) :
    Codes Fault.isThrown (fun service (_ : Iso20.ServiceType) => .ok service.convert)
      (fun service => .ok service.vasService) (fun _ => True) (fun _ => True) service :=
  Codes.of_same (fun service _ => by simp [VasService.convert, Iso20.ServiceType.vasService]) service

theorem VasSelectedService.convert_codes (service : VasSelectedService) :
    Codes Fault.isThrown (fun service (_ : Iso20.SelectedServiceType) => .ok service.convert)
      (fun service => .ok service.vasSelectedService) (fun _ => True) (fun _ => True) service :=
  Codes.of_same (fun _ _ => rfl) service

def Parameter.Fits (capacities : ServiceCapacities) (parameter : Parameter) : Prop :=
  parameter.name.length ≤ capacities.parameterName ∧
    ∀ string, parameter.value = .name string → string.length ≤ capacities.finiteString

def Parameter.Kept (parameter : Parameter) : Prop :=
  ∀ value, parameter.value ≠ .bool value

theorem Parameter.convert_codes (parameter : Parameter) :
    Codes Fault.isThrown (fun parameter (out : Iso20.ParameterType capacities) => parameter.convert out)
      (·.convert) (Parameter.Fits capacities) Parameter.Kept parameter := by
  intro out
  obtain ⟨name, value⟩ := parameter
  refine ((cpp2cbString_codes name out.init.name).bind fun _ name => ?_).mono Iff.rfl fun _ holds => holds
  simp only [iff_true] at name
  cases value with
  | name string =>
      refine ((cpp2cbString_codes string _).bind fun _ back => Outcome.of_ok trivial ?_).mono
        (by simp) fun _ holds => holds
      simp only [iff_true] at back
      simp [Iso20.ParameterType.convert, Iso20.ParameterType.value, Iso20.ParameterType.init, Kept, name, back,
        bind_eq_ok]
  | bool value =>
      simp [ParameterValue.convert, Iso20.ParameterType.convert, Iso20.ParameterType.value, Kept, name]
  | int8 value | int16 value | int32 value | rational value =>
      simp [ParameterValue.convert, Iso20.ParameterType.convert, Iso20.ParameterType.value,
        Iso20.ParameterType.init, Kept, name]

theorem ParameterSet.convert_codes (set : ParameterSet) (room : set.parameter.length ≤ capacities.parameters) :
    Codes Fault.isThrown (fun set (out : Iso20.ParameterSetType capacities) => set.convert out) (·.convert)
      (fun set => ∀ parameter ∈ set.parameter, parameter.Fits capacities)
      (fun set => ∀ parameter ∈ set.parameter, parameter.Kept) set := by
  intro out
  refine ((Bounded.fill_codes _ room (fun parameter _ => parameter.convert_codes) _).bind fun _ back =>
    Outcome.of_ok trivial ?_).mono (by simp) fun _ holds => holds
  dsimp only at back ⊢
  rw [← back]
  cases set
  simp [Iso20.ParameterSetType.convert, map_eq_ok]

end Datatypes

theorem serviceId_codes (id : UInt16) :
    Codes Fault.isThrown (fun id (_ : UInt16) => .ok id) .ok (fun _ => True) (fun _ => True) id := by
  intro out
  simp [Outcome]

theorem ServiceDiscoveryRequest.convert_codes (req : ServiceDiscoveryRequest)
    (room : ∀ ids ∈ req.supportedServiceIds, ids.length ≤ capacities.supportedServiceIds) :
    Codes Fault.isThrown (fun req (out : Iso20.ServiceDiscoveryReqType capacities) => req.convert out) (·.convert)
      (fun _ => True) (fun _ => True) req := by
  intro out
  have inner := fun ids present =>
    Bounded.fill_codes Fault.outsideArray (room ids present) fun id _ => serviceId_codes id
  refine ((Used.setM_outcome inner Bounded.clear out.supportedServiceIds).bind fun _ ids =>
    Outcome.of_ok trivial ?_).mono (by simp) fun _ holds => holds
  simp only [implies_true, iff_true] at ids
  simp [Iso20.ServiceDiscoveryReqType.convert, ids, bind_eq_ok]

theorem ServiceDiscoveryResponse.convert_codes (res : ServiceDiscoveryResponse)
    (room : res.energyTransferServiceList.length ≤ capacities.energyServices)
    (vasRoom : ∀ services ∈ res.vasList, services.length ≤ capacities.vasServices) :
    Codes Fault.isThrown (fun res (out : Iso20.ServiceDiscoveryResType capacities) => res.convert out) (·.convert)
      (fun _ => True) (fun _ => True) res := by
  intro out
  have inner := fun services present =>
    Bounded.fill_codes Fault.outsideArray (vasRoom services present) fun service _ => service.convert_codes
  refine ((Bounded.fill_codes _ room (fun service _ => service.convert_codes) _).bind fun _ services =>
    (Used.setM_outcome inner Bounded.clear out.vasList).bind fun _ vasServices =>
      Outcome.of_ok trivial ?_).mono (by simp) fun _ holds => holds
  simp only [implies_true, iff_true] at services vasServices
  simp [Iso20.ServiceDiscoveryResType.convert, services, vasServices, bind_eq_ok]

theorem ServiceDetailRequest.convert_convert (req : ServiceDetailRequest) : req.convert.convert = .ok req := by
  simp [ServiceDetailRequest.convert, Iso20.ServiceDetailReqType.convert]

def ServiceDetailResponse.parameters (res : ServiceDetailResponse) : List Parameter :=
  res.serviceParameterList.flatMap (·.parameter)

theorem ServiceDetailResponse.forall_parameters (res : ServiceDetailResponse) {P : Parameter → Prop} :
    (∀ parameter ∈ res.parameters, P parameter) ↔
      ∀ set ∈ res.serviceParameterList, ∀ parameter ∈ set.parameter, P parameter :=
  List.forall_mem_flatMap

theorem ServiceDetailResponse.convert_codes (res : ServiceDetailResponse)
    (room : res.serviceParameterList.length ≤ capacities.parameterSets)
    (setRoom : ∀ set ∈ res.serviceParameterList, set.parameter.length ≤ capacities.parameters) :
    Codes Fault.isThrown (fun res (out : Iso20.ServiceDetailResType capacities) => res.convert out) (·.convert)
      (fun res => ∀ parameter ∈ res.parameters, parameter.Fits capacities)
      (fun res => ∀ parameter ∈ res.parameters, parameter.Kept) res := by
  intro out
  have inner := fun set member => ParameterSet.convert_codes set (setRoom set member)
  refine ((Bounded.fill_codes _ room inner _).bind fun _ back => Outcome.of_ok trivial ?_).mono
    (by simp [forall_parameters]) fun _ holds => holds
  simp only [forall_parameters] at back ⊢
  rw [← back]
  cases res
  simp [Iso20.ServiceDetailResType.convert, bind_eq_ok]

theorem ServiceSelectionRequest.convert_codes (req : ServiceSelectionRequest)
    (room : ∀ services ∈ req.selectedVasList, services.length ≤ capacities.selectedServices) :
    Codes Fault.isThrown (fun req (out : Iso20.ServiceSelectionReqType capacities) => req.convert out) (·.convert)
      (fun _ => True) (fun _ => True) req := by
  intro out
  have inner := fun services present =>
    Bounded.fill_codes Fault.outsideArray (room services present) fun service _ => service.convert_codes
  refine ((Used.codes inner out.init.selectedVasList).bind fun _ services =>
    Outcome.of_ok trivial ?_).mono (by simp) fun _ holds => holds
  simp only [implies_true, iff_true] at services
  simp [Iso20.ServiceSelectionReqType.convert, services, SelectedService.convert,
    Iso20.SelectedServiceType.selectedService, bind_eq_ok]

theorem ServiceSelectionResponse.convert_convert (res : ServiceSelectionResponse) :
    res.convert.convert = .ok res := by
  simp [ServiceSelectionResponse.convert, Iso20.ServiceSelectionResType.convert, bind_eq_ok]

/-- Service messages whose lists fit come back, except a detail response with a text that is too long for
its array or a parameter that is a truth value. -/
theorem service_messages_round_trip_iff (capacities : ServiceCapacities) :
    (∀ req : ServiceDiscoveryRequest, (∀ ids ∈ req.supportedServiceIds, ids.length ≤ capacities.supportedServiceIds) →
      ∀ out : Iso20.ServiceDiscoveryReqType capacities, (req.convert out >>= (·.convert)) = .ok req) ∧
    (∀ res : ServiceDiscoveryResponse, res.energyTransferServiceList.length ≤ capacities.energyServices →
      (∀ services ∈ res.vasList, services.length ≤ capacities.vasServices) →
      ∀ out : Iso20.ServiceDiscoveryResType capacities, (res.convert out >>= (·.convert)) = .ok res) ∧
    (∀ req : ServiceDetailRequest, req.convert.convert = .ok req) ∧
    (∀ res : ServiceDetailResponse, res.serviceParameterList.length ≤ capacities.parameterSets →
      (∀ set ∈ res.serviceParameterList, set.parameter.length ≤ capacities.parameters) →
      ∀ out : Iso20.ServiceDetailResType capacities, (res.convert out >>= (·.convert)) = .ok res ↔
        (∀ parameter ∈ res.parameters, parameter.Fits capacities) ∧
          ∀ parameter ∈ res.parameters, parameter.Kept) ∧
    (∀ req : ServiceSelectionRequest,
      (∀ services ∈ req.selectedVasList, services.length ≤ capacities.selectedServices) →
      ∀ out : Iso20.ServiceSelectionReqType capacities, (req.convert out >>= (·.convert)) = .ok req) ∧
    ∀ res : ServiceSelectionResponse, res.convert.convert = .ok res := by
  refine ⟨?_, ?_, fun req => req.convert_convert, ?_, ?_, fun res => res.convert_convert⟩
  · intro req room out
    exact ((req.convert_codes room).back_iff out).mpr ⟨trivial, trivial⟩
  · intro res room vasRoom out
    exact ((res.convert_codes room vasRoom).back_iff out).mpr ⟨trivial, trivial⟩
  · intro res room setRoom out
    exact (res.convert_codes room setRoom).back_iff out
  · intro req room out
    exact ((req.convert_codes room).back_iff out).mpr ⟨trivial, trivial⟩

namespace Sample

def serviceCapacities : ServiceCapacities :=
  { supportedServiceIds := 16, energyServices := 8, vasServices := 8, selectedServices := 16
    parameterSets := 32, parameters := 32, parameterName := 80, finiteString := 80
    energyServices_lt := by decide, vasServices_lt := by decide
    parameterSets_lt := by decide, parameters_lt := by decide }

def discoveryRequest : ServiceDiscoveryRequest :=
  { header := {}, supportedServiceIds := some [1, 5] }

def discoveryResponse : ServiceDiscoveryResponse :=
  { energyTransferServiceList := [⟨.ac, true⟩, ⟨.acBpt, false⟩], vasList := some [⟨65, true⟩] }

def detailResponse (value : ParameterValue) : ServiceDetailResponse :=
  { serviceParameterList := [{ id := 1, parameter := [{ name := "Connector", value }] }] }

def selectionRequest : ServiceSelectionRequest :=
  { header := {}, selectedEnergyTransferService := ⟨.acBpt, 0⟩, selectedVasList := some [⟨65, 3⟩] }

end Sample

theorem service_messages_round_trip_connector :
    (Sample.discoveryRequest.convert (default : Iso20.ServiceDiscoveryReqType Sample.serviceCapacities) >>=
        (·.convert)) = .ok Sample.discoveryRequest ∧
      (Sample.discoveryResponse.convert (default : Iso20.ServiceDiscoveryResType Sample.serviceCapacities) >>=
        (·.convert)) = .ok Sample.discoveryResponse ∧
      ((Sample.detailResponse (.int32 2)).convert (default : Iso20.ServiceDetailResType Sample.serviceCapacities) >>=
        (·.convert)) = .ok (Sample.detailResponse (.int32 2)) ∧
      (Sample.selectionRequest.convert (default : Iso20.ServiceSelectionReqType Sample.serviceCapacities) >>=
        (·.convert)) = .ok Sample.selectionRequest := by
  obtain ⟨discoveryReq, discoveryRes, _, detailRes, selectionReq, _⟩ :=
    service_messages_round_trip_iff Sample.serviceCapacities
  have name : (StdString.ofText "Connector").length ≤ 80 := by decide
  refine ⟨discoveryReq _ ?_ _, discoveryRes _ (by decide) ?_ _, (detailRes _ (by decide) (by decide) _).mpr ?_,
    selectionReq _ ?_ _⟩
  · simp [Sample.discoveryRequest, Sample.serviceCapacities]
  · simp [Sample.discoveryResponse, Sample.serviceCapacities]
  · simp [Sample.detailResponse, Sample.serviceCapacities, ServiceDetailResponse.parameters, Parameter.Fits,
      Parameter.Kept, name]
  · simp [Sample.selectionRequest, Sample.serviceCapacities]

/-- A truth value is read back as an integer. -/
theorem service_messages_round_trip_retyped :
    ((Sample.detailResponse (.bool true)).convert (default : Iso20.ServiceDetailResType Sample.serviceCapacities) >>=
      (·.convert)) ≠ .ok (Sample.detailResponse (.bool true)) := by
  intro back
  have codes := @ServiceDetailResponse.convert_codes Sample.serviceCapacities
    (Sample.detailResponse (.bool true)) (by decide) (by decide)
  have kept := ((codes.back_iff default).mp back).2
  exact kept ⟨"Connector", .bool true⟩ List.mem_cons_self true rfl

end LibIso15118
