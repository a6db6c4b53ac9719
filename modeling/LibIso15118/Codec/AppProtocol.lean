import LibIso15118.Codec.CommonTypes

set_option autoImplicit false

namespace LibIso15118

open Datatypes Codec

structure AppProtocolCapacities where
  appProtocols : Nat
  protocolNamespace : Nat

instance : Enumeration SupportedAppProtocolResponseCode where
  toInt
    | .okSuccessfulNegotiation => 0
    | .okSuccessfulNegotiationWithMinorDeviation => 1
    | .failedNoNegotiation => 2
  enumerators := [.okSuccessfulNegotiation, .okSuccessfulNegotiationWithMinorDeviation, .failedNoNegotiation]
  found := by intro value; cases value <;> rfl

namespace AppHand

variable {capacities : AppProtocolCapacities}

structure AppProtocolType (capacities : AppProtocolCapacities) where
  protocolNamespace : CbString capacities.protocolNamespace
  versionNumberMajor : UInt32
  versionNumberMinor : UInt32
  schemaId : UInt8
  priority : UInt8
  deriving Inhabited

structure SupportedAppProtocolReqType (capacities : AppProtocolCapacities) where
  appProtocol : Bounded capacities.appProtocols (AppProtocolType capacities)
  deriving Inhabited

structure SupportedAppProtocolResType where
  responseCode : Int32
  schemaId : Used UInt8
  deriving Inhabited

/-- `init_appHand_supportedAppProtocolRes` -/
def SupportedAppProtocolResType.init (out : SupportedAppProtocolResType) : SupportedAppProtocolResType :=
  { out with schemaId := out.schemaId.clear id }

def AppProtocolType.convert (item : AppProtocolType capacities) : Except Fault SupportedAppProtocol := do
  let protocolNamespace ← cb2cppString item.protocolNamespace
  return {
    protocolNamespace
    versionNumberMajor := item.versionNumberMajor
    versionNumberMinor := item.versionNumberMinor
    schemaId := item.schemaId
    priority := item.priority }

def SupportedAppProtocolReqType.convert (req : SupportedAppProtocolReqType capacities) :
    Except Fault SupportedAppProtocolRequest := do
  let appProtocol ← req.appProtocol.entries .outsideArray (·.convert)
  return { appProtocol }

end AppHand

variable {capacities : AppProtocolCapacities}

def SupportedAppProtocol.convert (item : SupportedAppProtocol) (out : AppHand.AppProtocolType capacities) :
    Except Fault (AppHand.AppProtocolType capacities) := do
  let protocolNamespace ← cpp2cbString item.protocolNamespace out.protocolNamespace
  return {
    protocolNamespace
    versionNumberMajor := item.versionNumberMajor
    versionNumberMinor := item.versionNumberMinor
    schemaId := item.schemaId
    priority := item.priority }

/-- "FIXME (aw): check size constraints". The length of a namespace is checked before the entry is accessed. -/
def storeAppProtocols : List SupportedAppProtocol → Nat →
    Vector (AppHand.AppProtocolType capacities) capacities.appProtocols →
      Except Fault (Vector (AppHand.AppProtocolType capacities) capacities.appProtocols)
  | [], _, array => return array
  | item :: rest, index, array =>
      if capacities.protocolNamespace < item.protocolNamespace.length then
        .error (.runtimeError "String too long")
      else if inside : index < capacities.appProtocols then do
        let entry ← item.convert array[index]
        storeAppProtocols rest (index + 1) (array.set index entry)
      else .error .outsideArray

def SupportedAppProtocolRequest.convert (req : SupportedAppProtocolRequest)
    (out : AppHand.SupportedAppProtocolReqType capacities) :
    Except Fault (AppHand.SupportedAppProtocolReqType capacities) := do
  let array ← storeAppProtocols req.appProtocol 0 out.appProtocol.array
  return { appProtocol := { array, length := req.appProtocol.length } }

def SupportedAppProtocolResponse.convert (res : SupportedAppProtocolResponse)
    (out : AppHand.SupportedAppProtocolResType) : AppHand.SupportedAppProtocolResType :=
  let out := out.init
  { responseCode := cbEnum res.responseCode, schemaId := cpp2cbAssignIfUsed res.schemaId out.schemaId }

theorem SupportedAppProtocol.convert_codes (item : SupportedAppProtocol) :
    Codes Fault.isThrown (@SupportedAppProtocol.convert capacities) (·.convert)
      (fun item => item.protocolNamespace.length ≤ capacities.protocolNamespace) (fun _ => True) item := by
  intro out
  refine (cpp2cbString_codes item.protocolNamespace out.protocolNamespace).andThen fun written back => ?_
  simp only [iff_true] at back
  simp [AppHand.AppProtocolType.convert, back]

theorem storeAppProtocols_inside (list : List SupportedAppProtocol) (index : Nat)
    (array : Vector (AppHand.AppProtocolType capacities) capacities.appProtocols)
    (room : index + list.length ≤ capacities.appProtocols) :
    storeAppProtocols list index array =
      Bounded.store .outsideArray SupportedAppProtocol.convert list index array := by
  induction list generalizing index array with
  | nil => rfl
  | cons item rest hyp =>
      rw [List.length_cons] at room
      have inside : index < capacities.appProtocols := by omega
      rw [storeAppProtocols, Bounded.store]
      by_cases long : capacities.protocolNamespace < item.protocolNamespace.length
      · simp only [long, inside, ↓reduceIte, ↓reduceDIte, SupportedAppProtocol.convert, cpp2cbString]
        rfl
      · simp only [long, inside, ↓reduceIte, ↓reduceDIte]
        congr
        funext entry
        exact hyp (index + 1) (array.set index entry) (by omega)

theorem SupportedAppProtocolRequest.convert_codes (req : SupportedAppProtocolRequest)
    (room : req.appProtocol.length ≤ capacities.appProtocols) :
    Codes Fault.isThrown (@SupportedAppProtocolRequest.convert capacities) (·.convert)
      (fun req => ∀ item ∈ req.appProtocol, item.protocolNamespace.length ≤ capacities.protocolNamespace)
      (fun _ => True) req := by
  intro out
  have filled := Bounded.fill_codes Fault.outsideArray room (fun item _ => item.convert_codes) out.appProtocol
  have same : req.convert out = (do
      let appProtocol ← out.appProtocol.fill .outsideArray SupportedAppProtocol.convert req.appProtocol
      return { appProtocol }) := by
    simp only [SupportedAppProtocolRequest.convert, Bounded.fill, bind_assoc, pure_bind,
      storeAppProtocols_inside req.appProtocol 0 out.appProtocol.array (by omega)]
  rw [same]
  refine filled.andThen fun written back => ?_
  simp only [implies_true, iff_true] at back
  simp [AppHand.SupportedAppProtocolReqType.convert, back]

end LibIso15118
