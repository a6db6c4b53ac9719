import LibIso15118.Codec.CommonTypes

set_option autoImplicit false

/-!
# Conversion of meter information and receipts

The records of the AC and of the DC messages have the same members, and the functions that convert them the
same text. The capacities are those of the generated arrays of either.
-/

namespace LibIso15118

open Datatypes Codec

/-- The element counts of the generated arrays, and `sizeof` of an element of the array of tax costs. -/
structure MeteringCapacities where
  meterId : Nat
  meterSignature : Nat
  taxCosts : Nat
  detailedTaxSize : Nat
  meterSignature_pos : 0 < meterSignature
  detailedTaxSize_pos : 0 < detailedTaxSize

namespace Iso20

structure MeterInfoType (capacities : MeteringCapacities) where
  meterId : CbString capacities.meterId
  chargedEnergyReadingWh : UInt64
  bptDischargedEnergyReadingWh : Used UInt64
  capacitiveEnergyReadingVarh : Used UInt64
  bptInductiveEnergyReadingVarh : Used UInt64
  meterSignature : Used (CbString capacities.meterSignature)
  meterStatus : Used Int16
  meterTimestamp : Used UInt64
  deriving Inhabited

structure DetailedCostType where
  amount : RationalNumberType
  costPerUnit : RationalNumberType
  deriving Inhabited

structure DetailedTaxType where
  taxRuleId : UInt32
  amount : RationalNumberType
  deriving Inhabited

structure ReceiptType (capacities : MeteringCapacities) where
  timeAnchor : UInt64
  energyCosts : Used DetailedCostType
  occupancyCosts : Used DetailedCostType
  additionalServicesCosts : Used DetailedCostType
  overstayCosts : Used DetailedCostType
  taxCosts : Bounded capacities.taxCosts DetailedTaxType
  deriving Inhabited

variable {capacities : MeteringCapacities}

/-- `init_iso20_ac_MeterInfoType` and `init_iso20_dc_MeterInfoType` -/
def MeterInfoType.init (out : MeterInfoType capacities) : MeterInfoType capacities :=
  { out with
    meterId := out.meterId.clear
    bptDischargedEnergyReadingWh := out.bptDischargedEnergyReadingWh.clear id
    capacitiveEnergyReadingVarh := out.capacitiveEnergyReadingVarh.clear id
    bptInductiveEnergyReadingVarh := out.bptInductiveEnergyReadingVarh.clear id
    meterSignature := out.meterSignature.clear Bounded.clear
    meterStatus := out.meterStatus.clear id
    meterTimestamp := out.meterTimestamp.clear id }

/-- `convert_meterinfo_inverse` -/
def MeterInfoType.convert (info : MeterInfoType capacities) : Except Fault MeterInfo := do
  let meterId ← cb2cppString info.meterId
  let meterSignature ← cb2cppBytesIfUsed info.meterSignature
  return {
    meterId
    chargedEnergyReadingWh := info.chargedEnergyReadingWh
    bptDischargedEnergyReadingWh := cb2cppAssignIfUsed info.bptDischargedEnergyReadingWh
    bptInductiveEnergyReadingVarh := cb2cppAssignIfUsed info.bptInductiveEnergyReadingVarh
    capacitiveEnergyReadingVarh := cb2cppAssignIfUsed info.capacitiveEnergyReadingVarh
    meterSignature
    meterStatus := cb2cppAssignIfUsed info.meterStatus
    meterTimestamp := cb2cppAssignIfUsed info.meterTimestamp }

def DetailedCostType.convert (cost : DetailedCostType) : DetailedCost :=
  { amount := cost.amount.convert, costPerUnit := cost.costPerUnit.convert }

def DetailedTaxType.convert (tax : DetailedTaxType) : DetailedTax :=
  { taxRuleId := tax.taxRuleId, amount := tax.amount.convert }

/-- `init_iso20_ac_ReceiptType` and `init_iso20_dc_ReceiptType` -/
def ReceiptType.init (out : ReceiptType capacities) : ReceiptType capacities :=
  { out with
    energyCosts := out.energyCosts.clear id
    occupancyCosts := out.occupancyCosts.clear id
    additionalServicesCosts := out.additionalServicesCosts.clear id
    overstayCosts := out.overstayCosts.clear id
    taxCosts := out.taxCosts.clear }

def ReceiptType.convert (receipt : ReceiptType capacities) : Except Fault Receipt :=
  if 10 < receipt.taxCosts.length then .error (.runtimeError "tax costs array is too large")
  else do
    let taxCosts ← receipt.taxCosts.entries .outsideArray fun tax => .ok tax.convert
    return {
      timeAnchor := receipt.timeAnchor
      energyCosts := receipt.energyCosts.read (·.convert)
      occupancyCosts := receipt.occupancyCosts.read (·.convert)
      additionalServiceCosts := receipt.additionalServicesCosts.read (·.convert)
      overstayCosts := receipt.overstayCosts.read (·.convert)
      taxCosts }

end Iso20

variable {capacities : MeteringCapacities}

def setSignature {capacity : Nat} (signature : Option StdString) (out : Used (CbString capacity)) :
    Except Fault (Used (CbString capacity)) :=
  -- The flag of the signature is only ever set.
  match signature with
  | some signature => do
      let bytes ← cpp2cbBytes signature out.value
      return { value := bytes, isUsed := true }
  | none => return out

/-- `convert_meterinfo` -/
def Datatypes.MeterInfo.convert (info : MeterInfo) (out : Iso20.MeterInfoType capacities) :
    Except Fault (Iso20.MeterInfoType capacities) := do
  let out := out.init
  let meterId ← cpp2cbString info.meterId out.meterId
  let meterSignature ← setSignature info.meterSignature out.meterSignature
  return {
    meterId
    chargedEnergyReadingWh := info.chargedEnergyReadingWh
    bptDischargedEnergyReadingWh :=
      cpp2cbAssignIfUsed info.bptDischargedEnergyReadingWh out.bptDischargedEnergyReadingWh
    capacitiveEnergyReadingVarh :=
      cpp2cbAssignIfUsed info.capacitiveEnergyReadingVarh out.capacitiveEnergyReadingVarh
    bptInductiveEnergyReadingVarh :=
      cpp2cbAssignIfUsed info.bptInductiveEnergyReadingVarh out.bptInductiveEnergyReadingVarh
    meterSignature
    meterStatus := cpp2cbAssignIfUsed info.meterStatus out.meterStatus
    meterTimestamp := cpp2cbAssignIfUsed info.meterTimestamp out.meterTimestamp }

def Datatypes.DetailedCost.convert (cost : DetailedCost) : Iso20.DetailedCostType :=
  { amount := cost.amount.convert, costPerUnit := cost.costPerUnit.convert }

def Datatypes.DetailedTax.convert (tax : DetailedTax) : Iso20.DetailedTaxType :=
  { taxRuleId := tax.taxRuleId, amount := tax.amount.convert }

def Datatypes.Receipt.convert (receipt : Receipt) (out : Iso20.ReceiptType capacities) :
    Except Fault (Iso20.ReceiptType capacities) :=
  -- The number of tax costs is compared with the size of the array in bytes.
  let out := out.init
  if capacities.taxCosts * capacities.detailedTaxSize < receipt.taxCosts.length then
    .error (.runtimeError "tax costs array is too large")
  else do
    let taxCosts ← out.taxCosts.fill .outsideArray (fun tax _ => .ok tax.convert) receipt.taxCosts
    return {
      timeAnchor := receipt.timeAnchor
      energyCosts := out.energyCosts.write (fun cost _ => cost.convert) receipt.energyCosts
      occupancyCosts := out.occupancyCosts.write (fun cost _ => cost.convert) receipt.occupancyCosts
      additionalServicesCosts :=
        out.additionalServicesCosts.write (fun cost _ => cost.convert) receipt.additionalServiceCosts
      overstayCosts := out.overstayCosts.write (fun cost _ => cost.convert) receipt.overstayCosts
      taxCosts }

@[simp] theorem Datatypes.DetailedCost.convert_convert (cost : DetailedCost) : cost.convert.convert = cost := rfl

@[simp] theorem Datatypes.DetailedCost.read_write (cost : Option DetailedCost) (out : Used Iso20.DetailedCostType) :
    (out.write (fun cost _ => cost.convert) cost).read (·.convert) = cost :=
  Used.read_write (fun _ _ => rfl) cost out

@[simp] theorem Datatypes.DetailedTax.convert_convert (tax : DetailedTax) : tax.convert.convert = tax := rfl

theorem setSignature_outcome {capacity : Nat} (positive : 0 < capacity) (signature : Option StdString)
    (out : Used (CbString capacity)) :
    Outcome Fault.isThrown (∀ bytes ∈ signature, bytes.length ≤ capacity)
      (fun written => cb2cppBytesIfUsed written = .ok signature ↔ signature = none)
      (setSignature signature (out.clear Bounded.clear)) := by
  -- The signature is the one member that is not read back.
  cases signature with
  | none => simp [setSignature, cb2cppBytesIfUsed, Used.readM_clear]
  | some bytes =>
      refine ((Outcome.checked trivial fun room => copyChars_outcome bytes (by omega) _).andThen
        fun written _ => ?_).mono (by simp) fun _ holds => holds
      have never := cb2cppBytes_never positive written
      simp [cb2cppBytesIfUsed, Used.readM, map_eq_ok, never]

def Datatypes.MeterInfo.Fits (capacities : MeteringCapacities) (info : MeterInfo) : Prop :=
  info.meterId.length ≤ capacities.meterId ∧
    ∀ signature ∈ info.meterSignature, signature.length ≤ capacities.meterSignature

theorem Datatypes.MeterInfo.convert_codes (info : MeterInfo) :
    Codes Fault.isThrown (fun info (out : Iso20.MeterInfoType capacities) => info.convert out) (·.convert)
      (MeterInfo.Fits capacities) (fun info => info.meterSignature = none) info := by
  intro out
  refine ((cpp2cbString_codes info.meterId _).bind ?_).mono Iff.rfl fun _ holds => holds
  intro meterId idBack
  refine (setSignature_outcome capacities.meterSignature_pos info.meterSignature _).andThen
    fun meterSignature signatureBack => ?_
  simp only [iff_true] at idBack
  rw [Outcome.pure_iff]
  dsimp only
  rw [← signatureBack]
  cases info
  simp [Iso20.MeterInfoType.convert, bind_eq_ok, map_eq_ok, idBack]

theorem Datatypes.DetailedTax.convert_codes (tax : DetailedTax) :
    Codes Fault.isThrown (fun (tax : DetailedTax) (_ : Iso20.DetailedTaxType) => .ok tax.convert)
      (fun tax => .ok tax.convert) (fun _ => True) (fun _ => True) tax :=
  Codes.of_same (fun _ _ => rfl) tax

theorem Datatypes.Receipt.convert_inside (receipt : Receipt) (out : Iso20.ReceiptType capacities)
    (room : receipt.taxCosts.length ≤ capacities.taxCosts) :
    ∃ written, receipt.convert out = .ok written ∧
      (written.convert = .ok receipt ↔ receipt.taxCosts.length ≤ 10) := by
  have bytes := Nat.le_mul_of_pos_right capacities.taxCosts capacities.detailedTaxSize_pos
  have inner := fun tax (_ : tax ∈ receipt.taxCosts) => tax.convert_codes
  have filled := Bounded.fill_codes Fault.outsideArray room inner out.init.taxCosts
  obtain ⟨taxCosts, stored, back⟩ := filled.exists_ok (by simp)
  simp only [implies_true, iff_true] at back
  rw [Receipt.convert, if_neg (by omega), stored]
  refine ⟨_, rfl, ?_⟩
  rw [Iso20.ReceiptType.convert, Bounded.fill_length stored]
  by_cases few : receipt.taxCosts.length ≤ 10
  · rw [if_neg (by omega), back]
    simp [few]
  · simp [few, Nat.lt_of_not_le few]

theorem Datatypes.Receipt.convert_outside (receipt : Receipt) (out : Iso20.ReceiptType capacities)
    (full : capacities.taxCosts < receipt.taxCosts.length)
    (unnoticed : receipt.taxCosts.length ≤ capacities.taxCosts * capacities.detailedTaxSize) :
    receipt.convert out = .error .outsideArray := by
  -- Between the number of entries and the number of bytes the writer goes past the array.
  have stored := Bounded.store_outside Fault.outsideArray receipt.taxCosts
    (fun tax _ _ => ⟨tax.convert, rfl⟩) 0 out.init.taxCosts.array (by omega) (by omega)
  rw [Receipt.convert, if_neg (by omega), Bounded.fill, stored]
  rfl

theorem Datatypes.Receipt.convert_refused (receipt : Receipt) (out : Iso20.ReceiptType capacities)
    (many : capacities.taxCosts * capacities.detailedTaxSize < receipt.taxCosts.length) :
    receipt.convert out = .error (.runtimeError "tax costs array is too large") := by
  rw [Receipt.convert, if_pos many]

def RefusedFor (exceeds : Prop) (fault : Fault) : Prop :=
  fault.isThrown ∧ exceeds

/-- Whatever the generated record held, the meter information is refused for a field that is too long, or
comes back. -/
def Datatypes.MeterInfo.ComesBack (capacities : MeteringCapacities) (info : MeterInfo) : Prop :=
  RoundTrips (RefusedFor ¬info.Fits capacities)
    (fun info (out : Iso20.MeterInfoType capacities) => info.convert out) (·.convert) info

def Datatypes.Receipt.ComesBack (capacities : MeteringCapacities) (receipt : Receipt) : Prop :=
  RoundTrips (RefusedFor (capacities.taxCosts < receipt.taxCosts.length))
    (fun receipt (out : Iso20.ReceiptType capacities) => receipt.convert out) (·.convert) receipt

/-- Meter information comes back unless it has a signature that fits; a receipt comes back as long as its
tax costs fit the array and are no more than 10, and is refused only from the size of the array in bytes. -/
theorem metering_round_trip_iff (capacities : MeteringCapacities) :
    (∀ info : MeterInfo,
      info.ComesBack capacities ↔ info.meterSignature = none ∨ ¬info.Fits capacities) ∧
      ∀ receipt : Receipt,
        receipt.ComesBack capacities ↔
          receipt.taxCosts.length ≤ min capacities.taxCosts 10 ∨
            capacities.taxCosts * capacities.detailedTaxSize < receipt.taxCosts.length := by
  constructor
  · intro info
    rw [Datatypes.MeterInfo.ComesBack,
      info.convert_codes.roundTrips_iff fun fault thrown exceeds => ⟨thrown, exceeds⟩]
    tauto
  · intro receipt
    constructor
    · intro back
      by_cases room : receipt.taxCosts.length ≤ capacities.taxCosts
      · obtain ⟨written, result, kept⟩ := receipt.convert_inside default room
        have few := kept.mp (RoundTrips.back back result)
        omega
      · by_cases many : capacities.taxCosts * capacities.detailedTaxSize < receipt.taxCosts.length
        · exact .inr many
        · have outside := receipt.convert_outside (default : Iso20.ReceiptType capacities) (by omega) (by omega)
          exact False.elim (RoundTrips.failed back outside).1
    · rintro (few | many) out
      · obtain ⟨written, result, kept⟩ := receipt.convert_inside out (by omega)
        simpa [result] using kept.mpr (by omega)
      · have bytes := Nat.le_mul_of_pos_right capacities.taxCosts capacities.detailedTaxSize_pos
        simp only [receipt.convert_refused out many]
        exact ⟨trivial, by omega⟩

namespace Sample

def meteringCapacities : MeteringCapacities :=
  { meterId := 32, meterSignature := 64, taxCosts := 10, detailedTaxSize := 8
    meterSignature_pos := by decide, detailedTaxSize_pos := by decide }

def signedMeter : MeterInfo :=
  { meterId := "M1", chargedEnergyReadingWh := 1000, meterSignature := some "S" }

def taxedReceipt : Receipt :=
  { timeAnchor := 0, taxCosts := List.replicate 11 { taxRuleId := 1, amount := {} } }

end Sample

/-- The reader refuses the signature, and eleven tax costs are written to an array of ten. -/
theorem metering_lost :
    ¬Sample.signedMeter.ComesBack Sample.meteringCapacities ∧
      ¬Sample.taxedReceipt.ComesBack Sample.meteringCapacities := by
  constructor
  · intro back
    have fits : Sample.signedMeter.Fits Sample.meteringCapacities := by
      constructor
      · decide
      · intro signature present
        cases present
        decide
    cases (Sample.signedMeter.convert_codes.roundTrips_iff fun _ thrown exceeds => ⟨thrown, exceeds⟩).mp back fits
  · intro back
    have outside := Sample.taxedReceipt.convert_outside
      (default : Iso20.ReceiptType Sample.meteringCapacities) (by decide) (by decide)
    exact (RoundTrips.failed back outside).1

end LibIso15118
