import LibIso15118.Shared.Act
import Mathlib.Data.List.Basic
import Mathlib.Tactic.Common

set_option autoImplicit false

namespace LibIso15118.SupportedVersions

open Shared

/-- `TLS1_3_VERSION` -/
def tls13Version : Nat := 0x0304

/-- `*(data++)`: the state is the offset of the pointer, and the log says where it has been read. -/
def readByte (memory : Nat → UInt8) : Act Nat Nat Empty UInt8 := do
  let data ← Act.get
  Act.emit data
  Act.modify (· + 1)
  return memory data

/-- The loop, with the difference between `length_supported_versions` and `i` as its argument. -/
def scan (memory : Nat → UInt8) : Nat → Bool → Act Nat Nat Empty Bool
  | 0, result => return result
  | left + 1, result => do
      let firstByte ← readByte memory
      let secondByte ← readByte memory
      let tlsVersion := firstByte.toNat <<< 8 ||| secondByte.toNat
      let result := result || tlsVersion = tls13Version
      match left with
      | 0 => return result
      | left + 1 => scan memory left result

/-- `is_tls_1_3`; `none` is the null pointer. -/
def isTls13 (data : Option (Nat → UInt8)) (remaining : UInt64) : Act Nat Nat Empty Bool :=
  match data with
  | none => return false
  | some memory => do
      let lengthSupportedVersions ← readByte memory
      let remaining := remaining - 1
      if lengthSupportedVersions.toUInt64 ≠ remaining then return false
      if lengthSupportedVersions % 2 ≠ 0 then return false
      scan memory lengthSupportedVersions.toNat false

def bytes (memory : Nat → UInt8) (start count : Nat) : List UInt8 :=
  (List.range count).map fun index => memory (start + index)

def pairs : List UInt8 → List Nat
  | first :: second :: rest => (first.toNat * 256 + second.toNat) :: pairs rest
  | _ => []

def Offers (body : List UInt8) : Prop :=
  ∃ length versions, body = length :: versions ∧ length.toNat = versions.length ∧ length.toNat % 2 = 0 ∧
    tls13Version ∈ pairs versions

theorem bytes_succ (memory : Nat → UInt8) (start count : Nat) :
    bytes memory start (count + 1) = memory start :: bytes memory (start + 1) count := by
  simp only [bytes, List.range_succ_eq_map, List.map_cons, List.map_map, Nat.add_zero]
  congr 1
  apply List.map_congr_left
  intro index _
  exact congrArg memory (by simp only [Nat.succ_eq_add_one]; omega)

@[simp] theorem bytes_length (memory : Nat → UInt8) (start count : Nat) :
    (bytes memory start count).length = count := by
  simp [bytes]

theorem bigEndian_or (first second : UInt8) :
    first.toNat <<< 8 ||| second.toNat = first.toNat * 256 + second.toNat := by
  rw [← Nat.shiftLeft_add_eq_or_of_lt second.toNat_lt, Nat.shiftLeft_eq]

section Scan

variable (memory : Nat → UInt8)

@[simp] theorem wp_readByte (post : Except Empty UInt8 → Nat → List Nat → Prop) (data : Nat) :
    Act.wp (readByte memory) post data ↔ post (.ok (memory data)) (data + 1) [data] := Iff.rfl

theorem scan_pairs (count : Nat) (found : Bool) (data : Nat) :
    Act.wp (scan memory (2 * count) found) (fun result _ log =>
      result = .ok (found || decide (tls13Version ∈ pairs (bytes memory data (2 * count)))) ∧
        ∀ offset ∈ log, offset < data + 2 * count) data := by
  induction count generalizing found data with
  | zero => simp [scan, bytes, pairs]
  | succ count hyp =>
      have turn : 2 * (count + 1) = 2 * count + 1 + 1 := by omega
      rw [turn, bytes_succ, bytes_succ]
      simp only [scan, Act.wp_bind, wp_readByte]
      refine Act.wp_mono _ _ (hyp _ (data + 1 + 1)) ?_
      rintro result end_ log ⟨rfl, inside⟩
      refine ⟨?_, ?_⟩
      · simp [pairs, bigEndian_or, Bool.or_assoc, eq_comm]
      · intro offset member
        simp only [List.cons_append, List.nil_append, List.mem_cons] at member
        rcases member with rfl | rfl | later
        · omega
        · omega
        · have := inside offset later
          omega

end Scan

/-- The answer for a body is whether it offers the version, and nothing outside of the body is read. -/
def Parses (memory : Nat → UInt8) (remaining : UInt64) : Prop :=
  Act.wp (isTls13 (some memory) remaining) (fun result _ log =>
    (result = .ok true ↔ Offers (bytes memory 0 remaining.toNat)) ∧ ∀ offset ∈ log, offset < remaining.toNat) 0

theorem offers_iff (memory : Nat → UInt8) (count : Nat) :
    Offers (bytes memory 0 (count + 1)) ↔
      (memory 0).toNat = count ∧ (memory 0).toNat % 2 = 0 ∧ tls13Version ∈ pairs (bytes memory 1 count) := by
  rw [Offers, bytes_succ]
  constructor
  · rintro ⟨length, versions, body, fits, even, inside⟩
    obtain ⟨rfl, rfl⟩ := List.cons.inj body
    exact ⟨by simpa using fits, even, inside⟩
  · rintro ⟨fits, even, inside⟩
    exact ⟨_, _, rfl, by simpa using fits, even, inside⟩

theorem parses_of_nonempty (memory : Nat → UInt8) {remaining : UInt64} (nonempty : remaining ≠ 0) :
    Parses memory remaining := by
  have positive : 0 < remaining.toNat := by
    rw [Nat.pos_iff_ne_zero]
    exact fun zero => nonempty (UInt64.toNat_inj.mp zero)
  have rest : (remaining - 1).toNat = remaining.toNat - 1 :=
    UInt64.toNat_sub_of_le _ _ (UInt64.le_iff_toNat_le.mpr positive)
  obtain ⟨count, size⟩ : ∃ count, remaining.toNat = count + 1 := ⟨remaining.toNat - 1, by omega⟩
  have first (offset : Nat) (member : offset ∈ [0]) : offset < count + 1 := by
    obtain rfl := List.mem_singleton.mp member
    omega
  unfold Parses
  rw [size]
  simp only [isTls13, Act.wp_bind, wp_readByte, Act.wp_ite, Act.wp_pure, offers_iff]
  by_cases fits : (memory 0).toNat = count
  · have equal : (memory 0).toUInt64 = remaining - 1 := by
      rw [← UInt64.toNat_inj, rest, UInt8.toNat_toUInt64]
      omega
    have parity : memory 0 % 2 = 0 ↔ (memory 0).toNat % 2 = 0 := by
      rw [← UInt8.toNat_inj]
      simp
    simp only [equal, ne_eq, not_true_eq_false, false_implies, not_false_eq_true, true_implies, true_and]
    by_cases even : (memory 0).toNat % 2 = 0
    · obtain ⟨half, double⟩ : ∃ half, (memory 0).toNat = 2 * half := ⟨(memory 0).toNat / 2, by omega⟩
      simp only [parity, even, not_true_eq_false, false_implies, not_false_eq_true, true_implies, true_and]
      rw [double]
      refine Act.wp_mono _ _ (scan_pairs memory half false 1) ?_
      rintro result end_ log ⟨rfl, inside⟩
      have counted : count = 2 * half := by omega
      subst counted
      refine ⟨by simp, fun offset member => ?_⟩
      rcases List.mem_cons.mp member with rfl | later
      · omega
      · have := inside offset later
        omega
    · simp only [parity, even, not_false_eq_true, true_implies, not_true_eq_false, false_implies, and_true]
      exact ⟨by simp, first⟩
  · have unequal : ¬(memory 0).toUInt64 = remaining - 1 := by
      rw [← UInt64.toNat_inj, rest, UInt8.toNat_toUInt64]
      omega
    simp only [unequal, ne_eq, not_false_eq_true, true_implies, not_true_eq_false, false_implies, and_true]
    exact ⟨by simp [fits], first⟩

theorem isTls13_reads (memory : Nat → UInt8) (remaining : UInt64) :
    0 ∈ (isTls13 (some memory) remaining 0).log := by
  obtain ⟨rest, log⟩ := Act.log_bind (readByte memory) _ 0
  exact log ▸ List.mem_append_left _ (List.mem_singleton.mpr rfl)

/-- The parser is right and stays inside of the body, exactly when the body is not empty. -/
theorem parses_iff (memory : Nat → UInt8) (remaining : UInt64) : Parses memory remaining ↔ remaining ≠ 0 := by
  constructor
  · rintro parses rfl
    exact absurd (parses.2 0 (isTls13_reads memory 0)) (by decide)
  · exact parses_of_nonempty memory

/-- The length byte of an empty body is read. -/
theorem parses_empty : ¬∀ (memory : Nat → UInt8) (remaining : UInt64), Parses memory remaining := by
  intro parses
  have outside := (parses (fun _ => 0) 0).2 0
  exact absurd (outside (List.mem_singleton.mpr rfl)) (by decide)

end LibIso15118.SupportedVersions
