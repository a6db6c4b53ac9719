import Mathlib.Data.List.Basic

set_option autoImplicit false

namespace Shared

structure Format (β : Type) where
  headerSize : Nat
  size : List β → Nat
  headerSize_pos : 0 < headerSize
  headerSize_le : ∀ header, headerSize ≤ size header

/-- A frame and where it starts; the last one of a stream may be cut off after its header. -/
structure Frame (β : Type) where
  offset : Nat
  bytes : List β

namespace Format

variable {β : Type} (format : Format β)

/-- The size that the header at the start of `bytes` tells. -/
def sizeOf (bytes : List β) : Nat := format.size (bytes.take format.headerSize)

theorem headerSize_le_sizeOf (bytes : List β) : format.headerSize ≤ format.sizeOf bytes :=
  format.headerSize_le _

/-- The frames of a stream, the first of which starts at `offset`. -/
def frames (offset : Nat) (bytes : List β) : List (Frame β) :=
  if _header : format.headerSize ≤ bytes.length then
    ⟨offset, bytes.take (format.sizeOf bytes)⟩ ::
      frames (offset + format.sizeOf bytes) (bytes.drop (format.sizeOf bytes))
  else []
termination_by bytes.length
decreasing_by
  have := format.headerSize_pos
  have := format.headerSize_le_sizeOf bytes
  simp only [List.length_drop]
  omega

variable {format}

theorem frames_short {offset : Nat} {bytes : List β} (short : bytes.length < format.headerSize) :
    format.frames offset bytes = [] := by
  rw [frames, dif_neg (Nat.not_le.mpr short)]

theorem frames_header {offset : Nat} {bytes : List β} (header : format.headerSize ≤ bytes.length) :
    format.frames offset bytes = ⟨offset, bytes.take (format.sizeOf bytes)⟩ ::
      format.frames (offset + format.sizeOf bytes) (bytes.drop (format.sizeOf bytes)) := by
  rw [frames, dif_pos header]

theorem sizeOf_append {bytes : List β} (header : format.headerSize ≤ bytes.length) (more : List β) :
    format.sizeOf (bytes ++ more) = format.sizeOf bytes := by
  rw [sizeOf, sizeOf, List.take_append_of_le_length header]

theorem frames_complete {offset : Nat} {bytes : List β} (header : format.headerSize ≤ bytes.length)
    (complete : format.sizeOf bytes ≤ bytes.length) (more : List β) :
    format.frames offset (bytes ++ more) = ⟨offset, bytes.take (format.sizeOf bytes)⟩ ::
      format.frames (offset + format.sizeOf bytes) (bytes.drop (format.sizeOf bytes) ++ more) := by
  -- A frame that has come in completely is the first one, whatever follows.
  rw [frames_header (by simp; omega), sizeOf_append header, List.take_append_of_le_length complete,
    List.drop_append_of_le_length complete]

theorem frames_cut {offset : Nat} {bytes : List β} (header : format.headerSize ≤ bytes.length)
    (cut : bytes.length < format.sizeOf bytes) : format.frames offset bytes = [⟨offset, bytes⟩] := by
  -- A frame that has not come in completely is the last one.
  rw [frames_header header, List.take_of_length_le (Nat.le_of_lt cut),
    List.drop_eq_nil_of_le (Nat.le_of_lt cut),
    frames_short (by simpa using format.headerSize_pos)]

theorem frames_encoded {α : Type} (encode : α → List β) (items : List α)
    (sized : ∀ item ∈ items, format.sizeOf (encode item) = (encode item).length) (offset : Nat) :
    (format.frames offset (items.flatMap encode)).map Frame.bytes = items.map encode := by
  induction items generalizing offset with
  | nil =>
      rw [List.flatMap_nil, frames_short (by simpa using format.headerSize_pos)]
      rfl
  | cons item rest hyp =>
      have size := sized item (List.mem_cons_self ..)
      have header : format.headerSize ≤ (encode item).length := by
        rw [← size]
        exact format.headerSize_le_sizeOf _
      rw [List.flatMap_cons, frames_complete header (Nat.le_of_eq size), List.map_cons, List.map_cons,
        size, List.take_length, List.drop_length, List.nil_append,
        hyp fun item member => sized item (List.mem_cons_of_mem _ member)]

end Format

end Shared
