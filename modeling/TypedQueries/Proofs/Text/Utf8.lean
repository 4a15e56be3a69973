import Mathlib.Tactic.SplitIfs
import TypedQueries.Text.Utf8

/-! # Text and its bytes

Bytes that are text are shown as that text (`Utf8.display_of_text?`), and bytes are read as a text
only if they are its bytes (`Utf8.fromUTF8?_eq_some_iff`). A byte below 128 stands in a text for the
character that it is and for no part of another (`Utf8.mem_toList_toUTF8_iff`).
-/

namespace TypedQueries

namespace Utf8

theorem map_getD_of_mapM_id {α : Type} {default : α} {values : List (Option α)} {all : List α}
    (present : values.mapM id = some all) : values.map (·.getD default) = all := by
  induction values generalizing all with
  | nil =>
      cases present
      rfl
  | cons value values ih =>
      simp only [List.mapM_cons, id_eq, Option.bind_eq_bind, Option.bind_eq_some_iff] at present
      obtain ⟨first, rfl, rest, others, whole⟩ := present
      cases whole
      rw [List.map_cons, ih others, Option.getD_some]

/-- Bytes that are UTF-8 are shown as their text. -/
theorem display_of_text? {bytes : List UInt8} {text : String} (isText : text? bytes = some text) :
    display bytes = text := by
  obtain ⟨characters, all, rfl⟩ := Option.map_eq_some_iff.mp isText
  rw [display, map_getD_of_mapM_id all]

theorem fromUTF8?_eq_some_iff {content : ByteArray} {text : String} :
    String.fromUTF8? content = some text ↔ content = text.toUTF8 := by
  rw [String.fromUTF8?]
  constructor
  · intro isText
    split at isText
    · cases isText
      rfl
    · cases isText
  · rintro rfl
    exact dif_pos text.isValidUTF8

theorem toList_loop (bytes : ByteArray) (i : Nat) (read : List UInt8) :
    ByteArray.toList.loop bytes i read = read.reverse ++ bytes.data.toList.drop i := by
  fun_induction ByteArray.toList.loop bytes i read with
  | case1 i read inside ih =>
      have bound : i < bytes.data.toList.length := by simpa using inside
      rw [ih, List.drop_eq_getElem_cons bound]
      simp [ByteArray.get!, inside]
  | case2 i read outside =>
      rw [List.drop_eq_nil_of_le (by simpa using outside), List.append_nil]

/-- The bytes of a text are those of its characters. -/
theorem toList_toUTF8 (text : String) :
    text.toUTF8.toList = text.toList.flatMap String.utf8EncodeChar := by
  rw [ByteArray.toList, toList_loop, List.reverse_nil, List.nil_append, List.drop_zero,
    String.toUTF8_eq_toByteArray, ← String.utf8Encode_toList, List.utf8Encode,
    List.toList_data_toByteArray]

/-- A byte below 128 is one of a character only if it is that character. -/
theorem mem_utf8EncodeChar_iff {c : Char} {b : UInt8} (ascii : b.toNat < 128) :
    b ∈ String.utf8EncodeChar c ↔ c.toNat = b.toNat := by
  have value : c.val.toNat = c.toNat := rfl
  rw [String.utf8EncodeChar.eq_1]
  split_ifs <;>
    simp only [List.mem_cons, List.not_mem_nil, or_false, ← UInt8.toNat_inj, UInt8.toNat_ofNat'] <;>
    omega

theorem mem_toList_toUTF8_iff {text : String} {c : Char} (ascii : c.toNat < 128) :
    UInt8.ofNat c.toNat ∈ text.toUTF8.toList ↔ c ∈ text.toList := by
  have same : (UInt8.ofNat c.toNat).toNat = c.toNat :=
    UInt8.toNat_ofNat_of_lt' (Nat.lt_trans ascii (by decide))
  rw [toList_toUTF8, List.mem_flatMap]
  constructor
  · rintro ⟨other, member, inside⟩
    rw [mem_utf8EncodeChar_iff (by omega), same] at inside
    rwa [← Char.toNat_inj.mp inside]
  · intro member
    exact ⟨c, member, (mem_utf8EncodeChar_iff (by omega)).mpr same.symm⟩

/-- The last byte of a text is one of its last character. -/
theorem exists_toList_toUTF8_eq_concat {text : String} {c : Char}
    (last : text.toList.getLast? = some c) :
    ∃ bytes, ∃ b ∈ String.utf8EncodeChar c, text.toUTF8.toList = bytes ++ [b] := by
  obtain ⟨start, whole⟩ := List.getLast?_eq_some_iff.mp last
  have nonempty : String.utf8EncodeChar c ≠ [] :=
    List.length_pos_iff.mp (by simp [Char.utf8Size_pos])
  refine ⟨start.flatMap String.utf8EncodeChar ++ (String.utf8EncodeChar c).dropLast,
    (String.utf8EncodeChar c).getLast nonempty, List.getLast_mem nonempty, ?_⟩
  rw [toList_toUTF8, whole, List.flatMap_append, List.flatMap_singleton, List.append_assoc,
    List.dropLast_concat_getLast]

end Utf8

end TypedQueries
