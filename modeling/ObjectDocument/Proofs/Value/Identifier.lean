import Mathlib.Data.List.Basic
import ObjectDocument.Uuid

/-!
# Identifiers as text

The text of an identifier is read as that identifier: its digits stand for the bytes, and the
hyphens are dropped where they were put.
-/

namespace ObjectDocument

namespace Text

theorem hexDigit?_digitChar : ∀ n < 16, hexDigit? (Nat.digitChar n) = some n := by
  decide

theorem length_hexOfBytes (bytes : List UInt8) : (hexOfBytes bytes).length = 2 * bytes.length := by
  induction bytes with
  | nil => rfl
  | cons byte bytes ih =>
      rw [hexOfBytes, List.flatMap_cons, List.length_append, ← hexOfBytes, ih, List.length_cons,
        Nat.mul_succ, Nat.add_comm]
      rfl

theorem hexOfBytes_append (bytes others : List UInt8) :
    hexOfBytes (bytes ++ others) = hexOfBytes bytes ++ hexOfBytes others :=
  List.flatMap_append

theorem bytesOfHex?_hexOfBytes (bytes : List UInt8) :
    bytesOfHex? (hexOfBytes bytes) = some bytes := by
  induction bytes with
  | nil => rfl
  | cons byte bytes ih =>
      have hlt : byte.toNat < 256 := byte.toNat_lt
      rw [hexOfBytes, List.flatMap_cons, ← hexOfBytes, hexOfByte, List.cons_append,
        List.cons_append, List.nil_append, bytesOfHex?, hexDigit?_digitChar _ (by omega),
        hexDigit?_digitChar _ (by omega), ih]
      have hbyte : UInt8.ofNat (byte.toNat / 16 * 16 + byte.toNat % 16) = byte := by
        rw [Nat.mul_comm, Nat.div_add_mod, UInt8.ofNat_toNat]
      exact congrArg some (congrArg (· :: bytes) hbyte)

end Text

namespace Uuid

@[simp] theorem ofBytes?_bytes (uuid : Uuid) : ofBytes? uuid.bytes = some uuid :=
  dif_pos uuid.size

theorem dropHyphens?_intercalate (groups : List (List Char)) (h : groups ≠ []) :
    dropHyphens? (groups.map List.length) (['-'].intercalate groups) = some groups.flatten := by
  induction groups with
  | nil => exact absurd rfl h
  | cons group groups ih =>
      cases groups with
      | nil => simp [dropHyphens?]
      | cons next groups =>
          have hrest := ih (List.cons_ne_nil next groups)
          rw [List.map_cons, List.intercalate_cons_cons, dropHyphens?]
          · simp only [List.append_assoc, List.singleton_append, List.drop_left, List.take_left,
              hrest]
            rfl
          · exact List.cons_ne_nil _ _

def digitGroups (uuid : Uuid) : List (List Char) :=
  [(0, 4), (4, 2), (6, 2), (8, 2), (10, 6)].map fun (start, size) =>
    Text.hexOfBytes ((uuid.bytes.drop start).take size)

theorem flatten_digitGroups (uuid : Uuid) :
    uuid.digitGroups.flatten = Text.hexOfBytes uuid.bytes := by
  have hcut (start size : Nat) :
      (uuid.bytes.drop start).take size ++ uuid.bytes.drop (start + size) =
        uuid.bytes.drop start := by
    rw [← List.drop_drop, List.take_append_drop]
  have hlast : (uuid.bytes.drop 10).take 6 = uuid.bytes.drop 10 :=
    List.take_of_length_le (by simp [uuid.size])
  simp only [digitGroups, List.map_cons, List.map_nil, List.flatten_cons, List.flatten_nil,
    List.append_nil, ← Text.hexOfBytes_append, hlast]
  rw [hcut 8 2, hcut 6 2, hcut 4 2, hcut 0 4, List.drop_zero]

theorem map_length_digitGroups (uuid : Uuid) :
    uuid.digitGroups.map List.length = [8, 4, 4, 4, 12] := by
  simp [digitGroups, Text.length_hexOfBytes, uuid.size]

theorem toList_text (uuid : Uuid) : uuid.text.toList = ['-'].intercalate uuid.digitGroups := by
  rw [text, String.toList_ofList]
  rfl

/-- The text of an identifier is read as that identifier. -/
@[simp] theorem parse?_text (uuid : Uuid) : parse? uuid.text = some uuid := by
  have hlength : (['-'].intercalate uuid.digitGroups).length = 36 := by
    simp [digitGroups, List.intercalate, Text.length_hexOfBytes, uuid.size]
  have hgroups := dropHyphens?_intercalate uuid.digitGroups (by simp [digitGroups])
  rw [map_length_digitGroups, flatten_digitGroups] at hgroups
  have hdigits : ofDigits? (Text.hexOfBytes uuid.bytes) = some uuid := by
    simp [ofDigits?, Text.bytesOfHex?_hexOfBytes]
  simp [parse?, toList_text, hlength, ofGroups?, hgroups, hdigits]

end Uuid

end ObjectDocument
