import Paymaster.Proofs.Text.Places

/-
  The bytes of texts.
  A character of ASCII is written as one byte, its own number. So texts of such characters go before
  each other as their bytes do (`bytes_lt_iff`).
-/

namespace Paymaster.Text

/-- The characters are of ASCII. -/
def IsAscii (cs : List Char) : Prop := ∀ c ∈ cs, c.val ≤ 127

theorem IsAscii.append {x y : List Char} (hx : IsAscii x) (hy : IsAscii y) : IsAscii (x ++ y) :=
  List.forall_mem_append.2 ⟨hx, hy⟩

theorem IsAscii.cons {c : Char} {x : List Char} (hc : c.val ≤ 127) (hx : IsAscii x) :
    IsAscii (c :: x) :=
  List.forall_mem_cons.2 ⟨hc, hx⟩

theorem isAscii_padded (w n : Nat) : IsAscii (Decimal.padded w n) := by
  intro c hc
  have digit := Decimal.isDigit_of_mem_padded hc
  simp only [Char.isDigit, Bool.and_eq_true, decide_eq_true_eq] at digit
  exact UInt32.le_trans digit.2 (by decide)

/-- The bytes of a text. -/
def bytes (text : String) : List UInt8 := text.toByteArray.data.toList

/-- The byte of a character of ASCII. -/
def byte (c : Char) : UInt8 := c.val.toUInt8

theorem toNat_byte {c : Char} (h : c.val ≤ 127) : (byte c).toNat = c.val.toNat := by
  have small := UInt32.le_iff_toNat_le.1 h
  rw [byte, UInt32.toNat_toUInt8, Nat.mod_eq_of_lt]
  exact Nat.lt_of_le_of_lt small (by decide)

theorem bytes_eq {text : String} (h : IsAscii text.toList) : bytes text = text.toList.map byte := by
  have single (c : Char) (hc : c ∈ text.toList) : String.utf8EncodeChar c = [byte c] :=
    String.utf8EncodeChar_eq_singleton (Char.utf8Size_eq_one_iff.2 (h c hc))
  rw [bytes, ← String.ofList_toList (s := text), String.toByteArray_ofList, List.utf8Encode,
    List.toList_data_toByteArray, String.toList_ofList, List.flatMap_def,
    List.map_congr_left single, ← List.flatMap_def, List.map_eq_flatMap]

theorem map_byte_lt_iff {x y : List Char} (hx : IsAscii x) (hy : IsAscii y) :
    x.map byte < y.map byte ↔ x < y := by
  induction x generalizing y with
  | nil => cases y <;> simp
  | cons c x ih =>
    cases y with
    | nil => simp
    | cons d y =>
      obtain ⟨hc, hx⟩ := List.forall_mem_cons.1 hx
      obtain ⟨hd, hy⟩ := List.forall_mem_cons.1 hy
      have less : byte c < byte d ↔ c < d := by
        rw [UInt8.lt_iff_toNat_lt, toNat_byte hc, toNat_byte hd, Char.lt_def,
          UInt32.lt_iff_toNat_lt]
      have same : byte c = byte d ↔ c = d := by
        rw [← UInt8.toNat_inj, toNat_byte hc, toNat_byte hd, UInt32.toNat_inj, Char.ext_iff]
      rw [List.map_cons, List.map_cons, List.cons_lt_cons_iff, List.cons_lt_cons_iff, less, same,
        ih hx hy]

/-- Texts of ASCII are ordered as their bytes. -/
theorem bytes_lt_iff {s t : String} (hs : IsAscii s.toList) (ht : IsAscii t.toList) :
    bytes s < bytes t ↔ s < t := by
  rw [bytes_eq hs, bytes_eq ht, String.lt_iff]
  exact map_byte_lt_iff hs ht

end Paymaster.Text
