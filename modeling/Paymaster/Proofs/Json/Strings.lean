import Paymaster.Json.Printer
import Paymaster.Json.Reader

/-
  Strings written and read back.
  A character is written as itself, as a backslash and a letter, or by its code in hexadecimal, and
  each is read as the code of the character (`codes?_escape`). The code of a character is never
  half of a surrogate pair, so the codes of a text make up the text again
  (`assemble?_map_toNat`).
-/

namespace Paymaster.Json

/-! ## One character -/

/-- One more code in front of those that are read. -/
def before (n : Nat) : List Nat × List Char → List Nat × List Char := Prod.map (n :: ·) id

theorem codes?_letter {e c : Char} (h : escaped? e = some c) (rest : List Char) :
    codes? ('\\' :: e :: rest) = (codes? rest).map (before c.toNat) := by
  have other : e ≠ 'u' := by
    rintro rfl
    cases h
  rw [codes?]
  · rw [h]
    cases codes? rest <;> rfl
  · exact fun _ _ _ _ _ same _ => other same

theorem codes?_unit {a b c d : Char} {n : Nat} (h : codeUnit? a b c d = some n)
    (rest : List Char) :
    codes? ('\\' :: 'u' :: a :: b :: c :: d :: rest) = (codes? rest).map (before n) := by
  rw [codes?, h]
  cases codes? rest <;> rfl

theorem codes?_self {c : Char} (quote : c ≠ '"') (backslash : c ≠ '\\') (h : ¬c.toNat < 32)
    (rest : List Char) : codes? (c :: rest) = (codes? rest).map (before c.toNat) := by
  rw [codes?]
  · rw [if_neg h]
    cases codes? rest <;> rfl
  · exact quote
  · exact fun _ _ _ _ _ same _ => backslash same
  · exact fun _ _ same _ => backslash same

/-- The hexadecimal digits of a control character are read as its code. -/
theorem codeUnit?_hexChars : ∀ n < 32, codeUnit? (n / 4096).digitChar (n / 256 % 16).digitChar
    (n / 16 % 16).digitChar (n % 16).digitChar = some n := by
  decide

theorem codes?_escape (c : Char) (rest : List Char) :
    codes? (escape c ++ rest) = (codes? rest).map (before c.toNat) := by
  unfold escape
  -- The seven characters that are escaped by a letter.
  iterate 7
    split
    · rename_i letter
      subst letter
      exact codes?_letter rfl rest
  split
  · rename_i control
    exact codes?_unit (codeUnit?_hexChars c.toNat control) rest
  · rename_i quote backslash _ _ _ _ _ plain
    exact codes?_self quote backslash plain rest

/-! ## Texts -/

theorem codes?_escaped (cs rest : List Char) :
    codes? (cs.flatMap escape ++ '"' :: rest) = some (cs.map Char.toNat, rest) := by
  induction cs with
  | nil => rw [List.flatMap_nil, List.nil_append, codes?, List.map_nil]
  | cons c cs ih =>
    rw [List.flatMap_cons, List.append_assoc, codes?_escape, ih]
    rfl

theorem not_surrogate (c : Char) :
    isHighSurrogate c.toNat = false ∧ isLowSurrogate c.toNat = false := by
  have valid : c.toNat < 0xd800 ∨ 0xdfff < c.toNat ∧ c.toNat < 0x110000 := c.valid
  simp only [isHighSurrogate, isLowSurrogate, Bool.and_eq_false_iff, decide_eq_false_iff_not]
  omega

theorem assemble?_map_toNat (cs : List Char) : assemble? (cs.map Char.toNat) = some cs := by
  induction cs with
  | nil => rfl
  | cons c cs ih =>
    obtain ⟨high, low⟩ := not_surrogate c
    cases cs with
    | nil => simp [assemble?, high, low]
    | cons d ds =>
      rw [List.map_cons] at ih
      rw [List.map_cons, List.map_cons, assemble?, high, low, ih]
      simp

/-- A string is read back from its written form, up to its closing quote. -/
theorem content?_escaped (s : String) (rest : List Char) :
    content? (s.toList.flatMap escape ++ '"' :: rest) = some (some s, rest) := by
  simp [content?, codes?_escaped, assemble?_map_toNat]

end Paymaster.Json
