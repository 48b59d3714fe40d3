import Paymaster.Proofs.Error.Kinds

/-
  Errors that are the caller's fault.
  Their messages are fixed words with numbers between them. The word that every marker of a bad
  connection has is made up of letters, and a number has none; so the word would have to stand in
  the letters of the message alone (`holds_letters`), which are the same whatever the numbers are.
  It does not, and these errors are never transient (`kind_of_isValidation`).
-/

namespace Paymaster

namespace Text

/-- The letters of a text, all of them small. -/
def letters (cs : List Char) : List Char := (cs.map Char.toLower).filter Char.isAlpha

theorem letters_append (x y : List Char) : letters (x ++ y) = letters x ++ letters y := by
  unfold letters
  rw [List.map_append, List.filter_append]

/-- What is made up of letters stands in a text only if it stands in its letters. -/
theorem holds_letters {word text : List Char} (alphabetic : word.all Char.isAlpha)
    (h : holds word (text.map Char.toLower)) : holds word (letters text) := by
  rw [holds_iff] at h ⊢
  rw [← List.filter_eq_self.2 (List.all_eq_true.1 alphabetic)]
  exact h.filter Char.isAlpha

/-- The characters of numbers. -/
def IsNumeral (cs : List Char) : Prop := ∀ c ∈ cs, c.isDigit ∨ c ∈ ['-', '.']

theorem not_isAlpha_of_isDigit {c : Char} (h : c.isDigit) : ¬c.isAlpha := by
  intro alpha
  have letter : 'A'.val ≤ c.val := by
    rcases Bool.or_eq_true_iff.1 alpha with upper | lower
    · have bounds : 'A'.val ≤ c.val ∧ c.val ≤ 'Z'.val := of_decide_eq_true upper
      exact bounds.1
    · have small : 'a'.val ≤ c.val := of_decide_eq_true (Bool.and_eq_true_iff.1 lower).1
      exact UInt32.le_trans (by decide) small
  exact absurd (UInt32.le_trans letter (val_le_of_isDigit h)) (by decide)

theorem letters_eq_nil {cs : List Char} (h : IsNumeral cs) : letters cs = [] := by
  refine List.filter_eq_nil_iff.2 fun small among => ?_
  obtain ⟨c, mine, rfl⟩ := List.mem_map.1 among
  rcases h c mine with digit | sign
  · rw [toLower_of_isDigit digit]
    exact not_isAlpha_of_isDigit digit
  · exact (show ∀ c ∈ ['-', '.'], ¬c.toLower.isAlpha by simp) c sign

theorem isNumeral_signed (n : Int) : IsNumeral (Decimal.signed n) := by
  intro c among
  unfold Decimal.signed at among
  split at among
  · rcases List.mem_cons.1 among with rfl | digit
    · exact .inr (by decide)
    · exact .inl (Decimal.isDigit_of_mem_digits digit)
  · exact .inl (Decimal.isDigit_of_mem_digits among)

theorem isNumeral_money (m : Money) : IsNumeral m.chars := by
  intro c among
  unfold Money.chars at among
  rcases List.mem_append.1 among with front | places
  · rcases List.mem_append.1 front with sign | digit
    · split at sign
      · exact .inr (List.mem_cons.2 (.inl (List.mem_singleton.1 sign)))
      · cases sign
    · exact .inl (Decimal.isDigit_of_mem_digits digit)
  · rcases List.mem_cons.1 places with rfl | digit
    · exact .inr (by decide)
    · exact .inl (Decimal.isDigit_of_mem_padded digit)

end Text

namespace Error

/-- Whatever the numbers in it, what is said about a fault of the caller speaks of no connection. -/
theorem not_holds_connection {e : Error} (h : e.isValidation) :
    ¬Text.holds "connection".toList (Text.letters e.message.toList) := by
  cases e with
  | invalidAmount amount =>
    have none := Text.letters_eq_nil (Text.isNumeral_money amount)
    unfold message
    simp only [Money.text, String.toList_append, String.toList_ofList, Text.letters_append, none]
    decide +kernel
  | invalidWeight source weight =>
    have noWeight := Text.letters_eq_nil (Text.isNumeral_signed weight.toInt)
    have noSource := Text.letters_eq_nil (Text.isNumeral_signed source.toInt)
    unfold message
    simp only [wordText, String.toList_append, String.toList_ofList, Text.letters_append, noWeight,
      noSource]
    decide +kernel
  | selfReferencingSource budget
  | duplicateSource budget
  | budgetNotFound budget =>
    have none := Text.letters_eq_nil (Text.isNumeral_signed budget.toInt)
    unfold message
    simp only [wordText, String.toList_append, String.toList_ofList, Text.letters_append, none]
    decide +kernel
  | _ => cases h

/-- A fault of the caller is not retried, whatever its amounts, ids and weights are. -/
theorem kind_of_isValidation {e : Error} (h : e.isValidation) : e.kind = .permanent := by
  have silent : mentionsBadConnection e.message = false :=
    mentionsBadConnection_eq_false "connection".toList (by decide) fun found =>
      not_holds_connection h (Text.holds_letters (by decide) found)
  cases e with
  | database | unavailable | timeout | cancelled | schedule | settings | file => cases h
  | _ =>
    unfold kind
    dsimp only
    rw [silent]
    rfl

end Error

end Paymaster
