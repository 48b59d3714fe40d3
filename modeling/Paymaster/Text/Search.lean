/-
  Searching a text for a word.
  `holds word text` says that the word stands somewhere in the text (`holds_iff`).
-/

namespace Paymaster.Text

def holds (word : List Char) : List Char → Bool
  | [] => word.isEmpty
  | c :: rest => word.isPrefixOf (c :: rest) || holds word rest

theorem holds_iff (word text : List Char) : holds word text = true ↔ word <:+: text := by
  induction text with
  | nil => simp [holds]
  | cons c rest ih =>
    simp only [holds, Bool.or_eq_true, List.isPrefixOf_iff_prefix, ih]
    exact List.infix_cons_iff.symm

end Paymaster.Text
