import Paymaster.Text.Decimal

/-
  JSON values, as far as the stored records need them.
  A numeral that is not a plain integer, a string whose escapes do not make up characters, and an
  object with such a name are kept as they were written: they may be skipped, but no record has a
  use for them.
-/

namespace Paymaster

inductive Json
  | null
  | bool (b : Bool)
  | integer (n : Int)
  /-- A numeral with a fraction or an exponent, or negative zero. -/
  | numeral (lexeme : List Char)
  | string (s : String)
  /-- A string with half of a surrogate pair, or an object with such a string for a name. -/
  | broken (lexeme : List Char)
  | array (items : List Json)
  | object (members : List (String × Json))

end Paymaster
