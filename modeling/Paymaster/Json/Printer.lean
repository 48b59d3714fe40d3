import Paymaster.Json.Basic

/-
  The compact text of JSON values: no blanks, members in their order, and of the characters of a
  string only the quote, the backslash and the control characters are escaped.
-/

namespace Paymaster.Json

/-- The four lower-case hexadecimal digits of a code unit. -/
def hexChars (n : Nat) : List Char :=
  [n / 4096, n / 256 % 16, n / 16 % 16, n % 16].map Nat.digitChar

/-- How a character is written within a string. -/
def escape (c : Char) : List Char :=
  if c = '"' then ['\\', '"']
  else if c = '\\' then ['\\', '\\']
  else if c = '\x08' then ['\\', 'b']
  else if c = '\x0c' then ['\\', 'f']
  else if c = '\n' then ['\\', 'n']
  else if c = '\r' then ['\\', 'r']
  else if c = '\t' then ['\\', 't']
  else if c.toNat < 32 then '\\' :: 'u' :: hexChars c.toNat
  else [c]

def quoted (s : List Char) : List Char := '"' :: s.flatMap escape ++ ['"']

mutual

def chars : Json → List Char
  | null => "null".toList
  | bool true => "true".toList
  | bool false => "false".toList
  | integer n => Decimal.signed n
  | numeral lexeme => lexeme
  | string s => quoted s.toList
  | broken lexeme => lexeme
  | array items => '[' :: itemsChars items ++ [']']
  | object members => '\x7b' :: membersChars members ++ ['\x7d']

/-- The items of an array, parted by commas. -/
def itemsChars : List Json → List Char
  | [] => []
  | [v] => v.chars
  | v :: v' :: vs => v.chars ++ ',' :: itemsChars (v' :: vs)

/-- The members of an object, parted by commas. -/
def membersChars : List (String × Json) → List Char
  | [] => []
  | [(k, v)] => quoted k.toList ++ ':' :: v.chars
  | (k, v) :: m :: ms => quoted k.toList ++ ':' :: v.chars ++ ',' :: membersChars (m :: ms)

end

def text (v : Json) : String := String.ofList v.chars

end Paymaster.Json
