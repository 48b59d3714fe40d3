import Paymaster.Json.Basic
import Paymaster.Text.Numeral

/-
  Reading JSON text.
  Blanks are the space, the tab and the two line breaks. A numeral has no superfluous zero in
  front; a string has no raw control character. The reader takes the whole text or nothing.
-/

namespace Paymaster.Json

def isSpace (c : Char) : Bool := c = ' ' || c = '\t' || c = '\n' || c = '\r'

def skipSpace (cs : List Char) : List Char := cs.dropWhile isSpace

/-! ## Strings -/

/-- The code unit of four hexadecimal digits. -/
def codeUnit? (a b c d : Char) : Option Nat := Numeral.value? 16 [a, b, c, d]

/-- What a backslash and a letter stand for. -/
def escaped? : Char → Option Char
  | '"' => some '"'
  | '\\' => some '\\'
  | '/' => some '/'
  | 'b' => some '\x08'
  | 'f' => some '\x0c'
  | 'n' => some '\n'
  | 'r' => some '\r'
  | 't' => some '\t'
  | _ => none

/-- The codes of a string up to its closing quote, and what follows it. An escape in hexadecimal
gives a code unit, which may be half of a surrogate pair. -/
def codes? : List Char → Option (List Nat × List Char)
  | [] => none
  | '"' :: rest => some ([], rest)
  | '\\' :: 'u' :: a :: b :: c :: d :: rest => do
    let unit ← codeUnit? a b c d
    let (codes, rest) ← codes? rest
    some (unit :: codes, rest)
  | '\\' :: e :: rest => do
    let c ← escaped? e
    let (codes, rest) ← codes? rest
    some (c.toNat :: codes, rest)
  | c :: rest =>
    if c.toNat < 32 then none
    else do
      let (codes, rest) ← codes? rest
      some (c.toNat :: codes, rest)

def isHighSurrogate (n : Nat) : Bool := 0xd800 ≤ n && n < 0xdc00

def isLowSurrogate (n : Nat) : Bool := 0xdc00 ≤ n && n < 0xe000

/-- The characters that codes make up; none if half of a surrogate pair stands alone. -/
def assemble? : List Nat → Option (List Char)
  | [] => some []
  | [n] => if isHighSurrogate n || isLowSurrogate n then none else some [Char.ofNat n]
  | n :: m :: rest =>
    if isHighSurrogate n then
      if isLowSurrogate m then
        (assemble? rest).map (Char.ofNat (0x10000 + (n - 0xd800) * 0x400 + (m - 0xdc00)) :: ·)
      else none
    else if isLowSurrogate n then none
    else (assemble? (m :: rest)).map (Char.ofNat n :: ·)

/-- The text of a string after its opening quote, if its codes make up characters. -/
def content? (cs : List Char) : Option (Option String × List Char) := do
  let (codes, rest) ← codes? cs
  some ((assemble? codes).map String.ofList, rest)

/-- What was written between `cs`, which follows the character `c`, and `rest`. -/
def lexeme (c : Char) (cs rest : List Char) : List Char := c :: cs.take (cs.length - rest.length)

/-- A string after its opening quote. -/
def string? (cs : List Char) : Option (Json × List Char) := do
  match ← content? cs with
  | (some s, rest) => some (string s, rest)
  | (none, rest) => some (broken (lexeme '"' cs rest), rest)

/-! ## Numerals -/

/-- A run of digits, not empty. -/
def digits? (cs : List Char) : Option (List Char × List Char) :=
  match Decimal.run cs with
  | ([], _) => none
  | (ds, rest) => some (ds, rest)

/-- The whole part of a numeral: a single zero, or digits that start with another one. -/
def whole? : List Char → Option (List Char × List Char)
  | '0' :: rest => some (['0'], rest)
  | cs => digits? cs

def fraction? : List Char → Option (List Char × List Char)
  | '.' :: rest => (digits? rest).map fun (ds, rest) => ('.' :: ds, rest)
  | cs => some ([], cs)

def exponent? : List Char → Option (List Char × List Char)
  | [] => some ([], [])
  | c :: rest =>
    if c = 'e' ∨ c = 'E' then
      match rest with
      | '+' :: rest => (digits? rest).map fun (ds, rest) => (c :: '+' :: ds, rest)
      | '-' :: rest => (digits? rest).map fun (ds, rest) => (c :: '-' :: ds, rest)
      | rest => (digits? rest).map fun (ds, rest) => (c :: ds, rest)
    else some ([], c :: rest)

/-- A numeral; one without fraction and exponent is an integer, but for negative zero. -/
def numeral? (cs : List Char) : Option (Json × List Char) := do
  let (negative, cs) := match cs with
    | '-' :: cs => (true, cs)
    | cs => (false, cs)
  let (whole, cs) ← whole? cs
  let (fraction, cs) ← fraction? cs
  let (exponent, cs) ← exponent? cs
  let lexeme := (if negative then ['-'] else []) ++ whole ++ fraction ++ exponent
  let n := Decimal.value whole
  if fraction.isEmpty && exponent.isEmpty && !(negative && n = 0) then
    some (integer (if negative then -(n : Int) else n), cs)
  else some (numeral lexeme, cs)

/-! ## Values -/

mutual

def value? : Nat → List Char → Option (Json × List Char)
  | 0, _ => none
  | fuel + 1, cs =>
    match skipSpace cs with
    | 'n' :: 'u' :: 'l' :: 'l' :: rest => some (null, rest)
    | 't' :: 'r' :: 'u' :: 'e' :: rest => some (bool true, rest)
    | 'f' :: 'a' :: 'l' :: 's' :: 'e' :: rest => some (bool false, rest)
    | '"' :: rest => string? rest
    | '[' :: rest =>
      match skipSpace rest with
      | ']' :: rest => some (array [], rest)
      | rest => (items? fuel rest).map fun (vs, rest) => (array vs, rest)
    | '\x7b' :: rest =>
      match skipSpace rest with
      | '\x7d' :: rest => some (object [], rest)
      | cs => (members? fuel cs).map fun (ms, after) =>
        match ms.mapM fun (k, v) => k.map (·, v) with
        | some ms => (object ms, after)
        | none => (broken (lexeme '\x7b' rest after), after)
    | rest => numeral? rest

/-- The items of an array, at least one, and its closing bracket. -/
def items? : Nat → List Char → Option (List Json × List Char)
  | 0, _ => none
  | fuel + 1, cs => do
    let (v, cs) ← value? fuel cs
    match skipSpace cs with
    | ',' :: cs => (items? fuel cs).map fun (vs, cs) => (v :: vs, cs)
    | ']' :: cs => some ([v], cs)
    | _ => none

/-- The members of an object, at least one, and its closing brace. A name may fail to make up
characters. -/
def members? : Nat → List Char → Option (List (Option String × Json) × List Char)
  | 0, _ => none
  | fuel + 1, cs =>
    match skipSpace cs with
    | '"' :: cs => do
      let (k, cs) ← content? cs
      match skipSpace cs with
      | ':' :: cs => do
        let (v, cs) ← value? fuel cs
        match skipSpace cs with
        | ',' :: cs => (members? fuel cs).map fun (ms, cs) => ((k, v) :: ms, cs)
        | '\x7d' :: cs => some ([(k, v)], cs)
        | _ => none
      | _ => none
    | _ => none

end

/-- The value that a text stands for. -/
def read? (text : String) : Option Json :=
  let cs := text.toList
  match value? (cs.length + 1) cs with
  | some (v, rest) => if skipSpace rest = [] then some v else none
  | none => none

end Paymaster.Json
