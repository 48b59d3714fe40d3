import Paymaster.Text.Decimal
import Paymaster.Text.Numeral

/-
  The small parts of TOML text: blanks, comments and line ends, keys, and the four kinds of
  strings. A reader gives the part that it found and the text after it.
-/

namespace Paymaster.Toml

/-! ## Blanks, comments, line ends -/

def isSpace (c : Char) : Bool := c = ' ' || c = '\t'

def skipSpace (cs : List Char) : List Char := cs.dropWhile isSpace

def isNonAscii (c : Char) : Bool := '\u0080' ≤ c

/-- A character of a comment. -/
def inComment (c : Char) : Bool := c = '\t' || (' ' ≤ c && c ≤ '~') || isNonAscii c

/-- A line break, if one follows. -/
def newline? : List Char → Option (List Char)
  | '\n' :: rest => some rest
  | '\r' :: '\n' :: rest => some rest
  | _ => none

/-- A line break or the end of the text. -/
def lineEnd? : List Char → Option (List Char)
  | [] => some []
  | cs => newline? cs

/-- Drops a comment, if one follows. -/
def skipComment : List Char → List Char
  | '#' :: rest => rest.dropWhile inComment
  | cs => cs

/-- The rest of a line: blanks, maybe a comment, and the line's end. -/
def endOfLine? (cs : List Char) : Option (List Char) := lineEnd? (skipComment (skipSpace cs))

/-- Skips blanks, comments and line breaks within an array. -/
def skipLines : Nat → List Char → List Char
  | 0, cs => cs
  | fuel + 1, cs =>
    match newline? (skipComment (skipSpace cs)) with
    | some rest => skipLines fuel rest
    | none => skipSpace cs

/-! ## Strings -/

/-- The character of a code point in `width` hexadecimal digits. -/
def codePoint? (width : Nat) (cs : List Char) : Option (Char × List Char) := do
  let n ← Numeral.value? 16 (cs.take width)
  if (cs.take width).length = width ∧ n.isValidChar then some (Char.ofNat n, cs.drop width)
  else none

/-- What follows a backslash. -/
def escape? : List Char → Option (Char × List Char)
  | 'b' :: rest => some ('\x08', rest)
  | 't' :: rest => some ('\t', rest)
  | 'n' :: rest => some ('\n', rest)
  | 'f' :: rest => some ('\x0c', rest)
  | 'r' :: rest => some ('\r', rest)
  | '"' :: rest => some ('"', rest)
  | '\\' :: rest => some ('\\', rest)
  | 'u' :: rest => codePoint? 4 rest
  | 'U' :: rest => codePoint? 8 rest
  | _ => none

/-- A character that stands for itself between quotes. -/
def isPlain (c : Char) : Bool :=
  c = '\t' || (' ' ≤ c && c ≤ '~' && c ≠ '"' && c ≠ '\\') || isNonAscii c

/-- A character that stands for itself between apostrophes. -/
def isLiteral (c : Char) : Bool := c = '\t' || (' ' ≤ c && c ≤ '~' && c ≠ '\'') || isNonAscii c

/-- A string in quotes, after the opening one. -/
def basic? : Nat → List Char → Option (List Char × List Char)
  | 0, _ => none
  | _ + 1, [] => none
  | fuel + 1, c :: rest =>
    if c = '"' then some ([], rest)
    else if c = '\\' then do
      let (e, rest) ← escape? rest
      let (s, rest) ← basic? fuel rest
      some (e :: s, rest)
    else if isPlain c then (basic? fuel rest).map fun (s, rest) => (c :: s, rest)
    else none

/-- A string in apostrophes, after the opening one. -/
def literal? (cs : List Char) : Option (List Char × List Char) :=
  match cs.dropWhile isLiteral with
  | '\'' :: rest => some (cs.takeWhile isLiteral, rest)
  | _ => none

/-- Closing marks of a string of many lines: three end it, and up to two before them still belong
to it; one or two alone are part of it. -/
def closing? (mark : Char) (cs : List Char) : Nat × Bool × List Char :=
  let count := (cs.takeWhile (· = mark)).length
  if count < 3 then (count, false, cs.drop count)
  else (min count 5 - 3, true, cs.drop (min count 5))

/-- Skips blanks and line breaks. -/
def skipBreaks : List Char → List Char
  | ' ' :: rest => skipBreaks rest
  | '\t' :: rest => skipBreaks rest
  | '\n' :: rest => skipBreaks rest
  | '\r' :: '\n' :: rest => skipBreaks rest
  | cs => cs

/-- What follows the blanks and line breaks that a backslash at the end of a line swallows. -/
def joined? (cs : List Char) : Option (List Char) := (newline? (skipSpace cs)).map skipBreaks

/-- A string of many lines in quotes, after the opening ones. -/
def basicLines? : Nat → List Char → Option (List Char × List Char)
  | 0, _ => none
  | _ + 1, [] => none
  | fuel + 1, c :: rest =>
    if c = '"' then
      match closing? '"' (c :: rest) with
      | (count, true, rest) => some (List.replicate count '"', rest)
      | (count, false, rest) =>
        (basicLines? fuel rest).map fun (s, rest) => (List.replicate count '"' ++ s, rest)
    else if c = '\\' then
      match joined? rest with
      | some rest => basicLines? fuel rest
      | none => do
        let (e, rest) ← escape? rest
        let (s, rest) ← basicLines? fuel rest
        some (e :: s, rest)
    else
      match newline? (c :: rest) with
      | some rest => (basicLines? fuel rest).map fun (s, rest) => ('\n' :: s, rest)
      | none =>
        if isPlain c then (basicLines? fuel rest).map fun (s, rest) => (c :: s, rest)
        else none

/-- A string of many lines in apostrophes, after the opening ones. -/
def literalLines? : Nat → List Char → Option (List Char × List Char)
  | 0, _ => none
  | _ + 1, [] => none
  | fuel + 1, c :: rest =>
    if c = '\'' then
      match closing? '\'' (c :: rest) with
      | (count, true, rest) => some (List.replicate count '\'', rest)
      | (count, false, rest) =>
        (literalLines? fuel rest).map fun (s, rest) => (List.replicate count '\'' ++ s, rest)
    else
      match newline? (c :: rest) with
      | some rest => (literalLines? fuel rest).map fun (s, rest) => ('\n' :: s, rest)
      | none =>
        if isLiteral c then (literalLines? fuel rest).map fun (s, rest) => (c :: s, rest)
        else none

/-- Drops the line break right after the opening marks. -/
def skipFirstNewline (cs : List Char) : List Char := (newline? cs).getD cs

/-- A string of any kind. -/
def string? : List Char → Option (String × List Char)
  | '"' :: '"' :: '"' :: rest =>
    (basicLines? (rest.length + 1) (skipFirstNewline rest)).map
      fun (s, rest) => (String.ofList s, rest)
  | '\'' :: '\'' :: '\'' :: rest =>
    (literalLines? (rest.length + 1) (skipFirstNewline rest)).map
      fun (s, rest) => (String.ofList s, rest)
  | '"' :: rest => (basic? (rest.length + 1) rest).map fun (s, rest) => (String.ofList s, rest)
  | '\'' :: rest => (literal? rest).map fun (s, rest) => (String.ofList s, rest)
  | _ => none

/-! ## Keys -/

def isBare (c : Char) : Bool :=
  c.isDigit || ('a' ≤ c && c ≤ 'z') || ('A' ≤ c && c ≤ 'Z') || c = '-' || c = '_'

/-- One part of a key: bare, in quotes, or in apostrophes. -/
def keyPart? : List Char → Option (String × List Char)
  | '"' :: rest => (basic? (rest.length + 1) rest).map fun (s, rest) => (String.ofList s, rest)
  | '\'' :: rest => (literal? rest).map fun (s, rest) => (String.ofList s, rest)
  | cs =>
    match cs.takeWhile isBare with
    | [] => none
    | s => some (String.ofList s, cs.dropWhile isBare)

/-- The parts of a key, parted by points, with the blanks around them. -/
def keyParts? : Nat → List Char → Option (List String × List Char)
  | 0, _ => none
  | fuel + 1, cs => do
    let (part, rest) ← keyPart? (skipSpace cs)
    match skipSpace rest with
    | '.' :: rest => (keyParts? fuel rest).map fun (parts, rest) => (part :: parts, rest)
    | rest => some ([part], rest)

/-- The most parts of a key, and the most brackets and braces around a value. -/
def maxDepth : Nat := 79

/-- A key, as the path above it and its last part. -/
def key? (cs : List Char) : Option ((List String × String) × List Char) := do
  let (parts, rest) ← keyParts? maxDepth cs
  match parts.reverse with
  | [] => none
  | last :: above => some ((above.reverse, last), rest)

end Paymaster.Toml
