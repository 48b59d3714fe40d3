import Paymaster.Toml.Scalar

/-
  Reading TOML text.
  A value is a scalar, an array, which may run over several lines, or a table in braces, which may
  not. A document is a sequence of lines, each blank or with a header or with a key and its value;
  `read` gives its entries or the first line that it cannot take.
-/

namespace Paymaster.Toml

/-! ## Values -/

/-- The items of an array and its closing bracket; a comma may stand after the last. -/
def items? (item? : List Char → Option (Value × List Char)) :
    Nat → List Char → Option (List Value × List Char)
  | 0, _ => none
  | fuel + 1, cs =>
    match skipLines cs.length cs with
    | ']' :: rest => some ([], rest)
    | cs => do
      let (v, cs) ← item? cs
      match skipLines cs.length cs with
      | ',' :: cs => (items? item? fuel cs).map fun (vs, cs) => (v :: vs, cs)
      | ']' :: cs => some ([v], cs)
      | _ => none

/-- A key, the equals sign, and the value. -/
def assignment? (item? : List Char → Option (Value × List Char)) (cs : List Char) :
    Option ((List String × String × Value) × List Char) := do
  let ((path, key), cs) ← key? cs
  let cs ← mark? '=' (skipSpace cs)
  let (v, cs) ← item? (skipSpace cs)
  some ((path, key, v), cs)

/-- The entries of a table in braces, at least one, and its closing brace. -/
def entries? (item? : List Char → Option (Value × List Char)) :
    Nat → Entries → List Char → Option (Entries × List Char)
  | 0, _, _ => none
  | fuel + 1, entries, cs => do
    let ((path, key, v), cs) ← assignment? item? cs
    let entries ← entries.assign path key v
    match skipSpace cs with
    | ',' :: cs => entries? item? fuel entries cs
    | '\x7d' :: cs => some (entries, cs)
    | _ => none

/-- A value with at most `depth` brackets and braces around each other. -/
def value? : Nat → List Char → Option (Value × List Char)
  | 0, cs => scalar? cs
  | depth + 1, cs =>
    match cs with
    | '[' :: rest =>
      (items? (value? depth) (rest.length + 1) rest).map fun (vs, rest) => (.array vs, rest)
    | '\x7b' :: rest =>
      match skipSpace rest with
      | '\x7d' :: rest => some (.table .braces [], rest)
      | rest =>
        (entries? (value? depth) (rest.length + 1) [] rest).map
          fun (entries, rest) => (.table .braces entries, rest)
    | cs => scalar? cs

/-! ## Documents -/

/-- What follows the header in a text that starts with its brackets. -/
def header? (cs : List Char) (d : Document) : Option (Document × List Char) :=
  match cs with
  | '[' :: '[' :: rest => do
    let ((above, key), rest) ← key? rest
    match rest with
    | ']' :: ']' :: rest => some (← d.startElement (above ++ [key]), rest)
    | _ => none
  | '[' :: rest => do
    let ((above, key), rest) ← key? rest
    match rest with
    | ']' :: rest => some (← d.startTable (above ++ [key]), rest)
    | _ => none
  | _ => none

/-- What a header or an assignment makes of a document, and the text behind its line. -/
def statement? (cs : List Char) (d : Document) : Option (Document × List Char) := do
  let (d, cs) ← match cs with
    | '[' :: _ => header? cs d
    | _ => do
      let ((path, key, v), cs) ← assignment? (value? maxDepth) cs
      some (← d.assign path key v, cs)
  some (d, ← endOfLine? cs)

/-- Reads line by line; a failure is told by the line at which it was met. -/
def document : Nat → List Char → Document → Except (List Char) Document
  | 0, cs, _ => .error (cs.takeWhile (· ≠ '\n'))
  | _ + 1, [], d => .ok d
  | fuel + 1, c :: rest, d =>
    let cs := skipSpace (c :: rest)
    match endOfLine? cs with
    | some rest => document fuel rest d
    | none =>
      match statement? cs d with
      | some (d, rest) => document fuel rest d
      | none => .error (cs.takeWhile (· ≠ '\n'))

/-- Drops a byte order mark. -/
def skipMark : List Char → List Char
  | '\ufeff' :: rest => rest
  | cs => cs

/-- The entries that a text stands for, or the line at which it breaks off. -/
def read (text : String) : Except String Entries :=
  let cs := skipMark text.toList
  match document (cs.length + 1) cs {} with
  | .ok d =>
    match d.settle with
    | some entries => .ok entries
    | none => .error ""
  | .error line => .error (String.ofList line)

end Paymaster.Toml
