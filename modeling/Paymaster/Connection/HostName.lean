import Paymaster.Connection.NameForms
import Paymaster.Text.Direction
import Paymaster.Text.Punycode

/-
  Names of hosts on the net.
  A name is first brought to its common form: letters are small, a character that is another form
  of one of ASCII is replaced by it, a character without meaning is left out. The common form is
  made of labels with full stops between them. A label that is not plain ASCII starts with a
  character that stands by itself, and a joiner in it is in its place. A label that starts with
  `xn--` spells such a label. If any label has text from right to left, each label runs one way.
  `labels?` gives the labels of a well-formed name. Marks are not composed with their letters, but
  for strokes (`joinStrokes`).
-/

namespace Paymaster.HostName

def isJoiner (c : Char) : Bool := c = '\u200c' || c = '\u200d'

/-- What a character is in the common form; none if no name has it. -/
def common? (c : Char) : Option (List Char) :=
  let n := c.toNat
  if n < 0x80 then some [c.toLower]
  else if isJoiner c then some [c]
  else if ignoredRanges.contains c then some []
  else
    match asciiForms.find? fun (low, high, _) => low ≤ n && n ≤ high with
    | some (low, _, first) => some [Char.ofNat (first.toNat + (n - low))]
    | none =>
      match numberForms.find? fun (low, high, _) => low ≤ n && n ≤ high with
      | some (low, _, first) => some (Decimal.digits (first + (n - low)))
      | none => if Text.isPrintable c && !refusedRanges.contains c then some [c] else none

/-- The character has another form, so that no label can spell it. -/
def isFormed (c : Char) : Bool :=
  formedRanges.contains c || formedSteps.any fun (low, high, step) =>
    low ≤ c.toNat && c.toNat ≤ high && (c.toNat - low) % step = 0

/-- A stroke through a character that no name has makes one that a name may have. -/
def joinStrokes : List Char → List Char
  | '<' :: '\u0338' :: cs => '\u226e' :: joinStrokes cs
  | '>' :: '\u0338' :: cs => '\u226f' :: joinStrokes cs
  | c :: cs => c :: joinStrokes cs
  | [] => []

/-- A character of ASCII that no name has. -/
def isForbidden (c : Char) : Bool :=
  c ≤ ' ' || c = '\x7f' || "#%/:<>?@[\\]^|".contains c

/-- The next letter, beyond its marks, is one of these. -/
def meets (rs : Text.Ranges) (cs : List Char) : Bool :=
  (cs.dropWhile Text.extendsPrevious).head?.any rs.contains

/-- Each joiner follows a virama, or parts two Arabic letters that would join. What is before the
text is given last character first. -/
def hasJoinersInPlace : List Char → List Char → Bool
  | _, [] => true
  | before, c :: cs =>
    (!isJoiner c || before.head?.any viramaRanges.contains ||
      (c = '\u200c' && meets joinsNextRanges before && meets joinsPreviousRanges cs)) &&
      hasJoinersInPlace (c :: before) cs

/-- A label that is not plain ASCII. -/
def isWideLabel (label : List Char) : Bool :=
  match label with
  | [] => true
  | c :: _ => !Text.extendsPrevious c && hasJoinersInPlace [] label

/-- The text that a label in common form stands for, if it is well-formed. -/
def labelText? (label : List Char) : Option (List Char) :=
  match label with
  | 'x' :: 'n' :: '-' :: '-' :: spelled => do
    let cs ← Punycode.decode? spelled
    let isPlain (c : Char) : Bool := common? c = some [c] && !isFormed c
    if cs.any (0x80 ≤ ·.toNat) ∧ cs.all isPlain ∧ isWideLabel cs then some cs else none
  | label => if label.all (·.toNat < 0x80) ∨ isWideLabel label then some label else none

/-- The texts of the labels of a well-formed name that is not empty. -/
def labels? (name : List Char) : Option (List (List Char)) := do
  let cs := joinStrokes (← name.mapM common?).flatten
  let labels ← ((String.ofList cs).splitOn ".").mapM (labelText? ·.toList)
  if cs ≠ [] ∧ cs.all (!isForbidden ·) ∧
      (labels.any Text.hasRightToLeft → labels.all Text.runsOneWay) then some labels
  else none

end Paymaster.HostName
