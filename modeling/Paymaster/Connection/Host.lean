import Paymaster.Connection.HostName
import Paymaster.Text.Numeral
import Paymaster.Text.Percent

/-
  The host of an address.
  A host is a name or a number. A number of four bytes is written with full stops (`isV4`), one of
  sixteen bytes with colons and in brackets (`isV6`). A host of the net may be written with percent
  signs, and one that ends in a number is a number; any other host is a plain word.
-/

namespace Paymaster.Host

/-! ## Numbers of four bytes -/

/-- A part of a number: hexadecimal after `0x`, octal after a zero, otherwise decimal. -/
def part? : List Char → Option Nat
  | [] => none
  | '0' :: 'x' :: ds => Numeral.value? 16 ds
  | ['0'] => some 0
  | '0' :: ds => Numeral.value? 8 ds
  | ds => Numeral.value? 10 ds

/-- Without an empty label at the end. -/
def trimLast (labels : List (List Char)) : List (List Char) :=
  if labels.getLast? = some [] then labels.dropLast else labels

def endsInNumber (labels : List (List Char)) : Bool :=
  match (trimLast labels).getLast? with
  | none | some [] => false
  | some label => label.all Char.isDigit || (part? label).isSome

/-- Up to four parts. Each but the last one is a byte, and the last one fills the bytes left. -/
def isV4 (labels : List (List Char)) : Bool :=
  match (trimLast labels).mapM part? with
  | none => false
  | some parts =>
    match parts.reverse with
    | [] => false
    | last :: before =>
      before.length ≤ 3 && before.all (· < 256) && last < Nat.pow 256 (4 - before.length)

/-! ## Numbers of sixteen bytes -/

/-- A decimal byte without a superfluous zero. -/
def isByte (ds : List Char) : Bool :=
  ds = ['0'] || ds.head? ≠ some '0' && ds ≠ [] && (Numeral.value? 10 ds).any (· < 256)

/-- How many of the eight words a piece stands for. The last one may be four bytes with full stops,
which stand for two. -/
def words? (isLast : Bool) (piece : List Char) : Option Nat :=
  if piece ≠ [] ∧ piece.length ≤ 4 ∧ piece.all (Numeral.isDigit 16) then some 1
  else
    let bytes := ((String.ofList piece).splitOn ".").map String.toList
    if isLast ∧ bytes.length = 4 ∧ bytes.all isByte then some 2 else none

/-- How many words all the pieces stand for. An empty piece stands for none by itself. -/
def totalWords? : List (List Char) → Option Nat
  | [] => some 0
  | piece :: rest => do
    let n ← if piece = [] then some 0 else words? rest.isEmpty piece
    some (n + (← totalWords? rest))

/-- An empty piece at the edge comes of two colons; one of the two that they leave is dropped. -/
def edge? : List (List Char) → Option (List (List Char))
  | [] :: [] :: rest => some ([] :: rest)
  | [] :: _ => none
  | pieces => some pieces

/-- Eight words between colons. Two colons, once, stand for the zeros that are missing. -/
def isV6 (cs : List Char) : Bool :=
  let holds? : Option Bool := do
    let pieces ← edge? (((String.ofList cs).splitOn ":").map String.toList)
    let pieces := (← edge? pieces.reverse).reverse
    let n ← totalWords? pieces
    match pieces.count [] with
    | 0 => some (n = 8)
    | 1 => some (n ≤ 7)
    | _ => none
  holds?.getD false

/-! ## Hosts -/

/-- What stands between brackets, if the first one is there; nothing if the last one is not. -/
def bracketed? : List Char → Option (Option (List Char))
  | '[' :: cs => some (if cs.getLast? = some ']' then some cs.dropLast else none)
  | _ => none

/-- A character that no plain host has. -/
def isForbidden (c : Char) : Bool := c = '\x00' || " #/:<>?@[\\]^|".contains c

/-- A name or number of the net. -/
def isNetName (host : List Char) : Bool :=
  match HostName.labels? (Utf8.repair (Percent.bytes (String.ofList host))).toList with
  | none => false
  | some labels => !endsInNumber labels || isV4 labels

/-- A host that is not empty is well-formed. -/
def isWellFormed (network : Bool) (host : List Char) : Bool :=
  match bracketed? host with
  | some (some inner) => isV6 inner
  | some none => false
  | none => if network then isNetName host else host.all (!isForbidden ·)

end Paymaster.Host
