/-
  UTF-8 in bytes.
  `step` looks at the first character of a sequence of bytes. Bytes that cannot start or go on a
  character make up a broken sequence, as long as the bytes agree with the start of some character;
  a sequence whose end is missing is cut. `decode` reads bytes or tells their first fault, and
  `repair` puts the replacement character in the place of every fault.
-/

namespace Paymaster.Utf8

inductive Step
  | char (length : Nat)
  | broken (length : Nat)
  | cut

/-- The first fault of a sequence of bytes. -/
structure Fault where
  /-- Where the bytes that can be read end. -/
  index : Nat
  /-- How many bytes are at fault; none if the end is missing. -/
  length : Option Nat
deriving DecidableEq, Repr

def Fault.message (f : Fault) : String :=
  match f.length with
  | some n => "invalid utf-8 sequence of " ++ toString n ++ " bytes from index " ++ toString f.index
  | none => "incomplete utf-8 byte sequence from index " ++ toString f.index

/-- The bytes that may follow the first one: the bounds of the second byte, and how many there are
after it. -/
def continuation? (first : UInt8) : Option ((UInt8 × UInt8) × Nat) :=
  if 0xc2 ≤ first && first ≤ 0xdf then some ((0x80, 0xbf), 0)
  else if first = 0xe0 then some ((0xa0, 0xbf), 1)
  else if first = 0xed then some ((0x80, 0x9f), 1)
  else if 0xe1 ≤ first && first ≤ 0xef then some ((0x80, 0xbf), 1)
  else if first = 0xf0 then some ((0x90, 0xbf), 2)
  else if 0xf1 ≤ first && first ≤ 0xf3 then some ((0x80, 0xbf), 2)
  else if first = 0xf4 then some ((0x80, 0x8f), 2)
  else none

/-- Goes on after `length` bytes with as many as are still to follow. -/
def more (length : Nat) : Nat → List UInt8 → Step
  | 0, _ => .char length
  | _ + 1, [] => .cut
  | n + 1, b :: bs =>
    if 0x80 ≤ b && b ≤ 0xbf then more (length + 1) n bs else .broken length

def step : List UInt8 → Step
  | [] => .cut
  | first :: rest =>
    if first < 0x80 then .char 1
    else
      match continuation? first, rest with
      | none, _ => .broken 1
      | some _, [] => .cut
      | some ((low, high), n), b :: bs =>
        if low ≤ b && b ≤ high then more 2 n bs else .broken 1

/-- The first fault from an index on; `fuel` bounds the number of characters. -/
def faultFrom : Nat → Nat → List UInt8 → Option Fault
  | 0, _, _ => none
  | _ + 1, _, [] => none
  | fuel + 1, index, bs =>
    match step bs with
    | .char n => faultFrom fuel (index + n) (bs.drop n)
    | .broken n => some ⟨index, some n⟩
    | .cut => some ⟨index, none⟩

/-- The text of bytes that have no fault. -/
def textOf (bs : List UInt8) : String := (String.fromUTF8? ⟨bs.toArray⟩).getD ""

def decode (bs : List UInt8) : Except Fault String :=
  match faultFrom bs.length 0 bs with
  | none => .ok (textOf bs)
  | some fault => .error fault

/-- The bytes of the replacement character. -/
def replacement : List UInt8 := [0xef, 0xbf, 0xbd]

/-- Replaces every fault; `fuel` bounds the number of characters. -/
def repairBytes : Nat → List UInt8 → List UInt8
  | 0, _ => []
  | _ + 1, [] => []
  | fuel + 1, bs =>
    match step bs with
    | .char n => bs.take n ++ repairBytes fuel (bs.drop n)
    | .broken n => replacement ++ repairBytes fuel (bs.drop n)
    | .cut => replacement

def repair (bs : List UInt8) : String := textOf (repairBytes bs.length bs)

/-- The bytes of a text. -/
def encode (s : String) : List UInt8 := s.toUTF8.toList

end Paymaster.Utf8
