import Paymaster.Text.Numeral
import Paymaster.Text.Utf8

/-
  Text in which a percent sign and two hexadecimal digits stand for a byte.
  A percent sign without two such digits stands for itself.
-/

namespace Paymaster.Percent

def hexValue? (b : UInt8) : Option Nat := Numeral.digit? (Char.ofNat b.toNat)

/-- Replaces each percent sign and the two digits after it by the byte that they stand for. -/
def unescape : List UInt8 → List UInt8
  | 0x25 :: a :: b :: rest =>
    match hexValue? a, hexValue? b with
    | some x, some y => UInt8.ofNat (16 * x + y) :: unescape rest
    | _, _ => 0x25 :: unescape (a :: b :: rest)
  | b :: rest => b :: unescape rest
  | [] => []

/-- The bytes that a text stands for. -/
def bytes (s : String) : List UInt8 := unescape (Utf8.encode s)

end Paymaster.Percent
