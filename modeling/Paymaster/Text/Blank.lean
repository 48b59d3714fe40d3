/-
  Characters that count as white space: the Unicode property `White_Space`.
-/

namespace Paymaster.Text

def isBlank (c : Char) : Bool :=
  c = ' ' || ('\t' ≤ c && c ≤ '\r') || c = '\u0085' || c = '\u00a0' || c = '\u1680' ||
    ('\u2000' ≤ c && c ≤ '\u200a') || c = '\u2028' || c = '\u2029' || c = '\u202f' ||
    c = '\u205f' || c = '\u3000'

def skipBlanks (cs : List Char) : List Char := cs.dropWhile isBlank

end Paymaster.Text
