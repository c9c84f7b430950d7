import ComposeLint.Text.Basic

/-!
Characters by their code units of sixteen bits. What lies beyond the first 65536 code points takes
two units, a high one and then a low one; such a half is no character by itself, since both kinds
come from a range that holds no characters.
-/

namespace ComposeLint.CodeUnit

def isHigh (n : Nat) : Bool := 0xD800 ≤ n && n < 0xDC00

def isLow (n : Nat) : Bool := 0xDC00 ≤ n && n < 0xE000

/-- The character of one unit. Half of a pair is replaced. -/
def char (n : Nat) : Char := if isHigh n || isLow n then Char.ofNat 0xFFFD else Char.ofNat n

/-- The character of a high unit and a low one: each gives ten bits of what lies above the first
65536 code points. -/
def pair (high low : Nat) : Char :=
  Char.ofNat (0x10000 + (high - 0xD800) * 0x400 + (low - 0xDC00))

/-- The text of a list of units and code points. A half before its other half joins it. -/
def text : List Nat → Text
  | high :: low :: rest =>
    if isHigh high && isLow low then pair high low :: text rest else char high :: text (low :: rest)
  | [n] => [char n]
  | [] => []

end ComposeLint.CodeUnit
