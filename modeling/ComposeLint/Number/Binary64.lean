/-!
Binary floating-point numbers of 64 bits, as exact values. A finite one is a significand below 2⁵³
times a power of two no smaller than 2⁻¹⁰⁷⁴; the significand is at least 2⁵² unless the exponent is
already the smallest, so equal numbers have equal parts. A decimal is read as the nearest such
number, and of two equally near ones as the one with the even significand.
-/

namespace ComposeLint

inductive Binary64
  | finite (negative : Bool) (significand : Nat) (exponent : Int)
  | infinite (negative : Bool)
  | nan
deriving DecidableEq, Repr

namespace Binary64

/-- Nearest integer to a quotient; a half goes to the even neighbour. -/
def roundQuotient (numerator denominator : Nat) : Nat :=
  let q := numerator / denominator
  let twice := 2 * (numerator % denominator)
  if twice < denominator || (twice == denominator && q % 2 == 0) then q else q + 1

/-- The quotient counted in units of two to the `exponent`, as a quotient again. -/
def inUnits (numerator denominator : Nat) (exponent : Int) : Nat × Nat :=
  if 0 ≤ exponent then (numerator, denominator * Nat.pow 2 exponent.toNat)
  else (numerator * Nat.pow 2 (-exponent).toNat, denominator)

def minExponent : Int := -1074

def maxExponent : Int := 971

/-- The exponent at which the whole part of a positive quotient has 53 binary digits. The lengths of
the two numbers leave a choice of two, and the larger is taken if it leaves enough digits. -/
def scaleOf (numerator denominator : Nat) : Int :=
  let larger : Int := (numerator.log2 : Int) - denominator.log2 - 52
  let (a, b) := inUnits numerator denominator larger
  max minExponent (if a / b < Nat.pow 2 52 then larger - 1 else larger)

def ofQuotient (negative : Bool) (numerator denominator : Nat) : Binary64 :=
  let exponent := scaleOf numerator denominator
  let (a, b) := inUnits numerator denominator exponent
  let significand := roundQuotient a b
  let (significand, exponent) :=
    if significand == Nat.pow 2 53 then (Nat.pow 2 52, exponent + 1) else (significand, exponent)
  if maxExponent < exponent then .infinite negative else .finite negative significand exponent

/-- The number nearest to `digits` times ten to the `exponent`. Decimals far outside the range are
settled by their magnitude alone. -/
def ofDecimal (negative : Bool) (digits : Nat) (exponent : Int) : Binary64 :=
  let magnitude : Int := (Nat.toDigits 10 digits).length + exponent
  if digits == 0 || magnitude < -330 then .finite negative 0 minExponent
  else if 310 < magnitude then .infinite negative
  else if 0 ≤ exponent then ofQuotient negative (digits * Nat.pow 10 exponent.toNat) 1
  else ofQuotient negative digits (Nat.pow 10 (-exponent).toNat)

/-- The number nearest to an integer times a power of two. -/
def ofScaled (n : Int) (exponent : Int) : Binary64 :=
  if n == 0 then .finite false 0 minExponent
  else if 0 ≤ exponent then ofQuotient (n < 0) (n.natAbs * Nat.pow 2 exponent.toNat) 1
  else ofQuotient (n < 0) n.natAbs (Nat.pow 2 (-exponent).toNat)

def signed (negative : Bool) (significand : Nat) : Int :=
  if negative then -(significand : Int) else significand

def negate : Binary64 → Binary64
  | .finite negative significand exponent => .finite (!negative) significand exponent
  | .infinite negative => .infinite (!negative)
  | .nan => .nan

/-- A positive multiple. -/
def times (n : Nat) : Binary64 → Binary64
  | .finite negative significand exponent => ofScaled (signed negative significand * n) exponent
  | x => x

/-- The sum, rounded once; infinities of both signs have none. -/
def add : Binary64 → Binary64 → Binary64
  | .finite n s e, .finite n' s' e' =>
    let least := min e e'
    let units := signed n s * Nat.pow 2 (e - least).toNat +
      signed n' s' * Nat.pow 2 (e' - least).toNat
    ofScaled units least
  | .infinite n, .infinite n' => if n == n' then .infinite n else .nan
  | .nan, _ => .nan
  | _, .nan => .nan
  | .infinite n, _ => .infinite n
  | _, .infinite n => .infinite n

/-- The integer part, for finite numbers. -/
def truncate? : Binary64 → Option Int
  | .finite negative significand exponent =>
    let whole : Nat :=
      if 0 ≤ exponent then significand * Nat.pow 2 exponent.toNat
      else significand / Nat.pow 2 (-exponent).toNat
    some (if negative then -(whole : Int) else whole)
  | _ => none

/-- Equality of numbers: both zeros are equal, and a NaN equals nothing. -/
def sameNumber : Binary64 → Binary64 → Bool
  | .finite n s e, .finite n' s' e' => (s == 0 && s' == 0) || (n == n' && s == s' && e == e')
  | .infinite n, .infinite n' => n == n'
  | _, _ => false

/-- Whether the number is exactly this integer. -/
def isInteger (x : Binary64) (n : Int) : Bool :=
  match x with
  | .finite negative significand exponent =>
    if 0 ≤ exponent then signed negative significand * Nat.pow 2 exponent.toNat == n
    else signed negative significand == n * Nat.pow 2 (-exponent).toNat
  | _ => false

end Binary64

end ComposeLint
