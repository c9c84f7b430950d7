import ComposeLint.Number.Binary64
import ComposeLint.Text.Digit

/-!
Decimal numerals: an optional sign, digits with at most one point, and an optional exponent. A
numeral stands for the nearest binary floating-point number. Words stand for what is no finite
number.
-/

namespace ComposeLint.Decimal

/-- The exponent after its mark, zero if there is none. -/
def exponentOf : Text → Int
  | [] => 0
  | _ :: t =>
    let (negative, figures) := Text.splitSign t
    let n : Int := Text.numberOf figures
    if negative then -n else n

def isExponentMark (c : Char) : Bool := c == 'e' || c == 'E'

/-- The number of a well-formed numeral. -/
def nearest (numeral : Text) : Binary64 :=
  let (negative, body) := Text.splitSign numeral
  let figures := body.takeWhile (!isExponentMark ·)
  let whole := figures.takeWhile (· != '.')
  let fraction := (figures.dropWhile (· != '.')).drop 1
  let exponent := exponentOf (body.dropWhile (!isExponentMark ·))
  Binary64.ofDecimal negative (Text.numberOf (whole ++ fraction)) (exponent - fraction.length)

/-- An exponent, or none at all. -/
def isExponent : Text → Bool
  | [] => true
  | mark :: t =>
    let figures := (Text.splitSign t).2
    isExponentMark mark && !figures.isEmpty && figures.all Text.isDigit

/-- A numeral without its sign: one digit at least, on either side of the point. -/
def isNumeral (t : Text) : Bool :=
  let whole := t.takeWhile Text.isDigit
  match t.dropWhile Text.isDigit with
  | '.' :: rest =>
    let fraction := rest.takeWhile Text.isDigit
    !(whole.isEmpty && fraction.isEmpty) && isExponent (rest.drop fraction.length)
  | rest => !whole.isEmpty && isExponent rest

/-- The number of a text with blanks around it, `none` if it is no numeral. -/
def read? (t : Text) : Option Binary64 :=
  let numeral := Text.dropEndWhile Text.isPadding (t.dropWhile Text.isPadding)
  let (negative, body) := Text.splitSign numeral
  let word := String.ofList (Text.toLower body)
  if word == "inf" || word == "infinity" then some (.infinite negative)
  else if word == "nan" then some .nan
  else if isNumeral body then some (nearest numeral)
  else none

end ComposeLint.Decimal
