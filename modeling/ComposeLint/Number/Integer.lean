import ComposeLint.Text.Digit
import ComposeLint.Text.Quoted

/-!
Integers written as text: blanks around, an optional sign, and digits in which single underscores
may separate one from the next. Decimal digits may be of any script. Decimal numerals beyond a fixed
number of digits are refused before they are evaluated, so that no text can make the reader work for
long, and no integer of more digits is written. To the bases two, eight and sixteen there is no such
bound, as digits only have to be put side by side there.
-/

namespace ComposeLint.Integer

/-- The longest decimal numeral that is evaluated or written; leading zeros count. -/
def maxDigits : Nat := 4300

/-- An integer of at most so many digits. -/
def isWithin (digits : Nat) (n : Int) : Bool := n.natAbs < Nat.pow 10 digits

/-- Whether an integer has few enough digits to be written. -/
def isWritable (n : Int) : Bool := isWithin maxDigits n

theorem isWithin_iff {digits : Nat} {n : Int} :
    isWithin digits n = true ↔ n.natAbs < Nat.pow 10 digits :=
  decide_eq_true_iff

inductive Fault
  | malformed (base : Nat) (text : Text)
  | tooLong (digits : Nat)
deriving DecidableEq, Repr

/-- The offending text is quoted, cut to two hundred characters. -/
def Fault.message : Fault → Text
  | .malformed base text =>
    "invalid literal for int() with base ".toList ++ Text.ofNat base ++ ": ".toList ++
      text.quoted.take 200
  | .tooLong digits =>
    "Exceeds the limit (4300 digits) for integer string conversion: value has ".toList ++
      Text.ofNat digits ++
      " digits; use sys.set_int_max_str_digits() to increase the limit".toList

/-- A run of decimal digits is evaluated unless it is too long. -/
def ofDigits (digits : Text) : Except Fault Nat :=
  if maxDigits < digits.length then .error (.tooLong digits.length) else .ok (Text.numberOf digits)

/-- The letter that marks a base after a zero. -/
def baseMark? (base : Nat) : Option Char :=
  if base == 2 then some 'b' else if base == 8 then some 'o' else if base == 16 then some 'x'
  else none

/-- The numeral without the mark of its own base in front of it, which one underscore may follow. -/
def withoutBaseMark (base : Nat) (t : Text) : Text :=
  match t with
  | zero :: mark :: rest =>
    if Text.digitValue? zero == some 0 && baseMark? base == some mark.toLower then
      if rest.head? == some '_' then rest.drop 1 else rest
    else t
  | _ => t

/-- The number of a run of digits to a base. -/
def numberIn (base : Nat) (digits : Text) : Nat :=
  digits.foldl (fun n c => base * n + (Text.digitIn? base c).getD 0) 0

/-- The integer that a text denotes to the base of two, eight, ten or sixteen. -/
def readIn (base : Nat) (t : Text) : Except Fault Int := do
  let (negative, body) := Text.splitSign (t.dropWhile Text.isPadding)
  let body := withoutBaseMark base body
  let inNumeral := fun c => (Text.digitIn? base c).isSome || c == '_'
  let run := body.takeWhile inNumeral
  if (run.splitOn '_').any List.isEmpty then throw (.malformed base t)
  let digits := run.filter (· != '_')
  let n ← if base == 10 then ofDigits digits else pure (numberIn base digits)
  if (body.dropWhile inNumeral).any (!Text.isPadding ·) then throw (.malformed base t)
  return if negative then -n else n

def read (t : Text) : Except Fault Int := readIn 10 t

end ComposeLint.Integer
