import ComposeLint.Number.Decimal
import ComposeLint.Text.Base64
import ComposeLint.Text.Case
import ComposeLint.Yaml.Fault
import ComposeLint.Yaml.Value.Basic

/-!
What a scalar of a known kind denotes. A tag can give a scalar a kind that its spelling would not
have, so the readers of numbers are more lenient here than the spelling of plain numbers.
-/

namespace ComposeLint.Yaml.Atom

/-- Underscores between the figures of a number do not count, but something has to be left. -/
def figuresOf (text : Text) : Except Fault Text :=
  let figures := text.filter (· != '_')
  if figures.isEmpty then .error .emptyNumeral else .ok figures

def integerIn (base : Nat) (t : Text) : Except Fault Int :=
  (Integer.readIn base t).mapError .integer

/-- An integer without its sign: to the base that a letter after the zero marks, else to the base of
ten. By the former rules a zero alone marks the base of eight, and parts after colons are sixtieths
of the part before. -/
def magnitude (v : Version) (t : Text) : Except Fault Int :=
  match t with
  | '0' :: 'b' :: rest => integerIn 2 rest
  | '0' :: 'x' :: rest => integerIn 16 rest
  | '0' :: 'o' :: rest => integerIn 8 rest
  | _ =>
    if v == .present || t == ['0'] then integerIn 10 t
    else if t.isEmpty then .error .emptyNumeral
    else if t.head? == some '0' then integerIn 8 t
    else if t.contains ':' then do
      let parts ← (t.splitOn ':').mapM (integerIn 10)
      return parts.foldl (fun n part => 60 * n + part) 0
    else integerIn 10 t

def integerOf (v : Version) (text : Text) : Except Fault Atom := do
  let (isNegative, body) := Text.splitSign (← figuresOf text)
  let n ← magnitude v body
  return .integer (if isNegative then -n else n)

def decimalOf (t : Text) : Except Fault Binary64 :=
  match Decimal.read? t with
  | some x => .ok x
  | none => .error (.float t)

/-- The sum of parts from the last one on, each counting sixty times the one after it. -/
def sumOfSixtieths (parts : List Binary64) : Binary64 :=
  (parts.reverse.foldl (fun (sum, unit) part => (sum.add (part.times unit), 60 * unit))
    (Binary64.ofScaled 0 0, 1)).1

/-- By the former rules parts after colons are sixtieths, and a number has one exponent at most even
where it is about to be refused. -/
def floatIn (v : Version) (t : Text) : Except Fault Binary64 :=
  if v == .former && t.contains ':' then do
    return sumOfSixtieths (← (t.splitOn ':').mapM decimalOf)
  else if v == .former && 1 < t.count 'e' then .error .exponents
  else decimalOf t

def floatOf (v : Version) (text : Text) : Except Fault Atom := do
  let (isNegative, body) := Text.splitSign (Text.lower (← figuresOf text))
  if body == ".inf".toList then return .float (.infinite isNegative)
  else if body == ".nan".toList then return .notNumber
  else
    let x ← floatIn v body
    return .float (if isNegative then x.negate else x)

def boolOf (text : Text) : Except Fault Atom :=
  let word := text.lower
  if wordsOf ["true", "y", "yes", "on"] word then .ok (.bool true)
  else if wordsOf ["false", "n", "no", "off"] word then .ok (.bool false)
  else .error (.truth word)

def momentOf (text : Text) : Except Fault Atom := do
  let m ← Moment.read? text.dropFinalBreak
  match m.fault? with
  | some fault => throw (.moment fault)
  | none => return .moment m

/-- Octets in base 64, which is plain ASCII. -/
def octetsOf (text : Text) : Except Fault Atom := do
  if text.any (0x80 ≤ ·.toNat) then throw .malformed
  return .octets (← Base64.decode text)

/-- The value of a scalar; other kinds have none. -/
def ofText (v : Version) (kind : Kind) (text : Text) : Except Fault Atom :=
  match kind with
  | .null => .ok .null
  | .bool => boolOf text
  | .integer => integerOf v text
  | .float => floatOf v text
  | .moment => momentOf text
  | .string => .ok (.string text)
  | .octets => octetsOf text
  | _ => .error .malformed

end ComposeLint.Yaml.Atom
