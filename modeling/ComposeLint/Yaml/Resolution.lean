import ComposeLint.Yaml.Moment
import ComposeLint.Yaml.Version

/-!
The kinds of values, and which of them a plain scalar is by its spelling. Most are strings; some
spellings are other values. The former rules know more of them: words such as `yes` and `off`, and
numbers to the base of sixty.
-/

namespace ComposeLint.Yaml

/-- A merge key takes in the pairs of other mappings, and a stand-in is a default value; neither is
a value by itself, and nothing is known of an unknown kind. -/
inductive Kind
  | null
  | bool
  | integer
  | float
  | moment
  | octets
  | string
  | merge
  | standIn
  | sequence
  | mapping
  | orderedMapping
  | pairs
  | set
  | unknown
deriving DecidableEq, Repr

def wordsOf (words : List String) (t : Text) : Bool := (words.map String.toList).contains t

def isNull (t : Text) : Bool := wordsOf ["", "~", "null", "Null", "NULL"] t

def isBool (v : Version) (t : Text) : Bool :=
  wordsOf ["true", "True", "TRUE", "false", "False", "FALSE"] t ||
    (v == .former &&
      wordsOf ["y", "Y", "yes", "Yes", "YES", "n", "N", "no", "No", "NO", "on", "On", "ON", "off",
        "Off", "OFF"] t)

/-- One figure at least, all of them satisfying `p`. -/
def isRun (p : Char → Bool) (t : Text) : Bool := !t.isEmpty && t.all p

def orUnderscore (p : Char → Bool) (c : Char) : Bool := p c || c == '_'

def isBinaryFigure (c : Char) : Bool := c == '0' || c == '1'

def isOctalFigure (c : Char) : Bool := '0' ≤ c && c ≤ '7'

/-- A part of a number to the base of sixty. -/
def isSixtieth : Text → Bool
  | [a] => Text.isFigure a
  | [a, b] => '0' ≤ a && a ≤ '5' && Text.isFigure b
  | _ => false

/-- A first part that starts with a figure other than zero, and sixtieths after colons. -/
def isSexagesimal (firstFigure : Char → Bool) (t : Text) : Bool :=
  match t.splitOn ':' with
  | (c :: first) :: part :: parts =>
    firstFigure c && first.all (orUnderscore Text.isFigure) && (part :: parts).all isSixtieth
  | _ => false

def isIntegerBody (v : Version) : Text → Bool
  | '0' :: 'b' :: rest => isRun (orUnderscore isBinaryFigure) rest
  | '0' :: 'x' :: rest => isRun (orUnderscore Text.isHexFigure) rest
  | '0' :: 'o' :: rest => v == .present && isRun (orUnderscore isOctalFigure) rest
  | t =>
    match v with
    | .present => isRun (orUnderscore Text.isFigure) t
    | .former =>
      isRun (orUnderscore isOctalFigure) t ||
        (t.head?.any (fun c => Text.isFigure c && c != '0') &&
          t.all (orUnderscore Text.isFigure)) ||
        isSexagesimal (fun c => Text.isFigure c && c != '0') t

/-- Underscores may stand between the figures, but none may come first. -/
def isInteger (v : Version) (t : Text) : Bool :=
  t.head? != some '_' && isIntegerBody v t.splitSign.2

/-- An exponent, its sign optional or required. -/
def isExponent (signRequired : Bool) : Text → Bool
  | mark :: rest =>
    (mark == 'e' || mark == 'E') &&
      match rest with
      | c :: figures =>
        if c == '-' || c == '+' then isRun Text.isFigure figures
        else !signRequired && isRun Text.isFigure rest
      | [] => false
  | [] => false

def isInfinity (t : Text) : Bool := wordsOf [".inf", ".Inf", ".INF"] t

/-- The figures of a number that starts with its point; the former rules allow it no sign. -/
def isPointFirst (t : Text) : Bool :=
  match t with
  | '.' :: rest =>
    let tail := rest.dropWhile (orUnderscore Text.isFigure)
    tail.length < rest.length && (tail.isEmpty || isExponent true tail)
  | _ => false

def isFloatBody (t : Text) : Bool :=
  match t with
  | c :: _ =>
    Text.isFigure c &&
      match t.dropWhile (orUnderscore Text.isFigure) with
      | '.' :: rest =>
        let tail := rest.dropWhile (orUnderscore Text.isFigure)
        tail.isEmpty || isExponent false tail
      | tail => isExponent false tail
  | [] => false

/-- Sixtieths with a fraction after the last one. -/
def isSexagesimalFloat (t : Text) : Bool :=
  match t.dropWhile (· != '.') with
  | '.' :: fraction =>
    fraction.all (orUnderscore Text.isFigure) &&
      isSexagesimal Text.isFigure (t.takeWhile (· != '.'))
  | _ => false

def isFloat (v : Version) (t : Text) : Bool :=
  let body := t.splitSign.2
  isFloatBody body || isInfinity body || wordsOf [".nan", ".NaN", ".NAN"] t ||
    isPointFirst (if v == .former then t else body) ||
    (v == .former && isSexagesimalFloat body)

def kindOfLine (v : Version) (t : Text) : Kind :=
  if isBool v t then .bool
  else if isFloat v t then .float
  else if isInteger v t then .integer
  else if t == "<<".toList then .merge
  else if isNull t then .null
  else if Moment.isEvident t then .moment
  else if t == ['='] then .standIn
  else .string

/-- The kind of a scalar by its spelling. A line break at its very end does not count. -/
def kindOf (v : Version) (t : Text) : Kind :=
  if t.head? == some '\n' then .string else kindOfLine v t.dropFinalBreak

end ComposeLint.Yaml
