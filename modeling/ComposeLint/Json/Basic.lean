import ComposeLint.Number.Decimal

/-!
Values of the JavaScript object notation. A number with a fraction or an exponent keeps its
numeral, so it can be written out again as it came in.
-/

namespace ComposeLint

inductive Json
  | null
  | bool (b : Bool)
  | integer (n : Int)
  | decimal (numeral : Text)
  | infinite (negative : Bool)
  | notANumber
  | string (t : Text)
  | array (items : List Json)
  | object (members : List (Text × Json))
deriving Repr

namespace Json

/-- The value of a key in an object; the last of equal keys counts. -/
def get? (key : Text) : List (Text × Json) → Option Json :=
  fun members => members.reverse.lookup key

/-- The members of an object, later ones of equal key replacing the earlier. -/
def distinct (members : List (Text × Json)) : List (Text × Json) :=
  members.foldl (fun kept (key, value) =>
    if kept.any fun (k, _) => k == key then
      kept.map fun (k, v) => if k == key then (k, value) else (k, v)
    else kept ++ [(key, value)]) []

/-! ### Writing -/

def ofString (s : String) : Json := .string s.toList

def ofText (t : Text) : Json := .string t

def ofNat (n : Nat) : Json := .integer n

def ofOption {α : Type} (f : α → Json) : Option α → Json
  | none => .null
  | some a => f a

def ofList {α : Type} (f : α → Json) (items : List α) : Json := .array (items.map f)

/-- An object by its members. -/
def record (members : List (String × Json)) : Json :=
  .object (members.map fun (key, value) => (key.toList, value))

def hexFigures (n : Nat) : String :=
  String.ofList ([n / 4096 % 16, n / 256 % 16, n / 16 % 16, n % 16].map Nat.digitChar)

/-- One character of a string. Characters outside the first plane are written as two units. -/
def escape (c : Char) : String :=
  let n := c.toNat
  if c == '"' then "\\\""
  else if c == '\\' then "\\\\"
  else if 0x20 ≤ n && n < 0x7F then c.toString
  else if n < 0x10000 then "\\u" ++ hexFigures n
  else
    let m := n - 0x10000
    "\\u" ++ hexFigures (0xD800 + m / 1024) ++ "\\u" ++ hexFigures (0xDC00 + m % 1024)

def renderString (t : Text) : String := "\"" ++ String.join (t.map escape) ++ "\""

/-- A numeral too large for the range of numbers is written as infinite. -/
def renderDecimal (numeral : Text) : String :=
  match Decimal.nearest numeral with
  | .infinite false => "Infinity"
  | .infinite true => "-Infinity"
  | _ => String.ofList numeral

mutual

def render : Json → String
  | .null => "null"
  | .bool true => "true"
  | .bool false => "false"
  | .integer n => toString n
  | .decimal numeral => renderDecimal numeral
  | .infinite false => "Infinity"
  | .infinite true => "-Infinity"
  | .notANumber => "NaN"
  | .string t => renderString t
  | .array items => "[" ++ String.intercalate "," (renderItems items) ++ "]"
  | .object members => "\x7b" ++ String.intercalate "," (renderMembers members) ++ "\x7d"

def renderItems : List Json → List String
  | [] => []
  | item :: rest => render item :: renderItems rest

def renderMembers : List (Text × Json) → List String
  | [] => []
  | (key, value) :: rest => (renderString key ++ ":" ++ render value) :: renderMembers rest

end

end Json

end ComposeLint
