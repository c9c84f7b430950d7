import ComposeLint.Json.Basic
import ComposeLint.Number.Integer
import ComposeLint.Text.CodeUnit

/-!
Reading a JSON text. The reader stops at the first character that no text of the format could have
there and says what it expected and where. Positions count characters from zero. Brackets inside of
brackets are followed to a fixed depth only.
-/

namespace ComposeLint.Json

inductive Reason
  | value
  | name
  | colon
  | comma
  | controlCharacter
  | openString
  | escape
  | unicodeEscape
  | extraData
  | byteOrderMark
deriving DecidableEq, Repr

inductive Fault
  | unexpected (reason : Reason) (position : Nat)
  | numeral (fault : Integer.Fault)
  | deepArray
  | deepObject
deriving DecidableEq, Repr

def Reason.message : Reason → Text
  | .value => "Expecting value".toList
  | .name => "Expecting property name enclosed in double quotes".toList
  | .colon => "Expecting ':' delimiter".toList
  | .comma => "Expecting ',' delimiter".toList
  | .controlCharacter => "Invalid control character at".toList
  | .openString => "Unterminated string starting at".toList
  | .escape => "Invalid \\escape".toList
  | .unicodeEscape => "Invalid \\uXXXX escape".toList
  | .extraData => "Extra data".toList
  | .byteOrderMark => "Unexpected UTF-8 BOM (decode using utf-8-sig)".toList

/-- The place of a position in its text: line, column and the position itself. -/
def describePosition (text : Text) (position : Nat) : Text :=
  let before := text.take position
  let line := before.count '\n' + 1
  let column := (before.reverse.takeWhile (· != '\n')).length + 1
  "line ".toList ++ Text.ofNat line ++ " column ".toList ++ Text.ofNat column ++
    " (char ".toList ++ Text.ofNat position ++ ")".toList

/-- The whole message about a fault in this text. -/
def Fault.message (text : Text) : Fault → Text
  | .unexpected reason position =>
    reason.message ++ ": ".toList ++ describePosition text position
  | .numeral fault => fault.message
  | .deepArray =>
    "maximum recursion depth exceeded while decoding a JSON array from a unicode string".toList
  | .deepObject =>
    "maximum recursion depth exceeded while decoding a JSON object from a unicode string".toList

/-- How many brackets may be open at once. -/
def maxDepth : Nat := 990

/-- What is still to be read, and where it stands in the text. -/
structure Rest where
  position : Nat
  text : Text
deriving DecidableEq, Repr

def isSpace (c : Char) : Bool := c == ' ' || c == '\t' || c == '\n' || c == '\r'

def Rest.skip (r : Rest) (n : Nat) : Rest := ⟨r.position + n, r.text.drop n⟩

def Rest.skipSpace (r : Rest) : Rest := r.skip (r.text.takeWhile isSpace).length

/-! ### Strings -/

/-- The code unit of four hexadecimal figures. A further character has to follow them, since the
string is still open. -/
def unit? : Text → Option (Nat × Text)
  | a :: b :: c :: d :: rest =>
    if [a, b, c, d].all Text.isHexFigure && !rest.isEmpty then
      some (([a, b, c, d].map Text.hexValue).foldl (fun n h => 16 * n + h) 0, rest)
    else none
  | _ => none

/-- The character after `\u`, with the number of characters that it takes. Two units that form a
pair make one character. -/
def unicodeEscape? (t : Text) : Option (Char × Nat) := do
  let (high, rest) ← unit? t
  let alone := some (CodeUnit.char high, 4)
  if CodeUnit.isHigh high then
    match rest with
    | '\\' :: 'u' :: more =>
      match unit? more with
      | some (low, _) => if CodeUnit.isLow low then some (CodeUnit.pair high low, 10) else alone
      | none => alone
    | _ => alone
  else alone

def simpleEscape? : Char → Option Char
  | '"' => some '"'
  | '\\' => some '\\'
  | '/' => some '/'
  | 'b' => some '\x08'
  | 'f' => some '\x0c'
  | 'n' => some '\n'
  | 'r' => some '\r'
  | 't' => some '\t'
  | _ => none

/-- The rest of a string that starts at `start`; `done` is what was read of it, last first. -/
def readString (start : Nat) : Nat → Text → Rest → Except Fault (Text × Rest)
  | 0, _, _ => .error (.unexpected .openString start)
  | fuel + 1, done, r =>
    match r.text with
    | [] => .error (.unexpected .openString start)
    | ['\\'] => .error (.unexpected .openString start)
    | '"' :: _ => .ok (done.reverse, r.skip 1)
    | '\\' :: 'u' :: after =>
      match unicodeEscape? after with
      | some (c, size) => readString start fuel (c :: done) (r.skip (2 + size))
      | none => .error (.unexpected .unicodeEscape (r.position + 1))
    | '\\' :: mark :: _ =>
      match simpleEscape? mark with
      | some c => readString start fuel (c :: done) (r.skip 2)
      | none => .error (.unexpected .escape r.position)
    | c :: _ =>
      if c.toNat < 0x20 then .error (.unexpected .controlCharacter r.position)
      else readString start fuel (c :: done) (r.skip 1)

/-- The string whose opening quote stands right before the rest. -/
def stringAt (r : Rest) : Except Fault (Text × Rest) :=
  readString (r.position - 1) (r.text.length + 1) [] r

/-! ### Numbers -/

def fractionOf : Text → Text
  | '.' :: c :: rest => if Text.isFigure c then '.' :: (c :: rest).takeWhile Text.isFigure else []
  | _ => []

def exponentOf : Text → Text
  | mark :: rest =>
    let (sign, body) :=
      match rest with
      | '-' :: body => (['-'], body)
      | '+' :: body => (['+'], body)
      | body => ([], body)
    let figures := body.takeWhile Text.isFigure
    if Decimal.isExponentMark mark && !figures.isEmpty then mark :: sign ++ figures else []
  | [] => []

/-- The figures before the point. A leading zero stands alone. -/
def wholeOf : Text → Text
  | '0' :: _ => ['0']
  | t => t.takeWhile Text.isFigure

/-- A number and the count of its characters, if the text starts with one. -/
def number? (t : Text) : Option (Except Integer.Fault Json × Nat) :=
  let (sign, body) :=
    match t with
    | '-' :: body => (['-'], body)
    | body => ([], body)
  let whole := wholeOf body
  let fraction := fractionOf (body.drop whole.length)
  let exponent := exponentOf (body.drop (whole.length + fraction.length))
  let numeral := sign ++ whole ++ fraction ++ exponent
  if whole.isEmpty then none
  else if fraction.isEmpty && exponent.isEmpty then
    let n := (Integer.ofDigits whole).map fun n =>
      Json.integer (if sign.isEmpty then (n : Int) else -n)
    some (n, numeral.length)
  else some (.ok (.decimal numeral), numeral.length)

/-! ### Values -/

def words : List (Text × Json) :=
  [("null", .null), ("true", .bool true), ("false", .bool false), ("NaN", .notANumber),
    ("Infinity", .infinite false), ("-Infinity", .infinite true)].map fun (word, value) =>
      (word.toList, value)

/-- A value that is one word or one number. -/
def readPlain (r : Rest) : Except Fault (Json × Rest) :=
  match words.find? fun (word, _) => r.text.startsWith word with
  | some (word, value) => .ok (value, r.skip word.length)
  | none =>
    match number? r.text with
    | some (.ok value, size) => .ok (value, r.skip size)
    | some (.error fault, _) => .error (.numeral fault)
    | none => .error (.unexpected .value r.position)

/-- The name of a member and its colon. -/
def readName (r : Rest) : Except Fault (Text × Rest) :=
  match r.text with
  | '"' :: _ => do
    let (name, r) ← stringAt (r.skip 1)
    let r := r.skipSpace
    if r.text.head? == some ':' then return (name, (r.skip 1).skipSpace)
    else throw (.unexpected .colon r.position)
  | _ => .error (.unexpected .name r.position)

mutual

/-- A value that opens a bracket takes that character and then reads its items, which takes none
before their own first value: two steps to a character, so `2 * n + 2` is fuel enough for `n`
characters. `depth` brackets may still be opened. -/
def readValue : Nat → Nat → Rest → Except Fault (Json × Rest)
  | 0, _, r => .error (.unexpected .value r.position)
  | fuel + 1, depth, r =>
    match r.text with
    | '"' :: _ => do
      let (t, r) ← stringAt (r.skip 1)
      return (.string t, r)
    | '[' :: _ =>
      let r := (r.skip 1).skipSpace
      if depth == 0 then .error .deepArray
      else if r.text.head? == some ']' then .ok (.array [], r.skip 1)
      else do
        let (items, r) ← readItems fuel (depth - 1) r
        return (.array items, r)
    | '\x7b' :: _ =>
      let r := (r.skip 1).skipSpace
      if depth == 0 then .error .deepObject
      else if r.text.head? == some '\x7d' then .ok (.object [], r.skip 1)
      else do
        let (members, r) ← readMembers fuel (depth - 1) r
        return (.object (distinct members), r)
    | _ => readPlain r

/-- The items up to the closing bracket, at least one. -/
def readItems : Nat → Nat → Rest → Except Fault (List Json × Rest)
  | 0, _, r => .error (.unexpected .value r.position)
  | fuel + 1, depth, r => do
    let (item, r) ← readValue fuel depth r
    let r := r.skipSpace
    match r.text.head? with
    | some ']' => return ([item], r.skip 1)
    | some ',' =>
      let (items, r) ← readItems fuel depth (r.skip 1).skipSpace
      return (item :: items, r)
    | _ => throw (.unexpected .comma r.position)

/-- The members up to the closing brace, at least one. -/
def readMembers : Nat → Nat → Rest → Except Fault (List (Text × Json) × Rest)
  | 0, _, r => .error (.unexpected .value r.position)
  | fuel + 1, depth, r => do
    let (name, r) ← readName r
    let (value, r) ← readValue fuel depth r
    let r := r.skipSpace
    match r.text.head? with
    | some '\x7d' => return ([(name, value)], r.skip 1)
    | some ',' =>
      let (members, r) ← readMembers fuel depth (r.skip 1).skipSpace
      return ((name, value) :: members, r)
    | _ => throw (.unexpected .comma r.position)

end

/-- The value of a whole text. -/
def readDocument (text : Text) : Except Fault Json := do
  let (value, r) ← readValue (2 * text.length + 2) maxDepth (Rest.skipSpace ⟨0, text⟩)
  let r := r.skipSpace
  if r.text.isEmpty then return value else throw (.unexpected .extraData r.position)

/-- The value of a text, which must not start with a byte order mark. -/
def read (text : Text) : Except Fault Json :=
  if text.head? == some '\ufeff' then .error (.unexpected .byteOrderMark 0) else readDocument text

end ComposeLint.Json
