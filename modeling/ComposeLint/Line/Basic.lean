import ComposeLint.Line.KeyValue

/-!
One line of a document and what can be told from it alone: its margin, its role, and the parts that
the role gives it. Nothing is rejected here; a line that fits no role is `unknown`.
-/

namespace ComposeLint

/-- What a line is for. The value of a mapping line is free of comments and outer blanks. -/
inductive Role
  | blank
  | comment
  | listItem
  | mappingKey (key value : Text)
  | unknown
deriving DecidableEq, Repr

/-- Only the first character decides between the first three roles. -/
def Role.ofTrimmed (trimmed : Text) : Role :=
  match trimmed with
  | [] => .blank
  | '#' :: _ => .comment
  | '-' :: _ => .listItem
  | _ =>
    match KeyValue.read? trimmed with
    | some entry => .mappingKey entry.key entry.value.withoutComment.trim
    | none => .unknown

/-- A numbered line. `inScalar` marks text that belongs to a block scalar further up, which is
data and not structure. -/
structure Line where
  number : Int
  raw : Text
  inScalar : Bool
deriving DecidableEq, Repr

namespace Line

/-- Carriage returns at the end belong to the line break. -/
def ofText (number : Int) (text : Text) : Line :=
  { number, raw := text.dropEndWhile (· == '\r'), inScalar := false }

def trimmed (l : Line) : Text := l.raw.trim

def role (l : Line) : Role := Role.ofTrimmed l.trimmed

/-- Leading spaces; a tab ends the count. -/
def indent (l : Line) : Nat := (l.raw.takeWhile (· == ' ')).length

/-- The leading spaces and tabs. -/
def margin (l : Line) : Text := l.raw.takeWhile Text.isSpaceOrTab

def hasTabMargin (l : Line) : Bool := l.margin.contains '\t'

def hasMixedMargin (l : Line) : Bool := l.hasTabMargin && l.margin.contains ' '

def isBlank (l : Line) : Bool := l.role == .blank

def isComment (l : Line) : Bool := l.role == .comment

def isListItem (l : Line) : Bool := l.role == .listItem

/-- Neither blank nor a comment. -/
def isContent (l : Line) : Bool := !l.isBlank && !l.isComment

def key? (l : Line) : Option Text :=
  match l.role with
  | .mappingKey key _ => some key
  | _ => none

def value? (l : Line) : Option Text :=
  match l.role with
  | .mappingKey _ value => some value
  | _ => none

def isMappingKey (l : Line) : Bool := l.key?.isSome

/-- The value of a mapping line, empty for any other line. -/
def value (l : Line) : Text := l.value?.getD []

/-- What follows the dash of a list item, empty for any other line. -/
def item (l : Line) : Text :=
  if l.isListItem then (Text.withoutComment (l.trimmed.drop 1)).trim else []

/-- A block scalar header: `|` or `>`, then figures and signs. -/
def isScalarHeader : Text → Bool
  | [] => false
  | c :: rest =>
    (c == '|' || c == '>') && rest.all fun d => d == '-' || d == '+' || Text.isFigure d

/-- A mapping line opens a block scalar by its value; a list item by the value of the mapping it
holds or, holding none with a value, as a whole. -/
def opensScalar (l : Line) : Bool :=
  match l.role with
  | .mappingKey _ value => isScalarHeader value
  | .listItem =>
    match (KeyValue.read? l.item).bind fun entry => entry.value.nonempty? with
    | some value => isScalarHeader value.withoutComment
    | none => isScalarHeader l.item
  | _ => false

end Line

end ComposeLint
