import ComposeLint.Diagnostic.Catalog

/-!
An issue is a diagnostic at a place of the document, worded. Whoever makes one by names gives the code
and the place under names of their own, which no argument can have as well.
-/

namespace ComposeLint

/-- Where an issue is. Lines and columns count from one; an issue about the whole check has none. -/
structure Place where
  line? : Option Int := none
  endLine? : Option Int := none
  column? : Option Int := none
deriving DecidableEq, Repr

structure Issue where
  severity : Severity
  code : Code
  message : Text
  place : Place
  suggestion? : Option Text
deriving DecidableEq, Repr

namespace Issue

/-- The wording of the catalog, filled; the message is filled before the suggestion. -/
def make (code : Code) (arguments : Arguments) (place : Place) : Except Wording.Fault Issue := do
  let message ← code.rule.message.fill arguments
  let suggestion? ← code.rule.suggestion?.mapM (Wording.fill arguments)
  return { severity := code.rule.severity, code, message, place, suggestion? }

/-- The names of the end and the column, which are never given without them. -/
def keywordNames : List Text := ["end_line".toList, "column".toList]

/-- The names of the code and the line, which are given first and without them. -/
def leadingNames : List Text := ["code".toList, "line".toList]

/-- A name that is given once more, the names that are never left out being looked for first. -/
def repeated? (given : NamedArguments) : Option Text :=
  let names := given.map Prod.fst
  names.find? keywordNames.contains <|> names.find? leadingNames.contains

/-- Why no issue is made: a name is given once more, or the wording cannot be filled. -/
inductive Fault
  | repeated (name : Text)
  | wording (fault : Wording.Fault)
deriving DecidableEq, Repr

def Fault.message : Fault → Text
  | .repeated name =>
    let call :=
      if leadingNames.contains name then "make_issue() got multiple values for argument "
      else
        "composebox.validator.models.make_issue() got multiple values for keyword argument "
    call.toList ++ name.quoted
  | .wording fault => fault.message

/-- The issue of arguments that are given by name. Names of no place are not looked at, as long as
they are not those of the code and the place. -/
def call (code : Code) (given : NamedArguments) (place : Place) : Except Fault Issue :=
  match repeated? given with
  | some name => .error (.repeated name)
  | none => (make code (.named given) place).mapError .wording

def line? (i : Issue) : Option Int := i.place.line?

def endLine? (i : Issue) : Option Int := i.place.endLine?

/-- A range of lines is given only together with its end. -/
def startLine? (i : Issue) : Option Int := if i.place.endLine?.isSome then i.place.line? else none

/-- A column marks a single character, so it is both start and end. -/
def column? (i : Issue) : Option Int := i.place.column?

def priority (i : Issue) : Nat := i.severity.priority

/-- Errors first, then by line; an issue without a line comes last among its like. -/
def notAfter (a b : Issue) : Bool :=
  a.priority < b.priority ||
    (a.priority == b.priority &&
      match a.line?, b.line? with
      | _, none => true
      | none, some _ => false
      | some m, some n => m ≤ n)

end Issue

end ComposeLint
