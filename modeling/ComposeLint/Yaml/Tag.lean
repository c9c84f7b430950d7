import ComposeLint.Text.CodeUnit
import ComposeLint.Yaml.Fault
import ComposeLint.Yaml.Resolution

/-!
Tags name the kind of a node. Without a tag, a node that is no scalar has the kind of its form, and
a scalar the one that its spelling says, or that of a string if it stands in quotes.
-/

namespace ComposeLint.Yaml

/-- A tag is absent, non-specific, or a full name. -/
inductive Tag
  | none
  | nonSpecific
  | named (name : Text)
deriving DecidableEq, Repr

namespace Tag

def ofName (name : Text) : Tag := if name == ['!'] then .nonSpecific else .named name

/-- The end of a name after its handle. A percent sign that is left in it, itself written as an
escape, takes the next two characters for a number to the base of sixteen. -/
def decode : Nat → Text → Except Fault Text
  | 0, _ => .ok []
  | _ + 1, [] => .ok []
  | fuel + 1, c :: rest =>
    if c == '%' then do
      let code ← (Integer.readIn 16 (rest.take 2)).mapError .integer
      if code < 0 then throw .codePoint
      return CodeUnit.char code.toNat :: (← decode fuel (rest.drop 2))
    else do return c :: (← decode fuel rest)

/-- The kinds of the core schema, by the last part of their names. -/
def coreKinds : List (String × Kind) := [
    ("null", .null), ("bool", .bool), ("int", .integer), ("float", .float),
    ("timestamp", .moment), ("binary", .octets), ("str", .string), ("merge", .merge),
    ("value", .standIn), ("seq", .sequence), ("map", .mapping), ("omap", .orderedMapping),
    ("pairs", .pairs), ("set", .set)]

def corePart : Text := "tag:yaml.org,2002:".toList

def kindOfName (name : Text) : Kind :=
  if name.startsWith corePart then
    (coreKinds.lookup (String.ofList (name.drop corePart.length))).getD .unknown
  else .unknown

def kindOfScalar (v : Version) (isPlain : Bool) (text : Text) : Tag → Kind
  | .none => if isPlain then kindOf v text else .string
  | .nonSpecific => kindOf v text
  | .named name => kindOfName name

/-- The kind of a node that is no scalar, `own` being that of its form. -/
def kindOfCollection (own : Kind) : Tag → Kind
  | .named name => kindOfName name
  | _ => own

end Tag

end ComposeLint.Yaml
