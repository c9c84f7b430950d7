import ComposeLint.Text.Utf8
import ComposeLint.Yaml.Value.Basic

/-!
Snippets that an editor can insert, and how they are read from a file of the user's own. What the
value of a file is, a loader says. An entry that lacks what a snippet needs is passed over; the others
stay in order.
-/

namespace ComposeLint

structure Snippet where
  name : Text
  icon : Text
  description? : Option Text
  code : Text
deriving DecidableEq, Repr

namespace Snippet

open Yaml

/-- The text of a value. Octets count as the text that they encode. -/
def text? : Value → Option Text
  | .atom (.string t) => some t
  | .atom (.octets octets) => (Utf8.decode octets).toOption
  | _ => none

/-- A text with more than blanks in it. -/
def filled? (v? : Option Value) : Option Text := (v?.bind text?).filter (!·.isVacant)

/-- A text or nothing; any other value is refused. -/
def optional? : Option Value → Option (Option Text)
  | none => some none
  | some (.atom .null) => some none
  | some v => (text? v).map some

/-- The snippet of an entry. Line breaks at the end of the code are dropped, which leaves it filled,
as they are blanks. -/
def ofValue? : Value → Option Snippet
  | .mapping pairs => do
    let name ← filled? (Value.get? "name".toList pairs)
    let icon ← filled? (Value.get? "icon".toList pairs)
    let description? ← optional? (Value.get? "description".toList pairs)
    let code ← filled? (Value.get? "code".toList pairs)
    return { name, icon, description?, code := code.dropEndWhile (· == '\n') }
  | _ => none

/-- The entries of a file: a list, or a mapping with a list of templates. -/
def entriesOf : Value → List Value
  | .list items => items
  | .mapping pairs =>
    match Value.get? "templates".toList pairs with
    | some (.list items) => items
    | _ => []
  | _ => []

def listOfValue (v : Value) : List Snippet := (entriesOf v).filterMap ofValue?

/-- The levels of a file: the mapping around the list, the list, and its entries. -/
def levels : Nat := 3

/-- The snippets of a text. One that breaks the rules of YAML has none; any other fault of the loader
is passed on. -/
def readList {ε : Type} (load : Loader ε) (text : Text) : Except ε (List Snippet) :=
  match load text with
  | .ok v => .ok (listOfValue v)
  | .error .malformed => .ok []
  | .error (.other fault) => .error fault

end Snippet

end ComposeLint
