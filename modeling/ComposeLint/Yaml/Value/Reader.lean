import ComposeLint.Yaml.Node.Reader
import ComposeLint.Yaml.Value.Builder

/-!
Values of texts. A document may contain itself, so its value is laid open only as deep as asked for.
-/

namespace ComposeLint.Yaml

namespace Value

/-- A part as a value with so many levels of lists and mappings. -/
def ofPart (b : Builder) : Nat → Part → Value
  | depth, part =>
    match part.bind b.built?, depth with
    | none, _ => .atom .null
    | some (.atom a), _ => .atom a
    | some (.list items), depth + 1 => .list (items.map (ofPart b depth))
    | some (.mapping pairs), depth + 1 =>
      .mapping (pairs.map fun (key, part) => (key, ofPart b depth part))
    | some (.orderedMapping pairs), depth + 1 =>
      .mapping (pairs.map fun (key, part) => (key, ofPart b depth part))
    | some _, _ => .other

/-- The value of a text, so many levels deep; an empty text has none. -/
def read (depth : Nat) (text : Text) : Except Fault (Option Value) := do
  match ← Graph.ofText text with
  | none => return none
  | some g =>
    let (root, b) ← Builder.run g
    return some (ofPart b depth root)

end Value

/-- The loader of values so many levels deep. However deep a text is nested, it is read; a loader that
gives up on some depth is another one. -/
def load (depth : Nat) : Loader Fault := fun text =>
  match Value.read depth text with
  | .ok v? => .ok (v?.getD (.atom .null))
  | .error .malformed => .error .malformed
  | .error fault => .error (.other fault)

end ComposeLint.Yaml
