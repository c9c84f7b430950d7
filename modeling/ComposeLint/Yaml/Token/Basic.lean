import ComposeLint.Text.Basic

/-!
The tokens of a YAML text. Layout becomes tokens as well: blocks open where a deeper column shows
them and close where the text falls back.
-/

namespace ComposeLint.Yaml

inductive Token
  | versionDirective (major minor : Nat)
  | tagDirective (handle expansion : Text)
  | otherDirective
  | documentStart
  | documentEnd
  | sequenceStart
  | mappingStart
  | blockEnd
  | flowSequenceStart
  | flowSequenceEnd
  | flowMappingStart
  | flowMappingEnd
  | flowEntry
  | blockEntry
  | key
  | value
  | alias (name : Text)
  | anchor (name : Text)
  | tag (handle? : Option Text) (suffix : Text)
  | scalar (text : Text) (isPlain : Bool)
deriving DecidableEq, Repr

/-- Whether the token can only stand before a document. -/
def Token.opensDocument : Token → Bool
  | .versionDirective _ _ => true
  | .tagDirective _ _ => true
  | .otherDirective => true
  | .documentStart => true
  | _ => false

end ComposeLint.Yaml
