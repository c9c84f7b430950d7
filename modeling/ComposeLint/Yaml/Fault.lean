import ComposeLint.Number.Integer
import ComposeLint.Yaml.Moment

/-!
Why a YAML text has no value. Most texts fail by a break of the language's own rules; the other
faults are texts of the right form that denote nothing.
-/

namespace ComposeLint.Yaml

/-- The values that may change, so that none of them can be part of a key. -/
inductive Mutable
  | list
  | mapping
  | orderedMapping
  | set
deriving DecidableEq, Repr

def Mutable.name : Mutable → String
  | .list => "list"
  | .mapping => "dict"
  | .orderedMapping => "ordereddict"
  | .set => "set"

/-- `malformed` is a break of the rules. -/
inductive Fault
  | malformed
  | minorVersion (minor : Nat)
  | integer (fault : Integer.Fault)
  | emptyNumeral
  | float (text : Text)
  | exponents
  | truth (word : Text)
  | moment (fault : Moment.Fault)
  | codePoint
  | codeSize
  | repeatedKey
  | unhashable (kind : Mutable)
deriving DecidableEq, Repr

namespace Fault

def message : Fault → Text
  | .malformed => []
  | .minorVersion minor =>
    "version minor part can only be 2 or 1, got (1, ".toList ++ Text.ofNat minor ++ [')']
  | .integer fault => fault.message
  | .emptyNumeral => "string index out of range".toList
  | .float text => "could not convert string to float: ".toList ++ text.quoted
  | .exponents => "too many values to unpack (expected 2)".toList
  | .truth word => word.quoted
  | .moment fault => fault.message
  | .codePoint => "chr() arg not in range(0x110000)".toList
  | .codeSize => "Python int too large to convert to C int".toList
  | .repeatedKey => []
  | .unhashable kind => ("unhashable type: '" ++ kind.name ++ "'").toList

end Fault

/-- What is required and absent breaks the rules. -/
def require {α : Type} : Option α → Except Fault α
  | some a => .ok a
  | none => .error .malformed

instance : MonadLift Option (Except Fault) := ⟨require⟩

end ComposeLint.Yaml
