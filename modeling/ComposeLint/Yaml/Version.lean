/-!
The rules that a YAML document is read by: those of version 1.1 if it asks for them, else the
present ones. The former rules know more spellings of values and fewer uses of the colon and the
question mark.
-/

namespace ComposeLint.Yaml

inductive Version
  | former
  | present
deriving DecidableEq, Repr

namespace Version

def ofNumber (major minor : Nat) : Version :=
  if major == 1 && minor == 1 then .former else .present

/-- Characters that end a scalar without quotes inside of brackets. -/
def flowEnds : Version → List Char
  | .former => ",?[]\x7b\x7d".toList
  | .present => ",[]\x7b\x7d".toList

end Version

end ComposeLint.Yaml
