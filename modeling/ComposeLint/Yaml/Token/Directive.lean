import ComposeLint.Yaml.BlockScalar
import ComposeLint.Yaml.Fault
import ComposeLint.Yaml.Token.Property

/-!
Directives, each on a line of its own before a document. Those of an unknown name are passed over.
-/

namespace ComposeLint.Yaml.Token

/-- A number, of which there is at least one figure. -/
def number (c : Cursor) : Except Fault (Nat × Cursor) := do
  let (figures, c) := c.run Text.isFigure
  if figures.isEmpty then throw .malformed
  let n ← (Integer.ofDigits figures).mapError .integer
  return (n, c)

def endsDirective (c : Cursor) : Bool := c.peek == some ' ' || endsLine c.peek

def isDirectiveChar (c : Char) : Bool :=
  Text.isLetter c || Text.isFigure c || "-_:.".toList.contains c

def readVersion (c : Cursor) : Except Fault (Token × Cursor) := do
  let (major, c) ← number (c.after (· == ' '))
  if c.peek != some '.' then throw .malformed
  let (minor, c) ← number c.advance
  if endsDirective c then return (.versionDirective major minor, c) else throw .malformed

def readExpansion? (v : Version) (c : Cursor) : Option (Token × Cursor) := do
  let (handle, c) ← tagHandle? (c.after (· == ' '))
  if c.peek != some ' ' then none
  let (expansion, c) ← tagText? v (c.after (· == ' '))
  if endsDirective c then some (.tagDirective handle expansion, c) else none

/-- The directive at whose percent sign the cursor is, and the place after its line. -/
def readDirective (v : Version) (c : Cursor) : Except Fault (Token × Cursor) := do
  let (name, c) := c.advance.run isDirectiveChar
  if name.isEmpty || !endsDirective c then throw .malformed
  let (t, c) ←
    if name == "YAML".toList then readVersion c
    else if name == "TAG".toList then readExpansion? v c
    else pure (.otherDirective, c.after (!isBreak ·))
  let c ← headerEnd? c
  return (t, c)

end ComposeLint.Yaml.Token
