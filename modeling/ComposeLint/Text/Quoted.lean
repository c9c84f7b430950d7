import ComposeLint.Text.Printable

/-!
Quoted display of a text inside a message. Single quotes enclose it unless it holds single quotes
and no double quotes; whatever has no visible form of its own is written as an escape.
-/

namespace ComposeLint.Text

/-- The last `width` hexadecimal figures of a number. -/
def hexFigures : Nat → Nat → Text
  | 0, _ => []
  | width + 1, n => hexFigures width (n / 16) ++ [Nat.digitChar (n % 16)]

/-- How one character is shown between `quote` characters. -/
def quotedChar (quote c : Char) : Text :=
  if c == quote || c == '\\' then ['\\', c]
  else if c == '\n' then ['\\', 'n']
  else if c == '\r' then ['\\', 'r']
  else if c == '\t' then ['\\', 't']
  else if isPrintable c then [c]
  else if c.toNat < 0x100 then '\\' :: 'x' :: hexFigures 2 c.toNat
  else if c.toNat < 0x10000 then '\\' :: 'u' :: hexFigures 4 c.toNat
  else '\\' :: 'U' :: hexFigures 8 c.toNat

def quoted (t : Text) : Text :=
  let quote := if t.contains '\'' && !t.contains '"' then '"' else '\''
  quote :: t.flatMap (quotedChar quote) ++ [quote]

end ComposeLint.Text
