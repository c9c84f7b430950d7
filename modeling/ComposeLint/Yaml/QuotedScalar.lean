import ComposeLint.Text.CodeUnit
import ComposeLint.Yaml.Fault
import ComposeLint.Yaml.PlainScalar

/-!
Scalars in quotes. Single quotes know one escape, the doubled quote; double quotes know escapes by a
backslash. Line breaks are folded as in plain scalars, and no document mark may start a line.
-/

namespace ComposeLint.Yaml

/-- Escapes of a single character. -/
def escapes : List (Char × Char) := [
    ('0', '\x00'), ('a', '\x07'), ('b', '\x08'), ('t', '\t'), ('\t', '\t'), ('n', '\n'),
    ('v', '\x0b'), ('f', '\x0c'), ('r', '\r'), ('e', '\x1b'), (' ', ' '), ('"', '"'), ('/', '/'),
    ('\\', '\\'), ('N', '\u0085'), ('_', '\u00a0'), ('L', '\u2028'), ('P', '\u2029')]

/-- Escapes by code point, with the number of their hexadecimal figures. -/
def codeEscapes : List (Char × Nat) := [('x', 2), ('u', 4), ('U', 8)]

/-- The breaks after the first one, blanks around them dropped. -/
def quotedBreaks : Nat → Cursor → Option (Text × Cursor)
  | 0, _ => none
  | fuel + 1, c =>
    if c.atDocumentMark then none
    else
      let c := c.after isGap
      match c.break? with
      | none => some ([], c)
      | some (b, c) => (quotedBreaks fuel c).map fun (breaks, c) => (b :: breaks, c)

/-- The code point that so many hexadecimal figures give. -/
def codePoint (size : Nat) (c : Cursor) : Except Fault (Nat × Cursor) :=
  let figures := c.rest.take size
  let code := figures.foldl (fun n h => 16 * n + Text.hexValue h) 0
  if figures.length != size || !figures.all Text.isHexFigure then .error .malformed
  else if 0x80000000 ≤ code then .error .codeSize
  else if 0x110000 ≤ code then .error .codePoint
  else .ok (code, c.skip size)

/-- The code points of the escape after a backslash. An escaped line break joins its lines. -/
def escape (c : Cursor) : Except Fault (List Nat × Cursor) := do
  let mark ← c.peek
  match escapes.lookup mark, codeEscapes.lookup mark with
  | some char, _ => return ([char.toNat], c.advance)
  | none, some size =>
    let (code, c) ← codePoint size c.advance
    return ([code], c)
  | none, none =>
    let (_, c) ← c.break?
    let (breaks, c) ← quotedBreaks (c.left + 1) c
    return (breaks.map Char.toNat, c)

/-- What a run of blanks stands for: itself, or a fold if it ends its line. -/
def quotedGap? (c : Cursor) : Option (Text × Cursor) :=
  let (blanks, c) := c.run isGap
  match c.break? with
  | none => some (blanks, c)
  | some (b, c) =>
    (quotedBreaks (c.left + 1) c).map fun (breaks, c) => (foldBreaks b breaks, c)

/-- The code points up to the closing quote; there are none if the text ends before. -/
def quotedFrom (isDouble : Bool) : Nat → Cursor → Except Fault (List Nat × Cursor)
  | 0, _ => throw .malformed
  | fuel + 1, c => do
    let char ← c.peek
    if !isDouble && char == '\'' && c.ahead 1 == some '\'' then
      let (rest, c) ← quotedFrom isDouble fuel (c.skip 2)
      return (char.toNat :: rest, c)
    else if char == (if isDouble then '"' else '\'') then return ([], c.advance)
    else if isDouble && char == '\\' then
      let (part, c) ← escape c.advance
      let (rest, c) ← quotedFrom isDouble fuel c
      return (part ++ rest, c)
    else if isGap char || isBreak char then
      let (part, c) ← quotedGap? c
      let (rest, c) ← quotedFrom isDouble fuel c
      return (part.map Char.toNat ++ rest, c)
    else
      let (rest, c) ← quotedFrom isDouble fuel c.advance
      return (char.toNat :: rest, c)

/-- The scalar at whose opening quote the cursor is. Halves of a character may come from escapes of
their own, so characters are formed last. -/
def quotedScalar (isDouble : Bool) (c : Cursor) : Except Fault (Text × Cursor) := do
  let (codes, c) ← quotedFrom isDouble (c.left + 1) c.advance
  return (CodeUnit.text codes, c)

end ComposeLint.Yaml
