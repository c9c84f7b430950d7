import ComposeLint.Yaml.Cursor

/-!
Block scalars, literal and folded. The indentation is given in the header or taken from the first
line with text. Trailing line breaks are kept, dropped or cut to one as the header says.
-/

namespace ComposeLint.Yaml

/-- What becomes of the line breaks at the end. -/
inductive Chomping
  | clip
  | strip
  | keep
deriving DecidableEq, Repr

structure BlockHeader where
  chomping : Chomping
  increment? : Option Nat
deriving DecidableEq, Repr

def chomping? : Option Char → Option Chomping
  | some '+' => some .keep
  | some '-' => some .strip
  | _ => none

/-- The indentation indicator at the cursor, if there is a figure; zero is none. -/
def increment? (c : Cursor) : Option (Option Nat × Cursor) :=
  match c.peek with
  | some figure =>
    if figure == '0' then none
    else if Text.isFigure figure then some (some (figure.toNat - '0'.toNat), c.advance)
    else some (none, c)
  | none => some (none, c)

/-- The two indicators, in either order, up to a space or the end of the line. -/
def blockHeader? (c : Cursor) : Option (BlockHeader × Cursor) := do
  let (header, c) ←
    match chomping? c.peek with
    | some chomping => do
      let (increment?, c) ← increment? c.advance
      pure (⟨chomping, increment?⟩, c)
    | none => do
      let (increment?, c) ← increment? c
      match increment?, chomping? c.peek with
      | some _, some chomping => pure (⟨chomping, increment?⟩, c.advance)
      | _, _ => pure (⟨.clip, increment?⟩, c)
  if c.peek == some ' ' || endsLine c.peek then some (header, c) else none

/-- The rest of a header line: spaces and a comment. -/
def headerEnd? (c : Cursor) : Option Cursor :=
  let c := c.after (· == ' ')
  let c := if c.peek == some '#' then c.after (!isBreak ·) else c
  if endsLine c.peek then some ((c.break?.map (·.2)).getD c) else none

/-- The blank lines before the text, as breaks, with the deepest indent met and the one of the first
of these lines. -/
structure Leading where
  breaks : Text
  deepest : Nat
  first? : Option Nat
  cursor : Cursor

def leadingFrom : Nat → Leading → Leading
  | 0, l => l
  | fuel + 1, l =>
    if l.cursor.peek == some ' ' then
      let c := l.cursor.advance
      leadingFrom fuel { l with deepest := max l.deepest c.column, cursor := c }
    else
      match l.cursor.break? with
      | none => l
      | some (b, c) =>
        leadingFrom fuel
          { l with breaks := l.breaks ++ [b], first? := some (l.first?.getD l.cursor.column)
                   cursor := c }

/-- Blank lines may not be indented less than what follows them, unless they are empty. -/
def leading? (c : Cursor) : Option Leading :=
  let l := leadingFrom (c.left + 1) ⟨[], 0, none, c⟩
  if l.first?.any fun first => 0 < first && first < l.deepest then none else some l

/-- Up to `indent` spaces. -/
def skipIndent (indent : Nat) (c : Cursor) : Cursor :=
  let spaces := (c.rest.takeWhile (· == ' ')).length
  c.skip (min spaces (indent - c.column))

/-- Blank lines, as breaks, up to a line with text or the end of the scalar. -/
def blankLines (indent : Nat) : Nat → Cursor → Text × Cursor
  | 0, c => ([], c)
  | fuel + 1, c =>
    let c := skipIndent indent c
    match c.break? with
    | none => ([], c)
    | some (b, c) =>
      let (breaks, c) := blankLines indent fuel c
      (b :: breaks, c)

/-- Whether a line of text stands here. -/
def atText (indent : Nat) (c : Cursor) : Bool := c.column == indent && c.peek.isSome

/-- A break between two lines of a folded scalar becomes a space if neither line is indented further
and no blank line stands between them; more breaks lose the first. -/
def joinLines (folded : Bool) (b : Text) (breaks : Text) (plainBefore plainAfter : Bool) : Text :=
  if folded && b == ['\n'] && plainBefore && plainAfter then
    if breaks.isEmpty then [' '] else breaks
  else b ++ breaks

/-- The lines of text, the break of the last one, and the breaks of the blank lines at the end. -/
structure BlockLines where
  text : Text
  lastBreak : Text
  trailing : Text
  cursor : Cursor

/-- The lines from the cursor on. At the outermost level a document mark ends the scalar. -/
def linesFrom (folded outermost : Bool) (indent : Nat) : Nat → Cursor → BlockLines
  | 0, c => ⟨[], [], [], c⟩
  | fuel + 1, c =>
    let startsText := fun (c : Cursor) => !c.peek.any isGap
    let plainBefore := startsText c
    let (text, c) := c.run (!isBreak ·)
    let (b, c) :=
      match c.break? with
      | some (b, c) => ([b], c)
      | none => ([], c)
    let (breaks, c) := blankLines indent (c.left + 1) c
    let atMark := outermost && c.column == 0 && c.atDocumentMark
    if atText indent c && !atMark then
      let rest := linesFrom folded outermost indent fuel c
      let joint := joinLines folded b breaks plainBefore (startsText c)
      { rest with text := text ++ joint ++ rest.text }
    else ⟨text, b, breaks, c⟩

/-- What remains of the last line's break and of the breaks after it. -/
def chomp : Chomping → Text → Text → Text
  | .strip, _, _ => []
  | .clip, last, _ => last
  | .keep, last, trailing => last ++ trailing

/-- The scalar whose indicator the cursor has passed, below a block at column `parent`. -/
def blockScalar? (folded : Bool) (parent : Int) (c : Cursor) : Option (Text × Cursor) := do
  let (header, c) ← blockHeader? c
  let c ← headerEnd? c
  let minIndent := (parent + 1).toNat
  let (indent, breaks, c) ←
    match header.increment? with
    | some increment =>
      let indent := max minIndent 1 + increment - 1
      let (breaks, c) := blankLines indent (c.left + 1) c
      pure (indent, breaks, c)
    | none => do
      let l ← leading? c
      pure (max minIndent l.deepest, l.breaks, l.cursor)
  if atText indent c then
    let lines := linesFrom folded (minIndent == 0) indent (c.left + 1) c
    return (breaks ++ lines.text ++ chomp header.chomping lines.lastBreak lines.trailing,
      lines.cursor)
  else return (chomp header.chomping [] breaks, c)

end ComposeLint.Yaml
