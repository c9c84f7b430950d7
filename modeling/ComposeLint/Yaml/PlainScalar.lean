import ComposeLint.Yaml.Cursor
import ComposeLint.Yaml.Version

/-!
Scalars without quotes. They end at a comment, at a colon before a blank and, inside of brackets, at
a comma or bracket; they go on over line breaks as long as the next line is indented enough. Line
breaks are folded: one becomes a space, more of them lose one.
-/

namespace ComposeLint.Yaml

/-- The characters of a scalar up to the first that cannot belong to it; `ends` never do. -/
def plainRun (ends : List Char) : Text → Text
  | [] => []
  | c :: rest =>
    let next := rest.head?
    if c == ':' then if endsWord next then [] else c :: plainRun ends rest
    else if endsWord (some c) || ends.contains c then []
    else c :: plainRun ends rest

/-- What lies between two runs of a scalar: its folded text, empty where the scalar ends, and
whether a line break was passed. -/
structure PlainGap where
  text : Text
  brokeLine : Bool
  cursor : Cursor

/-- The breaks after the first one, spaces around them dropped; `none` for the text if a document
mark comes up. -/
def laterBreaks : Nat → Cursor → Option Text × Cursor
  | 0, c => (some [], c)
  | fuel + 1, c =>
    let c := c.after (· == ' ')
    match c.break? with
    | none => (some [], c)
    | some (b, c) =>
      if c.atDocumentMark then (none, c)
      else
        let (breaks?, c) := laterBreaks fuel c
        (breaks?.map (b :: ·), c)

/-- The text that a break and the breaks after it fold to. -/
def foldBreaks (first : Char) (later : Text) : Text :=
  if first != '\n' then first :: later else if later.isEmpty then [' '] else later

def plainGap (c : Cursor) : PlainGap :=
  let (spaces, c) := c.run (· == ' ')
  match c.break? with
  | none => ⟨spaces, false, c⟩
  | some (b, c) =>
    if c.atDocumentMark then ⟨[], true, c⟩
    else
      match laterBreaks (c.left + 1) c with
      | (none, c) => ⟨[], true, c⟩
      | (some breaks, c) => ⟨foldBreaks b breaks, true, c⟩

/-- A scalar's text, the place after it, and whether a new line was begun there. -/
structure PlainScalar where
  text : Text
  onNewLine : Bool
  cursor : Cursor

/-- The scalar from here on, `gap` lying before it. Without `minColumn?` its lines may start
anywhere. -/
def plainFrom (ends : List Char) (minColumn? : Option Int) : Nat → PlainGap → PlainScalar
  | 0, gap => ⟨[], gap.brokeLine, gap.cursor⟩
  | fuel + 1, gap =>
    let c := gap.cursor
    let run := if c.peek == some '#' then [] else plainRun ends c.rest
    if run.isEmpty then ⟨[], gap.brokeLine, c⟩
    else
      let next := plainGap (c.skip run.length)
      let outdented := minColumn?.any ((next.cursor.column : Int) < ·)
      let rest :=
        if next.text.isEmpty || next.cursor.peek == some '#' || outdented then
          ⟨[], next.brokeLine, next.cursor⟩
        else plainFrom ends minColumn? fuel next
      { rest with text := gap.text ++ run ++ rest.text }

/-- The scalar at the cursor. Inside of brackets columns do not count. -/
def plainScalar (v : Version) (inFlow : Bool) (minColumn : Int) (c : Cursor) : PlainScalar :=
  let start : PlainGap := ⟨[], false, c⟩
  if inFlow then plainFrom v.flowEnds none (c.left + 1) start
  else plainFrom [] (some minColumn) (c.left + 1) start

end ComposeLint.Yaml
