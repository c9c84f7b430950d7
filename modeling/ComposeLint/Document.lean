import ComposeLint.Line.Basic

/-!
A document is the list of its lines. Only line feeds separate lines. A line that opens a block
scalar holds on to every following line that is blank or indented deeper than itself; those lines
are marked, and the first one outside is read for itself again.
-/

namespace ComposeLint

abbrev Document := List Line

namespace Document

/-- Marks the lines of block scalars. `holder` is the indent of the scalar that is open. -/
def markScalars (holder : Option Nat) : List Line → List Line
  | [] => []
  | l :: rest =>
    if holder.any fun indent => l.isBlank || indent < l.indent then
      { l with inScalar := true } :: markScalars holder rest
    else l :: markScalars (if l.opensScalar then some l.indent else none) rest

/-- The lines of a text, numbered from one. -/
def linesOf (text : Text) : List Line :=
  (text.splitOn '\n').mapIdx fun i raw => Line.ofText (i + 1) raw

def ofText (text : Text) : Document := markScalars none (linesOf text)

end Document

end ComposeLint
