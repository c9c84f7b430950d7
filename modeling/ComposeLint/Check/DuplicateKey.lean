import ComposeLint.Diagnostic.Finding
import ComposeLint.Document

/-!
A key that is repeated at one indent, with nothing shallower in between, is a duplicate. The scan
keeps one level for every indent that is open, the deepest first, and closes those deeper than the
line at hand.
-/

namespace ComposeLint.Check

/-- An open level of keys, each with the line that gave it last. -/
structure KeyLevel where
  indent : Nat
  seen : List (Text × Int)
deriving DecidableEq, Repr

/-- The levels as a key at this indent finds them: its own one is on top. -/
def openLevel (indent : Nat) (levels : List KeyLevel) : KeyLevel × List KeyLevel :=
  match levels with
  | level :: rest => if level.indent == indent then (level, rest) else (⟨indent, []⟩, levels)
  | [] => (⟨indent, []⟩, [])

/-- The issues of the remaining lines, `levels` being open. -/
def duplicateKeysFrom (levels : List KeyLevel) : List Line → List Issue
  | [] => []
  | l :: rest =>
    if !l.isContent || l.inScalar then duplicateKeysFrom levels rest
    else
      let levels := levels.dropWhile fun level => l.indent < level.indent
      match l.key? with
      | none => duplicateKeysFrom levels rest
      | some key =>
        let (level, outer) := openLevel l.indent levels
        let seenNow := (key, l.number) :: level.seen
        let later := duplicateKeysFrom ({ level with seen := seenNow } :: outer) rest
        match level.seen.lookup key with
        | some previous => (Finding.duplicateKey key previous).onLine l.number :: later
        | none => later

def duplicateKeyIssues (doc : Document) : List Issue := duplicateKeysFrom [] doc

end ComposeLint.Check
