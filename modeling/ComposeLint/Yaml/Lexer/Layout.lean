import ComposeLint.Yaml.Cursor
import ComposeLint.Yaml.Token.Basic
import ComposeLint.Yaml.Version

/-!
How layout becomes tokens. Whether a token is the key of a mapping shows only at the colon after it,
so possible keys are remembered and the key token is put in front of them later.
-/

namespace ComposeLint.Yaml

/-- Where a possible key begins: the place of its token and of its text. A required one has to turn
out to be a key, as nothing else may stand there. -/
structure PossibleKey where
  tokenIndex : Nat
  isRequired : Bool
  start : Cursor

inductive Brackets
  | sequence
  | mapping
deriving DecidableEq, Repr

/-- `tokens` are those that are not settled yet, `released` counts the ones before them. `indent` is
the column of the innermost block, -1 outside of all; `keys` has a possible key for each depth of
brackets at most. -/
structure Lexer where
  version : Version
  cursor : Cursor
  released : Nat
  tokens : Array Token
  indent : Int
  outerIndents : List Int
  brackets : List Brackets
  keys : List (Nat × PossibleKey)
  keyAllowed : Bool

namespace Lexer

def start (text : Text) : Lexer where
  version := .present
  cursor := Cursor.start text
  released := 0
  tokens := #[]
  indent := -1
  outerIndents := []
  brackets := []
  keys := []
  keyAllowed := true

def depth (l : Lexer) : Nat := l.brackets.length

def inFlow (l : Lexer) : Bool := !l.brackets.isEmpty

def push (t : Token) (l : Lexer) : Lexer := { l with tokens := l.tokens.push t }

def moveTo (c : Cursor) (l : Lexer) : Lexer := { l with cursor := c }

def allowKey (allowed : Bool) (l : Lexer) : Lexer := { l with keyAllowed := allowed }

/-- Puts a token in front of the one with this index. -/
def insertAt (index : Nat) (t : Token) (l : Lexer) : Lexer :=
  { l with tokens := l.tokens.insertIdxIfInBounds (index - l.released) t }

/-! ### Possible keys -/

/-- Keys stay on one line and within 1024 characters. -/
def isStale (l : Lexer) (k : PossibleKey) : Bool :=
  k.start.line != l.cursor.line || 1024 < l.cursor.index - k.start.index

def dropStaleKeys? (l : Lexer) : Option Lexer :=
  if l.keys.any fun (_, k) => l.isStale k && k.isRequired then none
  else some { l with keys := l.keys.filter fun (_, k) => !l.isStale k }

/-- Takes the possible key at this depth out of the others, if there is one. -/
def takeKey (l : Lexer) : Option PossibleKey × Lexer :=
  let depth := l.depth
  match l.keys.lookup depth with
  | some k => (some k, { l with keys := l.keys.filter (·.1 != depth) })
  | none => (none, l)

/-- Gives up the possible key at this depth. -/
def dropKey? (l : Lexer) : Option Lexer :=
  let (key?, l) := l.takeKey
  if key?.any (·.isRequired) then none else some l

/-- The next token may be a key, if one is allowed here. -/
def noteKey? (l : Lexer) : Option Lexer :=
  if l.keyAllowed then do
    let isRequired := !l.inFlow && l.indent == l.cursor.column
    let l ← l.dropKey?
    some { l with keys := (l.depth, ⟨l.released + l.tokens.size, isRequired, l.cursor⟩) :: l.keys }
  else some l

/-! ### Indentation -/

/-- Closes the blocks that are deeper than a column. Inside of brackets columns do not count. -/
def closeBlocks (column : Int) : Nat → Lexer → Lexer
  | 0, l => l
  | fuel + 1, l =>
    if l.inFlow || l.indent ≤ column then l
    else
      closeBlocks column fuel
        { l.push .blockEnd with
          indent := l.outerIndents.head?.getD (-1)
          outerIndents := l.outerIndents.drop 1 }

def unwind (column : Int) (l : Lexer) : Lexer := closeBlocks column (l.outerIndents.length + 1) l

def deepen (column : Int) (l : Lexer) : Lexer :=
  { l with indent := column, outerIndents := l.indent :: l.outerIndents }

/-- Opens a block at the cursor if it is deeper than the one around it. -/
def openBlock (opening : Token) (l : Lexer) : Lexer :=
  if l.indent < l.cursor.column then (l.deepen l.cursor.column).push opening else l

end Lexer

end ComposeLint.Yaml
