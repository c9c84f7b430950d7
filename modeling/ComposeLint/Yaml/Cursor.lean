import ComposeLint.Text.Basic

/-!
A place in a YAML text. Lines and columns count from zero; a byte order mark takes no column. The
end of the text is met as `none`. How much is left is kept at hand, as every reader that goes on for
an unknown while takes it for fuel.
-/

namespace ComposeLint.Yaml

structure Cursor where
  rest : Text
  left : Nat
  index : Nat
  line : Nat
  column : Nat
  left_eq : left = rest.length
deriving DecidableEq

/-- The breaks that are all read as a line feed. -/
def isUsualBreak (c : Char) : Bool := c == '\n' || c == '\r' || c == '\u0085'

/-- All that can count as a line break: the usual breaks and the two separators. -/
def isBreak (c : Char) : Bool := isUsualBreak c || c == '\u2028' || c == '\u2029'

/-- A break ends a line, and so does the end of the text. -/
def endsLine (c : Option Char) : Bool := c.all isBreak

/-- Characters that end a word outside of quotes. -/
def endsWord (c : Option Char) : Bool := endsLine c || c == some ' ' || c == some '\t'

def isGap (c : Char) : Bool := c == ' ' || c == '\t'

/-- Characters that may stand in a YAML text. -/
def isAllowed (c : Char) : Bool :=
  let n := c.toNat
  n == 0x09 || n == 0x0A || n == 0x0D || (0x20 ≤ n && n ≤ 0x7E) || n == 0x85 ||
    (0xA0 ≤ n && n ≤ 0xFFFD) || 0x10000 ≤ n

namespace Cursor

def start (text : Text) : Cursor := ⟨text, text.length, 0, 0, 0, rfl⟩

def peek (c : Cursor) : Option Char := c.rest.head?

/-- The character `n` places ahead. -/
def ahead (c : Cursor) (n : Nat) : Option Char := c.rest[n]?

/-- One character further. A carriage return before a line feed does not end the line. -/
def advance (c : Cursor) : Cursor :=
  match h : c.rest with
  | [] => c
  | ch :: rest =>
    have left_eq : c.left - 1 = rest.length := by simp [c.left_eq, h]
    if ch == '\n' || (ch == '\r' && rest.head? != some '\n') then
      ⟨rest, c.left - 1, c.index + 1, c.line + 1, 0, left_eq⟩
    else
      let column := if ch == '\ufeff' then c.column else c.column + 1
      ⟨rest, c.left - 1, c.index + 1, c.line, column, left_eq⟩

def skip : Nat → Cursor → Cursor
  | 0, c => c
  | n + 1, c => skip n c.advance

/-- The longest run of characters that satisfy `p`, and the place after it. -/
def run (p : Char → Bool) (c : Cursor) : Text × Cursor :=
  let text := c.rest.takeWhile p
  (text, skip text.length c)

/-- The place after a run. -/
def after (p : Char → Bool) (c : Cursor) : Cursor := (c.run p).2

/-- One line break, if the cursor is at one. The usual breaks are all read as a line feed, the two
separators as themselves. -/
def break? (c : Cursor) : Option (Char × Cursor) :=
  match c.rest with
  | '\r' :: '\n' :: _ => some ('\n', skip 2 c)
  | ch :: _ =>
    if isUsualBreak ch then some ('\n', c.advance)
    else if isBreak ch then some (ch, c.advance)
    else none
  | [] => none

/-- Three dashes or points that stand as a word. -/
def atMark (c : Cursor) (mark : Char) : Bool :=
  c.ahead 0 == some mark && c.ahead 1 == some mark && c.ahead 2 == some mark &&
    endsWord (c.ahead 3)

/-- A mark that separates documents. -/
def atDocumentMark (c : Cursor) : Bool := c.atMark '-' || c.atMark '.'

end Cursor

end ComposeLint.Yaml
