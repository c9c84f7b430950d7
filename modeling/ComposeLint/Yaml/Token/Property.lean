import ComposeLint.Yaml.Cursor
import ComposeLint.Yaml.Token.Basic
import ComposeLint.Yaml.Version

/-!
What may stand before a node or in place of one: anchors, aliases and tags. Each is a single word.
-/

namespace ComposeLint.Yaml.Token

def isNameChar (c : Char) : Bool :=
  let n := c.toNat
  !",[]\x7b\x7d".toList.contains c &&
    ((0x21 ≤ n && n ≤ 0x7E) || (0xA0 ≤ n && n ≤ 0xFFFD && n != 0xFEFF) || 0x10000 ≤ n)

/-- The name of an anchor or alias after its indicator. -/
def name? (make : Text → Token) (c : Cursor) : Option (Token × Cursor) :=
  let (name, c) := c.advance.run isNameChar
  let ends := endsWord c.peek || c.peek.any "?:,[]\x7b\x7d%@\x60".toList.contains
  if name.isEmpty || !ends then none else some (make name, c)

/-- The former rules take a number sign for the start of a comment. -/
def isTagChar (v : Version) (c : Char) : Bool :=
  Text.isLetter c || Text.isFigure c || "-;/?:@&=+$,_.!~*'()[]%".toList.contains c ||
    (c == '#' && v == .present)

/-- Octets given by two hexadecimal figures after a percent sign become characters. -/
def percentDecode : Nat → Text → Option (List UInt8)
  | 0, _ => none
  | _, [] => some []
  | fuel + 1, '%' :: a :: b :: rest =>
    if Text.isHexFigure a && Text.isHexFigure b then
      (percentDecode fuel rest).map (UInt8.ofNat (16 * Text.hexValue a + Text.hexValue b) :: ·)
    else none
  | fuel + 1, c :: rest =>
    if c == '%' then none
    else (percentDecode fuel rest).map ((String.ofList [c]).toUTF8.toList ++ ·)

def tagText? (v : Version) (c : Cursor) : Option (Text × Cursor) := do
  let (raw, c) := c.run (isTagChar v)
  let octets ← percentDecode (raw.length + 1) raw
  let text ← String.fromUTF8? ⟨octets.toArray⟩
  if raw.isEmpty then none else some (text.toList, c)

def isHandleChar (c : Char) : Bool :=
  Text.isLetter c || Text.isFigure c || c == '-' || c == '_'

/-- A handle: one exclamation mark, or two with a name between them. -/
def tagHandle? (c : Cursor) : Option (Text × Cursor) := do
  if c.peek != some '!' then none
  let (name, after) := c.advance.run isHandleChar
  if after.peek == some '!' then some ('!' :: name ++ ['!'], after.advance)
  else if name.isEmpty && after.peek == some ' ' then some (['!'], after)
  else none

/-- Whether another exclamation mark follows in the same word. -/
def hasHandle (c : Cursor) : Bool :=
  ((c.rest.drop 1).takeWhile fun ch => ch != ' ' && !isBreak ch).contains '!'

/-- A tag from the last exclamation mark of its indicator on. A name in angle brackets is complete,
a mark alone is no name, and any other name has a handle in front of it. -/
def tagFrom? (v : Version) (handle : Text) (c : Cursor) : Option (Token × Cursor) :=
  match c.ahead 1 with
  | some '<' => do
    let (suffix, c) ← tagText? v (c.skip 2)
    if c.peek == some '>' then some (.tag none suffix, c.advance) else none
  | next =>
    if endsWord next then some (.tag none ['!'], c.advance)
    else do
      let (handle, c) ← if hasHandle c then tagHandle? c else some (handle, c.advance)
      let (suffix, c) ← tagText? v c
      some (.tag (some handle) suffix, c)

/-- The tag at whose indicator the cursor is: one exclamation mark or two. -/
def tag? (v : Version) (c : Cursor) : Option (Token × Cursor) := do
  let (t, c) ←
    if c.ahead 1 == some '!' then tagFrom? v "!!".toList c.advance else tagFrom? v ['!'] c
  if c.peek == some ' ' || endsLine c.peek then some (t, c) else none

end ComposeLint.Yaml.Token
