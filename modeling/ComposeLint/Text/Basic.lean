/-!
Text is a list of characters, so that every reader in this library is a plain recursion on it.
Lengths and columns therefore count characters. Blank characters are those of the Unicode
white space property together with the four separators U+001C to U+001F.
-/

namespace ComposeLint

abbrev Text := List Char

namespace Text

/-- Blank characters separate words and never carry meaning at the ends of a line. -/
def isBlank (c : Char) : Bool :=
  let n := c.toNat
  (0x09 ≤ n && n ≤ 0x0D) || (0x1C ≤ n && n ≤ 0x20) || n == 0x85 || n == 0xA0 || n == 0x1680 ||
    (0x2000 ≤ n && n ≤ 0x200A) || n == 0x2028 || n == 0x2029 || n == 0x202F || n == 0x205F ||
    n == 0x3000

/-- The two blanks that separate words within a line of a document. -/
def isSpaceOrTab (c : Char) : Bool := c == ' ' || c == '\t'

def isQuote (c : Char) : Bool := c == '"' || c == '\''

def isLetter (c : Char) : Bool := ('a' ≤ c && c ≤ 'z') || ('A' ≤ c && c ≤ 'Z')

def isFigure (c : Char) : Bool := '0' ≤ c && c ≤ '9'

def isHexFigure (c : Char) : Bool :=
  isFigure c || ('a' ≤ c && c ≤ 'f') || ('A' ≤ c && c ≤ 'F')

/-- The value of a hexadecimal figure; other characters count as zero. -/
def hexValue (c : Char) : Nat :=
  if isFigure c then c.toNat - '0'.toNat
  else if 'a' ≤ c && c ≤ 'f' then c.toNat - 'a'.toNat + 10
  else if 'A' ≤ c && c ≤ 'F' then c.toNat - 'A'.toNat + 10
  else 0

def toLower (t : Text) : Text := t.map Char.toLower

def dropEndWhile (p : Char → Bool) (t : Text) : Text := (t.reverse.dropWhile p).reverse

def trimStart (t : Text) : Text := t.dropWhile isBlank

def trimEnd (t : Text) : Text := t.dropEndWhile isBlank

def trim (t : Text) : Text := trimEnd (trimStart t)

/-- Whether anything but blanks is there. -/
def isVacant (t : Text) : Bool := t.all isBlank

/-- `none` for the empty text. -/
def nonempty? (t : Text) : Option Text := if t.isEmpty then none else some t

def startsWith (t start : Text) : Bool := start.isPrefixOf t

/-- Whether `part` stands anywhere in the text. -/
def holds : Text → Text → Bool
  | [], part => part.isEmpty
  | c :: rest, part => part.isPrefixOf (c :: rest) || holds rest part

/-- Whether a minus sign leads, and what follows the sign, if there is one. -/
def splitSign : Text → Bool × Text
  | '-' :: rest => (true, rest)
  | '+' :: rest => (false, rest)
  | t => (false, t)

/-- The text before and after the first `c`, if there is one. -/
def cutAt? (c : Char) (t : Text) : Option (Text × Text) :=
  match t.dropWhile (· != c) with
  | [] => none
  | _ :: rest => some (t.takeWhile (· != c), rest)

/-- The text as a single line: one line break at the very end does not count, any other does. -/
def singleLine? (t : Text) : Option Text :=
  let body := t.takeWhile (· != '\n')
  match t.dropWhile (· != '\n') with
  | [] => some body
  | ['\n'] => some body
  | _ => none

/-- The text without a line break at its very end. -/
def dropFinalBreak (t : Text) : Text := if t.getLast? == some '\n' then t.dropLast else t

/-- Every kind of line break becomes a line feed. -/
def unifyBreaks : Text → Text
  | '\r' :: '\n' :: rest => '\n' :: unifyBreaks rest
  | '\r' :: rest => '\n' :: unifyBreaks rest
  | c :: rest => c :: unifyBreaks rest
  | [] => []

/-- Lexicographic order by code point. -/
def atMost : Text → Text → Bool
  | [], _ => true
  | _ :: _, [] => false
  | a :: s, b :: t => a < b || (a == b && atMost s t)

def joinWith (separator : String) (parts : List Text) : Text :=
  separator.toList.intercalate parts

def ofNat (n : Nat) : Text := (toString n).toList

def ofInt (n : Int) : Text := (toString n).toList

end Text

end ComposeLint
