import ComposeLint.Yaml.Lexer.Layout
import ComposeLint.Yaml.QuotedScalar
import ComposeLint.Yaml.Token.Directive

/-!
From a text to its tokens, one step for each. Where a text breaks a rule its tokens end, and those
that no later colon could change still stand; so a reader of tokens can meet another fault first.
-/

namespace ComposeLint.Yaml

namespace Lexer

/-! ### Single tokens -/

/-- To the next token: over spaces, comments and line breaks. Tabs are skipped in brackets only. -/
def skipGap : Nat → Lexer → Lexer
  | 0, l => l
  | fuel + 1, l =>
    let c := l.cursor.after fun ch => ch == ' ' || (l.inFlow && ch == '\t')
    let c := if c.peek == some '#' then c.after (!isBreak ·) else c
    match c.break? with
    | some (_, c) => skipGap fuel { l with cursor := c, keyAllowed := l.keyAllowed || !l.inFlow }
    | none => l.moveTo c

/-- Over a byte order mark at the very start. -/
def skipMark (l : Lexer) : Lexer :=
  if l.cursor.index == 0 && l.cursor.peek == some '\ufeff' then l.moveTo l.cursor.advance else l

/-- An indicator of one character. -/
def indicator (t : Token) (l : Lexer) : Lexer := (l.push t).moveTo l.cursor.advance

def openBrackets? (kind : Brackets) (t : Token) (l : Lexer) : Option Lexer := do
  let l ← l.noteKey?
  return ({ l with brackets := kind :: l.brackets }.allowKey true).indicator t

def closeBrackets? (t : Token) (l : Lexer) : Option Lexer := do
  let l ← l.dropKey?
  return ({ l with brackets := l.brackets.drop 1 }.allowKey false).indicator t

def flowComma? (l : Lexer) : Option Lexer := do
  let l ← l.dropKey?
  return (l.allowKey true).indicator .flowEntry

/-- A dash or question mark opens an entry of a block, where a key could stand. -/
def blockIndicator? (opening t : Token) (l : Lexer) : Option Lexer := do
  if !l.inFlow && !l.keyAllowed then none
  let l := if l.inFlow then l else l.openBlock opening
  let l ← (l.allowKey (t == .blockEntry || !l.inFlow)).dropKey?
  return l.indicator t

/-- A colon after a possible key makes it one; else it is the colon of a key given before. -/
def colon? (l : Lexer) : Option Lexer := do
  match l.takeKey with
  | (some k, l) =>
    let l := l.insertAt k.tokenIndex .key
    let column : Int := k.start.column
    let l :=
      if !l.inFlow && l.indent < column then
        (l.deepen column).insertAt k.tokenIndex .mappingStart
      else l
    return (l.allowKey false).indicator .value
  | (none, l) =>
    if !l.inFlow && !l.keyAllowed then none
    let l := if l.inFlow then l else l.openBlock .mappingStart
    let l ← (l.allowKey (!l.inFlow)).dropKey?
    return l.indicator .value

/-- A token that could be a key, read from the cursor. -/
def keyLike (read : Cursor → Except Fault (Token × Cursor)) (l : Lexer) : Except Fault Lexer := do
  let l ← l.noteKey?
  let (t, c) ← read l.cursor
  return (l.push t).moveTo c |>.allowKey false

def quoted (isDouble : Bool) : Lexer → Except Fault Lexer :=
  keyLike fun c => do
    let (text, c) ← quotedScalar isDouble c
    return (.scalar text false, c)

def plain? (l : Lexer) : Option Lexer := do
  let l ← l.noteKey?
  let s := plainScalar l.version l.inFlow (l.indent + 1) l.cursor
  return (l.push (.scalar s.text true)).moveTo s.cursor |>.allowKey s.onNewLine

def block? (folded : Bool) (l : Lexer) : Option Lexer := do
  let l ← (l.allowKey true).dropKey?
  let (text, c) ← blockScalar? folded l.indent l.cursor.advance
  return (l.push (.scalar text false)).moveTo c

/-- A document mark closes all blocks. -/
def documentMark? (t : Token) (l : Lexer) : Option Lexer := do
  let l ← (l.unwind (-1)).dropKey?
  return (l.allowKey false).push t |>.moveTo (l.cursor.skip 3)

/-- The rules from a token on: a version directive sets them. -/
def versionAfter (t : Token) (l : Lexer) : Version :=
  match t with
  | .versionDirective major minor => Version.ofNumber major minor
  | _ => l.version

/-- A directive closes all blocks as well. -/
def directive (l : Lexer) : Except Fault Lexer := do
  let l ← (l.unwind (-1)).dropKey?
  let (t, c) ← Token.readDirective l.version l.cursor
  return ({ l with version := l.versionAfter t }.allowKey false).push t |>.moveTo c

/-! ### All tokens -/

/-- Whether a colon here stands for itself and is not the start of a text. Inside of braces it
always does, unless it follows a colon whose token still waits for a key around it; by the former
rules it does so inside of all brackets. -/
def isColon (l : Lexer) : Bool :=
  let apart := endsWord (l.cursor.ahead 1)
  match l.brackets with
  | [] => apart
  | .sequence :: _ => apart || l.version == .former
  | .mapping :: _ =>
    apart || l.version == .former || l.tokens.back? != some .value

/-- Characters that never start a plain scalar, or only together with what follows. -/
def isIndicator (c : Char) : Bool :=
  isGap c || isBreak c || "-?:,[]\x7b\x7d#&*!|>'\"%@\x60".toList.contains c

/-- Whether a plain scalar starts here. -/
def startsPlain (l : Lexer) : Bool :=
  match l.cursor.peek with
  | none => false
  | some c =>
    let next := l.cursor.ahead 1
    !isIndicator c || (c == '-' && !endsWord next) ||
      (c == ':' && l.inFlow && l.version == .present && !next.any isGap) ||
      ((c == '?' || c == ':') && !l.inFlow && !endsWord next)

/-- The token of a character, at a place where no mark stands. -/
def next (c : Char) (l : Lexer) : Except Fault Lexer :=
  let apart := endsWord (l.cursor.ahead 1)
  if c == '[' then l.openBrackets? .sequence .flowSequenceStart
  else if c == '\x7b' then l.openBrackets? .mapping .flowMappingStart
  else if c == ']' then l.closeBrackets? .flowSequenceEnd
  else if c == '\x7d' then l.closeBrackets? .flowMappingEnd
  else if c == ',' then l.flowComma?
  else if c == '-' && apart then l.blockIndicator? .sequenceStart .blockEntry
  else if c == '?' && (l.inFlow || apart) then l.blockIndicator? .mappingStart .key
  else if c == ':' && l.isColon then l.colon?
  else if c == '*' then l.keyLike fun c => Token.name? .alias c
  else if c == '&' then l.keyLike fun c => Token.name? .anchor c
  else if c == '!' then l.keyLike fun c => Token.tag? l.version c
  else if c == '|' && !l.inFlow then l.block? false
  else if c == '>' && !l.inFlow then l.block? true
  else if c == '\'' then l.quoted false
  else if c == '"' then l.quoted true
  else if l.startsPlain then l.plain?
  else throw .malformed

/-- One token further, or several where blocks close. -/
def step (l : Lexer) : Except Fault Lexer := do
  let l ← (l.skipMark.skipGap (l.cursor.left + 1)).dropStaleKeys?
  let l := l.unwind l.cursor.column
  match l.cursor.peek with
  | none => (l.unwind (-1)).dropKey?
  | some c =>
    if l.cursor.column == 0 && c == '%' then l.directive
    else if l.cursor.column == 0 && l.cursor.atMark '-' then l.documentMark? .documentStart
    else if l.cursor.column == 0 && l.cursor.atMark '.' then l.documentMark? .documentEnd
    else l.next c

/-- The tokens in front of which no key can be put any more, and what remains. -/
def release (l : Lexer) : List Token × Lexer :=
  let index := l.keys.foldl (fun n (_, k) => min n k.tokenIndex) (l.released + l.tokens.size)
  let count := index - l.released
  ((l.tokens.take count).toList,
    { l with released := l.released + count, tokens := l.tokens.drop count })

end Lexer

/-- The tokens of a text up to its first fault, if it has one. -/
structure TokenStream where
  tokens : List Token
  fault? : Option Fault

namespace Lexer

/-- The tokens after those of `done`, which are the last first. Every step takes a character at
least, so the length of the text is fuel enough. -/
def run : Nat → List Token → Lexer → TokenStream
  | 0, done, _ => ⟨done.reverse, some .malformed⟩
  | fuel + 1, done, l =>
    let isLast := l.cursor.rest.isEmpty
    match l.step with
    | .error fault => ⟨done.reverse, some fault⟩
    | .ok next =>
      if isLast then ⟨done.reverse ++ next.tokens.toList, none⟩
      else
        match next.dropStaleKeys? with
        | none => ⟨done.reverse, some .malformed⟩
        | some next =>
          let (tokens, next) := next.release
          run fuel (tokens.reverse ++ done) next

end Lexer

/-- All characters of a text are looked at before its first token. -/
def TokenStream.ofText (text : Text) : TokenStream :=
  if text.all isAllowed then Lexer.run (text.length + 2) [] (Lexer.start text)
  else ⟨[], some .malformed⟩

end ComposeLint.Yaml
