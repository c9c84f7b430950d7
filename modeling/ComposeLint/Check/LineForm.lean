import ComposeLint.Check.DuplicateKey
import ComposeLint.Text.Word

/-!
The check of single lines: margins, quotes, colons and dashes. It looks at lines and not at a parsed
document, so it still gives exact places where a document cannot be parsed at all.
-/

namespace ComposeLint.Check

def marginFinding? (l : Line) : Option Finding :=
  if l.hasMixedMargin then some .mixedMargin
  else if l.hasTabMargin then some .tabMargin
  else if !l.isComment && !l.inScalar && l.indent % 2 == 1 then some .oddIndent
  else none

/-- Keys that only the top level has. -/
def topLevelKeys : List Text :=
  ["version", "services", "networks", "volumes", "name"].map String.toList

/-- A key may start where no word, point or dash goes on. -/
def keyMayFollow (previous : Option Char) : Bool :=
  previous.all fun c => !(Text.isWordChar c || c == '.' || c == '-')

/-- The top-level keys that stand in a text, each followed by its colon. -/
def topLevelKeysIn (previous : Option Char) : Text → List Text
  | [] => []
  | c :: rest =>
    let here := topLevelKeys.find? fun key => Text.startsWith (c :: rest) (key ++ [':'])
    let later := topLevelKeysIn (some c) rest
    match here with
    | some key => if keyMayFollow previous then key :: later else later
    | none => later

def isIdentifierStart (c : Char) : Bool := Text.isLetter c || c == '_'

def isIdentifierChar (c : Char) : Bool :=
  isIdentifierStart c || Text.isFigure c || c == '.' || c == '-'

def isIdentifier : Text → Bool
  | [] => false
  | c :: rest => isIdentifierStart c && rest.all isIdentifierChar

/-- The key of a text `key:value` with nothing between the colon and the value. -/
def gluedKey? (t : Text) : Option Text :=
  let key := t.takeWhile isIdentifierChar
  match t.dropWhile isIdentifierChar with
  | ':' :: c :: _ => if isIdentifier key && !Text.isBlank c then some key else none
  | _ => none

/-- A scheme such as `http` and two slashes. -/
def isUrl (t : Text) : Bool :=
  let isSchemeChar := fun c =>
    Text.isLetter c || Text.isFigure c || c == '+' || c == '.' || c == '-'
  t.head?.any Text.isLetter && Text.startsWith (t.dropWhile isSchemeChar) "://".toList

/-- The place of the first colon, counted from one. -/
def colonColumn (raw : Text) : Int := raw.idxOf ':' + 1

def quoteIssues (l : Line) : List Issue :=
  l.trimmed.openQuote?.toList.map fun quote => (Finding.openQuote quote).onLine l.number

def sectionIssues (l : Line) : List Issue :=
  let keys := topLevelKeysIn none l.trimmed.withoutComment
  if 2 ≤ keys.length then [(Finding.severalSections keys).onLine l.number] else []

/-- A dash takes a blank after it; three dashes are no list item but a document mark. -/
def dashIssues (l : Line) : List Issue :=
  let text := l.trimmed.withoutComment
  match text with
  | _ :: c :: _ =>
    if Text.isSpaceOrTab c || text.startsWith "---".toList then []
    else [(Finding.gluedDash text).onLine l.number]
  | _ => []

/-- What keeps a line from being a mapping: a glued value, or no colon at all. -/
def colonIssues (l : Line) : List Issue :=
  let text := l.trimmed.withoutComment
  match (gluedKey? text).filter fun _ => !isUrl text with
  | some key =>
    [(Finding.gluedColon key).issue
      { line? := some l.number, column? := some (colonColumn l.raw) }]
  | none => if isIdentifier text then [(Finding.missingColon text).onLine l.number] else []

def contentIssues (l : Line) : List Issue :=
  quoteIssues l ++ sectionIssues l ++
    match l.role with
    | .listItem => dashIssues l
    | .unknown => colonIssues l
    | _ => []

def lineIssues (l : Line) : List Issue :=
  if l.isBlank then []
  else
    (marginFinding? l).toList.map (·.onLine l.number) ++
      if l.isComment || l.inScalar then [] else contentIssues l

def syntaxIssues (doc : Document) : List Issue := doc.flatMap lineIssues ++ duplicateKeyIssues doc

end ComposeLint.Check
