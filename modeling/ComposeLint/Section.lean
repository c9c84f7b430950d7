import ComposeLint.Block

/-!
Top-level sections and the named entries inside of them. A section starts at its header in the
first column and ends before the next line that starts there with a letter. Named entries stand at
two spaces, and each reaches to the next line that has a letter at that place.
-/

namespace ComposeLint

/-- A section by the index of its header and of the first line after it. -/
structure Section where
  name : Text
  start : Nat
  stop : Nat
deriving DecidableEq, Repr

def Section.lineNumber (s : Section) : Nat := s.start + 1

namespace Line

def startsTopLevel (l : Line) : Bool := l.raw.head?.any Text.isLetter

/-- Two spaces and a letter: whatever follows, the entry above ends here. -/
def startsEntry (l : Line) : Bool :=
  match l.raw with
  | ' ' :: ' ' :: c :: _ => Text.isLetter c
  | _ => false

/-- Whether the line is this key in the first column, with nothing but a comment after it. -/
def isSectionHeader (name : Text) (l : Line) : Bool :=
  let header := name ++ [':']
  l.raw.startsWith header && l.trimmed.withoutComment == header

end Line

/-- The kinds of named entries, each with a section of its own. -/
inductive EntryKind
  | service
  | network
  | volume
deriving DecidableEq, Repr

namespace EntryKind

def sectionName : EntryKind → Text
  | .service => "services".toList
  | .network => "networks".toList
  | .volume => "volumes".toList

/-- Volume names may hold points as well. -/
def isNameChar (kind : EntryKind) (c : Char) : Bool :=
  Text.isLetter c || Text.isFigure c || c == '_' || c == '-' || (kind == .volume && c == '.')

/-- After the name a service has exactly a colon; the others may do without. -/
def mayEndWith : EntryKind → Text → Bool
  | .service, tail => tail == [':']
  | _, tail => tail.isEmpty || tail == [':']

/-- Two spaces, a name that starts with a letter, the colon, and no more than blanks after it. -/
def isHeader (kind : EntryKind) (l : Line) : Bool :=
  match l.raw.trimEnd with
  | ' ' :: ' ' :: c :: rest =>
    Text.isLetter c && kind.mayEndWith (rest.dropWhile kind.isNameChar)
  | _ => false

end EntryKind

namespace Document

/-- The index of the first header of the section. -/
def findSection? (doc : Document) (name : Text) : Option Nat :=
  doc.findIdx? (·.isSectionHeader name)

/-- The index of the first line after `start` that opens another top-level key. -/
def sectionEnd (doc : Document) (start : Nat) : Nat :=
  start + 1 + (doc.drop (start + 1)).findIdx (·.startsTopLevel)

def section? (doc : Document) (name : Text) : Option Section :=
  (doc.findSection? name).map fun start => ⟨name, start, doc.sectionEnd start⟩

/-- The lines below the header of a section, none if there is no such section. -/
def sectionBody (doc : Document) (name : Text) : List Line :=
  match doc.section? name with
  | none => []
  | some s => (doc.take s.stop).drop (s.start + 1)

/-- The lines that an entry reaches over. -/
def entryScope (_ : Line) (following : List Line) : List Line :=
  following.takeWhile (!·.startsEntry)

/-- The named entries of a section, each with its scope. -/
def blocks (doc : Document) (kind : EntryKind) : List Block :=
  Block.blocksAt kind.isHeader entryScope (doc.sectionBody kind.sectionName)

end Document

end ComposeLint
