import ComposeLint.Text.Utf8

/-!
Files: their paths in plain form, and what is found at a path. In its plain form a path has no empty
parts and no single points, but parents are kept, since what a link leads to is not known. A path that
starts with exactly two slashes keeps both.
-/

namespace ComposeLint

namespace FilePath

def rootOf (path : Text) : Text :=
  match (path.takeWhile (· == '/')).length with
  | 0 => []
  | 2 => ['/', '/']
  | _ => ['/']

def partsOf (path : Text) : List Text :=
  (path.splitOn '/').filter fun part => !part.isEmpty && part != ['.']

/-- The plain form. An empty path is the current directory. -/
def plain (path : Text) : Text :=
  let text := rootOf path ++ Text.joinWith "/" (partsOf path)
  if text.isEmpty then ['.'] else text

end FilePath

/-- What is found at a path. -/
inductive FileState
  | absent
  | directory
  | contents (octets : List UInt8)
deriving DecidableEq, Repr

namespace FileState

/-- A file that holds a text. -/
def ofText (text : Text) : FileState := .contents (String.ofList text).toUTF8.toList

/-- The text that octets are, its line breaks unified. -/
def textOf (octets : List UInt8) : Except Utf8.Fault Text :=
  (Utf8.decode octets).map Text.unifyBreaks

/-- The text of a file, if there is a file. -/
def read : FileState → Except Utf8.Fault (Option Text)
  | .contents octets => (textOf octets).map some
  | _ => .ok none

end FileState

end ComposeLint
