import ComposeLint.File
import ComposeLint.Snippet.Bundled

/-!
The store reads snippets and the document to begin with from two files, anew at each call. A missing
file or a directory in its place is no fault; octets that are no text are.
-/

namespace ComposeLint

/-- Why the store has no answer: octets that are no text, or a fault of the loader. -/
inductive StoreFault (ε : Type)
  | encoding (fault : Utf8.Fault)
  | value (fault : ε)
deriving DecidableEq, Repr

/-- The document to begin with. If it could not be read, `failure?` says so. -/
structure StartupDocument where
  content : Text
  failure? : Option Text
deriving DecidableEq, Repr

def StartupDocument.success (d : StartupDocument) : Bool := d.failure?.isNone

structure Store where
  custom : FileState
  startup : FileState
deriving DecidableEq, Repr

namespace Store

def empty : Store := ⟨.absent, .absent⟩

/-- The user's own snippets. -/
def customSnippets {ε : Type} (load : Yaml.Loader ε) (s : Store) :
    Except (StoreFault ε) (List Snippet) := do
  match ← s.custom.read.mapError .encoding with
  | some text => (Snippet.readList load text).mapError .value
  | none => return []

def fallback : StartupDocument where
  content := Snippet.fallbackDocument
  failure? := some "Failed to load startup template file, using fallback".toList

def startupDocument (s : Store) : Except Utf8.Fault StartupDocument := do
  match ← s.startup.read with
  | some content => return ⟨content, none⟩
  | none => return fallback

/-- The built-in snippets, the same in every store. -/
def quickSnippets (_ : Store) : List (Text × Snippet) := Snippet.quick

/-- The store on the files that are delivered. -/
def bundled : Store := ⟨.ofText Snippet.bundledCustom, .ofText Snippet.bundledStartup⟩

end Store

end ComposeLint
