import ComposeLint.Number.Integer

/-!
Wordings with places to fill. A value goes into its place as it is: what is put in is never looked
at for places of its own. Filling stops at the first place that has no value, or an integer of too
many digits to be written.
-/

namespace ComposeLint

inductive Placeholder
  | check
  | count
  | key
  | keys
  | mount
  | path
  | port
  | previousLine
  | protocol
  | quote
  | service
  | text
  | volume
deriving DecidableEq, Repr

namespace Placeholder

def all : List Placeholder := [
    .check, .count, .key, .keys, .mount, .path, .port, .previousLine, .protocol, .quote, .service,
    .text, .volume]

def name : Placeholder → String
  | .check => "check"
  | .count => "count"
  | .key => "key"
  | .keys => "keys"
  | .mount => "mount"
  | .path => "path"
  | .port => "port"
  | .previousLine => "previous_line"
  | .protocol => "protocol"
  | .quote => "quote"
  | .service => "service"
  | .text => "text"
  | .volume => "volume"

theorem mem_all (p : Placeholder) : p ∈ all := by cases p <;> decide

end Placeholder

/-- What can be put into a place. -/
inductive Argument
  | text (t : Text)
  | number (n : Int)
deriving DecidableEq, Repr

namespace Argument

def render : Argument → Text
  | .text t => t
  | .number n => Text.ofInt n

def isWritable : Argument → Bool
  | .text _ => true
  | .number n => Integer.isWritable n

end Argument

/-- The arguments at hand. -/
abbrev Arguments := Placeholder → Option Argument

/-- Arguments given as a list; the first one for a place counts. -/
def Arguments.ofList (given : List (Placeholder × Argument)) : Arguments := fun p => given.lookup p

/-- Arguments by names of any kind, in the order in which they are given. -/
abbrev NamedArguments := List (Text × Argument)

/-- The arguments for places by the names of these. Any others are not looked up. -/
def Arguments.named (given : NamedArguments) : Arguments := fun p => given.lookup p.name.toList

inductive Piece
  | words (s : String)
  | slot (p : Placeholder)
deriving DecidableEq, Repr

instance : Coe String Piece := ⟨Piece.words⟩

/-- A place without an argument shows its name in braces. -/
def Piece.render (arguments : Arguments) : Piece → Text
  | .words s => s.toList
  | .slot p =>
    match arguments p with
    | some a => a.render
    | none => "\x7b".toList ++ p.name.toList ++ "\x7d".toList

def Piece.slot? : Piece → Option Placeholder
  | .words _ => none
  | .slot p => some p

abbrev Wording := List Piece

namespace Wording

def render (arguments : Arguments) (w : Wording) : Text := w.flatMap (Piece.render arguments)

/-- The wording itself, with its places in braces. -/
def source (w : Wording) : Text := w.render fun _ => none

/-- Why a place cannot be filled: there is no argument of its name, or it cannot be written. -/
inductive Fault
  | missing (name : Text)
  | unwritable
deriving DecidableEq, Repr

def Fault.message : Fault → Text
  | .missing name => name.quoted
  | .unwritable =>
    ("Exceeds the limit (4300 digits) for integer string conversion; " ++
      "use sys.set_int_max_str_digits() to increase the limit").toList

/-- What is wrong with the argument for a place. -/
def faultAt? (arguments : Arguments) (p : Placeholder) : Option Fault :=
  match arguments p with
  | none => some (.missing p.name.toList)
  | some a => if a.isWritable then none else some .unwritable

/-- The fault at the first place that cannot be filled. -/
def fault? (arguments : Arguments) (w : Wording) : Option Fault :=
  (w.filterMap Piece.slot?).findSome? (faultAt? arguments)

/-- The filled wording, or what is wrong with the first place that cannot be filled. -/
def fill (arguments : Arguments) (w : Wording) : Except Fault Text :=
  match w.fault? arguments with
  | some fault => .error fault
  | none => .ok (w.render arguments)

end Wording

end ComposeLint
