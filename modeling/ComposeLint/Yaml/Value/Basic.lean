import ComposeLint.Number.Binary64
import ComposeLint.Yaml.Moment
import ComposeLint.Yaml.Node.Basic

/-!
Values, and mappings as pairs in the order of their keys. Keys have to differ as values, so `1` and
`1.0` are one key.
-/

namespace ComposeLint.Yaml

/-- What a scalar denotes. Of the floats that are no numbers, the one with a name of its own is
`notNumber`, and equals itself; any other equals nothing but the very same scalar. -/
inductive Atom
  | null
  | bool (b : Bool)
  | integer (n : Int)
  | float (x : Binary64)
  | notNumber
  | string (t : Text)
  | octets (octets : List UInt8)
  | moment (m : Moment)
deriving DecidableEq, Repr

namespace Atom

/-- Truth values count as one and zero. -/
def integer? : Atom → Option Int
  | .integer n => some n
  | .bool b => some (if b then 1 else 0)
  | _ => none

def same : Atom → Atom → Bool
  | .null, .null => true
  | .notNumber, .notNumber => true
  | .string s, .string t => s == t
  | .octets a, .octets b => a == b
  | .moment m, .moment n => m.sameAs n
  | .float x, .float y => x.sameNumber y
  | .float x, a => a.integer?.any x.isInteger
  | a, .float x => a.integer?.any x.isInteger
  | a, b => a.integer?.isSome && a.integer? == b.integer?

end Atom

/-- A key of a mapping: a scalar, a scalar that equals nothing but itself, or a list of keys. -/
inductive Key
  | atom (a : Atom)
  | itself (id : NodeId)
  | tuple (keys : List Key)
deriving Repr

namespace Key

def ofAtom (id : NodeId) (a : Atom) : Key := if a == .float .nan then .itself id else .atom a

mutual

def same : Key → Key → Bool
  | .atom a, .atom b => a.same b
  | .itself m, .itself n => m == n
  | .tuple as, .tuple bs => sameAll as bs
  | _, _ => false

def sameAll : List Key → List Key → Bool
  | [], [] => true
  | a :: as, b :: bs => same a b && sameAll as bs
  | _, _ => false

end

/-! ### Pairs by their keys -/

def isIn {α : Type} (pairs : List (Key × α)) (key : Key) : Bool :=
  pairs.any fun (k, _) => same k key

/-- Sets what a key has, in its old place if it has one. -/
def put {α : Type} (pairs : List (Key × α)) (key : Key) (a : α) : List (Key × α) :=
  if isIn pairs key then pairs.map fun (k, b) => if same k key then (k, a) else (k, b)
  else pairs ++ [(key, a)]

def putAll {α : Type} (pairs more : List (Key × α)) : List (Key × α) :=
  more.foldl (fun ps (key, a) => put ps key a) pairs

end Key

/-- A value, as deep as it was asked for. What lies deeper, and what is neither a scalar nor a list
nor a mapping, is `other`. -/
inductive Value
  | atom (a : Atom)
  | list (items : List Value)
  | mapping (pairs : List (Key × Value))
  | other
deriving Repr

namespace Value

/-- The value of a string key in a mapping. -/
def get? (key : Text) (pairs : List (Key × Value)) : Option Value :=
  (pairs.find? fun (k, _) => k.same (.atom (.string key))).map (·.2)

end Value

/-- Why a loader has no value for a text: the text breaks the rules of YAML, or something else is
wrong. -/
inductive LoadFault (ε : Type)
  | malformed
  | other (fault : ε)
deriving DecidableEq, Repr

/-- What finds the value of a text. An empty text has the value null. -/
abbrev Loader (ε : Type) := Text → Except (LoadFault ε) Value

end ComposeLint.Yaml
