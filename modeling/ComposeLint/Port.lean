import ComposeLint.Number.Integer

/-!
Short port entries, `[address:]host:container[/protocol]`. The address is a run of digits and points
or, in brackets, of hexadecimal figures and colons. The three parts are told apart by their number,
so an entry has at most one reading.
-/

namespace ComposeLint

inductive Protocol
  | tcp
  | udp
  | sctp
deriving DecidableEq, Repr

namespace Protocol

def all : List Protocol := [.tcp, .udp, .sctp]

def name : Protocol → Text
  | .tcp => "tcp".toList
  | .udp => "udp".toList
  | .sctp => "sctp".toList

def ofName? (t : Text) : Option Protocol := all.find? fun p => p.name == t

theorem ofName?_eq_some {t : Text} {p : Protocol} (h : ofName? t = some p) : p.name = t := by
  simpa using List.find?_some h

end Protocol

/-- The parts of a port entry as written. -/
structure PortEntry where
  address? : Option Text
  host : Text
  container : Text
  protocol? : Option Protocol
deriving DecidableEq, Repr

namespace PortEntry

def isDigits (t : Text) : Bool := !t.isEmpty && t.all Text.isDigit

def isAddress (t : Text) : Bool := !t.isEmpty && t.all fun c => Text.isDigit c || c == '.'

def isBracketAddress (t : Text) : Bool :=
  !t.isEmpty && t.all fun c => Text.isHexFigure c || c == ':'

/-- The address, the host port and the container port. -/
def splitParts? (t : Text) : Option (Option Text × Text × Text) :=
  match t with
  | '[' :: rest => do
    let (inner, after) ← Text.cutAt? ']' rest
    match after.splitOn ':' with
    | [[], host, container] =>
      if isBracketAddress inner then some (some ('[' :: inner ++ [']']), host, container) else none
    | _ => none
  | _ =>
    match t.splitOn ':' with
    | [host, container] => some (none, host, container)
    | [address, host, container] =>
      if isAddress address then some (some address, host, container) else none
    | _ => none

/-- The protocol after a slash, if there is a slash. -/
def splitProtocol? (t : Text) : Option (Text × Option Protocol) :=
  match t.cutAt? '/' with
  | none => some (t, none)
  | some (parts, name) => (Protocol.ofName? name).map fun p => (parts, some p)

def read? (t : Text) : Option PortEntry := do
  let (parts, protocol?) ← splitProtocol? t
  let (address?, host, container) ← splitParts? parts
  if isDigits host && isDigits container then some { address?, host, container, protocol? }
  else none

end PortEntry

/-- A port of the host that a service takes. -/
structure HostPort where
  port : Nat
  protocol : Protocol
deriving DecidableEq, Repr

/-- The host port of an entry, whatever quotes it has. Without a protocol it is `tcp`. -/
def HostPort.read (t : Text) : Except Integer.Fault (Option HostPort) :=
  match PortEntry.read? (Text.trim (t.filter (!Text.isQuote ·))) with
  | none => .ok none
  | some entry => do
    let port ← Integer.ofDigits entry.host
    return some ⟨port, entry.protocol?.getD .tcp⟩

end ComposeLint
