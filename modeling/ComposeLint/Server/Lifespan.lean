import ComposeLint.Server.Options

/-!
The life of the server. Starting sets the paths of the store and then the size limit, each as soon
as its options are understood; stopping takes both back. A start that fails in between leaves behind
what was set before, and a run that is broken off leaves everything.
-/

namespace ComposeLint

/-- The word for the kind of a value in messages. -/
def Json.kindName : Json → Text
  | .null => "NoneType".toList
  | .bool _ => "bool".toList
  | .integer _ => "int".toList
  | .decimal _ => "float".toList
  | .infinite _ => "float".toList
  | .notANumber => "float".toList
  | .string _ => "str".toList
  | .array _ => "list".toList
  | .object _ => "dict".toList

/-- Why the server does not start. A value of the wrong kind is named by its kind. -/
inductive StartFault
  | options (fault : OptionsFault)
  | notOptions (kind : Text)
  | notAPath (kind : Text)
  | notANumber (kind : Text)
  | numeral (fault : Integer.Fault)
  | undefinedLimit
  | infiniteLimit
deriving DecidableEq, Repr

def StartFault.message : StartFault → Text
  | .options fault => fault.message
  | .notOptions kind =>
    "'".toList ++ kind ++ "' object has no attribute 'get'".toList
  | .notAPath kind => "expected str, bytes or os.PathLike object, not ".toList ++ kind
  | .notANumber kind =>
    "int() argument must be a string, a bytes-like object or a real number, not '".toList ++ kind ++
      "'".toList
  | .numeral fault => fault.message
  | .undefinedLimit => "cannot convert float NaN to integer".toList
  | .infiniteLimit => "cannot convert float infinity to integer".toList

structure StorePaths where
  custom : Text
  startup : Text
deriving DecidableEq, Repr

/-- What all requests share: the paths of the store while the server runs, and the size limit. -/
structure Shared where
  store? : Option StorePaths
  maxBytes : Int
deriving DecidableEq, Repr

namespace Shared

/-- The state of a server that does not run. -/
def stopped : Shared := ⟨none, Environment.defaultMaxBytes⟩

inductive Fault
  | notRunning
deriving DecidableEq, Repr

def Fault.message : Fault → Text
  | .notRunning => "TemplateStore not initialised".toList

def store (s : Shared) : Except Fault StorePaths :=
  match s.store? with
  | some paths => .ok paths
  | none => .error .notRunning

end Shared

/-- An action on the shared state. What it did before it failed stays done. -/
abbrev Starting := ExceptT StartFault (StateM Shared)

namespace Lifespan

def members : Json → Except StartFault (List (Text × Json))
  | .object members => .ok members
  | v => .error (.notOptions v.kindName)

def pathOf : Json → Except StartFault Text
  | .string t => .ok (FilePath.plain t)
  | v => .error (.notAPath v.kindName)

/-- The number that a value gives. A fraction is cut off. -/
def numberOf : Json → Except StartFault Int
  | .integer n => .ok n
  | .bool b => .ok (if b then 1 else 0)
  | .string t => (Integer.read t).mapError .numeral
  | .decimal numeral =>
    match (Decimal.nearest numeral).truncate? with
    | some n => .ok n
    | none => .error .infiniteLimit
  | .infinite _ => .error .infiniteLimit
  | .notANumber => .error .undefinedLimit
  | v => .error (.notANumber v.kindName)

/-- The value of an option, or its default. -/
def optionOf (members : List (Text × Json)) (key : String) (default : Json) : Json :=
  (Json.get? key.toList members).getD default

def start (env : Environment) : Starting Unit := do
  let options ← (env.options.mapError .options : Except StartFault Json)
  let members ← (members options : Except StartFault _)
  let custom ← (pathOf (optionOf members Environment.customKey (.string env.defaultCustomPath)) :
    Except StartFault Text)
  let startup ← (pathOf (optionOf members Environment.startupKey (.string env.defaultStartupPath)) :
    Except StartFault Text)
  modify fun s => { s with store? := some ⟨custom, startup⟩ }
  let limit ← (numberOf (optionOf members Environment.limitKey
    (.integer Environment.defaultMaxBytes)) : Except StartFault Int)
  modify fun s => { s with maxBytes := limit }

/-- The outcome of a start and the state after it. -/
def run (env : Environment) (s : Shared) : Except StartFault Unit × Shared := (start env).run s

/-- Stopping forgets whatever was set. -/
def stop (_ : Shared) : Shared := Shared.stopped

/-- How a run of the server ends: it is stopped, or an exception breaks it off. -/
inductive Ending
  | stopped
  | brokenOff
deriving DecidableEq, Repr

/-- The state after a run. One that is broken off does not come to the stop. -/
def leave : Ending → Shared → Shared
  | .stopped, s => stop s
  | .brokenOff, s => s

end Lifespan

end ComposeLint
