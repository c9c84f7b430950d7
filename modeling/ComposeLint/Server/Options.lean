import ComposeLint.File
import ComposeLint.Json.Reader

/-!
Options come from a file, if there is one, or else from the environment. What the file holds is
taken as it is; whether it fits shows only when the options are used.
-/

namespace ComposeLint

/-- What the server finds when it starts. -/
structure Environment where
  dataDirectory : Text
  templatesPath? : Option Text
  startupPath? : Option Text
  maxBytes? : Option Text
  optionsPath : Text
  optionsFile : FileState
deriving DecidableEq, Repr

inductive OptionsFault
  | directory (path : Text)
  | encoding (fault : Utf8.Fault)
  | file (fault : Json.Fault) (text : Text)
  | numeral (fault : Integer.Fault)
deriving DecidableEq, Repr

def OptionsFault.message : OptionsFault → Text
  | .directory path => "[Errno 21] Is a directory: ".toList ++ path.quoted
  | .encoding fault => fault.message
  | .file fault text => fault.message text
  | .numeral fault => fault.message

namespace Environment

/-- The size limit unless another is set: one mebibyte. -/
def defaultMaxBytes : Int := 1024 * 1024

def customKey : String := "custom_templates_path"

def startupKey : String := "startup_template_path"

def limitKey : String := "max_document_bytes"

def defaultCustomPath (env : Environment) : Text :=
  env.dataDirectory ++ "/custom_templates/custom-templates.yml".toList

def defaultStartupPath (env : Environment) : Text :=
  env.dataDirectory ++ "/startup/startup-template.yml".toList

/-- The options by the environment alone. Here the limit is read at once. -/
def ownOptions (env : Environment) : Except Integer.Fault Json := do
  let limit ←
    match env.maxBytes? with
    | some text => Integer.read text
    | none => pure defaultMaxBytes
  return .record [
    (customKey, .string (env.templatesPath?.getD env.defaultCustomPath)),
    (startupKey, .string (env.startupPath?.getD env.defaultStartupPath)),
    (limitKey, .integer limit)]

def options (env : Environment) : Except OptionsFault Json :=
  match env.optionsFile with
  | .absent => env.ownOptions.mapError .numeral
  | .directory => .error (.directory (FilePath.plain env.optionsPath))
  | .contents octets => do
    let text ← (FileState.textOf octets).mapError .encoding
    (Json.read text).mapError (.file · text)

end Environment

end ComposeLint
