import ComposeLint.Text.Basic

/-!
What a Compose document describes: services with their settings, networks, and volumes by name.
Nothing is merged, so a service that is written twice is there twice.
-/

namespace ComposeLint

/-- A pair `host:container`, of ports or of paths. -/
structure Mapping where
  host : Text
  container : Text
deriving DecidableEq, Repr

/-- An environment variable; without a value it is taken from the host. -/
structure Variable where
  key : Text
  value? : Option Text
deriving DecidableEq, Repr

/-- A network that a service joins, with its fixed address if it has one. -/
structure Attachment where
  network : Text
  address? : Option Text
deriving DecidableEq, Repr

structure Setting where
  key : Text
  value : Text
deriving DecidableEq, Repr

/-- A command is one line for a shell or a list of parts. -/
inductive Command
  | line (text : Text)
  | parts (words : List Text)
deriving DecidableEq, Repr

structure Service where
  name : Text
  image? : Option Text
  command? : Option Command
  restart? : Option Text
  ports : List Mapping
  environment : List Variable
  volumes : List Mapping
  networks : List Attachment
  dependsOn : List Text
  sysctls : List Setting
  capabilities : List Text
deriving DecidableEq, Repr

structure Network where
  name : Text
  isExternal : Bool
  driver? : Option Text
deriving DecidableEq, Repr

structure Stack where
  services : List Service
  networks : List Network
  volumes : List Text
deriving DecidableEq, Repr

/-- How many entries of each kind a document has. -/
structure Counts where
  services : Nat
  networks : Nat
  volumes : Nat
deriving DecidableEq, Repr

end ComposeLint
