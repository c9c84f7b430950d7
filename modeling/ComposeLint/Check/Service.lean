import ComposeLint.Check.Mount
import ComposeLint.Port

/-!
The checks of one service. They read nothing but its block.
-/

namespace ComposeLint.Check

/-- Ports that other programs are likely to use. -/
def wellKnownPorts : List (Nat × Text) :=
  [(22, "SSH"), (80, "HTTP"), (443, "HTTPS"), (3306, "MySQL"), (5432, "PostgreSQL"),
    (6379, "Redis"), (27017, "MongoDB")].map fun (port, usage) => (port, usage.toList)

/-- More variables than this belong into a file. -/
def maxInlineVariables : Nat := 5

def imageFault? (service image : Text) : Option Finding :=
  if image.isEmpty then some (.emptyImage service)
  else if image.getLast? == some ':' then some (.untaggedImage service)
  else if image.holds "::".toList then some (.doubleColonImage service)
  else none

def imageIssues (service : Block) : List Issue :=
  match service.child? "image".toList with
  | some image =>
    (imageFault? service.name image.value.unquote).toList.map (·.onLine image.header.number)
  | none =>
    if service.hasChild "build".toList then []
    else [(Finding.missingImage service.name).onLine service.header.number]

def restartIssues (service : Block) : List Issue :=
  if service.hasChild "restart".toList then []
  else [(Finding.missingRestart service.name).onLine service.header.number]

def volumeIssues (service : Block) : List Issue :=
  match service.child? "volumes".toList with
  | some volumes => mountListIssues volumes
  | none => [(Finding.missingVolumeList service.name).onLine service.header.number]

/-- A finding at a child of the service, if the child is there and gives reason to it. -/
def childIssues (service : Block) (key : String) (reason : Block → Bool) (finding : Finding) :
    List Issue :=
  match service.child? key.toList with
  | some child => if reason child then [finding.onLine child.header.number] else []
  | none => []

def variableCount (environment : Block) : Nat :=
  environment.entries.length + environment.children.length

def environmentIssues (service : Block) : List Issue :=
  match service.child? "environment".toList with
  | some environment =>
    let count := variableCount environment
    if !service.hasChild "env_file".toList && maxInlineVariables < count then
      [(Finding.manyVariables service.name count).onLine environment.header.number]
    else []
  | none => []

/-- The host ports of a list in order, each with its line. Entries of another form take none. -/
def hostPorts (ports : Block) : Except Integer.Fault (List (Int × HostPort)) := do
  let read ← ports.entries.mapM fun (l, text) => do
    let port? ← HostPort.read text
    return port?.map fun port => (l.number, port)
  return read.filterMap id

/-- The issues of host ports in order, `used` being those already taken. -/
def portIssuesFrom (service : Text) (used : List HostPort) : List (Int × HostPort) → List Issue
  | [] => []
  | (line, taken) :: rest =>
    let duplicate := if used.contains taken then [Finding.duplicatePort service taken.port] else []
    let usages := (wellKnownPorts.lookup taken.port).toList
    let known := usages.map (Finding.commonPort service taken.port)
    (duplicate ++ known).map (·.onLine line) ++ portIssuesFrom service (taken :: used) rest

def portIssues (service : Block) : Except Integer.Fault (List Issue) :=
  match service.child? "ports".toList with
  | some ports => return portIssuesFrom service.name [] (← hostPorts ports)
  | none => return []

def serviceIssues (service : Block) : Except Integer.Fault (List Issue) := do
  let ports ← portIssues service
  return imageIssues service ++ restartIssues service ++ volumeIssues service ++
    childIssues service "expose" (fun _ => !service.hasChild "ports".toList)
      (.exposedOnly service.name) ++
    environmentIssues service ++
    childIssues service "privileged" (fun child => child.value.unquote.toLower == "true".toList)
      (.privileged service.name) ++
    childIssues service "network_mode" (fun child => child.value.unquote == "host".toList)
      (.hostNetwork service.name) ++
    ports

end ComposeLint.Check
