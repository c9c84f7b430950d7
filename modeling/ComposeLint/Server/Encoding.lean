import ComposeLint.Diagnostic.Report
import ComposeLint.Json.Basic
import ComposeLint.Stack.Basic

/-!
The form in which stacks and reports are sent. Every member is always there; what is unset is null.
-/

namespace ComposeLint

def Mapping.toJson (m : Mapping) : Json :=
  .record [("host", .string m.host), ("container", .string m.container)]

def Variable.toJson (v : Variable) : Json :=
  .record [("key", .string v.key), ("value", .ofOption .string v.value?)]

def Attachment.toJson (a : Attachment) : Json :=
  .record [("name", .string a.network), ("ip", .ofOption .string a.address?)]

def Setting.toJson (s : Setting) : Json :=
  .record [("key", .string s.key), ("value", .string s.value)]

def Command.toJson : Command → Json
  | .line text => .string text
  | .parts words => .ofList .string words

def Service.toJson (s : Service) : Json :=
  .record [("name", .string s.name), ("image", .ofOption .string s.image?),
    ("command", .ofOption Command.toJson s.command?), ("restart", .ofOption .string s.restart?),
    ("ports", .ofList Mapping.toJson s.ports),
    ("environment", .ofList Variable.toJson s.environment),
    ("volumes", .ofList Mapping.toJson s.volumes),
    ("networks", .ofList Attachment.toJson s.networks),
    ("depends_on", .ofList .string s.dependsOn), ("sysctls", .ofList Setting.toJson s.sysctls),
    ("cap_add", .ofList .string s.capabilities)]

def Network.toJson (n : Network) : Json :=
  .record [("name", .string n.name), ("external", .bool n.isExternal),
    ("driver", .ofOption .string n.driver?)]

def Stack.toJson (s : Stack) : Json :=
  .record [("services", .ofList Service.toJson s.services),
    ("networks", .ofList Network.toJson s.networks), ("volumes", .ofList .string s.volumes)]

def Counts.toJson (c : Counts) : Json :=
  .record [("services_count", .ofNat c.services), ("networks_count", .ofNat c.networks),
    ("volumes_count", .ofNat c.volumes)]

def Issue.toJson (i : Issue) : Json :=
  .record [("type", .ofString i.severity.name), ("code", .ofString i.code.name),
    ("message", .string i.message), ("line", .ofOption .integer i.line?),
    ("start_line", .ofOption .integer i.startLine?), ("end_line", .ofOption .integer i.endLine?),
    ("start_column", .ofOption .integer i.column?), ("end_column", .ofOption .integer i.column?),
    ("suggestion", .ofOption .string i.suggestion?)]

def Report.toJson (r : Report) : Json :=
  .record [("is_valid", .bool r.isValid), ("has_errors", .bool r.hasErrors),
    ("has_warnings", .bool r.hasWarnings), ("issues", .ofList Issue.toJson r.issues)]

end ComposeLint
