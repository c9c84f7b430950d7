import ComposeLint.Proofs.Rendering.Segment

/-! # Canonical documents

A stack is written section by section, each service and network as a segment. The order of the
fields and the form of every list are free, and a layout fixes them. A stack is canonical if its
texts are bare words of the kinds that stand in such documents without quotes. -/

namespace ComposeLint

/-! ## Canonical stacks -/

namespace Text

/-- A letter, then characters that names of this kind have. -/
def isNameOf (kind : EntryKind) (t : Text) : Bool :=
  t.head?.any isLetter && t.all kind.isNameChar

/-- One word, or two with a colon between them. -/
def isImage (t : Text) : Bool :=
  match t.cutAt? ':' with
  | some (name, tag) => name.isBare && tag.isBare
  | none => t.isBare

def isVariableName (t : Text) : Bool :=
  t.head?.any (fun c => isLetter c || c == '_') &&
    t.all fun c => isLetter c || isFigure c || c == '_'

def isSettingName (t : Text) : Bool :=
  t.head?.any isLetter && t.all fun c => isLetter c || isFigure c || c == '_' || c == '.'

end Text

def Mapping.isCanonical (m : Mapping) : Bool := m.host.isBare && m.container.isBare

def Variable.isCanonical (v : Variable) : Bool := v.key.isVariableName && v.value?.all Text.isBare

def Attachment.isCanonical (a : Attachment) : Bool :=
  a.network.isNameOf .network && a.address?.all Text.isBare

def Setting.isCanonical (s : Setting) : Bool := s.key.isSettingName && s.value.isBare

def Command.isCanonical : Command → Bool
  | line text => text.isBare
  | parts words => !words.isEmpty && words.all Text.isBare

structure Service.IsCanonical (s : Service) : Prop where
  name : s.name.isNameOf .service = true
  image : s.image?.all Text.isImage = true
  command : s.command?.all Command.isCanonical = true
  restart : s.restart?.all Text.isBare = true
  ports : s.ports.all Mapping.isCanonical = true
  environment : s.environment.all Variable.isCanonical = true
  volumes : s.volumes.all Mapping.isCanonical = true
  networks : s.networks.all Attachment.isCanonical = true
  dependsOn : s.dependsOn.all (Text.isNameOf .service) = true
  sysctls : s.sysctls.all Setting.isCanonical = true
  capabilities : s.capabilities.all Text.isBare = true

structure Network.IsCanonical (n : Network) : Prop where
  name : n.name.isNameOf .network = true
  driver : n.driver?.all Text.isBare = true

structure Stack.IsCanonical (s : Stack) : Prop where
  services : ∀ service ∈ s.services, service.IsCanonical
  networks : ∀ network ∈ s.networks, network.IsCanonical
  volumes : ∀ volume ∈ s.volumes, volume.isNameOf .volume = true

instance (s : Service) : Decidable s.IsCanonical :=
  decidable_of_iff
    ((s.name.isNameOf .service = true ∧ s.image?.all Text.isImage = true ∧
      s.command?.all Command.isCanonical = true ∧ s.restart?.all Text.isBare = true) ∧
      (s.ports.all Mapping.isCanonical = true ∧ s.environment.all Variable.isCanonical = true ∧
      s.volumes.all Mapping.isCanonical = true ∧ s.networks.all Attachment.isCanonical = true) ∧
      s.dependsOn.all (Text.isNameOf .service) = true ∧
      s.sysctls.all Setting.isCanonical = true ∧ s.capabilities.all Text.isBare = true)
    ⟨fun ⟨⟨h₁, h₂, h₃, h₄⟩, ⟨h₅, h₆, h₇, h₈⟩, h₉, h₁₀, h₁₁⟩ =>
      ⟨h₁, h₂, h₃, h₄, h₅, h₆, h₇, h₈, h₉, h₁₀, h₁₁⟩,
    fun h => ⟨⟨h.name, h.image, h.command, h.restart⟩,
      ⟨h.ports, h.environment, h.volumes, h.networks⟩, h.dependsOn, h.sysctls, h.capabilities⟩⟩

instance (n : Network) : Decidable n.IsCanonical :=
  decidable_of_iff (n.name.isNameOf .network = true ∧ n.driver?.all Text.isBare = true)
    ⟨fun ⟨h₁, h₂⟩ => ⟨h₁, h₂⟩, fun h => ⟨h.name, h.driver⟩⟩

instance (s : Stack) : Decidable s.IsCanonical :=
  decidable_of_iff
    ((∀ service ∈ s.services, service.IsCanonical) ∧ (∀ network ∈ s.networks, network.IsCanonical) ∧
      ∀ volume ∈ s.volumes, volume.isNameOf .volume = true)
    ⟨fun ⟨h₁, h₂, h₃⟩ => ⟨h₁, h₂, h₃⟩, fun h => ⟨h.services, h.networks, h.volumes⟩⟩

/-! ## Layouts -/

/-- Ways to write a list: items deeper than the key, at the indent of the key, or in brackets. -/
inductive ListForm
  | block
  | compact
  | bracket
deriving DecidableEq, Repr

inductive Form
  | list (form : ListForm)
  | mapping
deriving DecidableEq, Repr

/-- The fields of a service. -/
inductive Field
  | image
  | command
  | restart
  | ports
  | environment
  | volumes
  | networks
  | dependsOn
  | sysctls
  | capabilities
deriving DecidableEq, Repr

namespace Field

def all : List Field :=
  [.image, .command, .restart, .ports, .environment, .volumes, .networks, .dependsOn, .sysctls,
    .capabilities]

def key : Field → Text
  | image => "image".toList
  | command => "command".toList
  | restart => "restart".toList
  | ports => "ports".toList
  | environment => "environment".toList
  | volumes => "volumes".toList
  | networks => "networks".toList
  | dependsOn => "depends_on".toList
  | sysctls => "sysctls".toList
  | capabilities => "cap_add".toList

end Field

/-- How a service is written. Dependencies on one line would be read in the order of their names,
so they never stand in brackets. -/
structure ServiceLayout where
  order : List Field
  order_perm : order.Perm Field.all
  command : ListForm
  ports : ListForm
  environment : Form
  volumes : ListForm
  networks : Form
  dependsOn : Form
  dependsOn_ne : dependsOn ≠ .list .bracket
  sysctls : Form
  capabilities : ListForm

/-- The fields of a network. -/
inductive NetworkField
  | external
  | driver
deriving DecidableEq, Repr

namespace NetworkField

def all : List NetworkField := [.external, .driver]

def key : NetworkField → Text
  | external => "external".toList
  | driver => "driver".toList

end NetworkField

structure NetworkLayout where
  order : List NetworkField
  order_perm : order.Perm NetworkField.all

/-- A layout for every service and network by its position, and whether the last line ends in a
line break. -/
structure Layout where
  service : Nat → ServiceLayout
  network : Nat → NetworkLayout
  finalBreak : Bool

/-! ## Writing -/

namespace Segment

/-- A key with nothing to it. -/
def bare (k : Nat) (key : Text) : Segment := ⟨.key k key, []⟩

/-- A key with its value. -/
def scalar (k : Nat) (key value : Text) : Segment := ⟨.pair k key value, []⟩

/-- A key with list items at an indent. -/
def items (k : Nat) (key : Text) (entries : List Text) : Segment :=
  ⟨.key 4 key, entries.map (.item k)⟩

def bracketed (entries : List Text) : Text := '[' :: (Text.joinWith ", " entries ++ [']'])

def list (form : ListForm) (key : Text) (entries : List Text) : Segment :=
  match form with
  | .block => items 6 key entries
  | .compact => items 4 key entries
  | .bracket => ⟨.pair 4 key (bracketed entries), []⟩

def mapping (key : Text) (members : List Segment) : Segment := ⟨.key 4 key, members.flatMap rows⟩

/-- Values as entries of a list, left out if there are none. -/
def list? {α : Type} (form : ListForm) (key : Text) (entry : α → Text) (values : List α) :
    Option Segment :=
  if values.isEmpty then none else some (list form key (values.map entry))

/-- Values as members of a mapping, left out if there are none. -/
def mapping? {α : Type} (key : Text) (member : α → Segment) (values : List α) : Option Segment :=
  if values.isEmpty then none else some (mapping key (values.map member))

def field? {α : Type} (form : Form) (key : Text) (entry : α → Text) (member : α → Segment)
    (values : List α) : Option Segment :=
  match form with
  | .list form => list? form key entry values
  | .mapping => mapping? key member values

end Segment

def Mapping.entry (m : Mapping) : Text := m.host ++ ':' :: m.container

namespace Variable

def entry (v : Variable) : Text :=
  match v.value? with
  | some value => v.key ++ '=' :: value
  | none => v.key

def member (v : Variable) : Segment :=
  match v.value? with
  | some value => .scalar 6 v.key value
  | none => .bare 6 v.key

end Variable

def Attachment.member (a : Attachment) : Segment :=
  ⟨.key 6 a.network,
    (a.address?.toList.map (.scalar 8 "ipv4_address".toList)).flatMap Segment.rows⟩

def Setting.entry (s : Setting) : Text := s.key ++ '=' :: s.value

def Setting.member (s : Setting) : Segment := .scalar 6 s.key s.value

namespace Service

/-- Only a mapping has a place for addresses. -/
def networkForm (layout : ServiceLayout) (s : Service) : Form :=
  if s.networks.any (·.address?.isSome) then .mapping else layout.networks

def field? (layout : ServiceLayout) (s : Service) (f : Field) : Option Segment :=
  match f with
  | .image => s.image?.map (.scalar 4 f.key)
  | .command => s.command?.map fun
    | .line text => .scalar 4 f.key text
    | .parts words => .list layout.command f.key words
  | .restart => s.restart?.map (.scalar 4 f.key)
  | .ports => Segment.list? layout.ports f.key Mapping.entry s.ports
  | .environment =>
    Segment.field? layout.environment f.key Variable.entry Variable.member s.environment
  | .volumes => Segment.list? layout.volumes f.key Mapping.entry s.volumes
  | .networks =>
    Segment.field? (s.networkForm layout) f.key Attachment.network Attachment.member s.networks
  | .dependsOn =>
    Segment.field? layout.dependsOn f.key id (.bare 6) s.dependsOn
  | .sysctls => Segment.field? layout.sysctls f.key Setting.entry Setting.member s.sysctls
  | .capabilities => Segment.list? layout.capabilities f.key id s.capabilities

def fields (layout : ServiceLayout) (s : Service) : List Segment :=
  layout.order.filterMap (s.field? layout)

def segment (layout : ServiceLayout) (s : Service) : Segment :=
  ⟨.key 2 s.name, (s.fields layout).flatMap Segment.rows⟩

end Service

namespace Network

def field? (n : Network) (f : NetworkField) : Option Segment :=
  match f with
  | .external => if n.isExternal then some (.scalar 4 f.key "true".toList) else none
  | .driver => n.driver?.map (.scalar 4 f.key)

def fields (layout : NetworkLayout) (n : Network) : List Segment :=
  layout.order.filterMap n.field?

def segment (layout : NetworkLayout) (n : Network) : Segment :=
  ⟨.key 2 n.name, (n.fields layout).flatMap Segment.rows⟩

end Network

namespace Stack

def serviceSegments (layout : Layout) (s : Stack) : List Segment :=
  s.services.mapIdx fun i service => service.segment (layout.service i)

def networkSegments (layout : Layout) (s : Stack) : List Segment :=
  s.networks.mapIdx fun i network => network.segment (layout.network i)

/-- The rows below the header of a section. -/
def sectionRows (layout : Layout) (s : Stack) : EntryKind → List Row
  | .service => (s.serviceSegments layout).flatMap Segment.rows
  | .network => (s.networkSegments layout).flatMap Segment.rows
  | .volume => s.volumes.map (.key 2)

/-- The lines of a section, its header first. -/
def sectionTexts (layout : Layout) (s : Stack) (kind : EntryKind) : List Text :=
  (Row.key 0 kind.sectionName :: s.sectionRows layout kind).map Row.text

def render (layout : Layout) (s : Stack) : Text :=
  Text.joinWith "\n" ([.service, .network, .volume].flatMap (s.sectionTexts layout) ++
    if layout.finalBreak then [[]] else [])

end Stack

end ComposeLint
