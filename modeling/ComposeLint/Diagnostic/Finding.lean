import ComposeLint.Diagnostic.Issue
import ComposeLint.Line.Quote

/-!
What a check can find, with everything that its message needs. Each finding fills all places of its
wording, so turning one into an issue can fail only for a port of too many digits: `Finding.make_eq`
says that the strict filling of the catalog gives exactly the issue.
-/

namespace ComposeLint

inductive Finding
  | tabMargin
  | mixedMargin
  | oddIndent
  | openQuote (quote : Quote)
  | gluedColon (key : Text)
  | missingColon (key : Text)
  | severalSections (keys : List Text)
  | gluedDash (text : Text)
  | duplicateKey (key : Text) (previousLine : Int)
  | missingServices
  | emptyServices
  | misplacedServices
  | misplacedNetworks
  | misplacedVolumes
  | missingImage (service : Text)
  | emptyImage (service : Text)
  | untaggedImage (service : Text)
  | doubleColonImage (service : Text)
  | missingRestart (service : Text)
  | missingVolumeList (service : Text)
  | exposedOnly (service : Text)
  | manyVariables (service : Text) (count : Nat)
  | privileged (service : Text)
  | hostNetwork (service : Text)
  | duplicatePort (service : Text) (port : Nat)
  | commonPort (service : Text) (port : Nat) (usage : Text)
  | mountComma (mount : Text)
  | mountTrailingColon (mount : Text)
  | mountLeadingColon (mount : Text)
  | mountTooManyParts (mount : Text)
  | mountEmptySegment (mount : Text)
  | relativeContainerPath (mount path : Text)
  | missingContainerPath (mount : Text)
  | noNetworks
  | noVolumes
  | inlineEnvironment
  | latestTag
  | noHealthcheck
  | unusedVolume (volume : Text)
  | undefinedVolume (volume : Text)
  | emptyVolumeList (service : Text)
  | checkFailed (check : Text)
deriving DecidableEq, Repr

namespace Finding

def code : Finding → Code
  | .tabMargin => .yamlNoTabs
  | .mixedMargin => .yamlMixedIndentation
  | .oddIndent => .yamlIndentation
  | .openQuote _ => .yamlUnbalancedQuotes
  | .gluedColon _ => .yamlColonSpacing
  | .missingColon _ => .yamlMissingColon
  | .severalSections _ => .yamlMultipleSections
  | .gluedDash _ => .yamlListItemSpacing
  | .duplicateKey _ _ => .yamlDuplicateKey
  | .missingServices => .composeMissingServices
  | .emptyServices => .composeEmptyServices
  | .misplacedServices => .composeMisplacedServices
  | .misplacedNetworks => .composeMisplacedNetworks
  | .misplacedVolumes => .composeMisplacedVolumes
  | .missingImage _ => .serviceMissingImageBuild
  | .emptyImage _ => .serviceEmptyImage
  | .untaggedImage _ => .serviceInvalidImageFormat
  | .doubleColonImage _ => .serviceDoubleColonImage
  | .missingRestart _ => .serviceMissingRestart
  | .missingVolumeList _ => .serviceMissingVolumes
  | .exposedOnly _ => .serviceExposedNoPorts
  | .manyVariables _ _ => .serviceManyEnvVars
  | .privileged _ => .servicePrivilegedMode
  | .hostNetwork _ => .serviceHostNetwork
  | .duplicatePort _ _ => .serviceDuplicatePort
  | .commonPort _ _ _ => .serviceCommonPort
  | .mountComma _ => .volumeInvalidComma
  | .mountTrailingColon _ => .volumeTrailingColon
  | .mountLeadingColon _ => .volumeLeadingColon
  | .mountTooManyParts _ => .volumeTooManyParts
  | .mountEmptySegment _ => .volumeEmptySegment
  | .relativeContainerPath _ _ => .volumeRelativeContainerPath
  | .missingContainerPath _ => .volumeMissingContainerPath
  | .noNetworks => .composeMissingNetworks
  | .noVolumes => .composeMissingVolumes
  | .inlineEnvironment => .composeHardcodedEnv
  | .latestTag => .composeLatestTag
  | .noHealthcheck => .composeMissingHealthcheck
  | .unusedVolume _ => .composeUnusedVolume
  | .undefinedVolume _ => .composeUndefinedVolume
  | .emptyVolumeList _ => .serviceEmptyVolumes
  | .checkFailed _ => .validatorCheckFailed

/-- The arguments that a finding brings for its wording. Lines and entries are counted one by one, so
that their numbers never come near to what cannot be written, and come as texts. A port is a number
that the document gives. -/
def given : Finding → List (Placeholder × Argument)
  | .openQuote quote => [(.quote, .text quote.name)]
  | .gluedColon key | .missingColon key => [(.key, .text key)]
  | .severalSections keys =>
    [(.keys, .text (Text.joinWith ", " (keys.map fun key => key ++ [':'])))]
  | .gluedDash text => [(.text, .text text)]
  | .duplicateKey key previousLine =>
    [(.key, .text key), (.previousLine, .text (Text.ofInt previousLine))]
  | .missingImage service | .emptyImage service | .untaggedImage service
  | .doubleColonImage service | .missingRestart service | .missingVolumeList service
  | .exposedOnly service | .privileged service | .hostNetwork service
  | .emptyVolumeList service => [(.service, .text service)]
  | .manyVariables service count => [(.service, .text service), (.count, .text (Text.ofNat count))]
  | .duplicatePort service port => [(.service, .text service), (.port, .number port)]
  | .commonPort service port usage =>
    [(.service, .text service), (.port, .number port), (.protocol, .text usage)]
  | .mountComma mount | .mountTrailingColon mount | .mountLeadingColon mount
  | .mountTooManyParts mount | .mountEmptySegment mount
  | .missingContainerPath mount => [(.mount, .text mount)]
  | .relativeContainerPath mount path => [(.mount, .text mount), (.path, .text path)]
  | .unusedVolume volume | .undefinedVolume volume => [(.volume, .text volume)]
  | .checkFailed check => [(.check, .text check)]
  | _ => []

def arguments (f : Finding) : Arguments := Arguments.ofList f.given

/-- The issue at a place. -/
def issue (f : Finding) (place : Place) : Issue :=
  let rule := f.code.rule
  { severity := rule.severity
    code := f.code
    message := rule.message.render f.arguments
    place
    suggestion? := rule.suggestion?.map (Wording.render f.arguments) }

/-- The issue at a line. -/
def onLine (f : Finding) (line : Int) : Issue := f.issue { line? := some line }

/-- Whether all that the finding says can be written. -/
def isWritable (f : Finding) : Bool := f.given.all (·.2.isWritable)

/-- Nothing is wrong with an argument that a writable finding brings. -/
theorem faultAt?_eq_none {f : Finding} (h : f.isWritable = true) {p : Placeholder}
    (hp : (f.arguments p).isSome = true) : Wording.faultAt? f.arguments p = none := by
  obtain ⟨a, ha⟩ := Option.isSome_iff_exists.mp hp
  obtain ⟨before, after, hgiven, -⟩ := List.lookup_eq_some_iff.mp ha
  have hmem : (p, a) ∈ f.given := hgiven ▸ List.mem_append_cons_self
  rw [Wording.faultAt?, ha]
  exact if_pos (List.all_eq_true.mp h _ hmem)

theorem fill_eq {f : Finding} (h : f.isWritable = true) {w : Wording}
    (hw : (w.filterMap Piece.slot?).all fun p => (f.arguments p).isSome) :
    w.fill f.arguments = .ok (w.render f.arguments) := by
  have hfault : w.fault? f.arguments = none :=
    List.findSome?_eq_none_iff.mpr fun p hp => faultAt?_eq_none h (List.all_eq_true.mp hw p hp)
  rw [Wording.fill, hfault]

/-- The finding's wording is complete. -/
theorem make_eq {f : Finding} (h : f.isWritable = true) (place : Place) :
    Issue.make f.code f.arguments place = .ok (f.issue place) := by
  have hmessage := fill_eq h (w := f.code.rule.message) (by cases f <;> rfl)
  have hsuggestion : f.code.rule.suggestion?.mapM (Wording.fill f.arguments) =
      .ok (f.code.rule.suggestion?.map (Wording.render f.arguments)) := by
    cases hw : f.code.rule.suggestion? with
    | none => rfl
    | some w =>
      have hfill := fill_eq h (w := w) (by cases f <;> cases hw <;> rfl)
      exact congrArg (Except.map some) hfill
  rw [Issue.make, hmessage, hsuggestion]
  rfl

end Finding

end ComposeLint
