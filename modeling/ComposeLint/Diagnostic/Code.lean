import ComposeLint.Text.Basic

/-!
The codes of all diagnostics. Their names are stable identifiers that editors may rely on.
-/

namespace ComposeLint

inductive Code
  | yamlNoTabs
  | yamlMixedIndentation
  | yamlIndentation
  | yamlUnbalancedQuotes
  | yamlColonSpacing
  | yamlMissingColon
  | yamlMultipleSections
  | yamlListItemSpacing
  | yamlDuplicateKey
  | composeMissingServices
  | composeEmptyServices
  | composeMisplacedServices
  | composeMisplacedNetworks
  | composeMisplacedVolumes
  | serviceMissingImageBuild
  | serviceEmptyImage
  | serviceInvalidImageFormat
  | serviceDoubleColonImage
  | serviceMissingRestart
  | serviceMissingVolumes
  | serviceExposedNoPorts
  | serviceManyEnvVars
  | servicePrivilegedMode
  | serviceHostNetwork
  | serviceDuplicatePort
  | serviceCommonPort
  | volumeInvalidComma
  | volumeTrailingColon
  | volumeLeadingColon
  | volumeTooManyParts
  | volumeEmptySegment
  | volumeRelativeContainerPath
  | volumeMissingContainerPath
  | composeMissingNetworks
  | composeMissingVolumes
  | composeHardcodedEnv
  | composeLatestTag
  | composeMissingHealthcheck
  | composeUnusedVolume
  | composeUndefinedVolume
  | serviceEmptyVolumes
  | validatorCheckFailed
deriving DecidableEq, Repr

namespace Code

def all : List Code := [
    .yamlNoTabs, .yamlMixedIndentation, .yamlIndentation, .yamlUnbalancedQuotes, .yamlColonSpacing,
    .yamlMissingColon, .yamlMultipleSections, .yamlListItemSpacing, .yamlDuplicateKey,
    .composeMissingServices, .composeEmptyServices, .composeMisplacedServices,
    .composeMisplacedNetworks, .composeMisplacedVolumes, .serviceMissingImageBuild,
    .serviceEmptyImage, .serviceInvalidImageFormat, .serviceDoubleColonImage,
    .serviceMissingRestart, .serviceMissingVolumes, .serviceExposedNoPorts, .serviceManyEnvVars,
    .servicePrivilegedMode, .serviceHostNetwork, .serviceDuplicatePort, .serviceCommonPort,
    .volumeInvalidComma, .volumeTrailingColon, .volumeLeadingColon, .volumeTooManyParts,
    .volumeEmptySegment, .volumeRelativeContainerPath, .volumeMissingContainerPath,
    .composeMissingNetworks, .composeMissingVolumes, .composeHardcodedEnv, .composeLatestTag,
    .composeMissingHealthcheck, .composeUnusedVolume, .composeUndefinedVolume, .serviceEmptyVolumes,
    .validatorCheckFailed]

def name : Code → String
  | .yamlNoTabs => "yaml-no-tabs"
  | .yamlMixedIndentation => "yaml-mixed-indentation"
  | .yamlIndentation => "yaml-indentation"
  | .yamlUnbalancedQuotes => "yaml-unbalanced-quotes"
  | .yamlColonSpacing => "yaml-colon-spacing"
  | .yamlMissingColon => "yaml-missing-colon"
  | .yamlMultipleSections => "yaml-multiple-sections"
  | .yamlListItemSpacing => "yaml-list-item-spacing"
  | .yamlDuplicateKey => "yaml-duplicate-key"
  | .composeMissingServices => "compose-missing-services"
  | .composeEmptyServices => "compose-empty-services"
  | .composeMisplacedServices => "compose-misplaced-services"
  | .composeMisplacedNetworks => "compose-misplaced-networks"
  | .composeMisplacedVolumes => "compose-misplaced-volumes"
  | .serviceMissingImageBuild => "service-missing-image-build"
  | .serviceEmptyImage => "service-empty-image"
  | .serviceInvalidImageFormat => "service-invalid-image-format"
  | .serviceDoubleColonImage => "service-double-colon-image"
  | .serviceMissingRestart => "service-missing-restart"
  | .serviceMissingVolumes => "service-missing-volumes"
  | .serviceExposedNoPorts => "service-exposed-no-ports"
  | .serviceManyEnvVars => "service-many-env-vars"
  | .servicePrivilegedMode => "service-privileged-mode"
  | .serviceHostNetwork => "service-host-network"
  | .serviceDuplicatePort => "service-duplicate-port"
  | .serviceCommonPort => "service-common-port"
  | .volumeInvalidComma => "volume-invalid-comma"
  | .volumeTrailingColon => "volume-trailing-colon"
  | .volumeLeadingColon => "volume-leading-colon"
  | .volumeTooManyParts => "volume-too-many-parts"
  | .volumeEmptySegment => "volume-empty-segment"
  | .volumeRelativeContainerPath => "volume-relative-container-path"
  | .volumeMissingContainerPath => "volume-missing-container-path"
  | .composeMissingNetworks => "compose-missing-networks"
  | .composeMissingVolumes => "compose-missing-volumes"
  | .composeHardcodedEnv => "compose-hardcoded-env"
  | .composeLatestTag => "compose-latest-tag"
  | .composeMissingHealthcheck => "compose-missing-healthcheck"
  | .composeUnusedVolume => "compose-unused-volume"
  | .composeUndefinedVolume => "compose-undefined-volume"
  | .serviceEmptyVolumes => "service-empty-volumes"
  | .validatorCheckFailed => "validator-check-failed"

def ofName? (name : String) : Option Code := all.find? (·.name == name)

theorem mem_all (c : Code) : c ∈ all := by cases c <;> decide

/-- No two codes share a name. -/
theorem ofName?_name (c : Code) : ofName? c.name = some c := by cases c <;> decide

end Code

end ComposeLint
