import ComposeLint.Diagnostic.Code
import ComposeLint.Diagnostic.Wording

/-!
The catalog: how severe each diagnostic is and how it is worded.
-/

namespace ComposeLint

inductive Severity
  | error
  | warning
  | info
deriving DecidableEq, Repr

namespace Severity

/-- Errors come first. -/
def priority : Severity → Nat
  | .error => 0
  | .warning => 1
  | .info => 2

def name : Severity → String
  | .error => "error"
  | .warning => "warning"
  | .info => "info"

end Severity

structure Rule where
  severity : Severity
  message : Wording
  suggestion? : Option Wording := none

def Code.rule : Code → Rule
  | .yamlNoTabs => {
    severity := .error
    message := ["YAML does not allow tabs for indentation. Use spaces instead."] }
  | .yamlMixedIndentation => {
    severity := .error
    message := ["Indentation mixes spaces and tabs."] }
  | .yamlIndentation => {
    severity := .warning
    message := ["Inconsistent indentation. Docker Compose typically uses 2-space indentation."] }
  | .yamlUnbalancedQuotes => {
    severity := .error
    message := ["Unbalanced ", .slot .quote, " quote on this line."] }
  | .yamlColonSpacing => {
    severity := .error
    message := ["Missing space after colon in \"", .slot .key, ":\"."]
    suggestion? := some ["Write \"", .slot .key, ": value\"."] }
  | .yamlMissingColon => {
    severity := .error
    message := ["Missing colon after key \"", .slot .key, "\"."] }
  | .yamlMultipleSections => {
    severity := .error
    message := ["Multiple top-level keys on one line: ", .slot .keys,
      ". Put each on its own line."] }
  | .yamlListItemSpacing => {
    severity := .error
    message := ["List item dash must be followed by a space: \"", .slot .text, "\"."] }
  | .yamlDuplicateKey => {
    severity := .error
    message := ["Duplicate key \"", .slot .key, "\" found (previously defined on line ",
      .slot .previousLine, ")."] }
  | .composeMissingServices => {
    severity := .error
    message := ["Missing required 'services:' section"] }
  | .composeEmptyServices => {
    severity := .error
    message := ["Services section is empty. At least one service is required."] }
  | .composeMisplacedServices => {
    severity := .error
    message := ["'services:' must be a top-level key (no indentation)."] }
  | .composeMisplacedNetworks => {
    severity := .error
    message := ["Network definitions belong in a top-level 'networks:' section."] }
  | .composeMisplacedVolumes => {
    severity := .error
    message := ["Volume definitions belong in a top-level 'volumes:' section."] }
  | .serviceMissingImageBuild => {
    severity := .error
    message := ["Service \"", .slot .service,
      "\" must have either \"image\" or \"build\" specified"] }
  | .serviceEmptyImage => {
    severity := .error
    message := ["Service \"", .slot .service, "\" has empty image name"] }
  | .serviceInvalidImageFormat => {
    severity := .error
    message := ["Service \"", .slot .service,
      "\" has invalid image format: trailing colon without tag"]
    suggestion? := some ["Either remove the colon or specify a tag."] }
  | .serviceDoubleColonImage => {
    severity := .error
    message := ["Service \"", .slot .service, "\" has invalid image format: double colon"] }
  | .serviceMissingRestart => {
    severity := .info
    message := ["Service \"", .slot .service, "\" has no restart policy."]
    suggestion? := some ["Consider adding \"restart: unless-stopped\" for production."] }
  | .serviceMissingVolumes => {
    severity := .info
    message := ["Service \"", .slot .service,
      "\" has no volume mappings. Did you forget to add persistent storage?"] }
  | .serviceExposedNoPorts => {
    severity := .warning
    message := ["Service \"", .slot .service,
      "\" exposes ports but has no port mappings. Ports won't be accessible from host"] }
  | .serviceManyEnvVars => {
    severity := .info
    message := ["Service \"", .slot .service, "\" has ", .slot .count, " environment variables."]
    suggestion? := some ["Consider using env_file for better organization."] }
  | .servicePrivilegedMode => {
    severity := .warning
    message := ["Service \"", .slot .service,
      "\" runs in privileged mode. This may be a security risk"] }
  | .serviceHostNetwork => {
    severity := .warning
    message := ["Service \"", .slot .service,
      "\" uses host networking. This bypasses Docker's network isolation"] }
  | .serviceDuplicatePort => {
    severity := .error
    message := ["Service \"", .slot .service, "\" has duplicate host port ", .slot .port] }
  | .serviceCommonPort => {
    severity := .info
    message := ["Service \"", .slot .service, "\" uses port ", .slot .port, " (", .slot .protocol,
      "). Ensure this doesn't conflict with existing services"] }
  | .volumeInvalidComma => {
    severity := .error
    message := ["Volume mapping \"", .slot .mount,
      "\" contains a comma in its path. Separate host and container paths with \":\"."] }
  | .volumeTrailingColon => {
    severity := .error
    message := ["Volume mapping \"", .slot .mount,
      "\" ends with a colon. Specify the container path after it."] }
  | .volumeLeadingColon => {
    severity := .error
    message := ["Volume mapping \"", .slot .mount,
      "\" starts with a colon. Specify the host path or volume name before it."] }
  | .volumeTooManyParts => {
    severity := .error
    message := ["Volume mapping \"", .slot .mount,
      "\" has too many parts. Expected host:container[:mode]."] }
  | .volumeEmptySegment => {
    severity := .error
    message := ["Volume mapping \"", .slot .mount, "\" has an empty segment."] }
  | .volumeRelativeContainerPath => {
    severity := .warning
    message := ["Container path \"", .slot .path, "\" in volume mapping \"", .slot .mount,
      "\" should be absolute."] }
  | .volumeMissingContainerPath => {
    severity := .error
    message := ["Volume mapping \"", .slot .mount, "\" has no container path."]
    suggestion? := some ["Use host:container, for example ./data:/data."] }
  | .composeMissingNetworks => {
    severity := .info
    message := [
      "No custom networks defined. Consider using custom networks for better service isolation"] }
  | .composeMissingVolumes => {
    severity := .info
    message := ["No named volumes defined. Consider using named volumes for persistent data"] }
  | .composeHardcodedEnv => {
    severity := .info
    message := ["Consider using .env files for environment variables instead of hardcoding them"] }
  | .composeLatestTag => {
    severity := .warning
    message := ["Using 'latest' tag is not recommended for production. Use specific version tags"] }
  | .composeMissingHealthcheck => {
    severity := .info
    message := ["No health checks defined. Consider adding health checks for better reliability"] }
  | .composeUnusedVolume => {
    severity := .warning
    message := ["Volume \"", .slot .volume, "\" is defined but not used by any service."] }
  | .composeUndefinedVolume => {
    severity := .error
    message := ["Volume \"", .slot .volume,
      "\" is used but not defined in the top-level volumes section."] }
  | .serviceEmptyVolumes => {
    severity := .warning
    message := ["Service \"", .slot .service, "\" has an empty volumes section."] }
  | .validatorCheckFailed => {
    severity := .error
    message := ["Internal error while running ", .slot .check, " check."] }

end ComposeLint
