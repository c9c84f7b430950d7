import ComposeLint.Diagnostic.Finding
import ComposeLint.Section

/-!
Suggestions about the document as a whole. What is missing altogether is reported on the last line.
-/

namespace ComposeLint.Check

/-- The lines with this key, wherever they stand outside of block scalars. -/
def linesWithKey (doc : Document) (key : String) : List Line :=
  doc.filter fun l => l.key? == some key.toList && !l.inScalar

def missingSectionIssues (doc : Document) (kind : EntryKind) (finding : Finding) : List Issue :=
  if (doc.findSection? kind.sectionName).isNone then [finding.onLine doc.length] else []

/-- Variables in the document while no file for them is used anywhere. -/
def inlineEnvironmentIssues (doc : Document) : List Issue :=
  match linesWithKey doc "environment" with
  | first :: _ =>
    if (linesWithKey doc "env_file").isEmpty then [Finding.inlineEnvironment.onLine first.number]
    else []
  | [] => []

def latestTagIssues (doc : Document) : List Issue :=
  ((linesWithKey doc "image").filter fun l => l.value.holds ":latest".toList).map fun l =>
    Finding.latestTag.onLine l.number

def healthcheckIssues (doc : Document) : List Issue :=
  match doc.findSection? EntryKind.service.sectionName with
  | some start =>
    if (linesWithKey doc "healthcheck").isEmpty then [Finding.noHealthcheck.onLine (start + 1)]
    else []
  | none => []

def bestPracticeIssues (doc : Document) : List Issue :=
  missingSectionIssues doc .network .noNetworks ++ missingSectionIssues doc .volume .noVolumes ++
    inlineEnvironmentIssues doc ++ latestTagIssues doc ++ healthcheckIssues doc

end ComposeLint.Check
