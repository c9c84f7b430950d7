import ComposeLint.Check.BestPractice
import ComposeLint.Check.LineForm
import ComposeLint.Check.Structure
import ComposeLint.Check.VolumeUse
import ComposeLint.Diagnostic.Report

/-!
Validation runs four independent passes over a document and reports all that they find. A pass that
fails gives a single issue that names it in place of its own.
-/

namespace ComposeLint

inductive Pass
  | yamlSyntax
  | structural
  | bestPractices
  | volumeRefs
deriving DecidableEq, Repr

namespace Pass

/-- In the order in which they run. -/
def all : List Pass := [.yamlSyntax, .structural, .bestPractices, .volumeRefs]

def name : Pass → Text
  | .yamlSyntax => "yaml_syntax".toList
  | .structural => "structure".toList
  | .bestPractices => "best_practices".toList
  | .volumeRefs => "volume_refs".toList

/-- The issues of one pass in the order in which it finds them. -/
def run : Pass → Document → Except Integer.Fault (List Issue)
  | .yamlSyntax, doc => .ok (Check.syntaxIssues doc)
  | .structural, doc => Check.structureIssues doc
  | .bestPractices, doc => .ok (Check.bestPracticeIssues doc)
  | .volumeRefs, doc => .ok (Check.volumeUseIssues doc)

/-- The issue that stands for a failed pass. -/
def failure (p : Pass) : Issue := (Finding.checkFailed p.name).issue {}

/-- What a pass contributes, `broken` being the passes that fail in any case. -/
def contribution (broken : List Pass) (doc : Document) (p : Pass) : List Issue :=
  if broken.contains p then [p.failure]
  else
    match p.run doc with
    | .ok issues => issues
    | .error _ => [p.failure]

end Pass

/-- The report on a document while some passes are broken. -/
def validateWithout (broken : List Pass) (text : Text) : Report :=
  Report.ofIssues (Pass.all.flatMap (Pass.contribution broken (Document.ofText text)))

def validate (text : Text) : Report := validateWithout [] text

end ComposeLint
