import ComposeLint.Diagnostic.Issue

/-!
A report holds all issues of a document in reading order.
-/

namespace ComposeLint

structure Report where
  issues : List Issue
deriving DecidableEq, Repr

namespace Report

/-- The order is stable, so issues of equal rank stay in the order in which they were found. -/
def ofIssues (issues : List Issue) : Report := ⟨issues.mergeSort Issue.notAfter⟩

def count (r : Report) (severity : Severity) : Nat :=
  r.issues.countP fun i => i.severity == severity

def hasErrors (r : Report) : Bool := r.issues.any fun i => i.severity == .error

def hasWarnings (r : Report) : Bool := r.issues.any fun i => i.severity == .warning

def isValid (r : Report) : Bool := !r.hasErrors

end Report

end ComposeLint
