import ComposeLint.Server.Encoding
import ComposeLint.Stack.Reader
import ComposeLint.Validation

/-!
Everything that is told about a document at once: how much it holds, what it holds, and what is
wrong with it.
-/

namespace ComposeLint

structure Analysis where
  overview : Counts
  structural : Stack
  validation : Report
deriving DecidableEq, Repr

def analyze (text : Text) : Analysis :=
  ⟨Counts.read text, Stack.read text, validate text⟩

def Analysis.toJson (a : Analysis) : Json :=
  .record [("overview", a.overview.toJson), ("structure", a.structural.toJson),
    ("validation", a.validation.toJson)]

end ComposeLint
