import ComposeLint.Text.Basic

/-!
A comment starts at a number sign outside of quotes that opens the line or follows a space or tab.
The scan here is lenient about quotes: one opens at the start of a token and closes at its next
occurrence, escapes or not.
-/

namespace ComposeLint.Text

/-- A comment may start where nothing or a blank came before. -/
def commentMayFollow (previous : Option Char) : Bool := previous.all isSpaceOrTab

/-- A quote opens a quoted token only where nothing came before or one of these. -/
def quoteMayFollow (previous : Option Char) : Bool := previous.all (" \t[,:=-".toList.contains ·)

/-- The text up to its comment, after `previous` and inside of `quote` if there is one. -/
def beforeComment (quote previous : Option Char) : Text → Text
  | [] => []
  | c :: rest =>
    match quote with
    | some q => c :: beforeComment (if c == q then none else some q) (some c) rest
    | none =>
      if isQuote c && quoteMayFollow previous then c :: beforeComment (some c) (some c) rest
      else if c == '#' && commentMayFollow previous then []
      else c :: beforeComment none (some c) rest

/-- The text less a trailing comment and the blanks before it. -/
def withoutComment (t : Text) : Text := (beforeComment none none t).trimEnd

end ComposeLint.Text
