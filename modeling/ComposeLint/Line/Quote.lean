import ComposeLint.Line.Comment

/-!
Quotes around values. `unquote` takes one matching pair off; `openQuote?` finds the quote that a
line leaves open, following the escapes of quoted scalars: a backslash before any character inside
double quotes, a doubled quote inside single ones.
-/

namespace ComposeLint

inductive Quote
  | double
  | single
deriving DecidableEq, Repr

namespace Quote

def char : Quote → Char
  | .double => '"'
  | .single => '\''

def ofChar? (c : Char) : Option Quote :=
  if c == '"' then some .double else if c == '\'' then some .single else none

def name : Quote → Text
  | .double => "double".toList
  | .single => "single".toList

end Quote

namespace Text

/-- The trimmed text without one pair of equal quotes around it. -/
def unquote (t : Text) : Text :=
  let t := t.trim
  match t with
  | c :: d :: rest =>
    if isQuote c && (d :: rest).getLast? == some c then (d :: rest).dropLast else t
  | _ => t

/-- Wider than for comments: a quoted token may also open right after a brace. -/
def tokenMayFollow (previous : Option Char) : Bool :=
  previous.all (" \t[\x7b,:=-".toList.contains ·)

/-- The quote open at the end of the text, after `previous` and inside of `quote` if there is one.
A comment ends the text. -/
def openQuoteFrom (quote : Option Quote) (previous : Option Char) : Text → Option Quote
  | [] => quote
  | c :: rest =>
    match quote with
    | some .double =>
      if c == '\\' then
        match rest with
        | [] => quote
        | d :: rest => openQuoteFrom quote (some d) rest
      else openQuoteFrom (if c == '"' then none else quote) (some c) rest
    | some .single =>
      if c == '\'' then
        match rest with
        | '\'' :: rest => openQuoteFrom quote (some '\'') rest
        | rest => openQuoteFrom none (some c) rest
      else openQuoteFrom quote (some c) rest
    | none =>
      if c == '#' && commentMayFollow previous then none
      else
        match Quote.ofChar? c with
        | some q => openQuoteFrom (if tokenMayFollow previous then some q else none) (some c) rest
        | none => openQuoteFrom none (some c) rest

def openQuote? (t : Text) : Option Quote := openQuoteFrom none none t

end Text

end ComposeLint
