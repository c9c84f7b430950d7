import ComposeLint.Proofs.Annotated.Line
import ComposeLint.Proofs.Document.Replaced

/-! # Documents with a comment put behind a line

A line keeps its indent and opens a scalar or not as it did before, so the lines below it are marked
as they were, and the document is the same but for this one line (`Annotation.IsBehind.ofText_edited`). -/

namespace ComposeLint

/-- A comment to be put behind a line of a text, in front of the carriage returns that belong to the
line break. Neither the line nor the comment has quotes. -/
structure Annotation (text : Text) where
  above : List Text
  line : Text
  returns : Text
  below : List Text
  comment : Text
  lines_eq : text.splitOn '\n' = above ++ (line ++ returns) :: below := by decide
  returns_eq : returns.all (· == '\r') = true := by decide
  newline : '\n' ∉ comment := by decide
  quotes : (line ++ comment).all (!Text.isQuote ·) = true := by decide

namespace Annotation

variable {text : Text} (a : Annotation text)

/-- The line with the comment behind it. -/
def annotated : Text := a.line ++ " # ".toList ++ a.comment

def edited : Text := Text.joinWith "\n" (a.above ++ (a.annotated ++ a.returns) :: a.below)

/-- The number of the line. -/
def number : Int := 1 + a.above.length

/-- What stands behind the text of the line in the end. -/
def remark : Text :=
  a.line.rtakeWhile Text.isBlank ++ ' ' :: '#' :: Text.trimEnd (' ' :: a.comment)

theorem isRemark : a.remark.IsRemark := ⟨_, _, rfl, fun _ => List.mem_rtakeWhile_imp⟩

theorem trimEnd_annotated : a.annotated.trimEnd = a.line.trimEnd ++ a.remark := by
  have hline : a.line = a.line.trimEnd ++ a.line.rtakeWhile Text.isBlank :=
    List.rdropWhile_append_rtakeWhile.symm
  have hsplit : a.annotated = (a.line ++ [' ']) ++ '#' :: (' ' :: a.comment) := by
    simp [annotated]
  rw [hsplit, Text.trimEnd, Text.dropEndWhile_append_cons (by decide), ← Text.trimEnd, remark]
  conv_lhs => rw [hline]
  simp

/-- Carriage returns at the end of a line are no part of it. -/
theorem ofText_append_returns (n : Int) (t : Text) :
    Line.ofText n (t ++ a.returns) = Line.ofText n t := by
  rw [Line.ofText, Text.dropEndWhile_append (List.all_eq_true.mp a.returns_eq), Line.ofText]

theorem newline_not_mem_annotated : '\n' ∉ a.annotated := by
  have hline : '\n' ∉ a.line ++ a.returns :=
    Document.not_mem_of_mem_splitOn text _ (by simp [a.lines_eq])
  have hmark : '\n' ∉ " # ".toList := by decide
  simp only [annotated, List.mem_append, not_or] at hline ⊢
  exact ⟨⟨hline.1, hmark⟩, a.newline⟩

theorem isQuote_of_mem_annotated {c : Char} (hc : c ∈ a.annotated) : Text.isQuote c = false := by
  have hquotes := a.quotes
  have hmark : " # ".toList.all (!Text.isQuote ·) = true := by decide
  rw [List.all_append, Bool.and_eq_true] at hquotes
  have hall : a.annotated.all (!Text.isQuote ·) = true := by
    rw [annotated, List.all_append, List.all_append, hquotes.1, hmark, hquotes.2]
    rfl
  simpa using List.all_eq_true.mp hall c hc

/-! ## The document before and after -/

/-- The comment is put behind this line of the document, which has content and is not scalar
text. -/
structure IsBehind (l : Line) : Prop where
  getElem? : (Document.ofText text)[a.above.length]? = some l
  content : l.isContent = true
  free : l.inScalar = false

section Line

variable {a} {l : Line} (h : a.IsBehind l)
include h

/-- A line that is not marked was there as it is. -/
theorem IsBehind.eq_ofText : l = Line.ofText a.number a.line := by
  rw [(Document.eq_ofText_of_getElem? a.lines_eq h.getElem? h.free).1, a.ofText_append_returns, number]

/-- The edited line reads as one with a remark behind it. -/
theorem IsBehind.annotates (hentry : l.startsEntry = false)
    (hbare : ∀ key, KeyValue.read? l.trimmed = some ⟨key, none⟩ →
      (a.line.rtakeWhile Text.isBlank).head?.all Text.isSpaceOrTab = true) :
    (Line.ofText a.number a.annotated).Annotates a.remark l where
  remark := a.isRemark
  number := by rw [h.eq_ofText]; rfl
  inScalar := by rw [h.free]; rfl
  raw := by
    rw [h.eq_ofText, Line.ofText, Line.ofText, Text.trimEnd_dropEndWhile_carriageReturn,
      Text.trimEnd_dropEndWhile_carriageReturn, a.trimEnd_annotated]
  newline hmem := a.newline_not_mem_annotated (Text.mem_of_mem_dropEndWhile hmem)
  quotes _ hc := a.isQuote_of_mem_annotated (Text.mem_of_mem_dropEndWhile hc)
  content := h.content
  startsEntry := hentry
  bare key hkey := by
    have hspace := hbare key hkey
    rw [remark]
    cases hgap : a.line.rtakeWhile Text.isBlank with
    | nil => rfl
    | cons c gap => simpa [hgap] using hspace

end Line

end Annotation

theorem Line.alike_replaced {l m : Line} (h : m.Alike id l) (k : Line) :
    (Line.replaced l m k).Alike id k := by
  rw [replaced]
  split
  · next hk => rwa [hk]
  · exact Line.Alike.refl k

/-- The document is the same but for the line that has the comment. -/
theorem Annotation.IsBehind.ofText_edited {text : Text} {a : Annotation text} {l : Line}
    (hbehind : a.IsBehind l) (h : (Line.ofText a.number a.annotated).Annotates a.remark l) :
    Document.ofText a.edited = (Document.ofText text).map
      (Line.replaced l (Line.ofText a.number a.annotated)) := by
  have halike := h.alike
  have hline : Line.ofText l.number (a.annotated ++ a.returns) = Line.ofText a.number a.annotated := by
    rw [a.ofText_append_returns, hbehind.eq_ofText]
    rfl
  have hnl : '\n' ∉ a.annotated ++ a.returns := by
    rw [List.mem_append, not_or]
    exact ⟨a.newline_not_mem_annotated, Text.not_mem_of_all a.returns_eq (by decide)⟩
  rw [← hline] at halike ⊢
  exact Document.ofText_replaced a.lines_eq hnl hbehind.getElem? hbehind.free halike.isBlank
    (halike.indent h.isBlank_eq_false) halike.opensScalar

end ComposeLint
