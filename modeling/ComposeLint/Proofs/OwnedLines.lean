import ComposeLint.Proofs.Document.Blocks

/-! # The lines that a header owns

A block is grown line by line until a line ends it, and is then cut back to its last line with
content. What is left can be said without the two loops: the block reaches to its end
(`Block.EndsAt`), and of what lies before its end it keeps all lines up to the last one with content
(`Block.KeepsUpTo`). How far the search may go does not matter once a line has ended the block. -/

namespace ComposeLint

namespace Block

/-- A line that ends the block of this header: content and no scalar text, standing neither deeper
than the header nor, as a list item, at its indent. -/
def Ends (header l : Line) : Prop :=
  l.isContent = true ∧ l.inScalar = false ∧ ¬header.indent < l.indent ∧
    ¬(l.indent = header.indent ∧ l.isListItem = true)

theorem continuesFrom_eq_false_iff {header l : Line} :
    continuesFrom header l = false ↔ Ends header l := by
  simp [continuesFrom, Ends, and_assoc]

theorem not_ends_of_continuesFrom {header l : Line} (h : continuesFrom header l = true) :
    ¬Ends header l := by
  intro hends
  rw [continuesFrom_eq_false_iff.mpr hends] at h
  cases h

/-! ## Growing and trimming -/

/-- The lines after a header are those that it owns, then lines without content, then those from its
end on. -/
theorem exists_owned_cut (header : Line) (following : List Line) : ∃ gap rest,
    following = owned header following ++ (gap ++ rest) ∧
      (∀ l ∈ owned header following ++ gap, continuesFrom header l = true) ∧
      (∀ l ∈ (owned header following).getLast?, l.isContent = true) ∧
      (∀ l ∈ gap, l.isContent = false) ∧
      (∀ l ∈ rest.head?, continuesFrom header l = false) := by
  let reach := following.takeWhile (continuesFrom header)
  have hreach : owned header following ++ reach.rtakeWhile (!·.isContent) = reach :=
    List.rdropWhile_append_rtakeWhile
  refine ⟨reach.rtakeWhile (!·.isContent), following.dropWhile (continuesFrom header),
    ?_, fun l hl => ?_, fun l hl => ?_, fun l hl => ?_, fun l hl => ?_⟩
  · rw [← List.append_assoc, hreach, List.takeWhile_append_dropWhile]
  · rw [hreach] at hl
    exact List.mem_takeWhile_imp hl
  · have hne : owned header following ≠ [] := by
      intro hnil
      rw [hnil] at hl
      cases hl
    have hlast : ¬(!((owned header following).getLast hne).isContent) = true :=
      List.rdropWhile_last_not _ reach hne
    rw [Option.mem_def, List.getLast?_eq_some_getLast hne] at hl
    rw [← Option.some.inj hl]
    simpa using hlast
  · simpa using List.mem_rtakeWhile_imp hl
  · have hhead := List.head?_dropWhile_not (continuesFrom header) following
    rw [Option.mem_def.mp hl] at hhead
    simpa using hhead

/-- Once a line has ended the block, nothing after it comes in. -/
theorem owned_append_of_ends {header l : Line} {following : List Line} (hl : l ∈ following)
    (hends : continuesFrom header l = false) (rest : List Line) :
    owned header (following ++ rest) = owned header following := by
  have hreach : (following ++ rest).takeWhile (continuesFrom header) =
      following.takeWhile (continuesFrom header) := by
    rw [List.takeWhile_append, if_neg]
    intro hlength
    have hall := List.takeWhile_eq_self_iff.mp
      ((List.takeWhile_prefix (continuesFrom header)).eq_of_length hlength)
    rw [hall l hl] at hends
    cases hends
  rw [owned, hreach, owned]

/-- Nothing comes in from a line on that ends the block. -/
theorem owned_append_of_head? {header : Line} {rest : List Line}
    (hrest : ∀ l ∈ rest.head?, continuesFrom header l = false) (following : List Line) :
    owned header (following ++ rest) = owned header following := by
  have hnone : rest.takeWhile (continuesFrom header) = [] := by
    cases rest with
    | nil => rfl
    | cons l rest => rw [List.takeWhile_cons_of_neg (by simp [hrest l rfl])]
  have hreach : (following ++ rest).takeWhile (continuesFrom header) =
      following.takeWhile (continuesFrom header) := by
    rw [List.takeWhile_append, hnone, List.append_nil]
    split
    · next hlength =>
      exact ((List.takeWhile_prefix (continuesFrom header)).eq_of_length hlength).symm
    · rfl
  rw [owned, hreach, owned]

/-- What is left after lines are dropped at the end stays if more lines come after it. -/
theorem rdropWhile_prefix_append {α : Type} (p : α → Bool) (a b : List α) :
    a.rdropWhile p <+: (a ++ b).rdropWhile p := by
  induction b using List.reverseRecOn with
  | nil => exact ⟨[], by rw [List.append_nil, List.append_nil]⟩
  | append_singleton rest l ih =>
    rw [← List.append_assoc]
    by_cases hl : p l = true
    · rw [List.rdropWhile_concat_pos p _ l hl]
      exact ih
    · rw [List.rdropWhile_concat_neg p _ l hl, List.append_assoc]
      exact (List.rdropWhile_prefix p a).trans (List.prefix_append a _)

/-- With more lines to search a block only grows at its end. -/
theorem owned_prefix_append (header : Line) (following rest : List Line) :
    owned header following <+: owned header (following ++ rest) := by
  by_cases hall : ∀ l ∈ following, continuesFrom header l = true
  · have hreach : (following ++ rest).takeWhile (continuesFrom header) =
        following ++ rest.takeWhile (continuesFrom header) :=
      List.takeWhile_append_of_pos hall
    rw [owned, List.takeWhile_eq_self_iff.mpr hall, owned, hreach]
    exact rdropWhile_prefix_append _ _ _
  · push Not at hall
    obtain ⟨l, hl, hends⟩ := hall
    exact ⟨[], by rw [List.append_nil, owned_append_of_ends hl (by simpa using hends)]⟩

/-! ## Blocks by index -/

/-- The lines between a header and an index below it. -/
theorem drop_take_run (before : List Line) (header : Line) (run after : List Line) :
    ((before ++ header :: (run ++ after)).take (before.length + 1 + run.length)).drop
      (before.length + 1) = run := by
  have hassoc : before ++ header :: (run ++ after) = (before ++ [header]) ++ run ++ after := by simp
  rw [hassoc, List.take_left' (by simp; omega), List.drop_left' (by simp)]

/-- Within the lines there is a block of every header and up to every bound. -/
theorem at?_run (before : List Line) (header : Line) (following after : List Line) :
    at? (before ++ header :: (following ++ after)) before.length
      (before.length + 1 + following.length) = some ⟨header, owned header following⟩ := by
  have hheader : (before ++ header :: (following ++ after))[before.length]? = some header := by
    simp
  have hwithin : ¬(before ++ header :: (following ++ after)).length <
      before.length + 1 + following.length := by
    simp only [List.length_append, List.length_cons]
    omega
  rw [at?, drop_take_run, hheader, decide_eq_false hwithin]
  rfl

/-- A header and a bound below it cut the lines in four. -/
theorem exists_cut_at {lines : List Line} {index stop : Nat} (hindex : index < stop)
    (hstop : stop ≤ lines.length) : ∃ before header following after,
      lines = before ++ header :: (following ++ after) ∧ before.length = index ∧
        before.length + 1 + following.length = stop := by
  refine ⟨lines.take index, lines[index], (lines.take stop).drop (index + 1), lines.drop stop,
    ?_, List.length_take_of_le (by omega), ?_⟩
  · have hbelow : (lines.take stop).drop (index + 1) ++ lines.drop stop =
        lines.drop (index + 1) := by
      conv_rhs => rw [← List.take_append_drop stop lines]
      rw [List.drop_append_of_le_length (by rw [List.length_take_of_le hstop]; omega)]
    rw [hbelow, ← List.drop_eq_getElem_cons, List.take_append_drop]
  · rw [List.length_drop, List.length_take_of_le hstop, List.length_take_of_le (by omega)]
    omega

/-- The first line that ends the block of the header at `index` is line `stopped`, or no line before
`stop` does, and the block reaches to there. -/
structure EndsAt (lines : List Line) (header : Line) (index stop stopped : Nat) : Prop where
  range : index < stopped ∧ stopped ≤ stop
  before : ∀ i l, index < i → i < stopped → lines[i]? = some l → ¬Ends header l
  ends : stopped < stop → ∃ l, lines[stopped]? = some l ∧ Ends header l

/-- Of the lines after `index` and before `stopped` those from line `kept` on have no content, and
the one before `kept`, if it is one of them, has. -/
structure KeepsUpTo (lines : List Line) (index stopped kept : Nat) : Prop where
  range : index < kept ∧ kept ≤ stopped
  last : index + 1 < kept → ∃ l, lines[kept - 1]? = some l ∧ l.isContent = true
  beyond : ∀ i l, kept ≤ i → i < stopped → lines[i]? = some l → l.isContent = false

section
variable {own gap run rest : List Line} {header : Line}

theorem endsAt_of_cut (before after : List Line) (hrun : ∀ l ∈ run, continuesFrom header l = true)
    (hrest : ∀ l ∈ rest.head?, continuesFrom header l = false) :
    EndsAt (before ++ header :: (run ++ (rest ++ after))) header before.length
      (before.length + 1 + run.length + rest.length) (before.length + 1 + run.length) where
  range := by omega
  before i l hlow hhigh hl := by
    rw [List.append_cons] at hl
    exact not_ends_of_continuesFrom
      (hrun l (mem_of_getElem?_run (by simp; omega) (by simpa using hhigh) hl))
  ends hlt := by
    cases rest with
    | nil => simp at hlt
    | cons l rest =>
      exact ⟨l, getElem?_below_run before header run l (rest ++ after),
        continuesFrom_eq_false_iff.mp (hrest l rfl)⟩

theorem keepsUpTo_of_cut (before : List Line) (header : Line) (after : List Line)
    (hlast : ∀ l ∈ own.getLast?, l.isContent = true)
    (hgap : ∀ l ∈ gap, l.isContent = false) :
    KeepsUpTo (before ++ header :: (own ++ (gap ++ after))) before.length
      (before.length + 1 + own.length + gap.length) (before.length + 1 + own.length) where
  range := by omega
  last hlt := by
    cases own using List.reverseRecOn with
    | nil => simp at hlt
    | append_singleton others l =>
      refine ⟨l, ?_, hlast l (by simp)⟩
      have hindex : before.length + 1 + (others ++ [l]).length - 1 =
          before.length + 1 + others.length := by
        simp only [List.length_append, List.length_cons, List.length_nil]
        omega
      rw [hindex, List.append_assoc]
      exact getElem?_below_run before header others l (gap ++ after)
  beyond i l hlow hhigh hl := by
    have hassoc : before ++ header :: (own ++ (gap ++ after)) =
        (before ++ header :: own) ++ (gap ++ after) := by simp
    rw [hassoc] at hl
    exact hgap l (mem_of_getElem?_run (by simp; omega) (by simp; omega) hl)

end

end Block

open Block

/-- **A block holds exactly the lines that its header owns.** Cut at any line, up to any later bound
within the lines, there is a block. It reaches to the first line that ends it, or to the bound if
none does, and it holds the lines before that, up to the last one with content. With a later bound it
keeps these lines at its start, and it holds no others if a line has ended it. -/
theorem block_holds_owned_lines (lines : List Line) {index stop : Nat} (hindex : index < stop)
    (hstop : stop ≤ lines.length) :
    ∃ header stopped kept, lines[index]? = some header ∧
      EndsAt lines header index stop stopped ∧ KeepsUpTo lines index stopped kept ∧
      at? lines index stop = some ⟨header, (lines.take kept).drop (index + 1)⟩ ∧
      ∀ later, stop ≤ later → later ≤ lines.length →
        ∃ b, at? lines index later = some b ∧ b.header = header ∧
          (lines.take kept).drop (index + 1) <+: b.body ∧
          (stopped < stop → b.body = (lines.take kept).drop (index + 1)) := by
  obtain ⟨before, header, following, after, rfl, rfl, rfl⟩ := exists_cut_at hindex hstop
  obtain ⟨gap, rest, hcut, hcontinues, hlast, hgap, hrest⟩ := exists_owned_cut header following
  have hat := at?_run before header following after
  have hgrown (more : List Line) := owned_prefix_append header following more
  have hover (l : Line) (hl : l ∈ following) (hends : continuesFrom header l = false)
      (more : List Line) := owned_append_of_ends hl hends more
  generalize owned header following = own at *
  subst hcut
  have hkept := drop_take_run before header own (gap ++ rest ++ after)
  rw [← List.append_assoc] at hkept
  refine ⟨header, before.length + 1 + own.length + gap.length, before.length + 1 + own.length,
    by simp, ?_, ?_, ?_, ?_⟩
  · have hends := endsAt_of_cut before after hcontinues hrest
    simpa [Nat.add_assoc] using hends
  · have hkeeps := keepsUpTo_of_cut before header (rest ++ after) hlast hgap
    simpa using hkeeps
  · rw [hkept, hat]
  · rw [hkept]
    intro later hlow hhigh
    -- a later bound takes in a start of the lines below
    obtain ⟨more, below, rfl, hmore⟩ : ∃ more below, after = more ++ below ∧
        before.length + 1 + (own ++ (gap ++ rest) ++ more).length = later := by
      refine ⟨after.take (later - (before.length + 1 + (own ++ (gap ++ rest)).length)), _,
        (List.take_append_drop _ _).symm, ?_⟩
      simp only [List.length_append, List.length_cons, List.length_take] at hlow hhigh ⊢
      omega
    have hlater := at?_run before header (own ++ (gap ++ rest) ++ more) below
    rw [List.append_assoc _ more, hmore] at hlater
    refine ⟨_, hlater, rfl, hgrown more, fun hstopped => ?_⟩
    cases rest with
    | nil => simp [Nat.add_assoc] at hstopped
    | cons l rest => exact hover l (by simp) (hrest l rfl) more

/-- A list at the indent of its key: the bound leaves it its first item, and without a bound it goes
on over a blank line and a comment down to its last item. -/
theorem block_holds_items :
    let doc := Document.ofText "ports:\n- a\n\n# b\n- c\n # d\nx:".toList
    0 < 4 ∧ 4 ≤ doc.length ∧
      (∃ header stopped kept, doc[0]? = some header ∧ EndsAt doc header 0 4 stopped ∧
        KeepsUpTo doc 0 stopped kept ∧ at? doc 0 4 = some ⟨header, (doc.take kept).drop 1⟩ ∧
        ∃ b, at? doc 0 7 = some b ∧ (doc.take kept).drop 1 <+: b.body) ∧
      (at? doc 0 4).map (·.body.map Line.number) = some [2] ∧
      (at? doc 0 7).map (·.body.map Line.number) = some [2, 3, 4, 5] := by
  intro doc
  have hstop : 4 ≤ doc.length := by decide
  obtain ⟨header, stopped, kept, hheader, hends, hkeeps, hat, hlater⟩ :=
    block_holds_owned_lines doc (show 0 < 4 by decide) hstop
  obtain ⟨b, hb, -, hprefix, -⟩ := hlater 7 (by decide) (by decide)
  exact ⟨by decide, hstop, ⟨header, stopped, kept, hheader, hends, hkeeps, hat, b, hb, hprefix⟩,
    by decide, by decide⟩

end ComposeLint
