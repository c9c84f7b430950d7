import ComposeLint.Check.DuplicateKey
import ComposeLint.Proofs.Document.Lines
import Mathlib.Order.Lattice.Nat

/-! # Which keys are repeated

The scan for duplicate keys keeps a stack of levels. All that matters of the stack is when each key
was last given at each indent (`lastGiven`), and one line changes this as little as one would think:
a shallower line makes everything deeper forgotten, and a key makes itself known
(`lastGiven_levelsAfter`). So what is known at a line is the latest occurrence of each key in sight
of it, and a key is reported exactly where there is one. -/

namespace ComposeLint

/-! ## Levels -/

namespace Check

/-- When a key was last given at an indent, if the level of this indent is open. -/
def lastGiven (levels : List KeyLevel) (indent : Nat) (key : Text) : Option Int :=
  (levels.find? (·.indent == indent)).bind (·.seen.lookup key)

/-- Levels lie on each other from the deepest to the shallowest. -/
def Descending (levels : List KeyLevel) : Prop := levels.Pairwise fun a b => b.indent < a.indent

/-- The levels after a line. -/
def levelsAfter (levels : List KeyLevel) (l : Line) : List KeyLevel :=
  if !l.isContent || l.inScalar then levels
  else
    let levels := levels.dropWhile fun level => l.indent < level.indent
    match l.key? with
    | none => levels
    | some key =>
      let (level, outer) := openLevel l.indent levels
      { level with seen := (key, l.number) :: level.seen } :: outer

/-- The issue of a line, with the levels open above it. -/
def repeatIssue? (levels : List KeyLevel) (l : Line) : Option Issue :=
  if !l.isContent || l.inScalar then none
  else l.key?.bind fun key => (lastGiven levels l.indent key).map fun previous =>
    (Finding.duplicateKey key previous).onLine l.number

section
variable {levels : List KeyLevel} {indent : Nat}

theorem lastGiven_cons (level : KeyLevel) (key : Text) : lastGiven (level :: levels) indent key =
    if level.indent = indent then level.seen.lookup key else lastGiven levels indent key := by
  unfold lastGiven
  rw [List.find?_cons]
  split
  · next h => rw [if_pos (beq_iff_eq.mp h), Option.bind_some]
  · next h => rw [if_neg (beq_eq_false_iff_ne.mp h)]

/-- At an indent that no level has nothing was given. -/
theorem lastGiven_eq_none (h : ∀ level ∈ levels, level.indent ≠ indent) (key : Text) :
    lastGiven levels indent key = none := by
  have hfind : levels.find? (·.indent == indent) = none :=
    List.find?_eq_none.mpr fun level hlevel => by simpa using h level hlevel
  rw [lastGiven, hfind, Option.bind_none]

/-- Closing the levels that are deeper than a line forgets what they knew and nothing else. -/
theorem lastGiven_dropWhile (h : Descending levels) (margin : Nat) (key : Text) :
    lastGiven (levels.dropWhile fun level => margin < level.indent) indent key =
      if margin < indent then none else lastGiven levels indent key := by
  induction levels with
  | nil => simp [lastGiven]
  | cons top rest ih =>
    obtain ⟨htop, hrest⟩ := List.pairwise_cons.mp h
    rw [List.dropWhile_cons]
    by_cases hdeep : margin < top.indent
    · rw [if_pos (by simpa using hdeep), ih hrest, lastGiven_cons]
      split
      · rfl
      · rw [if_neg (by omega)]
    · rw [if_neg (by simpa using hdeep)]
      split
      · refine lastGiven_eq_none (fun level hlevel => ?_) key
        rcases List.mem_cons.mp hlevel with rfl | hlevel
        · omega
        · have := htop level hlevel
          omega
      · rfl

theorem indent_le_of_mem_dropWhile (h : Descending levels) {margin : Nat} {level : KeyLevel}
    (hlevel : level ∈ levels.dropWhile fun level => margin < level.indent) :
    level.indent ≤ margin := by
  induction levels with
  | nil => cases hlevel
  | cons top rest ih =>
    obtain ⟨htop, hrest⟩ := List.pairwise_cons.mp h
    rw [List.dropWhile_cons] at hlevel
    split at hlevel
    · exact ih hrest hlevel
    · next hdeep =>
      have hdeep : top.indent ≤ margin := by simpa using hdeep
      rcases List.mem_cons.mp hlevel with rfl | hlevel
      · exact hdeep
      · exact (htop level hlevel).le.trans hdeep

/-- The level that a key opens, or finds open, is its own, and those below it stay. -/
theorem openLevel_spec (h : Descending levels) (hle : ∀ level ∈ levels, level.indent ≤ indent) :
    (openLevel indent levels).1.indent = indent ∧
      (∀ key, (openLevel indent levels).1.seen.lookup key = lastGiven levels indent key) ∧
      (∀ other key, other ≠ indent →
        lastGiven (openLevel indent levels).2 other key = lastGiven levels other key) ∧
      Descending (openLevel indent levels).2 ∧
      ∀ level ∈ (openLevel indent levels).2, level.indent < indent := by
  cases levels with
  | nil => exact ⟨rfl, fun _ => rfl, fun _ _ _ => rfl, h, fun _ hlevel => by cases hlevel⟩
  | cons top rest =>
    obtain ⟨htop, hrest⟩ := List.pairwise_cons.mp h
    rw [openLevel]
    by_cases hsame : top.indent = indent
    · rw [if_pos (by simpa using hsame)]
      refine ⟨hsame, fun key => ?_, fun other key hother => ?_, hrest, fun level hlevel => ?_⟩
      · rw [lastGiven_cons, if_pos hsame]
      · rw [lastGiven_cons, if_neg (by omega)]
      · exact hsame ▸ htop level hlevel
    · rw [if_neg (by simpa using hsame)]
      have hlow : ∀ level ∈ top :: rest, level.indent < indent := by
        intro level hlevel
        have := hle top List.mem_cons_self
        rcases List.mem_cons.mp hlevel with rfl | hlevel
        · omega
        · have := htop level hlevel
          omega
      refine ⟨rfl, fun key => ?_, fun _ _ _ => rfl, h, hlow⟩
      exact (lastGiven_eq_none (fun level hlevel => (hlow level hlevel).ne) key).symm

/-- So it is where a line has closed what is deeper. -/
theorem openLevel_closed (h : Descending levels) (margin : Nat) :
    let closed := levels.dropWhile fun level => margin < level.indent
    (openLevel margin closed).1.indent = margin ∧
      (∀ key, (openLevel margin closed).1.seen.lookup key = lastGiven closed margin key) ∧
      (∀ other key, other ≠ margin →
        lastGiven (openLevel margin closed).2 other key = lastGiven closed other key) ∧
      Descending (openLevel margin closed).2 ∧
      ∀ level ∈ (openLevel margin closed).2, level.indent < margin :=
  openLevel_spec (h.sublist (List.dropWhile_sublist _)) fun _ => indent_le_of_mem_dropWhile h

/-- A line keeps the levels in their order. -/
theorem descending_levelsAfter (h : Descending levels) (l : Line) :
    Descending (levelsAfter levels l) := by
  unfold levelsAfter
  split
  · exact h
  · dsimp only
    cases l.key? with
    | none => exact h.sublist (List.dropWhile_sublist _)
    | some key =>
      obtain ⟨hindent, -, -, houter, hbelow⟩ := openLevel_closed h l.indent
      exact List.pairwise_cons.mpr ⟨fun level hlevel =>
        (hbelow level hlevel).trans_eq hindent.symm, houter⟩

/-- **What one line changes.** A line that is blank, a comment or scalar text changes nothing. Any
other makes all that is deeper forgotten, and a key is known from then on at its indent. -/
theorem lastGiven_levelsAfter (h : Descending levels) (l : Line) (key : Text) :
    lastGiven (levelsAfter levels l) indent key =
      if !l.isContent || l.inScalar then lastGiven levels indent key
      else if l.indent < indent then none
      else if l.key? = some key ∧ l.indent = indent then some l.number
      else lastGiven levels indent key := by
  unfold levelsAfter
  split
  · rfl
  · have hknown := @lastGiven_dropWhile levels indent h l.indent key
    dsimp only
    cases hkey : l.key? with
    | none =>
      simp only [reduceCtorEq, false_and, if_false]
      exact hknown
    | some given =>
      obtain ⟨hindent, hseen, hother, -, -⟩ := openLevel_closed h l.indent
      dsimp only
      rw [lastGiven_cons]
      dsimp only
      rw [hindent]
      by_cases hsame : l.indent = indent
      · rw [if_pos hsame, if_neg (by omega), List.lookup_cons, hseen]
        by_cases hgiven : given = key
        · rw [if_pos ⟨congrArg some hgiven, hsame⟩, hgiven, beq_self_eq_true]
        · rw [if_neg (by simp [hgiven]), beq_eq_false_iff_ne.mpr (Ne.symm hgiven)]
          subst hsame
          exact hknown.trans (if_neg (Nat.lt_irrefl _))
      · rw [if_neg hsame, hother indent key (Ne.symm hsame), hknown]
        simp [hsame]

theorem duplicateKeysFrom_cons (h : Descending levels) (l : Line) (rest : List Line) :
    duplicateKeysFrom levels (l :: rest) =
      (repeatIssue? levels l).toList ++ duplicateKeysFrom (levelsAfter levels l) rest := by
  rw [duplicateKeysFrom]
  unfold repeatIssue? levelsAfter
  split
  · rfl
  · dsimp only
    cases hkey : l.key? with
    | none => rfl
    | some key =>
      obtain ⟨-, hseen, -, -, -⟩ := openLevel_closed h l.indent
      have hknown := (hseen key).trans ((lastGiven_dropWhile h l.indent key).trans
        (if_neg (Nat.lt_irrefl _)))
      dsimp only
      rw [Option.bind_some, hknown]
      cases lastGiven levels l.indent key <;> rfl

theorem duplicateKeysFrom_append (a b : List Line) : ∀ {levels}, Descending levels →
    duplicateKeysFrom levels (a ++ b) =
      duplicateKeysFrom levels a ++ duplicateKeysFrom (a.foldl levelsAfter levels) b := by
  induction a with
  | nil => exact fun _ => rfl
  | cons l rest ih =>
    intro levels h
    rw [List.cons_append, duplicateKeysFrom_cons h, duplicateKeysFrom_cons h,
      ih (descending_levelsAfter h l), List.foldl_cons, List.append_assoc]

theorem descending_foldl (lines : List Line) : ∀ {levels}, Descending levels →
    Descending (lines.foldl levelsAfter levels) := by
  induction lines with
  | nil => exact fun h => h
  | cons l rest ih => exact fun h => ih (descending_levelsAfter h l)

end

end Check

/-! ## Keys in sight -/

namespace Document

/-- Line `j` gives the key at the indent, and line `n` still sees it: no content line in between
that is not scalar text is indented less. -/
structure Sees (doc : Document) (n indent : Nat) (key : Text) (j : Nat) : Prop where
  above : j < n
  gives : ∃ l, doc[j]? = some l ∧ l.inScalar = false ∧ l.key? = some key ∧ l.indent = indent
  inSight : ∀ k l, j < k → k < n → doc[k]? = some l → l.isContent = true → l.inScalar = false →
    indent ≤ l.indent

/-- Line `i` repeats the key of line `j`. -/
def Repeats (doc : Document) (i : Nat) (key : Text) (j : Nat) : Prop :=
  ∃ l, doc[i]? = some l ∧ l.inScalar = false ∧ l.key? = some key ∧ doc.Sees i l.indent key j

section
variable {doc : Document} {n indent j : Nat} {key : Text} {l : Line}

/-- What the next line sees: the key of this one, and what this one does not hide. -/
theorem sees_succ (hl : doc[n]? = some l) : doc.Sees (n + 1) indent key j ↔
    (j = n ∧ l.inScalar = false ∧ l.key? = some key ∧ l.indent = indent) ∨
      (doc.Sees n indent key j ∧
        (l.isContent = true → l.inScalar = false → indent ≤ l.indent)) := by
  constructor
  · intro h
    rcases Nat.lt_succ_iff_lt_or_eq.mp h.above with hlt | rfl
    · exact .inr ⟨⟨hlt, h.gives, fun k m hlow hhigh => h.inSight k m hlow (by omega)⟩,
        h.inSight n l hlt (by omega) hl⟩
    · obtain ⟨m, hm, hgives⟩ := h.gives
      obtain rfl : l = m := Option.some.inj (hl.symm.trans hm)
      exact .inl ⟨rfl, hgives⟩
  · rintro (⟨rfl, hgives⟩ | ⟨h, hshown⟩)
    · exact ⟨Nat.lt_succ_self j, ⟨l, hl, hgives⟩, fun k _ _ _ => by omega⟩
    · refine ⟨h.above.trans (Nat.lt_succ_self n), h.gives, fun k m hlow hhigh hm => ?_⟩
      rcases Nat.lt_succ_iff_lt_or_eq.mp hhigh with hlt | rfl
      · exact h.inSight k m hlow hlt hm
      · obtain rfl : l = m := Option.some.inj (hl.symm.trans hm)
        exact hshown

/-- A shallower line hides all that was seen deeper. -/
theorem not_sees_succ (hl : doc[n]? = some l) (hcontent : l.isContent = true)
    (hfree : l.inScalar = false) (hlow : l.indent < indent) : ¬ doc.Sees (n + 1) indent key j := by
  rw [sees_succ hl]
  rintro (⟨-, -, -, hindent⟩ | ⟨-, hshown⟩)
  · omega
  · exact absurd (hshown hcontent hfree) (by omega)

/-- A line that gives the key is the latest to do so. -/
theorem isGreatest_sees_succ (hl : doc[n]? = some l) (hfree : l.inScalar = false)
    (hkey : l.key? = some key) : IsGreatest {j | doc.Sees (n + 1) l.indent key j} n :=
  ⟨(sees_succ hl).mpr (.inl ⟨rfl, hfree, hkey, rfl⟩),
    fun _ hj => Nat.lt_succ_iff.mp (Sees.above hj)⟩

/-- Unless a line hides or gives the key, the next line sees what this one saw. -/
theorem sees_succ_eq (hl : doc[n]? = some l)
    (hgives : ¬ (l.inScalar = false ∧ l.key? = some key ∧ l.indent = indent))
    (hshown : l.isContent = true → l.inScalar = false → indent ≤ l.indent) :
    {j | doc.Sees (n + 1) indent key j} = {j | doc.Sees n indent key j} :=
  Set.ext fun _ => (sees_succ hl).trans
    ⟨fun h => (h.resolve_left fun h => hgives h.2).1, fun h => .inr ⟨h, hshown⟩⟩

end

/-- **What the levels know.** After the first lines of a document the levels know a key at an indent
if and only if the next line sees it there, and then they know its latest occurrence in sight. -/
theorem lastGiven_foldl (doc : Document) {indent : Nat} {key : Text} {number : Int} :
    ∀ n ≤ doc.length,
      (Check.lastGiven ((doc.take n).foldl Check.levelsAfter []) indent key = some number ↔
        ∃ j l, IsGreatest {j | doc.Sees n indent key j} j ∧ doc[j]? = some l ∧
          l.number = number) := by
  intro n
  induction n with
  | zero =>
    intro _
    refine ⟨fun h => (by cases h), ?_⟩
    rintro ⟨j, l, ⟨hsees, -⟩, -⟩
    exact absurd hsees.above (Nat.not_lt_zero j)
  | succ n ih =>
    intro hn
    have hl : doc[n]? = some doc[n] := List.getElem?_eq_getElem (by omega)
    have hdescending : Check.Descending ((doc.take n).foldl Check.levelsAfter []) :=
      Check.descending_foldl _ List.Pairwise.nil
    rw [List.take_add_one, hl, Option.toList_some, List.foldl_append, List.foldl_cons,
      List.foldl_nil, Check.lastGiven_levelsAfter hdescending]
    split
    · next hsilent =>
      have hloud : ¬ (doc[n].isContent = true ∧ doc[n].inScalar = false) := by
        rintro ⟨hcontent, hfree⟩
        simp [hcontent, hfree] at hsilent
      rw [ih (by omega), sees_succ_eq hl]
      · rintro ⟨hfree, hkey, -⟩
        exact hloud ⟨Line.isContent_of_isMappingKey (by rw [Line.isMappingKey, hkey]; rfl), hfree⟩
      · exact fun hcontent hfree => absurd ⟨hcontent, hfree⟩ hloud
    · next hloud =>
      obtain ⟨hcontent, hfree⟩ : doc[n].isContent = true ∧ doc[n].inScalar = false := by
        simpa using hloud
      split
      · next hlow =>
        refine ⟨fun h => (by cases h), ?_⟩
        rintro ⟨j, l, ⟨hj, -⟩, -⟩
        exact absurd hj (not_sees_succ hl hcontent hfree hlow)
      · next hlow =>
        split
        · next hgives =>
          obtain ⟨hkey, rfl⟩ := hgives
          have hgreatest := isGreatest_sees_succ hl hfree hkey
          refine ⟨fun h => ⟨n, doc[n], hgreatest, hl, Option.some.inj h⟩, ?_⟩
          rintro ⟨j, l, hj, hjl, rfl⟩
          obtain rfl := hj.unique hgreatest
          rw [Option.some.inj (hl.symm.trans hjl)]
        · next hgives =>
          rw [ih (by omega), sees_succ_eq hl (fun h => hgives h.2) fun _ _ => by omega]

end Document

/-! ## Reports -/

/-- A key that a line gives again, with the last line before that gave it. Lines count from zero. -/
structure KeyRepeat where
  previous : Nat
  line : Nat
  key : Text

def KeyRepeat.issue (r : KeyRepeat) : Issue :=
  (Finding.duplicateKey r.key (r.previous + 1)).onLine (r.line + 1)

namespace Document

/-- All the repeats among the first lines of a document, in order. -/
structure ListsRepeats (doc : Document) (n : Nat) (repeats : List KeyRepeat) : Prop where
  ascending : repeats.Pairwise fun a b => a.line < b.line
  sound : ∀ r ∈ repeats, r.line < n ∧ IsGreatest {j | doc.Repeats r.line r.key j} r.previous
  complete : ∀ i key j, i < n → doc.Repeats i key j → ∃ r ∈ repeats, r.line = i

/-- The number of a line is one more than its index. -/
def IsNumbered (doc : Document) : Prop :=
  ∀ (i : Nat) (l : Line), doc[i]? = some l → l.number = i + 1

section
variable {doc : Document} {n : Nat} {l : Line} {key : Text}

theorem repeats_iff (hl : doc[n]? = some l) (hfree : l.inScalar = false) (hkey : l.key? = some key)
    {j : Nat} : doc.Repeats n key j ↔ doc.Sees n l.indent key j := by
  refine ⟨fun ⟨m, hm, _, _, hsees⟩ => ?_, fun h => ⟨l, hl, hfree, hkey, h⟩⟩
  obtain rfl : l = m := Option.some.inj (hl.symm.trans hm)
  exact hsees

/-- What a line repeats stands above it, so one of its occurrences is the latest. -/
theorem exists_isGreatest_repeats {j : Nat} (h : doc.Repeats n key j) :
    ∃ i, IsGreatest {j | doc.Repeats n key j} i := by
  have hbounded : BddAbove {j | doc.Repeats n key j} := by
    refine ⟨n, fun i hi => ?_⟩
    obtain ⟨_, -, -, -, hsees⟩ := hi
    exact hsees.above.le
  exact ⟨_, Nat.sSup_mem ⟨j, h⟩ hbounded, fun i hi => le_csSup hbounded hi⟩

variable (hnumber : doc.IsNumbered) (hl : doc[n]? = some l)
include hnumber hl

/-- The issue of a line points at the latest line that gave its key. -/
theorem repeatIssue?_eq_some_iff {i : Issue} :
    Check.repeatIssue? ((doc.take n).foldl Check.levelsAfter []) l = some i ↔
      ∃ r : KeyRepeat, r.line = n ∧ IsGreatest {j | doc.Repeats n r.key j} r.previous ∧
        r.issue = i := by
  have hn : n ≤ doc.length := (List.getElem?_eq_some_iff.mp hl).1.le
  have hgreatest (key : Text) (hfree : l.inScalar = false) (hkey : l.key? = some key) :
      {j | doc.Repeats n key j} = {j | doc.Sees n l.indent key j} :=
    Set.ext fun j => repeats_iff hl hfree hkey
  have hline : l.number = (n : Int) + 1 := hnumber n l hl
  constructor
  · intro h
    unfold Check.repeatIssue? at h
    split at h
    · cases h
    · next hloud =>
      have hfree : l.inScalar = false := by
        rw [Bool.or_eq_true, not_or] at hloud
        simpa using hloud.2
      obtain ⟨key, hkey, h⟩ := Option.bind_eq_some_iff.mp h
      obtain ⟨previous, hprevious, rfl⟩ := Option.map_eq_some_iff.mp h
      obtain ⟨j, m, hj, hm, rfl⟩ := (lastGiven_foldl doc n hn).mp hprevious
      rw [← hgreatest key hfree hkey] at hj
      refine ⟨⟨j, n, key⟩, rfl, hj, ?_⟩
      rw [KeyRepeat.issue, hline, hnumber j m hm]
  · rintro ⟨⟨j, i, key⟩, rfl, hj, rfl⟩
    obtain ⟨m, hm, hfree, hkey, hsees⟩ := hj.1
    obtain rfl : l = m := Option.some.inj (hl.symm.trans hm)
    rw [hgreatest key hfree hkey] at hj
    obtain ⟨earlier, hearlier, -⟩ := hsees.gives
    have hprevious := (lastGiven_foldl doc i hn).mpr ⟨j, earlier, hj, hearlier, rfl⟩
    have hcontent : l.isContent = true :=
      Line.isContent_of_isMappingKey (by rw [Line.isMappingKey, hkey]; rfl)
    rw [Check.repeatIssue?, hcontent, hfree, if_neg (by simp), hkey, Option.bind_some, hprevious,
      Option.map_some, hline, hnumber j earlier hearlier]
    rfl

omit hnumber hl in
theorem ListsRepeats.keep {repeats : List KeyRepeat} (h : doc.ListsRepeats n repeats)
    (hnone : ∀ key j, ¬ doc.Repeats n key j) : doc.ListsRepeats (n + 1) repeats where
  ascending := h.ascending
  sound r hr := ⟨(h.sound r hr).1.trans (Nat.lt_succ_self n), (h.sound r hr).2⟩
  complete i key j hi hrepeats := by
    rcases Nat.lt_succ_iff_lt_or_eq.mp hi with hlt | rfl
    · exact h.complete i key j hlt hrepeats
    · exact absurd hrepeats (hnone key j)

omit hnumber hl in
theorem ListsRepeats.add {repeats : List KeyRepeat} (h : doc.ListsRepeats n repeats)
    {r : KeyRepeat} (hline : r.line = n)
    (hgreatest : IsGreatest {j | doc.Repeats n r.key j} r.previous) :
    doc.ListsRepeats (n + 1) (repeats ++ [r]) where
  ascending := by
    refine List.pairwise_append.mpr ⟨h.ascending, List.pairwise_singleton _ _, fun a ha b hb => ?_⟩
    rw [List.mem_singleton.mp hb, hline]
    exact (h.sound a ha).1
  sound a ha := by
    rcases List.mem_append.mp ha with ha | ha
    · exact ⟨(h.sound a ha).1.trans (Nat.lt_succ_self n), (h.sound a ha).2⟩
    · rw [List.mem_singleton.mp ha, hline]
      exact ⟨Nat.lt_succ_self n, hgreatest⟩
  complete i key j hi hrepeats := by
    rcases Nat.lt_succ_iff_lt_or_eq.mp hi with hlt | rfl
    · obtain ⟨a, ha, hline⟩ := h.complete i key j hlt hrepeats
      exact ⟨a, List.mem_append_left _ ha, hline⟩
    · exact ⟨r, by simp, hline⟩

end

/-- **The scan reports all repeats among the lines it has read, in order.** -/
theorem exists_listsRepeats {doc : Document} (hnumber : doc.IsNumbered) :
    ∀ n ≤ doc.length, ∃ repeats, doc.ListsRepeats n repeats ∧
      Check.duplicateKeyIssues (doc.take n) = repeats.map KeyRepeat.issue := by
  intro n
  induction n with
  | zero => exact fun _ => ⟨[], ⟨List.Pairwise.nil, by simp, by simp⟩, rfl⟩
  | succ n ih =>
    intro hn
    obtain ⟨repeats, hrepeats, hissues⟩ := ih (by omega)
    have hl : doc[n]? = some doc[n] := List.getElem?_eq_getElem (by omega)
    have hissue (i : Issue) := repeatIssue?_eq_some_iff hnumber hl (i := i)
    have hscan : Check.duplicateKeyIssues (doc.take (n + 1)) =
        Check.duplicateKeyIssues (doc.take n) ++
          (Check.repeatIssue? ((doc.take n).foldl Check.levelsAfter []) doc[n]).toList := by
      have hlevels : Check.Descending ((doc.take n).foldl Check.levelsAfter []) :=
        Check.descending_foldl _ List.Pairwise.nil
      rw [List.take_add_one, hl, Option.toList_some, Check.duplicateKeyIssues,
        Check.duplicateKeysFrom_append _ _ List.Pairwise.nil,
        Check.duplicateKeysFrom_cons hlevels, Check.duplicateKeysFrom, List.append_nil]
      rfl
    rw [hscan, hissues]
    cases h : Check.repeatIssue? ((doc.take n).foldl Check.levelsAfter []) doc[n] with
    | none =>
      refine ⟨repeats, hrepeats.keep fun key j hrepeat => ?_, List.append_nil _⟩
      obtain ⟨i, hi⟩ := exists_isGreatest_repeats hrepeat
      rw [(hissue _).mpr ⟨⟨i, n, key⟩, rfl, hi, rfl⟩] at h
      cases h
    | some issue =>
      obtain ⟨r, hline, hgreatest, rfl⟩ := (hissue issue).mp h
      exact ⟨repeats ++ [r], hrepeats.add hline hgreatest, by simp⟩

end Document

/-- **Which keys are reported as repeated.** The scan for duplicate keys lists repeats with their
lines in order, each line once. A line is listed if and only if it is a mapping line, no scalar
text, and an earlier such line gives the same key at the same indent while no content line in
between that is not scalar text is indented less. The issue points at the latest line of that
kind. -/
theorem duplicateKeyIssues_exact (text : Text) :
    let doc := Document.ofText text
    ∃ repeats : List KeyRepeat,
      Check.duplicateKeyIssues doc = repeats.map KeyRepeat.issue ∧
      repeats.Pairwise (fun a b => a.line < b.line) ∧
      (∀ i, (∃ r ∈ repeats, r.line = i) ↔ ∃ key j, doc.Repeats i key j) ∧
      ∀ r ∈ repeats, IsGreatest {j | doc.Repeats r.line r.key j} r.previous := by
  intro doc
  obtain ⟨repeats, hrepeats, hissues⟩ := Document.exists_listsRepeats
    (fun _ _ => Document.number_of_getElem?) doc.length le_rfl
  rw [List.take_length] at hissues
  refine ⟨repeats, hissues, hrepeats.ascending, fun i => ⟨?_, ?_⟩, fun r hr =>
    (hrepeats.sound r hr).2⟩
  · rintro ⟨r, hr, rfl⟩
    exact ⟨r.key, r.previous, (hrepeats.sound r hr).2.1⟩
  · rintro ⟨key, j, hrepeat⟩
    have hi : i < doc.length := by
      obtain ⟨l, hl, -⟩ := hrepeat
      exact (List.getElem?_eq_some_iff.mp hl).1
    exact hrepeats.complete i key j hi hrepeat

end ComposeLint
