import ComposeLint.Proofs.Document.Blocks
import ComposeLint.Proofs.Document.Lines
import ComposeLint.Proofs.Rendering.Row

/-! # Segments

A segment is a key row with the rows that belong to it. When rows are printed segment by segment,
cutting the lines into blocks gives the segments back, each at the place that it got
(`blocksAt_lines`), so a reader of a block can be computed on the segment. -/

namespace ComposeLint

/-- Rows as lines, numbered in a row. -/
def Row.lines (n : Int) (rows : List Row) : List Line := Document.numberFrom n (rows.map Row.text)

namespace Row

theorem lines_cons (n : Int) (r : Row) (rest : List Row) :
    lines n (r :: rest) = r.line n :: lines (n + 1) rest := rfl

theorem lines_append (n : Int) (a b : List Row) :
    lines n (a ++ b) = lines n a ++ lines (n + a.length) b := by
  rw [lines, List.map_append, Document.numberFrom_append, List.length_map, lines, lines]

theorem exists_of_mem_lines {l : Line} {rows : List Row} {n : Int} (h : l ∈ lines n rows) :
    ∃ r ∈ rows, ∃ m, l = r.line m := by
  obtain ⟨t, ht, m, rfl⟩ := Document.exists_of_mem_numberFrom h
  obtain ⟨r, hr, rfl⟩ := List.mem_map.mp ht
  exact ⟨r, hr, m, rfl⟩

/-- What is the same for a row at every place can be read off the rows. -/
theorem map_lines {β : Type} {f : Line → β} {g : Row → β} {rows : List Row}
    (h : ∀ r ∈ rows, ∀ n, f (r.line n) = g r) : ∀ n, (lines n rows).map f = rows.map g := by
  induction rows with
  | nil => exact fun _ => rfl
  | cons r rest ih =>
    intro n
    rw [lines_cons, List.map_cons, List.map_cons, h r (by simp),
      ih fun r' hr' => h r' (by simp [hr'])]

/-- Later lines have greater numbers. -/
theorem pairwise_lines (rows : List Row) : ∀ n : Int,
    (lines n rows).Pairwise (·.number < ·.number) ∧ ∀ l ∈ lines n rows, n ≤ l.number := by
  induction rows with
  | nil => simp [lines, Document.numberFrom]
  | cons r rest ih =>
    intro n
    obtain ⟨hrest, hlow⟩ := ih (n + 1)
    have hlow' : ∀ l ∈ lines (n + 1) rest, n < l.number := by
      intro l hl
      have := hlow l hl
      omega
    rw [lines_cons]
    refine ⟨List.pairwise_cons.mpr ⟨hlow', hrest⟩, fun l hl => ?_⟩
    rcases List.mem_cons.mp hl with rfl | hl
    · exact Int.le_refl n
    · exact Int.le_of_lt (hlow' l hl)

variable {r : Row} (h : r.isClean = true) (n : Int) (k : Nat)
include h

theorem isKeyAt_line : Block.isKeyAt (some k) (r.line n) = (!r.isItem && r.indent == k) := by
  rw [Block.isKeyAt, Line.isMappingKey, line_key? n h, line_indent n h, line_inScalar n h]
  cases r <;> simp [key?, isItem]

theorem isItemAt_line : Block.isItemAt (some k) (r.line n) = (r.isItem && r.indent == k) := by
  rw [Block.isItemAt, line_isListItem n h, line_indent n h, line_inScalar n h]
  simp

end Row

structure Segment where
  header : Row
  body : List Row
deriving DecidableEq, Repr

namespace Segment

def rows (s : Segment) : List Row := s.header :: s.body

/-- The block that the segment becomes when its header is at line `n`. -/
def block (n : Int) (s : Segment) : Block := ⟨s.header.line n, Row.lines (n + 1) s.body⟩

/-- The blocks of segments that follow each other from line `n` on. -/
def blocks (n : Int) : List Segment → List Block
  | [] => []
  | s :: rest => s.block n :: blocks (n + 1 + s.body.length) rest

variable {segments : List Segment}

/-- Cutting the rows of segments gives the segments back, if only their headers open a block and
the scope of each ends where the next one opens. -/
theorem blocksAt_lines {opens : Line → Bool} {scope : Line → List Line → List Line}
    (hheader : ∀ s ∈ segments, ∀ n, opens (s.header.line n) = true)
    (hbody : ∀ s ∈ segments, ∀ r ∈ s.body, ∀ n, opens (r.line n) = false)
    (hscope : ∀ s ∈ segments, ∀ n rest, rest.head?.all opens = true →
      scope (s.header.line n) (Row.lines (n + 1) s.body ++ rest) = Row.lines (n + 1) s.body) :
    ∀ n, Block.blocksAt opens scope (Row.lines n (segments.flatMap rows)) = blocks n segments := by
  induction segments with
  | nil => exact fun _ => rfl
  | cons s others ih =>
    intro n
    have hnone : ∀ l ∈ Row.lines (n + 1) s.body, opens l = false := by
      intro l hl
      obtain ⟨r, hr, m, rfl⟩ := Row.exists_of_mem_lines hl
      exact hbody s (by simp) r hr m
    have hnext :
        (Row.lines (n + 1 + s.body.length) (others.flatMap rows)).head?.all opens = true := by
      cases others with
      | nil => rfl
      | cons t others => exact hheader t (by simp) _
    have hrest := ih (fun t ht => hheader t (by simp [ht])) (fun t ht => hbody t (by simp [ht]))
      (fun t ht => hscope t (by simp [ht])) (n + 1 + s.body.length)
    rw [List.flatMap_cons, rows, List.cons_append, Row.lines_cons, Row.lines_append, Block.blocksAt,
      if_pos (hheader s (by simp) n), hscope s (by simp) n _ hnext,
      Block.blocksAt_append_of_none hnone, hrest]
    rfl

/-- What is the same for a segment at every place can be read off what it was written from. -/
theorem map_blocks {α β : Type} {values : List α} {member : α → Segment} {f : Block → β}
    {g : α → β} (h : ∀ v ∈ values, ∀ n, f ((member v).block n) = g v) :
    ∀ n, (blocks n (values.map member)).map f = values.map g := by
  induction values with
  | nil => exact fun _ => rfl
  | cons v others ih =>
    intro n
    rw [List.map_cons, blocks, List.map_cons, List.map_cons, h v (by simp),
      ih fun w hw => h w (by simp [hw])]

theorem exists_find?_blocks {p : Block → Bool} {q : Segment → Bool}
    (h : ∀ s ∈ segments, ∀ n, p (s.block n) = q s) :
    ∀ n, ∃ m, (blocks n segments).find? p = (segments.find? q).map (block m) := by
  induction segments with
  | nil => exact fun n => ⟨n, rfl⟩
  | cons s others ih =>
    intro n
    have hs := h s (by simp) n
    cases hq : q s with
    | true =>
      rw [hq] at hs
      refine ⟨n, ?_⟩
      rw [blocks, List.find?_cons_of_pos hs, List.find?_cons_of_pos hq, Option.map_some]
    | false =>
      obtain ⟨m, hm⟩ := ih (fun t ht => h t (by simp [ht])) (n + 1 + s.body.length)
      refine ⟨m, ?_⟩
      rw [blocks, List.find?_cons_of_neg (by simp [hs, hq]),
        List.find?_cons_of_neg (by simp [hq]), hm]

/-! ## Segments at an indent -/

/-- A clean key at an indent with rows that belong to it: deeper ones, and list items. -/
structure StandsAt (k : Nat) (s : Segment) : Prop where
  indent : s.header.indent = k
  key : s.header.isItem = false
  clean : ∀ r ∈ s.rows, r.isClean = true
  body : ∀ r ∈ s.body, k < r.indent ∨ (r.indent = k ∧ r.isItem = true)

theorem content_block {s : Segment} (hclean : ∀ r ∈ s.body, r.isClean = true) (n : Int) :
    (s.block n).content = Row.lines (n + 1) s.body := by
  refine List.filter_eq_self.mpr fun l hl => ?_
  obtain ⟨r, hr, m, rfl⟩ := Row.exists_of_mem_lines hl
  exact Row.line_isContent m (hclean r hr)

/-- The children of a block stand where its least indented rows do. -/
theorem childIndent?_block {s : Segment} {k : Nat} (hclean : ∀ r ∈ s.body, r.isClean = true)
    (hleast : ∀ r ∈ s.body, k ≤ r.indent) (hexists : ∃ r ∈ s.body, r.indent = k) (n : Int) :
    (s.block n).childIndent? = some k := by
  have hshown : (Row.lines (n + 1) s.body).filter (fun l => !l.inScalar && !l.hasTabMargin) =
      Row.lines (n + 1) s.body := by
    refine List.filter_eq_self.mpr fun l hl => ?_
    obtain ⟨r, hr, m, rfl⟩ := Row.exists_of_mem_lines hl
    rw [Row.line_inScalar m (hclean r hr), Row.line_hasTabMargin m (hclean r hr)]
    rfl
  rw [Block.childIndent?, content_block hclean, hshown,
    Row.map_lines fun r hr m => Row.line_indent m (hclean r hr), List.min?_eq_some_iff]
  constructor
  · exact List.mem_map.mpr hexists
  · intro indent hindent
    obtain ⟨r, hr, rfl⟩ := List.mem_map.mp hindent
    exact hleast r hr

/-- A segment owns its rows and nothing from the next key of its indent on. -/
theorem StandsAt.owned {t : Segment} {k : Nat} (ht : t.StandsAt k) (n : Int) {rest : List Line}
    (hrest : rest.head?.all (Block.isKeyAt k) = true) :
    Block.owned (t.header.line n) (Row.lines (n + 1) t.body ++ rest) =
      Row.lines (n + 1) t.body := by
  have hheader := ht.clean t.header (by simp [rows])
  have hindent : (t.header.line n).indent = k := by
    rw [Row.line_indent n hheader, ht.indent]
  refine Block.owned_append (fun l hl => ?_) ?_
  · obtain ⟨r, hr, i, rfl⟩ := Row.exists_of_mem_lines hl
    have hclean := ht.clean r (by simp [rows, hr])
    refine ⟨?_, Row.line_isContent i hclean⟩
    rw [Block.continuesFrom, hindent, Row.line_indent i hclean, Row.line_isListItem i hclean]
    rcases ht.body r hr with hlt | ⟨heq, hitem⟩
    · simp [hlt]
    · simp [heq, hitem]
  · cases rest with
    | nil => rfl
    | cons l rest =>
      have hl : l.isMappingKey = true ∧ l.indent = k ∧ l.inScalar = false := by
        simpa [Block.isKeyAt, and_assoc] using hrest
      have hitem : l.isListItem = false := by
        cases hrole : l.role <;> simp_all [Line.isMappingKey, Line.key?, Line.isListItem]
      simp [Block.continuesFrom, hindent, hl, hitem, Line.isContent_of_isMappingKey hl.1]

section
variable {s : Segment} {k : Nat} (hbody : s.body = segments.flatMap rows)
  (hstands : ∀ t ∈ segments, t.StandsAt k)
include hbody hstands

theorem childIndent?_segments (hne : segments ≠ []) (n : Int) :
    (s.block n).childIndent? = some k := by
  refine childIndent?_block (fun r hr => ?_) (fun r hr => ?_) ?_ n
  · rw [hbody] at hr
    obtain ⟨u, hu, hr⟩ := List.mem_flatMap.mp hr
    exact (hstands u hu).clean r hr
  · rw [hbody] at hr
    obtain ⟨u, hu, hr⟩ := List.mem_flatMap.mp hr
    rcases List.mem_cons.mp hr with rfl | hr
    · exact (hstands u hu).indent.ge
    · rcases (hstands u hu).body r hr with hlt | ⟨heq, -⟩
      · exact hlt.le
      · exact heq.ge
  · obtain ⟨t, others, rfl⟩ := List.exists_cons_of_ne_nil hne
    exact ⟨t.header, by simp [hbody, rows], (hstands t (by simp)).indent⟩

theorem childBlocks_block (n : Int) : (s.block n).childBlocks = blocks (n + 1) segments := by
  by_cases hne : segments = []
  · simp [hne, Block.childBlocks, block, hbody, Row.lines, Document.numberFrom, Block.blocksAt,
      blocks]
  · rw [Block.childBlocks, childIndent?_segments hbody hstands hne]
    change Block.blocksAt _ _ (Row.lines (n + 1) s.body) = _
    rw [hbody]
    refine blocksAt_lines (fun t ht m => ?_) (fun t ht r hr m => ?_)
      (fun t ht m rest hrest => (hstands t ht).owned m hrest) _
    · have hclean := (hstands t ht).clean t.header (by simp [rows])
      simp [Row.isKeyAt_line hclean, (hstands t ht).key, (hstands t ht).indent]
    · have hclean := (hstands t ht).clean r (by simp [rows, hr])
      rw [Row.isKeyAt_line hclean]
      rcases (hstands t ht).body r hr with hlt | ⟨-, hitem⟩
      · simp [hlt.ne']
      · simp [hitem]

/-- A child is looked up by its key among the segments. -/
theorem exists_child?_block (n : Int) (key : Text) : ∃ m, (s.block n).child? key =
    (segments.find? fun t => t.header.key? == some key).map (block m) := by
  rw [Block.child?, childBlocks_block hbody hstands]
  refine exists_find?_blocks (fun t ht m => ?_) _
  have hclean := (hstands t ht).clean t.header (by simp [rows])
  rw [block, Row.line_key? m hclean]

end

end Segment

end ComposeLint
