import Mathlib.Data.List.Find
import ComposeLint.Proofs.Alike.Stack
import ComposeLint.Proofs.NestedBlocks

/-! # A block cut at its keys

The body of a block is a lead and one segment for each key directly below the header. The header of a
segment ends the block of the one before it, so a child has lines of its own segment only
(`Block.blocksAt_segments`). With no two keys alike it does not matter in which order the segments
stand, nor under which numbers (`Block.child?_rearranged`). -/

namespace ComposeLint

/-- The line under a number that is off by this much. -/
def Line.shifted (offset : Int) (l : Line) : Line := { l with number := l.number + offset }

theorem Line.alike_shifted (offset : Int) (l : Line) :
    (l.shifted offset).Alike (· + offset) l where
  number := rfl
  inScalar := rfl
  role := rfl
  item := rfl
  margin _ := rfl
  startsTopLevel := rfl
  startsEntry := rfl
  isSectionHeader _ := rfl
  isHeader _ := rfl
  trimmed _ := rfl

namespace Block

/-- The lines of a block, its header first. -/
def lines (b : Block) : List Line := b.header :: b.body

@[simp]
theorem lines_withLines (f : Line → Line) (b : Block) :
    (b.withLines f).lines = b.lines.map f := rfl

/-- The lines of a body before the first key directly below the header. -/
def lead (b : Block) : List Line := b.body.takeWhile (!isKeyAt b.childIndent? ·)

/-- For each key directly below the header the lines down to the next one, or to the end. -/
def segments (b : Block) : List Block :=
  blocksAt (isKeyAt b.childIndent?)
    (fun _ following => following.takeWhile (!isKeyAt b.childIndent? ·)) b.body

/-- The lines before the first header, and from each header those down to the next one, are all
lines. -/
theorem takeWhile_append_blocksAt (opens : Line → Bool) (all : List Line) :
    all.takeWhile (!opens ·) ++ (blocksAt opens
      (fun _ following => following.takeWhile (!opens ·)) all).flatMap lines = all := by
  induction all with
  | nil => rfl
  | cons l rest ih =>
    cases hl : opens l with
    | true => simp [blocksAt, hl, lines, ih]
    | false => simp [blocksAt, hl, ih]

theorem lead_append_segments (b : Block) : b.lead ++ b.segments.flatMap lines = b.body :=
  takeWhile_append_blocksAt _ _

theorem map_header_segments (b : Block) : b.segments.map header = b.children := by
  rw [segments, children_eq, childBlocks, map_header_blocksAt, map_header_blocksAt]

/-- A key at this indent with lines below it of which none is one. -/
structure IsSegment (indent? : Option Nat) (s : Block) : Prop where
  header : isKeyAt indent? s.header = true
  body : ∀ l ∈ s.body, isKeyAt indent? l = false

theorem isSegment_of_mem_segments {b s : Block} (hs : s ∈ b.segments) :
    s.IsSegment b.childIndent? := by
  obtain ⟨before, following, -, hheader, hbody⟩ := exists_of_mem_blocksAt hs
  refine ⟨hheader, fun l hl => ?_⟩
  rw [hbody] at hl
  simpa using List.mem_takeWhile_imp hl

theorem isKeyAt_eq_false_of_mem_lead {b : Block} {l : Line} (hl : l ∈ b.lead) :
    isKeyAt b.childIndent? l = false := by
  simpa using List.mem_takeWhile_imp hl

/-! ## Children and segments -/

/-- What the header of a segment owns of the lines of the segment. -/
def ownPart (s : Block) : Block := ⟨s.header, owned s.header s.body⟩

/-- A segment ends where the next one starts, and so does the block of its header. -/
theorem blocksAt_segments {indent? : Option Nat} {segments : List Block}
    (h : ∀ s ∈ segments, s.IsSegment indent?) :
    blocksAt (isKeyAt indent?) owned (segments.flatMap lines) = segments.map ownPart := by
  induction segments with
  | nil => rfl
  | cons s rest ih =>
    obtain ⟨hs, hrest⟩ := List.forall_mem_cons.mp h
    have hends : ∀ l ∈ (rest.flatMap lines).head?, continuesFrom s.header l = false := by
      cases rest with
      | nil => exact fun l hl => by cases hl
      | cons t others =>
        intro l hl
        obtain rfl : t.header = l := by simpa [lines] using hl
        exact continuesFrom_of_isKeyAt hs.header (hrest t List.mem_cons_self).header
    rw [List.flatMap_cons, lines, List.cons_append, blocksAt, if_pos hs.header,
      owned_append_of_head? hends, blocksAt_append_of_none hs.body, ih hrest, List.map_cons, ownPart]

/-- A child is looked for among the segments of its block. -/
theorem child?_eq_find?_segments {b : Block} {lead : List Line} {segments : List Block}
    (hbody : b.body = lead ++ segments.flatMap lines)
    (hlead : ∀ l ∈ lead, isKeyAt b.childIndent? l = false)
    (h : ∀ s ∈ segments, s.IsSegment b.childIndent?) (key : Text) :
    b.child? key = (segments.find? fun s => s.header.key? == some key).map ownPart := by
  rw [child?, childBlocks, hbody, blocksAt_append_of_none hlead, blocksAt_segments h,
    List.find?_map]
  rfl

/-- Where the children stand does not depend on the order of the lines. -/
theorem childIndent?_of_perm {a b : Block} (h : a.body.Perm b.body) :
    a.childIndent? = b.childIndent? := by
  refine Option.ext fun indent => ?_
  simp only [childIndent?, content, List.min?_eq_some_iff,
    (((h.filter _).filter _).map Line.indent).mem_iff]

/-! ## Other places for the segments -/

/-- The segments in a row, the first of them from this line on. -/
def placedFrom (n : Int) : List Block → List Block
  | [] => []
  | s :: rest =>
    s.withLines (Line.shifted (n - s.header.number)) :: placedFrom (n + s.lines.length) rest

section
variable {order : List Block}

/-- What does not look at numbers is the same for segments in other places. -/
theorem map_placedFrom {α : Type} {g : Block → α}
    (hg : ∀ offset s, g (s.withLines (Line.shifted offset)) = g s) (n : Int) :
    (placedFrom n order).map g = order.map g := by
  induction order generalizing n with
  | nil => rfl
  | cons s rest ih => rw [placedFrom, List.map_cons, hg, ih, List.map_cons]

theorem exists_of_mem_placedFrom {n : Int} {p : Block} (hp : p ∈ placedFrom n order) :
    ∃ s ∈ order, ∃ offset, p = s.withLines (Line.shifted offset) := by
  induction order generalizing n with
  | nil => cases hp
  | cons s rest ih =>
    rcases List.mem_cons.mp hp with rfl | hp
    · exact ⟨s, List.mem_cons_self, _, rfl⟩
    · obtain ⟨t, ht, offset, rfl⟩ := ih hp
      exact ⟨t, List.mem_cons_of_mem s ht, offset, rfl⟩

/-- The first segment with a key is the first one still, under other numbers. -/
theorem find?_placedFrom (key : Text) (order : List Block) (n : Int) : ∃ offset,
    (placedFrom n order).find? (fun s => s.header.key? == some key) =
      (order.find? fun s => s.header.key? == some key).map (withLines (Line.shifted offset)) := by
  induction order generalizing n with
  | nil => exact ⟨0, rfl⟩
  | cons s rest ih =>
    have hkey (offset : Int) : (s.withLines (Line.shifted offset)).header.key? = s.header.key? := rfl
    cases hs : s.header.key? == some key with
    | true =>
      refine ⟨n - s.header.number, ?_⟩
      simp only [placedFrom, List.find?_cons, hkey, hs, Option.map_some]
    | false =>
      obtain ⟨offset, hrest⟩ := ih (n + s.lines.length)
      refine ⟨offset, ?_⟩
      simp only [placedFrom, List.find?_cons, hkey, hs, hrest]

end

/-- The block with its segments in this order, the lead where it was. -/
def rearranged (b : Block) (n : Int) (order : List Block) : Block :=
  ⟨b.header, b.lead ++ (placedFrom n order).flatMap lines⟩

section
variable {b : Block} {order : List Block} (horder : order.Perm b.segments) (n : Int)
include horder

theorem childIndent?_rearranged : (b.rearranged n order).childIndent? = b.childIndent? := by
  let unnumbered (l : Line) : Line := { l with number := 0 }
  have halike (l : Line) : (unnumbered l).Alike (fun _ => 0) l :=
    ⟨rfl, rfl, rfl, rfl, fun _ => rfl, rfl, rfl, fun _ => rfl, fun _ => rfl, fun _ => rfl⟩
  have hplaced : (placedFrom n order).map (fun s => s.lines.map unnumbered) =
      order.map fun s => s.lines.map unnumbered :=
    map_placedFrom (fun offset s => by rw [lines_withLines, List.map_map]; rfl) n
  have hlines : ((placedFrom n order).flatMap lines).map unnumbered =
      (order.flatMap lines).map unnumbered := by
    rw [List.map_flatMap, List.flatMap_def, hplaced, ← List.flatMap_def, ← List.map_flatMap]
  have hbody : ((b.rearranged n order).withLines unnumbered).body.Perm
      (b.withLines unnumbered).body := by
    rw [withLines_body, rearranged, List.map_append, hlines, ← List.map_append, withLines_body]
    conv_rhs => rw [← b.lead_append_segments]
    exact ((horder.flatMap_right lines).append_left b.lead).map unnumbered
  rw [← childIndent?_withLines (Line.sameShape_of_alike halike), childIndent?_of_perm hbody, childIndent?_withLines (Line.sameShape_of_alike halike)]

/-- **A child is found in any order of the segments.** With no two keys alike it is the child that
the block had, at another place. -/
theorem child?_rearranged (hkeys : (b.children.map Line.key?).Nodup) (key : Text) : ∃ offset,
    (b.rearranged n order).child? key =
      (b.child? key).map (withLines (Line.shifted offset)) := by
  have hsegment : ∀ s ∈ order, s.IsSegment b.childIndent? := fun s hs =>
    isSegment_of_mem_segments (horder.mem_iff.mp hs)
  have hplaced : ∀ p ∈ placedFrom n order, p.IsSegment b.childIndent? := by
    intro p hp
    obtain ⟨s, hs, offset, rfl⟩ := exists_of_mem_placedFrom hp
    refine ⟨(isKeyAt_map (Line.sameShape_of_alike (Line.alike_shifted offset)) _ _).trans (hsegment s hs).header, ?_⟩
    intro l hl
    obtain ⟨m, hm, rfl⟩ := List.mem_map.mp hl
    exact (isKeyAt_map (Line.sameShape_of_alike (Line.alike_shifted offset)) _ m).trans ((hsegment s hs).body m hm)
  have hindent := childIndent?_rearranged horder n
  have hfound := child?_eq_find?_segments (b := b) b.lead_append_segments.symm
    (fun l => isKeyAt_eq_false_of_mem_lead) (fun s => isSegment_of_mem_segments) key
  have hfound' := child?_eq_find?_segments (b := b.rearranged n order) rfl
    (by rw [hindent]; exact fun l => isKeyAt_eq_false_of_mem_lead) (by rwa [hindent]) key
  have hsame : order.find? (fun s => s.header.key? == some key) =
      b.segments.find? fun s => s.header.key? == some key := by
    refine List.find?_eq_find?_of_perm horder fun s hs t ht => ?_
    rw [← map_header_segments, List.map_map, ← (horder.map _).nodup_iff] at hkeys
    have hs' := beq_iff_eq.mp hs.2
    have ht' := beq_iff_eq.mp ht.2
    exact List.inj_on_of_nodup_map hkeys hs.1 ht.1 (hs'.trans ht'.symm)
  obtain ⟨offset, hoffset⟩ := find?_placedFrom key order n
  refine ⟨offset, ?_⟩
  rw [hfound', hoffset, hsame, hfound, Option.map_map, Option.map_map]
  refine Option.map_congr fun s hs => ?_
  have hheader := (isSegment_of_mem_segments (List.mem_of_find?_eq_some hs)).header
  exact congrArg (Block.mk _) (owned_map (Line.sameShape_of_alike (Line.alike_shifted offset))
    (isContent_of_isKeyAt hheader) s.body)

end

end Block

/-- **A service is the same in any order of its segments**, if no two of its keys are alike. -/
theorem Service.ofBlock_rearranged {b : Block} {order : List Block}
    (horder : order.Perm b.segments) (hkeys : (b.children.map Line.key?).Nodup) (n : Int) :
    ofBlock (b.rearranged n order) = ofBlock b := by
  refine ofBlock_eq_of_readsAlikeAt rfl fun key => ?_
  obtain ⟨offset, hchild⟩ := Block.child?_rearranged horder n hkeys key
  exact ⟨_, _, fun i j hij => Int.add_lt_add_right hij offset, Line.alike_shifted offset, hchild,
    fun _ _ _ _ _ _ => rfl⟩

end ComposeLint
