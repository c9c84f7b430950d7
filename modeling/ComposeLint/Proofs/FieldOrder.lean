import ComposeLint.Proofs.FieldSegments
import ComposeLint.Proofs.ScalarOwner
import ComposeLint.Proofs.Segmentation
import ComposeLint.Proofs.ServiceIsolation

/-! # The order of fields

Scalar text is marked from the top of a document, so lines in another order may get other marks. But
without tabs no line of a body that is read for itself stands further out than the keys, and then no
scalar that is open holds a key: whatever comes before a segment, it is marked as if nothing stood
above it (`Document.markScalars_placed`). Lines below the service may be marked in another way, but
sections and entries are cut by raw text and stay where they are. -/

namespace ComposeLint

namespace Document

/-! ## Reading lines again -/

theorem numberFrom_shifted (offset : Int) (texts : List Text) : ∀ n,
    numberFrom (n + offset) texts = (numberFrom n texts).map (Line.shifted offset) := by
  induction texts with
  | nil => exact fun _ => rfl
  | cons t rest ih =>
    intro n
    rw [numberFrom, numberFrom, List.map_cons, ← ih, Int.add_right_comm]
    rfl

/-- A document is what the texts of its lines are read as. -/
theorem ofText_eq_of_raw {text : Text} {lines : List Line}
    (h : (ofText text).map Line.raw = lines.map Line.raw) :
    ofText text = markScalars none (numberFrom 1 (lines.map Line.raw)) := by
  rw [← h, ofText_eq, map_raw_markScalars, numberFrom_map_raw]

/-- Both parts of a document are read again from the texts of their lines. -/
theorem reread_cut {text : Text} {a b : List Line} (h : ofText text = a ++ b) :
    a = markScalars none (numberFrom 1 (a.map Line.raw)) ∧
      b = markScalars (holderAfter none (numberFrom 1 (a.map Line.raw)))
        (numberFrom (1 + a.length) (b.map Line.raw)) := by
  rw [ofText_eq] at h
  obtain ⟨s, t, -, rfl, rfl⟩ := exists_cut h
  simp only [map_raw_markScalars, numberFrom_map_raw, length_markScalars, length_numberFrom,
    and_self]

/-- Lines of a document have the texts that they are read from. -/
theorem map_raw_numberFrom_raw {text : Text} {lines : List Line} (h : ∀ l ∈ lines, l ∈ ofText text)
    (n : Int) : (numberFrom n (lines.map Line.raw)).map Line.raw = lines.map Line.raw := by
  rw [map_raw_numberFrom, List.map_map]
  exact List.map_congr_left fun l hl => raw_ofText_raw (h l hl) 0

/-- What is open above an unmarked line does not hold it. -/
theorem isHeld_of_cut {text : Text} {above rest : List Line} {l : Line}
    (h : ofText text = above ++ l :: rest) (hfree : l.inScalar = false) :
    isHeld (holderAfter none (numberFrom 1 (above.map Line.raw))) l = false := by
  have hread := (reread_cut h).2
  rw [List.map_cons, numberFrom] at hread
  cases hheld : isHeld (holderAfter none (numberFrom 1 (above.map Line.raw)))
      (Line.ofText (1 + above.length) l.raw) with
  | true =>
    rw [markScalars_cons_held hheld] at hread
    rw [(List.cons.inj hread).1] at hfree
    cases hfree
  | false =>
    rw [markScalars_cons_free hheld] at hread
    rwa [← (List.cons.inj hread).1] at hheld

/-- What is open above an unmarked line stands no further out than the line. -/
theorem le_of_mem_holderAfter_cut {text : Text} {above rest : List Line} {l : Line}
    (h : ofText text = above ++ l :: rest) (hfree : l.inScalar = false) :
    ∀ i ∈ holderAfter none (numberFrom 1 (above.map Line.raw)), l.indent ≤ i := by
  intro i hi
  have hheld := isHeld_of_cut h hfree
  rw [Option.mem_def.mp hi] at hheld
  by_contra hlt
  rw [isHeld_some.mpr (.inr (Nat.not_le.mp hlt))] at hheld
  cases hheld

/-- An unmarked line and some lines after it, read again from their own texts. -/
theorem reread_of_free {text : Text} {above after : List Line} {b : Block}
    (h : ofText text = above ++ (b.lines ++ after)) (hfree : b.header.inScalar = false) :
    b.lines = markScalars none (numberFrom b.header.number (b.lines.map Line.raw)) := by
  rw [ofText_eq, Block.lines, List.cons_append] at h
  obtain ⟨n, own, hown⟩ := exists_entry_texts h hfree
  have hnumber : b.header.number = n := by
    cases own with
    | nil => cases hown
    | cons t rest =>
      rw [numberFrom, markScalars_cons_none] at hown
      rw [(List.cons.inj hown).1]
      rfl
  rw [Block.lines, hnumber, hown, map_raw_markScalars, numberFrom_map_raw]

/-- What is open after some lines stands no further out than what was open before them and than
what they open. -/
theorem le_of_mem_holderAfter {indent : Nat} {lines : List Line} : ∀ {holder : Option Nat},
    (∀ i ∈ holder, indent ≤ i) →
    (∀ l ∈ markScalars holder lines, l.inScalar = false → l.opensScalar = true →
      indent ≤ l.indent) →
    (∀ l ∈ lines, l.inScalar = false) → ∀ i ∈ holderAfter holder lines, indent ≤ i := by
  induction lines with
  | nil => exact fun hholder _ _ => hholder
  | cons l rest ih =>
    intro holder hholder hmarked hfree
    obtain ⟨hl, hrest⟩ := List.forall_mem_cons.mp hfree
    cases hheld : isHeld holder l with
    | true =>
      rw [markScalars_cons_held hheld] at hmarked
      rw [holderAfter, if_pos hheld]
      exact ih hholder (List.forall_mem_cons.mp hmarked).2 hrest
    | false =>
      rw [markScalars_cons_free hheld] at hmarked
      obtain ⟨hopens, hmarked⟩ := List.forall_mem_cons.mp hmarked
      rw [holderAfter, if_neg (by rw [hheld]; exact Bool.false_ne_true)]
      refine ih (fun i hi => ?_) hmarked hrest
      split at hi
      · next ho =>
        obtain rfl : l.indent = i := by simpa using hi
        exact hopens hl ho
      · cases hi

end Document

open Document

/-! ## Segments in other places -/

/-- The header stands at this indent, the lines are marked as if nothing stood above them, and none
of them opens a scalar further out. -/
structure Block.StandsAt (indent : Nat) (s : Block) : Prop where
  header : s.header.indent = indent
  shown : s.header.isBlank = false
  alone : s.lines = markScalars none (numberFrom s.header.number (s.lines.map Line.raw))
  deeper : ∀ l ∈ s.lines, l.inScalar = false → l.opensScalar = true → indent ≤ l.indent

namespace Document

variable {indent : Nat} {s : Block} {holder : Option Nat}

/-- Below what stands no further out than its header a segment is marked as it was. -/
theorem markScalars_segment (h : s.StandsAt indent) (hholder : ∀ i ∈ holder, indent ≤ i) (n : Int) :
    markScalars holder (numberFrom n (s.lines.map Line.raw)) =
      (s.withLines (Line.shifted (n - s.header.number))).lines := by
  have hnumbers := numberFrom_shifted (n - s.header.number) (s.lines.map Line.raw) s.header.number
  rw [show s.header.number + (n - s.header.number) = n by omega] at hnumbers
  have halone := h.alone
  have hheader : Line.ofText s.header.number s.header.raw = s.header := by
    rw [Block.lines, List.map_cons, numberFrom, markScalars_cons_none] at halone
    exact (List.cons.inj halone).1.symm
  have hheld : isHeld holder (s.header.shifted (n - s.header.number)) = false := by
    have hshown : (s.header.shifted (n - s.header.number)).isBlank = false := h.shown
    have hindent : (s.header.shifted (n - s.header.number)).indent = indent := h.header
    cases holder with
    | none => rfl
    | some i => simp [isHeld, hshown, hindent, hholder i rfl]
  calc markScalars holder (numberFrom n (s.lines.map Line.raw))
      = markScalars none (numberFrom n (s.lines.map Line.raw)) := by
        rw [hnumbers, Block.lines, List.map_cons, numberFrom, hheader, List.map_cons,
          markScalars_cons_free hheld, markScalars_cons_none]
    _ = (markScalars none (numberFrom s.header.number (s.lines.map Line.raw))).map
          (Line.shifted (n - s.header.number)) := by
        rw [hnumbers, markScalars_alike (Line.alike_shifted _) fun _ => rfl]
    _ = (s.withLines (Line.shifted (n - s.header.number))).lines := by
        rw [← halone, Block.lines_withLines]

/-- What is open after a segment stands no further out than its header. -/
theorem le_of_mem_holderAfter_segment (h : s.StandsAt indent) (hholder : ∀ i ∈ holder, indent ≤ i)
    (n : Int) : ∀ i ∈ holderAfter holder (numberFrom n (s.lines.map Line.raw)), indent ≤ i := by
  refine le_of_mem_holderAfter hholder (fun l hl hfree hopens => ?_) fun l hl => ?_
  · rw [markScalars_segment h hholder, Block.lines_withLines] at hl
    obtain ⟨m, hm, rfl⟩ := List.mem_map.mp hl
    exact h.deeper m hm hfree hopens
  · obtain ⟨t, -, m, rfl⟩ := exists_of_mem_numberFrom hl
    rfl

/-- Segments that stand at one indent keep their marks in any order. -/
theorem markScalars_placed {order : List Block} (h : ∀ s ∈ order, s.StandsAt indent) :
    ∀ {holder : Option Nat}, (∀ i ∈ holder, indent ≤ i) → ∀ n,
      markScalars holder (numberFrom n ((order.flatMap Block.lines).map Line.raw)) =
        (Block.placedFrom n order).flatMap Block.lines := by
  induction order with
  | nil => exact fun _ _ => rfl
  | cons s rest ih =>
    intro holder hholder n
    obtain ⟨hs, hrest⟩ := List.forall_mem_cons.mp h
    rw [List.flatMap_cons, List.map_append, numberFrom_append, markScalars_append,
      markScalars_segment hs hholder, List.length_map,
      ih hrest (le_of_mem_holderAfter_segment hs hholder n), Block.placedFrom, List.flatMap_cons]

end Document

/-! ## The service in its document -/

/-- The lines of a document with the segments of a block in this order. -/
def Block.reordered (b : Block) (doc : Document) (order : List Block) : List Line :=
  doc.take (b.start + 1) ++ (b.lead ++ order.flatMap lines) ++ doc.drop b.stop

namespace Document

variable {text : Text} {above rest : List Line} {b : Block} {order : List Block}

theorem reordered_of_cut (hdoc : ofText text = above ++ b.header :: (b.body ++ rest)) :
    b.reordered (ofText text) order =
      (above ++ b.header :: b.lead) ++ (order.flatMap Block.lines ++ rest) := by
  have hlength : above.length + 1 = (above ++ [b.header]).length := by simp
  have htake : (ofText text).take (b.start + 1) = above ++ [b.header] := by
    rw [start_eq_length hdoc, hdoc, List.append_cons, hlength, List.take_left' rfl]
  have hdrop : (ofText text).drop b.stop = rest := by
    rw [Block.stop, start_eq_length hdoc, ← List.drop_drop, hdoc, List.append_cons, hlength,
      List.drop_left' rfl, List.drop_left' rfl]
  rw [Block.reordered, htake, hdrop]
  simp

/-- A segment stands where its key does if no line of the body has a tab in its margin. -/
theorem standsAt_of_mem_segments (hdoc : ofText text = above ++ b.header :: (b.body ++ rest))
    (htabs : ∀ l ∈ b.body, l.hasTabMargin = false) {s : Block} (hs : s ∈ b.segments) {indent : Nat}
    (hindent : b.childIndent? = some indent) : s.StandsAt indent := by
  have hheader := (Block.isSegment_of_mem_segments hs).header
  have hshown := Line.isBlank_of_isContent (Block.isContent_of_isKeyAt hheader)
  obtain ⟨front, after, hsegments⟩ := List.append_of_mem hs
  have hlines : b.body = (b.lead ++ front.flatMap Block.lines) ++
      (s.lines ++ after.flatMap Block.lines) := by
    conv_lhs => rw [← b.lead_append_segments, hsegments]
    simp
  simp only [Block.isKeyAt, Bool.and_eq_true, beq_iff_eq, Bool.not_eq_true', hindent,
    Option.some.injEq] at hheader
  refine ⟨hheader.1.2, hshown, ?_, fun l hl hfree hopens => ?_⟩
  · have hcut : ofText text = (above ++ b.header :: (b.lead ++ front.flatMap Block.lines)) ++
        (s.lines ++ (after.flatMap Block.lines ++ rest)) := by
      rw [hdoc, hlines]
      simp
    exact reread_of_free hcut hheader.2
  · have hmem : l ∈ b.body := by
      rw [hlines]
      exact List.mem_append_right _ (List.mem_append_left _ hl)
    have hleast := (List.min?_eq_some_iff.mp hindent).2
    refine hleast _ (List.mem_map_of_mem (List.mem_filter.mpr ⟨List.mem_filter.mpr ⟨hmem, ?_⟩, ?_⟩))
    · exact Line.isContent_of_opensScalar hopens
    · rw [hfree, htabs l hmem]
      rfl

/-- A document down to the first key of a block, the segments of the block, and the lines below. -/
theorem ofText_eq_segments (hdoc : ofText text = above ++ b.header :: (b.body ++ rest)) :
    ofText text = (above ++ b.header :: b.lead) ++ (b.segments.flatMap Block.lines ++ rest) := by
  rw [hdoc]
  conv_lhs => rw [← b.lead_append_segments]
  simp

/-- Below the lead the segments are marked as they were, in any order. -/
theorem markScalars_reordered (hdoc : ofText text = above ++ b.header :: (b.body ++ rest))
    (htabs : ∀ l ∈ b.body, l.hasTabMargin = false) (horder : order.Perm b.segments) (n : Int) :
    markScalars (holderAfter none (numberFrom 1 ((above ++ b.header :: b.lead).map Line.raw)))
        (numberFrom n ((order.flatMap Block.lines).map Line.raw)) =
      (Block.placedFrom n order).flatMap Block.lines := by
  have hcut := ofText_eq_segments hdoc
  cases hsegments : b.segments with
  | nil =>
    rw [hsegments, List.perm_nil] at horder
    rw [horder]
    rfl
  | cons s others =>
    have hs : s ∈ b.segments := by simp [hsegments]
    have hheader := (Block.isSegment_of_mem_segments hs).header
    simp only [Block.isKeyAt, Bool.and_eq_true, beq_iff_eq, Bool.not_eq_true'] at hheader
    rw [hsegments, List.flatMap_cons, Block.lines, List.cons_append, List.cons_append] at hcut
    have hstands : ∀ t ∈ order, t.StandsAt s.header.indent := fun t ht =>
      standsAt_of_mem_segments hdoc htabs (horder.mem_iff.mp ht) hheader.1.2.symm
    exact markScalars_placed hstands (le_of_mem_holderAfter_cut hcut hheader.2) n

/-- The document of the texts in their new order has the lines down to the first key as they were,
then the segments at their new places. The lines below have their texts. -/
theorem exists_ofText_reordered (hdoc : ofText text = above ++ b.header :: (b.body ++ rest))
    (htabs : ∀ l ∈ b.body, l.hasTabMargin = false) (horder : order.Perm b.segments) {edited : Text}
    (hedited : (ofText edited).map Line.raw = (b.reordered (ofText text) order).map Line.raw) :
    ∃ n rest', ofText edited = above ++ b.header :: ((b.rearranged n order).body ++ rest') ∧
      rest'.map Line.raw = rest.map Line.raw := by
  have hrest : ∀ l ∈ rest, l ∈ ofText text := by
    intro l hl
    rw [hdoc]
    simp [hl]
  have hsegments := markScalars_reordered hdoc htabs horder
  have htop := (reread_cut (ofText_eq_segments hdoc)).1
  rw [reordered_of_cut hdoc] at hedited
  have hread := ofText_eq_of_raw hedited
  generalize hlead : above ++ b.header :: b.lead = top at hsegments htop hread
  rw [List.map_append, List.map_append, numberFrom_append, markScalars_append, numberFrom_append,
    markScalars_append, hsegments, ← htop] at hread
  have hbody (n : Int) (tail : List Line) :
      top ++ ((Block.placedFrom n order).flatMap Block.lines ++ tail) =
        above ++ b.header :: ((b.rearranged n order).body ++ tail) := by
    rw [← hlead, Block.rearranged]
    simp
  exact ⟨_, _, hread.trans (hbody _ _), by rw [map_raw_markScalars, map_raw_numberFrom_raw hrest]⟩

/-! ## The entry in the edited document -/

theorem exists_raw_of_mem_rearranged (horder : order.Perm b.segments) {n : Int} {l : Line}
    (hl : l ∈ (b.rearranged n order).body) : ∃ m ∈ b.body, l.raw = m.raw := by
  rw [← b.lead_append_segments]
  rcases List.mem_append.mp hl with hl | hl
  · exact ⟨l, List.mem_append_left _ hl, rfl⟩
  · obtain ⟨p, hp, hl⟩ := List.mem_flatMap.mp hl
    obtain ⟨s, hs, offset, rfl⟩ := Block.exists_of_mem_placedFrom hp
    rw [Block.lines_withLines] at hl
    obtain ⟨m, hm, rfl⟩ := List.mem_map.mp hl
    exact ⟨m, List.mem_append_right _ (List.mem_flatMap.mpr ⟨s, horder.mem_iff.mp hs, hm⟩), rfl⟩

theorem exists_mem_of_map_raw {a b : List Line} (h : a.map Line.raw = b.map Line.raw) {l : Line}
    (hl : l ∈ a) : ∃ m ∈ b, l.raw = m.raw := by
  have hmem : l.raw ∈ a.map Line.raw := List.mem_map_of_mem hl
  rw [h] at hmem
  obtain ⟨m, hm, hraw⟩ := List.mem_map.mp hmem
  exact ⟨m, hm, hraw.symm⟩

/-- What a test of texts says of the first line, it says of any line with its text. -/
theorem head?_all_of_map_raw {test : Line → Bool}
    (htest : ∀ l m : Line, l.raw = m.raw → test l = test m) {a b : List Line}
    (h : a.map Line.raw = b.map Line.raw) (hb : b.head?.all test = true) :
    a.head?.all test = true := by
  cases a with
  | nil => rfl
  | cons l rest =>
    cases b with
    | nil => cases h
    | cons m others =>
      have hraw : l.raw = m.raw := (List.cons.inj h).1
      simpa [htest l m hraw] using hb

theorem startsEntry_congr {l m : Line} (h : l.raw = m.raw) : l.startsEntry = m.startsEntry := by
  simp only [Line.startsEntry, h]

/-- The entry has its place in the section still. -/
theorem getElem?_blocks_reordered {kind : EntryKind} {k : Nat}
    (hb : ((ofText text).blocks kind)[k]? = some b) (htabs : ∀ l ∈ b.body, l.hasTabMargin = false)
    (horder : order.Perm b.segments) {edited : Text}
    (hedited : (ofText edited).map Line.raw = (b.reordered (ofText text) order).map Line.raw) :
    ∃ n, ((ofText edited).blocks kind)[k]? = some (b.rearranged n order) := by
  obtain ⟨above, top, before, after, below, hdoc, hentry⟩ := exists_isEntry hb
  have hcut : ofText text = (above ++ top :: before) ++ b.header :: (b.body ++ (after ++ below)) := by
    rw [hdoc]
    simp
  obtain ⟨n, rest, hdoc', hrest⟩ := exists_ofText_reordered hcut htabs horder hedited
  rw [List.map_append] at hrest
  obtain ⟨after', below', rfl, hafter, hbelow⟩ := List.map_eq_append_iff.mp hrest
  have hbody : ∀ l ∈ before ++ b.header :: ((b.rearranged n order).body ++ after'),
      ∃ m ∈ before ++ b.header :: (b.body ++ after), l.raw = m.raw := by
    intro l hl
    rcases List.mem_append.mp hl with hl | hl
    · exact ⟨l, by simp [hl], rfl⟩
    rcases List.mem_cons.mp hl with rfl | hl
    · exact ⟨b.header, by simp, rfl⟩
    rcases List.mem_append.mp hl with hl | hl
    · obtain ⟨m, hm, hraw⟩ := exists_raw_of_mem_rearranged horder hl
      exact ⟨m, by simp [hm], hraw⟩
    · obtain ⟨m, hm, hraw⟩ := exists_mem_of_map_raw hafter hl
      exact ⟨m, by simp [hm], hraw⟩
  have hentry' : IsEntry kind k above top before (b.rearranged n order) after' below' :=
    { lies :=
        { before := hentry.lies.before
          header := hentry.lies.header
          body := fun l hl => by
            obtain ⟨m, hm, hraw⟩ := hbody l hl
            rw [startsTopLevel_congr hraw, hentry.lies.body m hm]
          after := head?_all_of_map_raw (fun _ _ => startsTopLevel_congr) hbelow hentry.lies.after }
      count := hentry.count
      header := hentry.header
      body := fun l hl => by
        obtain ⟨m, hm, hraw⟩ := exists_raw_of_mem_rearranged horder hl
        rw [startsEntry_congr hraw, hentry.body m hm]
      after := head?_all_of_map_raw (fun _ _ => startsEntry_congr) hafter hentry.after }
  refine ⟨n, ?_⟩
  have hplace := hentry'.getElem?_blocks
  rw [hdoc']
  simpa [Block.rearranged] using hplace

/-- There is a document of the texts in their new order. -/
theorem exists_reordered {kind : EntryKind} (hb : b ∈ (ofText text).blocks kind)
    (horder : order.Perm b.segments) : ∃ edited,
      (ofText edited).map Line.raw = (b.reordered (ofText text) order).map Line.raw := by
  obtain ⟨k, hk⟩ := List.getElem?_of_mem hb
  obtain ⟨above, top, before, after, below, hdoc, -⟩ := exists_isEntry hk
  have hcut : ofText text = (above ++ top :: before) ++ b.header :: (b.body ++ (after ++ below)) := by
    rw [hdoc]
    simp
  have hlines : ∀ l ∈ b.reordered (ofText text) order, l ∈ ofText text := by
    intro l hl
    rw [Block.reordered, List.mem_append, List.mem_append] at hl
    rcases hl with (hl | hl) | hl
    · exact List.mem_of_mem_take hl
    · have hbody : l ∈ b.body := by
        rw [← b.lead_append_segments]
        exact ((horder.flatMap_right Block.lines).append_left b.lead).mem_iff.mp hl
      rw [hcut]
      simp [hbody]
    · exact List.mem_of_mem_drop hl
  refine ⟨Text.joinWith "\n" ((b.reordered (ofText text) order).map Line.raw), ?_⟩
  rw [ofText_joinWith, map_raw_markScalars, map_raw_numberFrom_raw hlines]
  · rw [reordered_of_cut hcut]
    simp
  · intro t ht
    obtain ⟨l, hl, rfl⟩ := List.mem_map.mp ht
    exact newline_not_mem_raw (hlines l hl)

end Document

/-- **The order of the fields of a service is irrelevant.** Take any service whose body has no tab in
a margin and whose keys are pairwise different. Its body is a lead and one segment for each key, from
the line of the key down to the next one or to the end of the body. There is a document in which the
segments stand in any other order and everything else stands where it was, and whatever document this
is, it has at the line of the service an entry that reads as the same service. -/
theorem field_order_is_irrelevant {text : Text} {k : Nat} {b : Block}
    (hb : ((Document.ofText text).blocks .service)[k]? = some b)
    (htabs : ∀ l ∈ b.body, l.hasTabMargin = false)
    (hkeys : (b.children.map Line.key?).Nodup) :
    b.body = b.lead ++ b.segments.flatMap Block.lines ∧
    b.segments.map Block.header = b.children ∧
    (Stack.read text).services[k]? = some (Service.ofBlock b) ∧
    ∀ order : List Block, order.Perm b.segments →
      (∃ edited, (Document.ofText edited).map Line.raw =
        (b.reordered (Document.ofText text) order).map Line.raw) ∧
      ∀ edited, (Document.ofText edited).map Line.raw =
          (b.reordered (Document.ofText text) order).map Line.raw →
        (∃ moved, ((Document.ofText edited).blocks .service)[k]? = some moved ∧
          moved.header = b.header) ∧
        (Stack.read edited).services[k]? = some (Service.ofBlock b) := by
  have hservice (u : Text) (c : Block) (hc : ((Document.ofText u).blocks .service)[k]? = some c) :
      (Stack.read u).services[k]? = some (Service.ofBlock c) := by
    simp only [Stack.read, Stack.ofDocument, List.getElem?_map, hc, Option.map_some]
  refine ⟨b.lead_append_segments.symm, b.map_header_segments, hservice text b hb,
    fun order horder => ⟨Document.exists_reordered (List.mem_of_getElem? hb) horder,
      fun edited hedited => ?_⟩⟩
  obtain ⟨n, hmoved⟩ := Document.getElem?_blocks_reordered hb htabs horder hedited
  refine ⟨⟨_, hmoved, rfl⟩, ?_⟩
  rw [hservice edited _ hmoved, Service.ofBlock_rearranged horder hkeys]

/-- A scalar, a list at the indent of its key and the remarks below it change their places. -/
theorem fields_read_backwards :
    let above : Text := "services:\n  web:\n    # lead\n".toList
    let fields : List Text := ["    image: a # b\n".toList,
      "    command: |\n      run\n\n      # text\n".toList,
      "    ports:\n    - 80:80\n\n   # remark\n".toList]
    let below : Text := "  db:\n    image: c".toList
    let text := above ++ fields.flatten ++ below
    let edited := above ++ fields.reverse.flatten ++ below
    ∃ b, ((Document.ofText text).blocks .service)[0]? = some b ∧
      (∀ l ∈ b.body, l.hasTabMargin = false) ∧ (b.children.map Line.key?).Nodup ∧
      (Document.ofText edited).map Line.raw =
        (b.reordered (Document.ofText text) b.segments.reverse).map Line.raw ∧
      (Stack.read text).services[0]? = some (Service.ofBlock b) ∧
      (Stack.read edited).services[0]? = some (Service.ofBlock b) ∧
      ((Document.ofText text).map Line.inScalar).idxOf true = 5 ∧
      ((Document.ofText edited).map Line.inScalar).idxOf true = 8 := by
  intro above fields below text edited
  let b : Block := ⟨⟨2, "  web:".toList, false⟩, [⟨3, "    # lead".toList, false⟩,
    ⟨4, "    image: a # b".toList, false⟩, ⟨5, "    command: |".toList, false⟩,
    ⟨6, "      run".toList, true⟩, ⟨7, [], true⟩, ⟨8, "      # text".toList, true⟩,
    ⟨9, "    ports:".toList, false⟩, ⟨10, "    - 80:80".toList, false⟩, ⟨11, [], false⟩,
    ⟨12, "   # remark".toList, false⟩]⟩
  have hb : ((Document.ofText text).blocks .service)[0]? = some b := by decide
  have htabs : ∀ l ∈ b.body, l.hasTabMargin = false := by decide
  have hkeys : (b.children.map Line.key?).Nodup := by decide
  have hedited : (Document.ofText edited).map Line.raw =
      (b.reordered (Document.ofText text) b.segments.reverse).map Line.raw := by decide
  obtain ⟨-, -, htext, hsame⟩ := field_order_is_irrelevant hb htabs hkeys
  obtain ⟨-, hall⟩ := hsame b.segments.reverse (List.reverse_perm _)
  exact ⟨b, hb, htabs, hkeys, hedited, htext, (hall edited hedited).2, by decide, by decide⟩

end ComposeLint
