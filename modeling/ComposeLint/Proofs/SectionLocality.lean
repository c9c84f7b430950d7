import ComposeLint.Proofs.Document.Sections
import ComposeLint.Proofs.Moved.Document

/-! # A section is read by itself

What a document tells of one section is what the lines of that section tell when they stand alone,
or between any other lines that neither bring an earlier header nor go on in the section. The
header ends every scalar above it, so the body is marked from a fresh start (`exists_body_texts`);
after that only line numbers differ, and by one offset. -/

namespace ComposeLint

open Line (moved)

namespace Document

theorem isSectionHeader_congr {l m : Line} (h : l.raw = m.raw) (name : Text) :
    l.isSectionHeader name = m.isSectionHeader name := by
  simp only [Line.isSectionHeader, Line.trimmed, h]

theorem startsTopLevel_congr {l m : Line} (h : l.raw = m.raw) :
    l.startsTopLevel = m.startsTopLevel := by
  simp only [Line.startsTopLevel, h]

/-- Marked lines still have their texts. -/
theorem exists_mem_raw {holder : Option Nat} {n : Int} {texts : List Text} {l : Line}
    (h : l ∈ markScalars holder (numberFrom n texts)) :
    ∃ t ∈ texts, l.raw = (Line.ofText 0 t).raw := by
  have hmem : l.raw ∈ (markScalars holder (numberFrom n texts)).map Line.raw :=
    List.mem_map_of_mem h
  rw [map_raw_markScalars, map_raw_numberFrom] at hmem
  obtain ⟨t, ht, hraw⟩ := List.mem_map.mp hmem
  exact ⟨t, ht, hraw.symm⟩

theorem head?_raw (holder : Option Nat) (n : Int) (texts : List Text) :
    (markScalars holder (numberFrom n texts)).head?.map Line.raw =
      texts.head?.map fun t => (Line.ofText 0 t).raw := by
  rw [← List.head?_map, map_raw_markScalars, map_raw_numberFrom, List.head?_map]
  rfl

/-- Below a section header the marking starts afresh. -/
theorem markScalars_sectionHeader {kind : EntryKind} {l : Line}
    (h : l.isSectionHeader kind.sectionName = true) (hnl : '\n' ∉ l.raw) (holder : Option Nat)
    (rest : List Line) : markScalars holder (l :: rest) = l :: markScalars none rest := by
  rw [markScalars_cons_free (isHeld_sectionHeader h holder), opensScalar_sectionHeader h hnl,
    if_neg (by simp)]

/-- The body of a section that is put together from texts. -/
theorem sectionBody_joinWith {kind : EntryKind} {above own below : List Text} {header : Text}
    (hnl : ∀ t ∈ above ++ header :: (own ++ below), '\n' ∉ t)
    (habove : ∀ t ∈ above, (Line.ofText 0 t).isSectionHeader kind.sectionName = false)
    (hheader : (Line.ofText 0 header).isSectionHeader kind.sectionName = true)
    (hown : ∀ t ∈ own, (Line.ofText 0 t).startsTopLevel = false)
    (hbelow : below.head?.all (fun t => (Line.ofText 0 t).startsTopLevel) = true) :
    sectionBody (ofText (Text.joinWith "\n" (above ++ header :: (own ++ below)))) kind.sectionName =
      markScalars none (numberFrom (1 + above.length + 1) own) := by
  have hraw (n : Int) : (Line.ofText n header).raw = (Line.ofText 0 header).raw := rfl
  have hdoc : ofText (Text.joinWith "\n" (above ++ header :: (own ++ below))) =
      markScalars none (numberFrom 1 above) ++ Line.ofText (1 + above.length) header ::
        (markScalars none (numberFrom (1 + above.length + 1) own) ++
          markScalars (holderAfter none (numberFrom (1 + above.length + 1) own))
            (numberFrom (1 + above.length + 1 + own.length) below)) := by
    rw [ofText_joinWith (by simp) hnl, numberFrom_append, markScalars_append, numberFrom,
      @markScalars_sectionHeader kind, numberFrom_append, markScalars_append]
    · rw [isSectionHeader_congr (hraw _)]
      exact hheader
    · exact fun hmem => hnl header (by simp) (Text.mem_of_mem_dropEndWhile hmem)
  have hsection : IsSection kind.sectionName (markScalars none (numberFrom 1 above))
      (Line.ofText (1 + above.length) header)
      (markScalars none (numberFrom (1 + above.length + 1) own))
      (markScalars (holderAfter none (numberFrom (1 + above.length + 1) own))
        (numberFrom (1 + above.length + 1 + own.length) below)) := by
    refine ⟨fun l hl => ?_, by rwa [isSectionHeader_congr (hraw _)], fun l hl => ?_, ?_⟩
    · obtain ⟨t, ht, heq⟩ := exists_mem_raw hl
      rw [isSectionHeader_congr heq, habove t ht]
    · obtain ⟨t, ht, heq⟩ := exists_mem_raw hl
      rw [startsTopLevel_congr heq, hown t ht]
    · have hhead := head?_raw (holderAfter none (numberFrom (1 + above.length + 1) own))
        (1 + above.length + 1 + own.length) below
      cases below with
      | nil => rfl
      | cons t rest =>
        have ht : (Line.ofText 0 t).startsTopLevel = true := by simpa using hbelow
        cases hl : (markScalars _ (numberFrom _ (t :: rest))).head? with
        | none => rfl
        | some l =>
          rw [hl, List.head?_cons, Option.map_some, Option.map_some, Option.some.injEq] at hhead
          simpa [startsTopLevel_congr hhead] using ht
  rw [hdoc, hsection.sectionBody]

/-- The body of a section is marked as if nothing stood above it. -/
theorem exists_body_texts {kind : EntryKind} {text : Text} {before body after : List Line}
    {header : Line} (hdoc : ofText text = before ++ header :: (body ++ after))
    (h : header.isSectionHeader kind.sectionName = true) :
    ∃ n texts, body = markScalars none (numberFrom n texts) := by
  have hmem : header ∈ ofText text := by
    rw [hdoc]
    simp
  have hnl := newline_not_mem_raw hmem
  rw [ofText_eq] at hdoc
  obtain ⟨above, rest, -, -, hrest⟩ := exists_cut hdoc
  cases rest with
  | nil => cases hrest
  | cons t rest =>
    rw [numberFrom] at hrest
    have hraw : header.raw = (Line.ofText (1 + above.length) t).raw := by
      have := congrArg (fun ls => (ls.map Line.raw).head?) hrest
      rw [map_raw_markScalars] at this
      simpa using this
    have hheader := isSectionHeader_congr hraw kind.sectionName
    rw [h] at hheader
    rw [markScalars_sectionHeader hheader.symm (hraw ▸ hnl)] at hrest
    obtain ⟨texts, -, -, hbody, -⟩ := exists_cut (List.cons.inj hrest).2.symm
    exact ⟨_, texts, hbody⟩

/-- Lines that are read again from their own texts are the same but for their numbers. -/
theorem reread_moved {n : Int} {texts : List Text} {lines : List Line}
    (h : lines = markScalars none (numberFrom n texts)) (m : Int) :
    (markScalars none (numberFrom m (lines.map Line.raw))).map (moved id) =
      lines.map (moved (· + (m - n))) := by
  have hsame : (numberFrom m texts).map (moved id) =
      (numberFrom n texts).map (moved (· + (m - n))) := by
    have := map_moved_numberFrom (rfl : texts.map Text.trimEnd = _) (m - n) n
    rwa [show n + (m - n) = m by omega] at this
  rw [h, map_raw_markScalars, numberFrom_map_raw, ← markScalars_moved, hsame, markScalars_moved]

/-- A section between other lines has the body that it has in its own document, at an offset. -/
theorem sectionBody_relocated {kind : EntryKind} {text : Text} {before body after : List Line}
    {header : Line} (hdoc : ofText text = before ++ header :: (body ++ after))
    (h : IsSection kind.sectionName before header body after) {above below : List Text}
    (hnl : ∀ t ∈ above ++ below, '\n' ∉ t)
    (habove : ∀ t ∈ above, (Line.ofText 0 t).isSectionHeader kind.sectionName = false)
    (hbelow : below.head?.all (fun t => (Line.ofText 0 t).startsTopLevel) = true) :
    ∃ offset, (sectionBody (ofText (Text.joinWith "\n"
        (above ++ (header :: body).map Line.raw ++ below))) kind.sectionName).map (moved id) =
      body.map (moved (· + offset)) := by
  have hmem : ∀ l ∈ header :: body, l ∈ ofText text := by
    intro l hl
    rw [hdoc]
    rcases List.mem_cons.mp hl with rfl | hl
    · simp
    · simp [hl]
  have hlines : ∀ t ∈ above ++ header.raw :: (body.map Line.raw ++ below), '\n' ∉ t := by
    intro t ht
    simp only [List.mem_append, List.mem_cons, List.mem_map] at ht
    rcases ht with ht | rfl | ⟨l, hl, rfl⟩ | ht
    · exact hnl t (by simp [ht])
    · exact newline_not_mem_raw (hmem header (by simp))
    · exact newline_not_mem_raw (hmem l (by simp [hl]))
    · exact hnl t (by simp [ht])
  obtain ⟨n, texts, hbody⟩ := exists_body_texts hdoc h.header
  refine ⟨1 + above.length + 1 - n, ?_⟩
  rw [List.append_assoc, List.map_cons, List.cons_append, sectionBody_joinWith hlines habove
    ?_ ?_ hbelow, reread_moved hbody]
  · rw [isSectionHeader_congr (raw_ofText_raw (hmem header (by simp)) 0)]
    exact h.header
  · intro t ht
    obtain ⟨l, hl, rfl⟩ := List.mem_map.mp ht
    rw [startsTopLevel_congr (raw_ofText_raw (hmem l (by simp [hl])) 0)]
    exact h.body l hl

end Document

/-! ## What is read off a section -/

/-- Whether two stacks hold the same entries of one kind. -/
def Stack.AgreesOn (kind : EntryKind) (a b : Stack) : Prop :=
  match kind with
  | .service => a.services = b.services
  | .network => a.networks = b.networks
  | .volume => a.volumes = b.volumes

/-- The count of one kind. -/
def Counts.of (kind : EntryKind) (c : Counts) : Nat :=
  match kind with
  | .service => c.services
  | .network => c.networks
  | .volume => c.volumes

/-- The texts of the lines of a section, its header first. -/
def Section.ownTexts (s : Section) (doc : Document) : List Text :=
  ((doc.take s.stop).drop s.start).map Line.raw

theorem Stack.agreesOn_of_sectionBody {kind : EntryKind} {doc doc' : Document}
    {place : Int → Int} (hp : StrictMono place)
    (h : (doc'.sectionBody kind.sectionName).map (moved id) =
      (doc.sectionBody kind.sectionName).map (moved place)) :
    (Stack.ofDocument doc').AgreesOn kind (Stack.ofDocument doc) := by
  have hblocks : (doc'.blocks kind).map (Block.moved id) =
      (doc.blocks kind).map (Block.moved place) := by
    rw [Document.blocks, ← Document.entryBlocks_moved, h, Document.entryBlocks_moved,
      Document.blocks]
  cases kind with
  | service =>
    have hread := congrArg (List.map Service.ofBlock) hblocks
    change (doc'.blocks .service).map Service.ofBlock = (doc.blocks .service).map Service.ofBlock
    simpa only [List.map_map, Function.comp_def, Service.ofBlock_moved strictMono_id,
      Service.ofBlock_moved hp] using hread
  | network =>
    have hread := congrArg (List.map Network.ofBlock) hblocks
    change (doc'.blocks .network).map Network.ofBlock = (doc.blocks .network).map Network.ofBlock
    simpa only [List.map_map, Function.comp_def, Network.ofBlock_moved] using hread
  | volume =>
    have hread := congrArg (List.map Block.name) hblocks
    change (doc'.blocks .volume).map Block.name = (doc.blocks .volume).map Block.name
    simpa only [List.map_map, Function.comp_def, Block.name_moved] using hread

theorem Counts.of_eq_of_sectionBody {kind : EntryKind} {doc doc' : Document} {place : Int → Int}
    (h : (doc'.sectionBody kind.sectionName).map (moved id) =
      (doc.sectionBody kind.sectionName).map (moved place)) :
    (Counts.ofDocument doc').of kind = (Counts.ofDocument doc).of kind := by
  have hcount := congrArg (List.countP kind.isHeader) h
  rw [List.countP_map, List.countP_map] at hcount
  simp only [Function.comp_def, Line.moved_isHeader] at hcount
  cases kind <;> exact hcount

/-- **A section is read by itself.** The entries and the count of a section are those of its own
lines as a document, and stay so between any other lines: none above may be a header of the same
section, and the first below, if there is one, has to end it. -/
theorem section_read_alone {text : Text} {kind : EntryKind} {s : Section}
    (h : (Document.ofText text).section? kind.sectionName = some s) :
    let own := s.ownTexts (Document.ofText text)
    ((Stack.read (Text.joinWith "\n" own)).AgreesOn kind (Stack.read text) ∧
      (Counts.read (Text.joinWith "\n" own)).of kind = (Counts.read text).of kind) ∧
    ∀ above below : List Text, (∀ t ∈ above ++ below, '\n' ∉ t) →
      (∀ t ∈ above, (Line.ofText 0 t).isSectionHeader kind.sectionName = false) →
      below.head?.all (fun t => (Line.ofText 0 t).startsTopLevel) = true →
      let edited := Text.joinWith "\n" (above ++ own ++ below)
      (Stack.read edited).AgreesOn kind (Stack.read text) ∧
        (Counts.read edited).of kind = (Counts.read text).of kind := by
  obtain ⟨before, header, body, after, hdoc, hsection, rfl⟩ := Document.exists_isSection h
  have hbody : (Document.ofText text).sectionBody kind.sectionName = body := by
    rw [hdoc, hsection.sectionBody]
  have hown : Section.ownTexts ⟨kind.sectionName, before.length, before.length + 1 + body.length⟩
      (Document.ofText text) = (header :: body).map Line.raw := by
    rw [Section.ownTexts, hdoc, Document.take_drop_section]
  have hedited : ∀ above below : List Text, (∀ t ∈ above ++ below, '\n' ∉ t) →
      (∀ t ∈ above, (Line.ofText 0 t).isSectionHeader kind.sectionName = false) →
      below.head?.all (fun t => (Line.ofText 0 t).startsTopLevel) = true →
      let edited := Text.joinWith "\n" (above ++ (header :: body).map Line.raw ++ below)
      (Stack.read edited).AgreesOn kind (Stack.read text) ∧
        (Counts.read edited).of kind = (Counts.read text).of kind := by
    intro above below hnl habove hbelow
    obtain ⟨offset, hmoved⟩ := Document.sectionBody_relocated hdoc hsection hnl habove hbelow
    have hmoved := hmoved.trans (congrArg (List.map (moved (· + offset))) hbody.symm)
    have hp : StrictMono (· + offset) := fun a b hab => Int.add_lt_add_right hab offset
    exact ⟨Stack.agreesOn_of_sectionBody hp hmoved, Counts.of_eq_of_sectionBody hmoved⟩
  dsimp only
  rw [hown]
  refine ⟨?_, hedited⟩
  have halone := hedited [] [] (by simp) (by simp) rfl
  simpa only [List.nil_append, List.append_nil] using halone

/-- Neither the scalar above nor the key below has a part in these volumes. -/
theorem volumes_read_alone :
    let text : Text :=
      "x: |\n  volumes:\nvolumes: # all\n  data:\n    note: |\n  logs:\nend:".toList
    let own : List Text :=
      ["volumes: # all".toList, "  data:".toList, "    note: |".toList, "  logs:".toList]
    let edited := Text.joinWith "\n" (["y: >".toList] ++ own ++ ["z: volumes:".toList])
    (Document.ofText text).section? EntryKind.volume.sectionName =
        some ⟨"volumes".toList, 2, 6⟩ ∧
      (Stack.read (Text.joinWith "\n" own)).volumes = (Stack.read text).volumes ∧
      (Stack.read edited).volumes = (Stack.read text).volumes ∧
      (Counts.read edited).volumes = (Counts.read text).volumes := by
  intro text own edited
  have hsection : (Document.ofText text).section? EntryKind.volume.sectionName =
      some ⟨"volumes".toList, 2, 6⟩ := by decide
  obtain ⟨⟨halone, -⟩, hbetween⟩ := section_read_alone hsection
  obtain ⟨hstack, hcounts⟩ :=
    hbetween ["y: >".toList] ["z: volumes:".toList] (by decide) (by decide) (by decide)
  exact ⟨hsection, halone, hstack, hcounts⟩

end ComposeLint
