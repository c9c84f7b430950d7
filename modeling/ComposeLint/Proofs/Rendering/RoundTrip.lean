import ComposeLint.Proofs.Rendering.Entries
import ComposeLint.Proofs.SectionLocality

/-! # Canonical documents read back

No row of a canonical document opens a scalar, so its sections are marked as they were written
(`sectionBody_render`). The entries of a section are cut where they were put together, and each of
them reads back by itself. -/

namespace ComposeLint

open Document (numberFrom numberFrom_append)

/-! ## Rows of a section -/

namespace Row

variable {r : Row} (h : r.isClean = true) (n : Int)
include h

theorem startsTopLevel_line (hindent : 0 < r.indent) : (r.line n).startsTopLevel = false := by
  obtain ⟨k, hk⟩ : ∃ k, r.indent = k + 1 := ⟨r.indent - 1, by omega⟩
  rw [line_eq n h, Line.startsTopLevel, text, hk, List.replicate_succ, List.cons_append,
    List.head?_cons]
  rfl

theorem startsEntry_line (hindent : 2 < r.indent) : (r.line n).startsEntry = false := by
  obtain ⟨k, hk⟩ : ∃ k, r.indent = k + 3 := ⟨r.indent - 3, by omega⟩
  rw [line_eq n h, Line.startsEntry, text, hk, List.replicate_succ, List.replicate_succ,
    List.replicate_succ]
  rfl

theorem isHeader_line_of_indent (kind : EntryKind) (hindent : 2 < r.indent) :
    kind.isHeader (r.line n) = false := by
  cases hheader : kind.isHeader (r.line n) with
  | false => rfl
  | true =>
    rw [← startsEntry_line h n hindent, EntryKind.startsEntry_of_isHeader hheader]

omit h in
/-- The header of an entry is known by its name. -/
theorem isHeader_line {kind : EntryKind} {name : Text} (h : name.isNameOf kind = true) :
    kind.isHeader ((key 2 name).line n) = true := by
  have hclean : (key 2 name).isClean = true := Text.isKeyName_of_isNameOf h
  simp only [Text.isNameOf, Bool.and_eq_true] at h
  cases name with
  | nil => simp at h
  | cons c rest =>
    have hrest : ∀ d ∈ rest, kind.isNameChar d = true := fun d hd =>
      List.all_eq_true.mp h.2 d (List.mem_cons_of_mem _ hd)
    have htail : (rest ++ [':']).dropWhile kind.isNameChar = [':'] := by
      rw [List.dropWhile_append_of_pos hrest]
      cases kind <;> decide
    have htext : (key 2 (c :: rest)).text.trimEnd = ' ' :: ' ' :: c :: (rest ++ [':']) :=
      Text.dropEndWhile_append_cons (p := Text.isBlank) (c := ':') (by decide)
        (' ' :: ' ' :: c :: rest) []
    have hletter : Text.isLetter c = true := by simpa using h.1
    rw [EntryKind.isHeader, line_eq n hclean, htext]
    change (Text.isLetter c && kind.mayEndWith ((rest ++ [':']).dropWhile kind.isNameChar)) = true
    rw [hletter, htail]
    cases kind <;> rfl

end Row

/-! ## Sections -/

theorem Document.isSectionHeader_sectionName (kind : EntryKind) :
    (Line.ofText 0 (Row.key 0 kind.sectionName).text).isSectionHeader kind.sectionName = true := by
  cases kind <;> decide

/-- The entries of a section are cut where they were put together. -/
theorem Segment.blocksAt_entries {kind : EntryKind} {segments : List Segment}
    (hsegments : ∀ s ∈ segments, s.IsEntry kind) (n : Int) :
    Block.blocksAt kind.isHeader Document.entryScope (Row.lines n (segments.flatMap rows)) =
      blocks n segments := by
  have hheader : ∀ s ∈ segments, ∀ m, kind.isHeader (s.header.line m) = true := by
    intro s hs m
    obtain ⟨name, hkey, hname⟩ := (hsegments s hs).header
    rw [hkey]
    exact Row.isHeader_line m hname
  refine blocksAt_lines hheader (fun s hs r hr m => ?_) (fun s hs m rest hrest => ?_) n
  · obtain ⟨hclean, hindent⟩ := (hsegments s hs).body r hr
    exact Row.isHeader_line_of_indent hclean m kind hindent
  · have hown : ∀ l ∈ Row.lines (m + 1) s.body, (!l.startsEntry) = true := by
      intro l hl
      obtain ⟨r, hr, i, rfl⟩ := Row.exists_of_mem_lines hl
      obtain ⟨hclean, hindent⟩ := (hsegments s hs).body r hr
      rw [Row.startsEntry_line hclean i hindent]
      rfl
    rw [Document.entryScope, List.takeWhile_append_of_pos hown]
    cases rest with
    | nil => simp
    | cons l rest =>
      have hl : l.startsEntry = true := EntryKind.startsEntry_of_isHeader (by simpa using hrest)
      rw [List.takeWhile_cons_of_neg (by simp [hl]), List.append_nil]

namespace Stack

variable {s : Stack} (h : s.IsCanonical) (layout : Layout)
include h

theorem isEntry_serviceSegments : ∀ t ∈ s.serviceSegments layout, t.IsEntry .service := by
  intro t ht
  obtain ⟨i, hi, rfl⟩ := List.mem_mapIdx.mp ht
  exact Service.isEntry_segment (h.services _ (List.getElem_mem hi)) _

theorem isEntry_networkSegments : ∀ t ∈ s.networkSegments layout, t.IsEntry .network := by
  intro t ht
  obtain ⟨i, hi, rfl⟩ := List.mem_mapIdx.mp ht
  exact Network.isEntry_segment (h.networks _ (List.getElem_mem hi)) _

/-- All rows below the header of a section are clean and stand deeper. -/
theorem sectionRows_spec (kind : EntryKind) :
    ∀ r ∈ s.sectionRows layout kind, r.isClean = true ∧ 0 < r.indent := by
  have hentries {segments : List Segment} (hsegments : ∀ t ∈ segments, t.IsEntry kind) :
      ∀ r ∈ segments.flatMap Segment.rows, r.isClean = true ∧ 0 < r.indent := by
    intro r hr
    obtain ⟨t, ht, hr⟩ := List.mem_flatMap.mp hr
    rcases List.mem_cons.mp hr with rfl | hr
    · obtain ⟨name, hkey, hname⟩ := (hsegments t ht).header
      rw [hkey]
      exact ⟨Text.isKeyName_of_isNameOf hname, (by decide : 0 < 2)⟩
    · obtain ⟨hclean, hindent⟩ := (hsegments t ht).body r hr
      exact ⟨hclean, by omega⟩
  cases kind with
  | service => exact hentries (isEntry_serviceSegments h layout)
  | network => exact hentries (isEntry_networkSegments h layout)
  | volume =>
    intro r hr
    obtain ⟨name, hname, rfl⟩ := List.mem_map.mp hr
    exact ⟨Text.isKeyName_of_isNameOf (h.volumes name hname), (by decide : 0 < 2)⟩

theorem newline_not_mem_sectionTexts (kind : EntryKind) :
    ∀ t ∈ s.sectionTexts layout kind, '\n' ∉ t := by
  intro t ht
  obtain ⟨r, hr, rfl⟩ := List.mem_map.mp ht
  refine Row.newline_not_mem_text ?_
  rcases List.mem_cons.mp hr with rfl | hr
  · cases kind <;> decide
  · exact (sectionRows_spec h layout kind r hr).1

theorem isSectionHeader_sectionTexts {kind other : EntryKind} (hne : other ≠ kind) :
    ∀ t ∈ s.sectionTexts layout other,
      (Line.ofText 0 t).isSectionHeader kind.sectionName = false := by
  intro t ht
  obtain ⟨r, hr, rfl⟩ := List.mem_map.mp ht
  rcases List.mem_cons.mp hr with rfl | hr
  · cases kind <;> cases other <;> first | exact absurd rfl hne | decide
  · obtain ⟨hclean, hindent⟩ := sectionRows_spec h layout other r hr
    cases hheader : (r.line 0).isSectionHeader kind.sectionName with
    | false => exact hheader
    | true =>
      have htop := Document.startsTopLevel_of_isSectionHeader hheader
      rw [Row.startsTopLevel_line hclean 0 hindent] at htop
      cases htop

/-- The lines of a stack around one section: what stands above it has no header of its kind, and
what follows its rows ends it, or is the blank line at the very end. -/
theorem exists_texts (kind : EntryKind) : ∃ above rest below,
    [.service, .network, .volume].flatMap (s.sectionTexts layout) ++
        (if layout.finalBreak then [[]] else []) =
      above ++ (Row.key 0 kind.sectionName).text ::
        (((s.sectionRows layout kind).map Row.text ++ rest) ++ below) ∧
    (∀ t ∈ above, (Line.ofText 0 t).isSectionHeader kind.sectionName = false) ∧
    (∀ t ∈ rest, t = []) ∧ (kind ≠ .volume → rest = []) ∧
    below.head?.all (fun t => (Line.ofText 0 t).startsTopLevel) = true := by
  obtain ⟨before, after, hkinds, hbefore, hlast⟩ : ∃ before after,
      [EntryKind.service, .network, .volume] = before ++ kind :: after ∧
        (∀ k ∈ before, k ≠ kind) ∧ (kind ≠ .volume → after ≠ []) := by
    cases kind with
    | service => exact ⟨[], [.network, .volume], rfl, by decide, by decide⟩
    | network => exact ⟨[.service], [.volume], rfl, by decide, by decide⟩
    | volume => exact ⟨[.service, .network], [], rfl, by decide, by decide⟩
  obtain ⟨final, hfinal, hblank⟩ : ∃ final : List Text,
      (if layout.finalBreak then [[]] else []) = final ∧ ∀ t ∈ final, t = [] :=
    ⟨_, rfl, by cases layout.finalBreak <;> simp⟩
  obtain ⟨rest, below, hrest, hrestblank, hnil, hbelow⟩ : ∃ rest below,
      after.flatMap (s.sectionTexts layout) ++ final = rest ++ below ∧ (∀ t ∈ rest, t = []) ∧
        (after ≠ [] → rest = []) ∧
        below.head?.all (fun t => (Line.ofText 0 t).startsTopLevel) = true := by
    cases after with
    | nil => exact ⟨final, [], by simp, hblank, fun hne => absurd rfl hne, rfl⟩
    | cons k others =>
      exact ⟨[], _, rfl, by simp, fun _ => rfl,
        Document.startsTopLevel_of_isSectionHeader (Document.isSectionHeader_sectionName k)⟩
  refine ⟨before.flatMap (s.sectionTexts layout), rest, below, ?_, ?_, hrestblank,
    fun hne => hnil (hlast hne), hbelow⟩
  · rw [hfinal, hkinds, List.flatMap_append, List.flatMap_cons, List.append_assoc,
      List.append_assoc, hrest, sectionTexts, List.map_cons, List.cons_append, List.append_assoc]
  · intro t ht
    obtain ⟨other, hother, ht⟩ := List.mem_flatMap.mp ht
    exact isSectionHeader_sectionTexts h layout (hbefore other hother) t ht

theorem newline_not_mem_texts :
    ∀ t ∈ [.service, .network, .volume].flatMap (s.sectionTexts layout) ++
      (if layout.finalBreak then [[]] else []), '\n' ∉ t := by
  intro t ht
  rcases List.mem_append.mp ht with ht | ht
  · obtain ⟨kind, -, ht⟩ := List.mem_flatMap.mp ht
    exact newline_not_mem_sectionTexts h layout kind t ht
  · split at ht
    · rw [List.mem_singleton.mp ht]
      exact List.not_mem_nil
    · cases ht

/-- The lines below the header of a section are those that were written there, and after the last
section perhaps a blank one. -/
theorem sectionBody_render (kind : EntryKind) : ∃ n tail,
    (Document.ofText (s.render layout)).sectionBody kind.sectionName =
      Row.lines n (s.sectionRows layout kind) ++ tail ∧
    (∀ l ∈ tail, l.isBlank = true) ∧ (kind ≠ .volume → tail = []) := by
  obtain ⟨above, rest, below, htexts, habove, hblank, hnil, hbelow⟩ := exists_texts h layout kind
  have hown : ∀ t ∈ (s.sectionRows layout kind).map Row.text ++ rest,
      (Line.ofText 0 t).startsTopLevel = false := by
    intro t ht
    rcases List.mem_append.mp ht with ht | ht
    · obtain ⟨r, hr, rfl⟩ := List.mem_map.mp ht
      obtain ⟨hclean, hindent⟩ := sectionRows_spec h layout kind r hr
      exact Row.startsTopLevel_line hclean 0 hindent
    · rw [hblank t ht]
      rfl
  have hempty : ∀ m, ∀ l ∈ numberFrom m rest, ∃ i, l = Line.ofText i [] := by
    intro m l hl
    obtain ⟨t, ht, i, rfl⟩ := Document.exists_of_mem_numberFrom hl
    exact ⟨i, by rw [hblank t ht]⟩
  rw [render, htexts, Document.sectionBody_joinWith (htexts ▸ newline_not_mem_texts h layout) habove
    (Document.isSectionHeader_sectionName kind) hown hbelow, numberFrom_append,
    Document.markScalars_eq_self]
  · refine ⟨_, _, rfl, fun l hl => ?_, fun hne => ?_⟩
    · obtain ⟨i, rfl⟩ := hempty _ l hl
      rfl
    · rw [hnil hne]
      rfl
  · intro l hl
    rcases List.mem_append.mp hl with hl | hl
    · obtain ⟨r, hr, i, rfl⟩ := Row.exists_of_mem_lines hl
      exact Row.opensScalar_line (sectionRows_spec h layout kind r hr).1 i
    · obtain ⟨i, rfl⟩ := hempty _ l hl
      rfl

theorem services_render :
    ((Document.ofText (s.render layout)).blocks .service).map Service.ofBlock = s.services := by
  obtain ⟨n, tail, hbody, -, htail⟩ := sectionBody_render h layout .service
  have hcut := Segment.blocksAt_entries (isEntry_serviceSegments h layout) n
  rw [Document.blocks, hbody, htail (by decide), List.append_nil, sectionRows, hcut,
    serviceSegments, List.mapIdx_eq_zipIdx_map]
  refine (Segment.map_blocks (fun v hv m => ?_) n).trans (List.zipIdx_map_fst 0 s.services)
  exact Service.ofBlock_segment (h.services _ (List.fst_mem_of_mem_zipIdx hv)) _ m

theorem networks_render :
    ((Document.ofText (s.render layout)).blocks .network).map Network.ofBlock = s.networks := by
  obtain ⟨n, tail, hbody, -, htail⟩ := sectionBody_render h layout .network
  have hcut := Segment.blocksAt_entries (isEntry_networkSegments h layout) n
  rw [Document.blocks, hbody, htail (by decide), List.append_nil, sectionRows, hcut,
    networkSegments, List.mapIdx_eq_zipIdx_map]
  refine (Segment.map_blocks (fun v hv m => ?_) n).trans (List.zipIdx_map_fst 0 s.networks)
  exact Network.ofBlock_segment (h.networks _ (List.fst_mem_of_mem_zipIdx hv)) _ m

/-- A volume is read off its header alone, so the blank line at the end does not matter. -/
theorem volumes_render :
    ((Document.ofText (s.render layout)).blocks .volume).map Block.name = s.volumes := by
  obtain ⟨n, tail, hbody, hblank, -⟩ := sectionBody_render h layout .volume
  have hnames (blocks : List Block) :
      blocks.map Block.name = (blocks.map Block.header).map fun l => Block.name ⟨l, []⟩ := by
    rw [List.map_map]
    rfl
  have hheaders : (Row.lines n (s.volumes.map (.key 2)) ++ tail).filter EntryKind.volume.isHeader =
      Row.lines n (s.volumes.map (.key 2)) := by
    rw [List.filter_append, List.filter_eq_self.mpr, List.filter_eq_nil_iff.mpr, List.append_nil]
    · intro l hl
      rw [Line.isHeader_of_isBlank .volume (hblank l hl)]
      simp
    · intro l hl
      obtain ⟨r, hr, m, rfl⟩ := Row.exists_of_mem_lines hl
      obtain ⟨name, hname, rfl⟩ := List.mem_map.mp hr
      exact Row.isHeader_line m (h.volumes name hname)
  rw [Document.blocks, hbody, hnames, Block.map_header_blocksAt, sectionRows, hheaders,
    Row.map_lines (g := fun r => r.key?.getD []), List.map_map]
  · exact List.map_id' s.volumes
  · intro r hr m
    obtain ⟨name, hname, rfl⟩ := List.mem_map.mp hr
    exact Segment.name_block (k := 2) (Text.isKeyName_of_isNameOf (h.volumes name hname)) [] m

end Stack

/-- **A canonical stack reads back from its rendering.** This is so in every layout: the fields in
any order, each list and mapping in any of its forms. -/
theorem read_render (layout : Layout) {s : Stack} (h : s.IsCanonical) :
    Stack.read (s.render layout) = s := by
  rw [Stack.read, Stack.ofDocument, Stack.services_render h layout, Stack.networks_render h layout,
    Stack.volumes_render h layout]

/-- Two services, written in opposite orders and in different forms. -/
theorem read_render_two :
    let first : ServiceLayout :=
      ⟨Field.all, .refl _, .block, .compact, .list .block, .bracket, .list .bracket,
        .list .compact, by decide, .mapping, .block⟩
    let second : ServiceLayout :=
      ⟨Field.all.reverse, Field.all.reverse_perm, .bracket, .block, .mapping, .compact,
        .list .block, .mapping, by decide, .list .bracket, .compact⟩
    let layout : Layout :=
      ⟨fun i => if i = 0 then first else second, fun _ => ⟨NetworkField.all, .refl _⟩, true⟩
    let web : Service :=
      { name := "web".toList, image? := some "nginx:1.25".toList,
        command? := some (.line "run".toList), restart? := some "always".toList,
        ports := [⟨"80".toList, "80".toList⟩, ⟨"8443".toList, "443".toList⟩],
        environment := [⟨"MODE".toList, some "-1".toList⟩, ⟨"_HOME".toList, none⟩],
        volumes := [⟨"./site".toList, "/srv".toList⟩], networks := [⟨"front".toList, none⟩],
        dependsOn := ["db".toList, "cache".toList],
        sysctls := [⟨"net.core.somaxconn".toList, "1024".toList⟩],
        capabilities := ["NET_ADMIN".toList] }
    let db : Service :=
      { web with
        name := "db".toList, command? := some (.parts ["-c".toList, "-".toList]),
        networks := [⟨"front".toList, none⟩, ⟨"back".toList, some "10.0.0.2".toList⟩] }
    let stack : Stack :=
      ⟨[web, db], [⟨"front".toList, false, none⟩, ⟨"back".toList, true, some "bridge".toList⟩],
        ["data.1".toList]⟩
    stack.IsCanonical ∧ Stack.read (stack.render layout) = stack := by
  intro first second layout web db stack
  have hcanonical : stack.IsCanonical := by decide
  exact ⟨hcanonical, read_render layout hcanonical⟩

end ComposeLint
