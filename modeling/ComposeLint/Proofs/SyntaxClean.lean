import ComposeLint.Proofs.Rendering.RoundTrip
import ComposeLint.Proofs.Rendering.TidySegment

/-! # Canonical documents are free of syntax issues

A canonical stack is written in tidy rows, whatever its names are: a service may be called like a
section, and a mount may look like one. Keys meet again only in different segments, where the one is
out of sight of the other, as long as the names in each part of the stack are distinct. Lists in
brackets are left out here, since a line that holds all of a list may hold two section names. -/

namespace ComposeLint

/-- No list of any service stands in brackets. -/
def Layout.IsBracketFree (layout : Layout) : Prop := ∀ i, (layout.service i).IsBracketFree

namespace Stack

/-- The names of each kind are distinct, and so are the keys of each mapping. -/
structure HasDistinctKeys (layout : Layout) (s : Stack) : Prop where
  services : (s.services.map Service.name).Nodup
  networks : (s.networks.map Network.name).Nodup
  volumes : s.volumes.Nodup
  fields : ∀ p ∈ s.services.zipIdx, p.1.HasDistinctKeys (layout.service p.2)

instance (layout : Layout) (s : Stack) : Decidable (s.HasDistinctKeys layout) :=
  decidable_of_iff
    ((s.services.map Service.name).Nodup ∧ (s.networks.map Network.name).Nodup ∧ s.volumes.Nodup ∧
      ∀ p ∈ s.services.zipIdx, p.1.HasDistinctKeys (layout.service p.2))
    ⟨fun ⟨h₁, h₂, h₃, h₄⟩ => ⟨h₁, h₂, h₃, h₄⟩,
    fun h => ⟨h.services, h.networks, h.volumes, h.fields⟩⟩

/-- A section with its header, as a segment of the whole document. -/
def sectionSegment (layout : Layout) (s : Stack) (kind : EntryKind) : Segment :=
  ⟨.key 0 kind.sectionName, s.sectionRows layout kind⟩

/-- All rows of a document. -/
def rows (layout : Layout) (s : Stack) : List Row :=
  ([.service, .network, .volume].map (s.sectionSegment layout)).flatMap Segment.rows

theorem texts_eq (layout : Layout) (s : Stack) :
    [.service, .network, .volume].flatMap (s.sectionTexts layout) =
      (s.rows layout).map Row.text := by
  rw [rows, List.map_flatMap, List.flatMap_map]
  rfl

variable {s : Stack} (h : s.IsCanonical) {layout : Layout} (hkeys : s.HasDistinctKeys layout)
  (hforms : layout.IsBracketFree)
include h

theorem standsAt_sectionSegment (layout : Layout) (kind : EntryKind) :
    (s.sectionSegment layout kind).StandsAt 0 where
  indent := rfl
  key := rfl
  clean := by
    have hheader : (Row.key 0 kind.sectionName).isClean = true := by cases kind <;> decide
    intro r hr
    rcases List.mem_cons.mp hr with rfl | hr
    · exact hheader
    · exact (sectionRows_spec h layout kind r hr).1
  body := fun r hr => .inl (sectionRows_spec h layout kind r hr).2

theorem isClean_rows (layout : Layout) : ∀ r ∈ s.rows layout, r.isClean = true := by
  intro r hr
  obtain ⟨t, ht, hr⟩ := List.mem_flatMap.mp hr
  obtain ⟨kind, -, rfl⟩ := List.mem_map.mp ht
  exact (standsAt_sectionSegment h layout kind).clean r hr

/-- The lines of a document are its rows, and perhaps a blank one. -/
theorem ofText_render (layout : Layout) : ∃ tail : List Line, (∀ l ∈ tail, l.isBlank = true) ∧
    Document.ofText (s.render layout) = Row.lines 1 (s.rows layout) ++ tail := by
  obtain ⟨final, hfinal, hblank⟩ : ∃ final : List Text,
      (if layout.finalBreak then [[]] else []) = final ∧ ∀ t ∈ final, t = [] :=
    ⟨_, rfl, by cases layout.finalBreak <;> simp⟩
  have hnewline := newline_not_mem_texts h layout
  have hempty : ∀ m, ∀ l ∈ Document.numberFrom m final, ∃ i, l = Line.ofText i [] := by
    intro m l hl
    obtain ⟨t, ht, i, rfl⟩ := Document.exists_of_mem_numberFrom hl
    exact ⟨i, by rw [hblank t ht]⟩
  refine ⟨Document.numberFrom (1 + (s.rows layout).length) final, fun l hl => ?_, ?_⟩
  · obtain ⟨i, rfl⟩ := hempty _ l hl
    rfl
  · rw [hfinal, texts_eq] at hnewline
    rw [render, hfinal, texts_eq, Document.ofText_joinWith (by simp [rows, Segment.rows]) hnewline,
      Document.numberFrom_append, List.length_map, Document.markScalars_eq_self, Row.lines]
    intro l hl
    rcases List.mem_append.mp hl with hl | hl
    · obtain ⟨r, hr, i, rfl⟩ := Row.exists_of_mem_lines hl
      exact Row.opensScalar_line (isClean_rows h layout r hr) i
    · obtain ⟨i, rfl⟩ := hempty _ l hl
      rfl

include hkeys hforms

theorem isTidy_sectionSegment (kind : EntryKind) : (s.sectionSegment layout kind).IsTidy := by
  have hheader : (Row.key 0 kind.sectionName).IsTidy :=
    Segment.isTidy_header rfl (by cases kind <;> decide)
  cases kind with
  | service =>
    refine Segment.isTidy_nested hheader
      (fun t ht => (isEntry_serviceSegments h layout t ht).standsAt) (fun t ht => ?_)
      (Segment.nodup_keys_mapIdx (fun _ _ => rfl) hkeys.services)
    obtain ⟨i, hi, rfl⟩ := List.mem_mapIdx.mp ht
    have hmem : (s.services[i], i) ∈ s.services.zipIdx :=
      List.mk_mem_zipIdx_iff_getElem?.mpr (by simp)
    exact Service.isTidy_segment (h.services _ (List.getElem_mem hi)) (hkeys.fields _ hmem)
      (hforms i)
  | network =>
    refine Segment.isTidy_nested hheader
      (fun t ht => (isEntry_networkSegments h layout t ht).standsAt) (fun t ht => ?_)
      (Segment.nodup_keys_mapIdx (fun _ _ => rfl) hkeys.networks)
    obtain ⟨i, hi, rfl⟩ := List.mem_mapIdx.mp ht
    exact Network.isTidy_segment (h.networks _ (List.getElem_mem hi)) _
  | volume =>
    have hrows : s.volumes.map (Row.key 2) =
        (s.volumes.map (Segment.bare 2)).flatMap Segment.rows := by
      rw [List.flatMap_map, List.map_eq_flatMap]
      rfl
    have hvolumes (name : Text) (hname : name ∈ s.volumes) : name.isKeyName = true :=
      Text.isKeyName_of_isNameOf (h.volumes name hname)
    rw [sectionSegment, sectionRows, hrows]
    refine Segment.isTidy_nested hheader
      (List.forall_mem_map.mpr fun name hname => Segment.standsAt_bare (hvolumes name hname))
      (List.forall_mem_map.mpr fun name hname => Segment.isTidy_bare rfl (hvolumes name hname)) ?_
    rw [List.map_map]
    exact hkeys.volumes.map (Option.some_injective Text)

theorem isTidy_rows : (∀ r ∈ s.rows layout, r.IsTidy) ∧ Row.IsRepeatFree (s.rows layout) := by
  have htidy := isTidy_sectionSegment h hkeys hforms
  refine ⟨fun r hr => ?_, Segment.isRepeatFree_flatMap
    (List.forall_mem_map.mpr fun kind _ => standsAt_sectionSegment h layout kind)
    (List.forall_mem_map.mpr fun kind _ => (htidy kind).body) ?_⟩
  · obtain ⟨t, ht, hr⟩ := List.mem_flatMap.mp hr
    obtain ⟨kind, -, rfl⟩ := List.mem_map.mp ht
    exact (htidy kind).rows r hr
  · have hdistinct : ([EntryKind.service, .network, .volume].map EntryKind.sectionName).Nodup := by
      decide
    change (([EntryKind.service, .network, .volume].map EntryKind.sectionName).map some).Nodup
    exact hdistinct.map (Option.some_injective Text)

end Stack

/-- **Canonical documents are free of syntax issues.** This is so in every layout without brackets,
if the names of each kind are distinct and so are the keys of every field that is written as a
mapping. The names may be those of sections, and the items may start with dashes. -/
theorem syntaxIssues_render {layout : Layout} {s : Stack} (h : s.IsCanonical)
    (hkeys : s.HasDistinctKeys layout) (hforms : layout.IsBracketFree) :
    Check.syntaxIssues (Document.ofText (s.render layout)) = [] := by
  obtain ⟨tail, htail, hlines⟩ := Stack.ofText_render h layout
  obtain ⟨htidy, hfree⟩ := Stack.isTidy_rows h hkeys hforms
  have hclean := Stack.isClean_rows h layout
  have hsilent : ∀ l ∈ tail, l.isContent = false := by
    intro l hl
    rw [Line.isContent, htail l hl]
    rfl
  have hrepeats : Check.duplicateKeyIssues (Row.lines 1 (s.rows layout) ++ tail) = [] :=
    Check.duplicateKeysFrom_lines hclean hfree hsilent List.Pairwise.nil
      (fun _ _ hknown => absurd rfl hknown) 1
  rw [Check.syntaxIssues, hlines, hrepeats, List.append_nil, List.flatMap_eq_nil_iff]
  intro l hl
  rcases List.mem_append.mp hl with hl | hl
  · obtain ⟨r, hr, n, rfl⟩ := Row.exists_of_mem_lines hl
    exact Row.lineIssues_line (hclean r hr) (htidy r hr) n
  · rw [Check.lineIssues, if_pos (htail l hl)]

/-- Services and networks with the names of sections, mounts and an image that look like sections,
items that start with dashes, and the same keys in both services. -/
theorem syntaxIssues_render_sectionNames :
    let first : ServiceLayout :=
      ⟨Field.all, .refl _, .block, .compact, .mapping, .block, .list .compact, .mapping, by decide,
        .list .block, .compact⟩
    let second : ServiceLayout :=
      ⟨Field.all.reverse, Field.all.reverse_perm, .compact, .block, .list .block, .compact,
        .mapping, .list .compact, by decide, .mapping, .block⟩
    let layout : Layout :=
      ⟨fun i => if i = 0 then first else second, fun _ => ⟨NetworkField.all, .refl _⟩, true⟩
    let volumes : Service :=
      { name := "volumes".toList, image? := some "name:services".toList,
        command? := some (.parts ["--".toList, "-c".toList]), restart? := some "no".toList,
        ports := [⟨"80".toList, "80".toList⟩],
        environment := [⟨"services".toList, some "name".toList⟩, ⟨"version".toList, none⟩],
        volumes := [⟨"name".toList, "/x".toList⟩, ⟨"name".toList, "/x".toList⟩],
        networks := [⟨"volumes".toList, some "10.0.0.2".toList⟩, ⟨"name".toList, none⟩],
        dependsOn := ["name".toList],
        sysctls := [⟨"net.core.somaxconn".toList, "1024".toList⟩],
        capabilities := ["-NET".toList] }
    let name : Service := { volumes with name := "name".toList, dependsOn := ["volumes".toList] }
    let stack : Stack :=
      ⟨[volumes, name], [⟨"volumes".toList, true, some "bridge".toList⟩,
        ⟨"name".toList, false, none⟩], ["services".toList, "networks".toList]⟩
    (stack.IsCanonical ∧ stack.HasDistinctKeys layout ∧ layout.IsBracketFree) ∧
      Check.syntaxIssues (Document.ofText (stack.render layout)) = [] := by
  intro first second layout volumes name stack
  have hcanonical : stack.IsCanonical := by decide
  have hkeys : stack.HasDistinctKeys layout := by decide
  have hforms : layout.IsBracketFree := by
    have hfirst : first.IsBracketFree := by decide
    have hsecond : second.IsBracketFree := by decide
    intro i
    by_cases hi : i = 0 <;> simp [layout, hi, hfirst, hsecond]
  exact ⟨⟨hcanonical, hkeys, hforms⟩, syntaxIssues_render hcanonical hkeys hforms⟩

end ComposeLint
