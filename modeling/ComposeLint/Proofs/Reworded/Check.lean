import ComposeLint.Check.Structure
import ComposeLint.Proofs.Check.Service
import ComposeLint.Proofs.Reworded.Block

/-! # Findings in other words

The checks of services and mounts read the headers, entries and children of blocks, which are
unmarked. The two scans that go over all lines of a block, for keys of a definition and for sources
of long mounts, find the same as long as the rewording is not noticed. -/

namespace ComposeLint

variable {r : Rewording} (h : r.Unnoticed)
include h

theorem Block.showsAs_reworded (b : Block) : (b.reworded r).ShowsAs id b where
  number := rfl
  value := rfl
  entries := by simp [numberedEntries, entries_reworded h]
  children := by rw [children_reworded h]

theorem Block.readsAs_reworded (service : Block) : (service.reworded r).ReadsAs id service where
  number := rfl
  name := rfl
  hasChild := service.hasChild_reworded h
  child? key := child?_showsAs (showsAs_reworded h) (service.child?_reworded h key)

namespace Check

theorem serviceIssues_reworded (service : Block) :
    serviceIssues (service.reworded r) = serviceIssues service :=
  serviceIssues_eq_of_readsAs (Block.readsAs_reworded h service)

/-! ## Placement -/

omit h in
theorem isIndentedKey_reworded (l : Line) : isIndentedKey (l.reworded r) = isIndentedKey l := by
  cases hs : l.inScalar with
  | true => simp [isIndentedKey, hs]
  | false => rw [Line.reworded_of_free hs]

omit h in
theorem reworded_of_isIndentedKey {l : Line} (hl : isIndentedKey l = true) : l.reworded r = l := by
  simp only [isIndentedKey, Bool.and_eq_true, Bool.not_eq_true'] at hl
  exact Line.reworded_of_free hl.1.2

omit h in
/-- Only the definitions of networks and volumes are looked for. -/
theorem keys_of_misplacement? {key : Text} {finding : Finding} {keys : List Text}
    (hkey : misplacement? key = some (finding, some keys)) :
    keys = networkDefinitionKeys ∨ keys = volumeDefinitionKeys := by
  grind [misplacement?]

theorem any_definesOneOf_reworded {keys : List Text}
    (hkeys : keys = networkDefinitionKeys ∨ keys = volumeDefinitionKeys) (b : Block) :
    (b.reworded r).content.any (definesOneOf keys) = b.content.any (definesOneOf keys) := by
  have hline (l : Line) : definesOneOf keys (l.reworded r) = definesOneOf keys l := by
    rcases hkeys with rfl | rfl
    · exact (h l).definesNetwork
    · exact (h l).definesVolume
  simp [Block.content_reworded h, List.any_map, Function.comp_def, hline]

theorem placementIssue?_reworded (b : Block) :
    placementIssue? (b.reworded r) = placementIssue? b := by
  have hlast : (b.reworded r).body.getLast?.map Line.number = b.body.getLast?.map Line.number := by
    simp [List.getLast?_map, Function.comp_def]
  unfold placementIssue?
  rw [Block.header_reworded, hlast]
  cases b.header.key? with
  | none => rfl
  | some key =>
    simp only [Option.bind_eq_bind, Option.bind_some]
    cases hfound : misplacement? key with
    | none => rfl
    | some found =>
      obtain ⟨finding, keys?⟩ := found
      cases keys? with
      | none => rfl
      | some keys =>
        simp only [Option.bind_some, any_definesOneOf_reworded h (keys_of_misplacement? hfound)]

theorem placementIssues_reworded (doc : Document) :
    placementIssues (doc.map (Line.reworded r)) = placementIssues doc := by
  unfold placementIssues
  rw [Block.blocksAt_reworded isIndentedKey_reworded (fun _ => reworded_of_isIndentedKey)
    (Block.owned_reworded h), List.filterMap_map]
  simp only [Function.comp_def, placementIssue?_reworded h]

/-! ## Documents -/

variable (hkeeps : r.KeepsSections) (doc : Document)
include hkeeps

theorem structureIssues_reworded :
    structureIssues (doc.map (Line.reworded r)) = structureIssues doc := by
  unfold structureIssues
  rw [Document.section?_reworded hkeeps, placementIssues_reworded h,
    Document.blocks_reworded h hkeeps]
  simp only [List.mapM_map, Function.comp_def, serviceIssues_reworded h, List.isEmpty_map]

omit h in
theorem declaredVolumes_reworded :
    declaredVolumes (doc.map (Line.reworded r)) = declaredVolumes doc := by
  have hline (l : Line) : declaredVolume? (l.reworded r) = declaredVolume? l := by
    cases hs : l.inScalar with
    | true => simp [declaredVolume?, hs]
    | false => rw [Line.reworded_of_free hs]
  simp only [declaredVolumes, Document.sectionBody_reworded hkeeps, List.filterMap_map,
    Function.comp_def, hline]

omit hkeeps in
theorem mountedVolumes_reworded (volumes : Block) :
    mountedVolumes (volumes.reworded r) = mountedVolumes volumes := by
  simp only [mountedVolumes, Block.entries_reworded h, Block.content_reworded h,
    List.filterMap_map, Function.comp_def, (h _).longSource?]

theorem mountLists_reworded : mountLists (doc.map (Line.reworded r)) =
    (mountLists doc).map fun list => (list.1.reworded r, list.2.reworded r) := by
  simp only [mountLists, Document.blocks_reworded h hkeeps, List.filterMap_map,
    List.map_filterMap, Function.comp_def, Block.child?_reworded h, Option.map_map]

theorem volumeUseIssues_reworded :
    volumeUseIssues (doc.map (Line.reworded r)) = volumeUseIssues doc := by
  simp only [volumeUseIssues, declaredVolumes_reworded hkeeps, mountLists_reworded h hkeeps,
    List.flatMap_map, List.filter_map, List.map_map, Function.comp_def, mountedVolumes_reworded h,
    Block.entries_reworded h, Block.name_reworded, Block.header_reworded]

end Check

end ComposeLint
