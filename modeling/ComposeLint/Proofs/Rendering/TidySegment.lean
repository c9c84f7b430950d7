import ComposeLint.Proofs.Rendering.Distinct
import ComposeLint.Proofs.Rendering.Entries
import ComposeLint.Proofs.Rendering.Tidy

/-! # Tidy segments

A segment is tidy if its rows are and its body repeats no key. This goes up from the rows: segments
below a row stay tidy as long as their keys differ (`isTidy_nested`), which is all that a mapping, an
address, a service and a section have in common. Lists have no keys to repeat, but one in brackets
puts all its colons on one line, so it is left out. -/

namespace ComposeLint

/-! ## Colons -/

namespace Text

theorem count_colon_isBare {t : Text} (h : t.isBare = true) : t.count ':' = 0 :=
  List.count_eq_zero.mpr (not_mem_of_isBare h (by decide))

theorem count_colon_isKeyName {t : Text} (h : t.isKeyName = true) : t.count ':' = 0 :=
  count_colon_isBare (isKeyName_iff.mp h).1

theorem count_colon_isImage {t : Text} (h : t.isImage = true) : t.count ':' ≤ 1 := by
  unfold isImage at h
  split at h
  · next name tag hcut =>
    simp only [Bool.and_eq_true] at h
    rw [eq_of_cutAt? hcut, List.count_append, List.count_cons_self, count_colon_isBare h.1,
      count_colon_isBare h.2]
  · rw [count_colon_isBare h]
    exact Nat.zero_le 1

end Text

theorem Mapping.count_colon_entry {m : Mapping} (h : m.isCanonical = true) :
    m.entry.count ':' ≤ 1 := by
  simp only [isCanonical, Bool.and_eq_true] at h
  rw [entry, List.count_append, List.count_cons_self, Text.count_colon_isBare h.1,
    Text.count_colon_isBare h.2]

theorem Variable.count_colon_entry {v : Variable} (h : v.isCanonical = true) :
    v.entry.count ':' ≤ 1 := by
  have hkey := Text.count_colon_isKeyName (Variable.isKeyName h)
  simp only [isCanonical, Bool.and_eq_true, Option.all_eq_true] at h
  unfold entry
  cases hv : v.value? with
  | none => simp [hkey]
  | some value => simp [hkey, Text.count_colon_isBare (h.2 value hv)]

theorem Setting.count_colon_entry {s : Setting} (h : s.isCanonical = true) :
    s.entry.count ':' ≤ 1 := by
  simp only [isCanonical, Bool.and_eq_true] at h
  simp [entry, Text.count_colon_isKeyName (Text.isKeyName_of_isSettingName h.1),
    Text.count_colon_isBare h.2]

/-! ## Tidy segments -/

namespace Segment

/-- A segment of tidy rows whose body repeats no key. -/
structure IsTidy (t : Segment) : Prop where
  rows : ∀ r ∈ t.rows, r.IsTidy
  body : Row.IsRepeatFree t.body

/-- A single row is a segment without a body. -/
theorem isTidy_of_row {r : Row} (h : r.IsTidy) : (⟨r, []⟩ : Segment).IsTidy :=
  ⟨fun _ hr => List.mem_singleton.mp hr ▸ h, trivial⟩

/-- Tidy segments below a tidy row, with different keys. -/
theorem isTidy_nested {k : Nat} {header : Row} {segments : List Segment} (hheader : header.IsTidy)
    (hstands : ∀ t ∈ segments, t.StandsAt k) (htidy : ∀ t ∈ segments, t.IsTidy)
    (hkeys : (segments.map (·.header.key?)).Nodup) :
    (⟨header, segments.flatMap rows⟩ : Segment).IsTidy := by
  refine ⟨fun r hr => ?_, isRepeatFree_flatMap hstands (fun t ht => (htidy t ht).body) hkeys⟩
  rcases List.mem_cons.mp hr with rfl | hr
  · exact hheader
  · obtain ⟨t, ht, hr⟩ := List.mem_flatMap.mp hr
    exact (htidy t ht).rows r hr

/-- Segments that are written one from each value have different keys if the values have different
names. -/
theorem nodup_keys_mapIdx {α : Type} {values : List α} {segment : Nat → α → Segment}
    {name : α → Text} (hname : ∀ i v, (segment i v).header.key? = some (name v))
    (hnames : (values.map name).Nodup) :
    ((values.mapIdx segment).map (·.header.key?)).Nodup := by
  have hkeys : (values.mapIdx segment).map (·.header.key?) = (values.map name).map some := by
    conv_rhs => rw [← List.zipIdx_map_fst 0 values, List.map_map, List.map_map]
    rw [List.mapIdx_eq_zipIdx_map, List.map_map]
    exact List.map_congr_left fun p _ => hname p.2 p.1
  rw [hkeys]
  exact hnames.map (Option.some_injective Text)

section
variable {k : Nat} {key : Text} (heven : k % 2 = 0) (hkey : key.isKeyName = true)
include heven hkey

theorem isTidy_header : (Row.key k key).IsTidy :=
  Row.isTidy_of_count heven (by simp [Row.written, Text.count_colon_isKeyName hkey])

theorem isTidy_bare : (bare k key).IsTidy := isTidy_of_row (isTidy_header heven hkey)

theorem isTidy_scalar {value : Text} (hvalue : value.isBare = true) :
    (scalar k key value).IsTidy :=
  isTidy_of_row (Row.isTidy_of_count heven (by
    simp [Row.written, Text.count_colon_isKeyName hkey, Text.count_colon_isBare hvalue]))

end

/-- An image may have a colon of its own, but its key is none of the top level. -/
theorem isTidy_image {value : Text} (hvalue : value.isImage = true) :
    (scalar 4 Field.image.key value).IsTidy := by
  have hkeys : Check.topLevelKeysIn none (Row.pair 4 Field.image.key value).written =
      Check.topLevelKeysIn (some ' ') value := rfl
  refine isTidy_of_row ⟨(by decide : 4 % 2 = 0), ?_⟩
  rw [hkeys]
  exact (Check.length_topLevelKeysIn_le value _).trans (Text.count_colon_isImage hvalue)

section
variable {key : Text} (hkey : key.isKeyName = true)
include hkey

theorem isTidy_items {k : Nat} (heven : k % 2 = 0) {entries : List Text}
    (hentries : ∀ e ∈ entries, e.count ':' ≤ 1) : (items k key entries).IsTidy := by
  refine ⟨fun r hr => ?_, Row.isRepeatFree_of_key? fun r hr => ?_⟩
  · rcases List.mem_cons.mp hr with rfl | hr
    · exact isTidy_header rfl hkey
    · obtain ⟨e, he, rfl⟩ := List.mem_map.mp hr
      exact Row.isTidy_of_count heven (by simpa [Row.written, List.count_cons] using hentries e he)
  · obtain ⟨e, -, rfl⟩ := List.mem_map.mp hr
    rfl

theorem isTidy_list {form : ListForm} (hform : form ≠ .bracket) {entries : List Text}
    (hentries : ∀ e ∈ entries, e.count ':' ≤ 1) : (list form key entries).IsTidy := by
  cases form with
  | block => exact isTidy_items hkey rfl hentries
  | compact => exact isTidy_items hkey rfl hentries
  | bracket => exact absurd rfl hform

theorem isTidy_mapping {members : List Segment} (hmembers : ∀ t ∈ members, t.IsMember)
    (htidy : ∀ t ∈ members, t.IsTidy) (hkeys : (members.map (·.header.key?)).Nodup) :
    (mapping key members).IsTidy :=
  isTidy_nested (isTidy_header rfl hkey) (fun t ht => (hmembers t ht).standsAt) htidy hkeys

variable {α : Type} {entry : α → Text} {member : α → Segment} {values : List α} {t : Segment}
  (hentries : ∀ v ∈ values, (entry v).count ':' ≤ 1)
include hentries

theorem isTidy_list? {form : ListForm} (hform : form ≠ .bracket)
    (ht : list? form key entry values = some t) : t.IsTidy := by
  unfold list? at ht
  split at ht
  · cases ht
  · cases ht
    exact isTidy_list hkey hform (List.forall_mem_map.mpr hentries)

theorem isTidy_field? {form : Form} (hform : form ≠ .list .bracket)
    (hmembers : ∀ v ∈ values, (member v).IsMember ∧ (member v).IsTidy) {name : α → Text}
    (hname : ∀ v, (member v).header.key? = some (name v))
    (hkeys : form = .mapping → (values.map name).Nodup)
    (ht : field? form key entry member values = some t) : t.IsTidy := by
  cases form with
  | list form => exact isTidy_list? hkey hentries (fun he => hform (he ▸ rfl)) ht
  | mapping =>
    unfold field? mapping? at ht
    dsimp only at ht
    split at ht
    · cases ht
    · cases ht
      refine isTidy_mapping hkey (List.forall_mem_map.mpr fun v hv => (hmembers v hv).1)
        (List.forall_mem_map.mpr fun v hv => (hmembers v hv).2) ?_
      have hheaders : (values.map member).map (·.header.key?) = (values.map name).map some := by
        rw [List.map_map, List.map_map]
        exact List.map_congr_left fun v _ => hname v
      rw [hheaders]
      exact (hkeys rfl).map (Option.some_injective Text)

end

/-- An entry of a section is tidy if its fields are, as these have different keys. -/
theorem isTidy_fields {φ : Type} {key : φ → Text} {field? : φ → Option Segment}
    (hfield : ∀ f t, field? f = some t → t.StandsAt 4 ∧ t.header.key? = some (key f))
    (hinj : Function.Injective key) (htidy : ∀ f t, field? f = some t → t.IsTidy)
    {name : Text} (hname : name.isKeyName = true) {order : List φ} (horder : order.Nodup) :
    (⟨.key 2 name, (order.filterMap field?).flatMap rows⟩ : Segment).IsTidy := by
  have hsome : ∀ t ∈ order.filterMap field?, ∃ f, field? f = some t := by
    intro t ht
    obtain ⟨f, -, hf⟩ := List.mem_filterMap.mp ht
    exact ⟨f, hf⟩
  refine isTidy_nested (k := 4) (isTidy_header rfl hname) (fun t ht => ?_) (fun t ht => ?_) ?_
  · obtain ⟨f, hf⟩ := hsome t ht
    exact (hfield f t hf).1
  · obtain ⟨f, hf⟩ := hsome t ht
    exact htidy f t hf
  · rw [List.Nodup, List.pairwise_map]
    refine List.Pairwise.filterMap _ (fun f g hne t ht u hu hsame => hne ?_) horder
    rw [(hfield f t ht).2, (hfield g u hu).2] at hsame
    exact hinj (Option.some.inj hsame)

theorem IsEntry.standsAt {kind : EntryKind} {t : Segment} (h : t.IsEntry kind) :
    t.StandsAt 2 := by
  obtain ⟨name, hheader, hname⟩ := h.header
  refine ⟨by rw [hheader]; rfl, by rw [hheader]; rfl, fun r hr => ?_,
    fun r hr => .inl (h.body r hr).2⟩
  rcases List.mem_cons.mp hr with rfl | hr
  · rw [hheader]
    exact Text.isKeyName_of_isNameOf hname
  · exact (h.body r hr).1

end Segment

/-! ## Services and networks -/

/-- No list of a service stands in brackets. -/
structure ServiceLayout.IsBracketFree (layout : ServiceLayout) : Prop where
  command : layout.command ≠ .bracket
  ports : layout.ports ≠ .bracket
  environment : layout.environment ≠ .list .bracket
  volumes : layout.volumes ≠ .bracket
  networks : layout.networks ≠ .list .bracket
  sysctls : layout.sysctls ≠ .list .bracket
  capabilities : layout.capabilities ≠ .bracket

/-- What is written as a mapping has distinct keys. -/
structure Service.HasDistinctKeys (layout : ServiceLayout) (s : Service) : Prop where
  environment : layout.environment = .mapping → (s.environment.map Variable.key).Nodup
  networks : s.networkForm layout = .mapping → (s.networks.map Attachment.network).Nodup
  dependsOn : layout.dependsOn = .mapping → s.dependsOn.Nodup
  sysctls : layout.sysctls = .mapping → (s.sysctls.map Setting.key).Nodup

instance (layout : ServiceLayout) : Decidable layout.IsBracketFree :=
  decidable_of_iff
    ((layout.command ≠ .bracket ∧ layout.ports ≠ .bracket ∧ layout.environment ≠ .list .bracket ∧
      layout.volumes ≠ .bracket) ∧ layout.networks ≠ .list .bracket ∧
      layout.sysctls ≠ .list .bracket ∧ layout.capabilities ≠ .bracket)
    ⟨fun ⟨⟨h₁, h₂, h₃, h₄⟩, h₅, h₆, h₇⟩ => ⟨h₁, h₂, h₃, h₄, h₅, h₆, h₇⟩,
    fun h => ⟨⟨h.command, h.ports, h.environment, h.volumes⟩, h.networks, h.sysctls,
      h.capabilities⟩⟩

instance (layout : ServiceLayout) (s : Service) : Decidable (s.HasDistinctKeys layout) :=
  decidable_of_iff
    ((layout.environment = .mapping → (s.environment.map Variable.key).Nodup) ∧
      (s.networkForm layout = .mapping → (s.networks.map Attachment.network).Nodup) ∧
      (layout.dependsOn = .mapping → s.dependsOn.Nodup) ∧
      (layout.sysctls = .mapping → (s.sysctls.map Setting.key).Nodup))
    ⟨fun ⟨h₁, h₂, h₃, h₄⟩ => ⟨h₁, h₂, h₃, h₄⟩,
    fun h => ⟨h.environment, h.networks, h.dependsOn, h.sysctls⟩⟩

theorem Variable.isTidy {v : Variable} (h : v.isCanonical = true) : v.member.IsTidy := by
  have hkey := Variable.isKeyName h
  simp only [isCanonical, Bool.and_eq_true, Option.all_eq_true] at h
  unfold member
  cases hv : v.value? with
  | none => exact Segment.isTidy_bare rfl hkey
  | some value => exact Segment.isTidy_scalar rfl hkey (h.2 value hv)

theorem Variable.key?_member (v : Variable) : v.member.header.key? = some v.key := by
  unfold member
  cases v.value? <;> rfl

theorem Setting.isTidy {s : Setting} (h : s.isCanonical = true) : s.member.IsTidy := by
  simp only [isCanonical, Bool.and_eq_true] at h
  exact Segment.isTidy_scalar rfl (Text.isKeyName_of_isSettingName h.1) h.2

theorem Attachment.isTidy {a : Attachment} (h : a.isCanonical = true) : a.member.IsTidy := by
  have haddress := Attachment.standsAt_address h
  simp only [isCanonical, Bool.and_eq_true, Option.all_eq_true] at h
  refine Segment.isTidy_nested (Segment.isTidy_header rfl (Text.isKeyName_of_isNameOf h.1))
    haddress (fun t ht => ?_) ?_
  · obtain ⟨ip, hip, rfl⟩ := List.mem_map.mp ht
    exact Segment.isTidy_scalar rfl (by decide) (h.2 ip (Option.mem_toList.mp hip))
  · cases a.address? <;> simp

namespace Service

variable {s : Service} (h : s.IsCanonical) {layout : ServiceLayout}
include h

/-- Every field of a canonical service is tidy, in each of its forms but brackets. -/
theorem isTidy_field? (hkeys : s.HasDistinctKeys layout) (hforms : layout.IsBracketFree) {f : Field}
    {t : Segment} (ht : s.field? layout f = some t) : t.IsTidy := by
  have hkey := f.isKeyName_key
  have hbare {values : List Text} (hvalues : values.all Text.isBare = true) :
      ∀ v ∈ values, v.count ':' ≤ 1 := fun v hv =>
    (Text.count_colon_isBare (List.all_eq_true.mp hvalues v hv)).trans_le (Nat.zero_le 1)
  have hname (name : Text) (hname : name.isKeyName = true) : name.count ':' ≤ 1 :=
    (Text.count_colon_isKeyName hname).trans_le (Nat.zero_le 1)
  cases f with
  | image =>
    obtain ⟨text, htext, rfl⟩ := Option.map_eq_some_iff.mp ht
    exact Segment.isTidy_image ((Option.all_eq_true _ _).mp h.image text htext)
  | command =>
    obtain ⟨command, hcommand, rfl⟩ := Option.map_eq_some_iff.mp ht
    have hcanonical := (Option.all_eq_true _ _).mp h.command _ hcommand
    cases command with
    | line text => exact Segment.isTidy_scalar rfl hkey hcanonical
    | parts words =>
      simp only [Command.isCanonical, Bool.and_eq_true] at hcanonical
      exact Segment.isTidy_list hkey hforms.command (hbare hcanonical.2)
  | restart =>
    obtain ⟨text, htext, rfl⟩ := Option.map_eq_some_iff.mp ht
    exact Segment.isTidy_scalar rfl hkey ((Option.all_eq_true _ _).mp h.restart text htext)
  | ports =>
    have hvalues := List.all_eq_true.mp h.ports
    exact Segment.isTidy_list? hkey (fun m hm => Mapping.count_colon_entry (hvalues m hm))
      hforms.ports ht
  | environment =>
    have hvalues := List.all_eq_true.mp h.environment
    exact Segment.isTidy_field? hkey (fun v hv => Variable.count_colon_entry (hvalues v hv))
      hforms.environment
      (fun v hv => ⟨Variable.isMember (hvalues v hv), Variable.isTidy (hvalues v hv)⟩)
      Variable.key?_member hkeys.environment ht
  | volumes =>
    have hvalues := List.all_eq_true.mp h.volumes
    exact Segment.isTidy_list? hkey (fun m hm => Mapping.count_colon_entry (hvalues m hm))
      hforms.volumes ht
  | networks =>
    have hvalues := List.all_eq_true.mp h.networks
    have hform : s.networkForm layout ≠ .list .bracket := by
      unfold Service.networkForm
      split
      · decide
      · exact hforms.networks
    refine Segment.isTidy_field? hkey (fun a ha => ?_) hform
      (fun a ha => ⟨Attachment.isMember (hvalues a ha), Attachment.isTidy (hvalues a ha)⟩)
      (fun a => rfl) hkeys.networks ht
    have hnetwork := hvalues a ha
    simp only [Attachment.isCanonical, Bool.and_eq_true] at hnetwork
    exact hname _ (Text.isKeyName_of_isNameOf hnetwork.1)
  | dependsOn =>
    have hnames (t : Text) (ht : t ∈ s.dependsOn) := isKeyName_dependency h ht
    refine Segment.isTidy_field? hkey (fun t ht => hname t (hnames t ht)) layout.dependsOn_ne
      (fun t ht => ⟨Segment.isMember_bare (hnames t ht), Segment.isTidy_bare rfl (hnames t ht)⟩)
      (fun t => rfl) (fun hform => ?_) ht
    rw [List.map_id' s.dependsOn]
    exact hkeys.dependsOn hform
  | sysctls =>
    have hvalues := List.all_eq_true.mp h.sysctls
    exact Segment.isTidy_field? hkey (fun v hv => Setting.count_colon_entry (hvalues v hv))
      hforms.sysctls
      (fun v hv => ⟨Setting.isMember (hvalues v hv), Setting.isTidy (hvalues v hv)⟩)
      (fun v => rfl) hkeys.sysctls ht
  | capabilities =>
    exact Segment.isTidy_list? hkey (hbare h.capabilities) hforms.capabilities ht

theorem isTidy_segment (hkeys : s.HasDistinctKeys layout) (hforms : layout.IsBracketFree) :
    (s.segment layout).IsTidy :=
  Segment.isTidy_fields (fun _ _ ht => standsAt_field? h layout ht) Field.key_injective
    (fun _ _ ht => isTidy_field? h hkeys hforms ht) (Text.isKeyName_of_isNameOf h.name)
    (layout.order_perm.nodup_iff.mpr (by decide))

end Service

theorem Network.isTidy_segment {n : Network} (h : n.IsCanonical) (layout : NetworkLayout) :
    (n.segment layout).IsTidy := by
  refine Segment.isTidy_fields (fun _ _ ht => standsAt_field? h ht) NetworkField.key_injective
    (fun f t ht => ?_) (Text.isKeyName_of_isNameOf h.name)
    (layout.order_perm.nodup_iff.mpr (by decide))
  cases f with
  | external =>
    unfold Network.field? at ht
    dsimp only at ht
    split at ht
    · cases ht
      exact Segment.isTidy_scalar rfl (by decide) (by decide)
    · cases ht
  | driver =>
    obtain ⟨text, htext, rfl⟩ := Option.map_eq_some_iff.mp ht
    exact Segment.isTidy_scalar rfl (by decide) ((Option.all_eq_true _ _).mp h.driver text htext)

end ComposeLint
