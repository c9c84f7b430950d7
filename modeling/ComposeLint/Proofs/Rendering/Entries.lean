import ComposeLint.Proofs.Rendering.Fields
import Mathlib.Data.List.Nodup

/-! # Services and networks read back

Whatever the order of its fields, an entry finds each of them under its key, since no two fields
have the same key. From there every reader gives the value that was written. -/

namespace ComposeLint

open Segment (block)

namespace Segment

/-- An entry of a section: its name at two spaces, and all else deeper. -/
structure IsEntry (kind : EntryKind) (s : Segment) : Prop where
  header : ∃ name, s.header = .key 2 name ∧ name.isNameOf kind = true
  body : ∀ r ∈ s.body, r.isClean = true ∧ 2 < r.indent

section
variable {φ : Type} {key : φ → Text} {field? : φ → Option Segment}
  (hfield : ∀ f t, field? f = some t → t.StandsAt 4 ∧ t.header.key? = some (key f))
  (hinj : Function.Injective key)
include hfield hinj

/-- Looking for a key finds the field of that key, wherever in the order it stands. -/
theorem find?_filterMap {f : φ} {order : List φ} (hf : f ∈ order) :
    (order.filterMap field?).find? (fun t => t.header.key? == some (key f)) = field? f := by
  cases hfind : (order.filterMap field?).find? (fun t => t.header.key? == some (key f)) with
  | none =>
    cases hseg : field? f with
    | none => rfl
    | some t =>
      have hno := List.find?_eq_none.mp hfind t (List.mem_filterMap.mpr ⟨f, hf, hseg⟩)
      rw [(hfield f t hseg).2, beq_self_eq_true] at hno
      exact absurd rfl hno
  | some t =>
    obtain ⟨g, -, hg⟩ := List.mem_filterMap.mp (List.mem_of_find?_eq_some hfind)
    have hkey := List.find?_some hfind
    rw [(hfield g t hg).2, beq_iff_eq, Option.some.injEq] at hkey
    rw [← hinj hkey, hg]

/-- An entry finds each of its fields. -/
theorem exists_child?_fields {f : φ} {order : List φ} (hf : f ∈ order) (header : Row) (n : Int) :
    ∃ m, (block n ⟨header, (order.filterMap field?).flatMap rows⟩).child? (key f) =
      (field? f).map (block m) := by
  have hstands : ∀ t ∈ order.filterMap field?, t.StandsAt 4 := by
    intro t ht
    obtain ⟨g, -, hg⟩ := List.mem_filterMap.mp ht
    exact (hfield g t hg).1
  obtain ⟨m, hm⟩ := exists_child?_block (s := ⟨header, (order.filterMap field?).flatMap rows⟩) rfl
    hstands n (key f)
  exact ⟨m, by rw [hm, find?_filterMap hfield hinj hf]⟩

omit hinj in
theorem isEntry_fields {kind : EntryKind} {name : Text} (hname : name.isNameOf kind = true)
    (order : List φ) :
    (⟨.key 2 name, (order.filterMap field?).flatMap rows⟩ : Segment).IsEntry kind := by
  refine ⟨⟨name, rfl, hname⟩, fun r hr => ?_⟩
  obtain ⟨t, ht, hr⟩ := List.mem_flatMap.mp hr
  obtain ⟨f, -, hf⟩ := List.mem_filterMap.mp ht
  have hstands := (hfield f t hf).1
  refine ⟨hstands.clean r hr, ?_⟩
  rcases List.mem_cons.mp hr with rfl | hr
  · have := hstands.indent
    omega
  · rcases hstands.body r hr with hlt | ⟨heq, -⟩ <;> omega

end

/-- The name of an entry is its key. -/
theorem name_block {k : Nat} {name : Text} (h : name.isKeyName = true) (body : List Row) (n : Int) :
    (block n ⟨.key k name, body⟩).name = name := by
  have hclean : (Row.key k name).isClean = true := h
  rw [Block.name, block, Row.line_trimmed n hclean, Row.written, List.getLast?_concat,
    if_pos (by simp), List.dropLast_concat]

end Segment

/-! ## Services -/

namespace Field

theorem mem_all (f : Field) : f ∈ all := by cases f <;> decide

theorem key_injective : Function.Injective key := by
  intro f g h
  exact List.inj_on_of_nodup_map (by decide) (mem_all f) (mem_all g) h

theorem isKeyName_key (f : Field) : f.key.isKeyName = true := by cases f <;> decide

end Field

namespace Service

variable {s : Service} (h : s.IsCanonical) (layout : ServiceLayout)
include h

theorem isToken_image {t : Text} (ht : s.image? = some t) : t.isToken = true :=
  Text.isToken_of_isImage ((Option.all_eq_true _ _).mp h.image t ht)

theorem isToken_restart {t : Text} (ht : s.restart? = some t) : t.isToken = true :=
  Text.isToken_of_isBare ((Option.all_eq_true _ _).mp h.restart t ht)

theorem isToken_line {t : Text} (ht : s.command? = some (.line t)) : t.isToken = true :=
  Text.isToken_of_isBare ((Option.all_eq_true _ _).mp h.command _ ht)

theorem isToken_parts {words : List Text} (hwords : s.command? = some (.parts words)) :
    words ≠ [] ∧ ∀ t ∈ words, t.isToken = true := by
  have hcommand := (Option.all_eq_true _ _).mp h.command _ hwords
  simp only [Command.isCanonical, Bool.and_eq_true, Bool.not_eq_true', List.all_eq_true] at hcommand
  exact ⟨List.isEmpty_eq_false_iff.mp hcommand.1,
    fun t ht => Text.isToken_of_isBare (hcommand.2 t ht)⟩

theorem isToken_network {a : Attachment} (ha : a ∈ s.networks) : a.network.isToken = true := by
  have hnetwork := List.all_eq_true.mp h.networks a ha
  simp only [Attachment.isCanonical, Bool.and_eq_true] at hnetwork
  exact Text.isToken_of_isKeyName (Text.isKeyName_of_isNameOf hnetwork.1)

theorem isKeyName_dependency {t : Text} (ht : t ∈ s.dependsOn) : t.isKeyName = true :=
  Text.isKeyName_of_isNameOf (List.all_eq_true.mp h.dependsOn t ht)

theorem standsAt_field? {f : Field} {t : Segment} (ht : s.field? layout f = some t) :
    t.StandsAt 4 ∧ t.header.key? = some f.key := by
  have hkey := f.isKeyName_key
  cases f with
  | image =>
    obtain ⟨text, htext, rfl⟩ := Option.map_eq_some_iff.mp ht
    exact ⟨Segment.standsAt_scalar hkey (Text.isValue_of_isToken (isToken_image h htext)), rfl⟩
  | command =>
    obtain ⟨command, hcommand, rfl⟩ := Option.map_eq_some_iff.mp ht
    cases command with
    | line text =>
      exact ⟨Segment.standsAt_scalar hkey (Text.isValue_of_isToken (isToken_line h hcommand)), rfl⟩
    | parts words =>
      refine ⟨Segment.standsAt_list (isToken_parts h hcommand).2 hkey layout.command, ?_⟩
      dsimp only
      cases layout.command <;> rfl
  | restart =>
    obtain ⟨text, htext, rfl⟩ := Option.map_eq_some_iff.mp ht
    exact ⟨Segment.standsAt_scalar hkey (Text.isValue_of_isToken (isToken_restart h htext)), rfl⟩
  | ports =>
    exact Segment.standsAt_list? hkey
      (fun m hm => Mapping.isToken_entry (List.all_eq_true.mp h.ports m hm)) ht
  | environment =>
    have hvalues := List.all_eq_true.mp h.environment
    exact Segment.standsAt_field? hkey (fun v hv => Variable.isToken_entry (hvalues v hv))
      (fun v hv => Variable.isMember (hvalues v hv)) ht
  | volumes =>
    exact Segment.standsAt_list? hkey
      (fun m hm => Mapping.isToken_entry (List.all_eq_true.mp h.volumes m hm)) ht
  | networks =>
    exact Segment.standsAt_field? hkey (fun a ha => isToken_network h ha)
      (fun a ha => Attachment.isMember (List.all_eq_true.mp h.networks a ha)) ht
  | dependsOn =>
    exact Segment.standsAt_field? hkey
      (fun t ht => Text.isToken_of_isKeyName (isKeyName_dependency h ht))
      (fun t ht => Segment.isMember_bare (isKeyName_dependency h ht)) ht
  | sysctls =>
    have hvalues := List.all_eq_true.mp h.sysctls
    exact Segment.standsAt_field? hkey (fun s hs => Setting.isToken_entry (hvalues s hs))
      (fun s hs => Setting.isMember (hvalues s hs)) ht
  | capabilities =>
    exact Segment.standsAt_list? hkey
      (fun t ht => Text.isToken_of_isBare (List.all_eq_true.mp h.capabilities t ht)) ht

theorem exists_child?_segment (n : Int) (f : Field) : ∃ m,
    ((s.segment layout).block n).child? f.key = (s.field? layout f).map (block m) :=
  Segment.exists_child?_fields (fun _ _ ht => standsAt_field? h layout ht) Field.key_injective
    (layout.order_perm.mem_iff.mpr f.mem_all) _ n

theorem command?_segment (n : Int) : ((s.segment layout).block n).command? = s.command? := by
  obtain ⟨m, hm⟩ := exists_child?_segment h layout n .command
  have hkey := Field.isKeyName_key .command
  cases hcommand : s.command? with
  | none =>
    simp only [Service.field?, hcommand, Option.map_none] at hm
    unfold Block.command?
    rw [show "command".toList = Field.command.key from rfl, hm]
    rfl
  | some command =>
    simp only [Service.field?, hcommand, Option.map_some] at hm
    cases command with
    | line text => exact Block.command?_of_scalar hm hkey (isToken_line h hcommand)
    | parts words =>
      exact Block.command?_of_list hm hkey (isToken_parts h hcommand).1 (isToken_parts h hcommand).2

theorem attachments_segment (n : Int) :
    ((s.segment layout).block n).attachments = s.networks := by
  obtain ⟨m, hm⟩ := exists_child?_segment h layout n .networks
  have hkey := Field.isKeyName_key .networks
  have hvalues := List.all_eq_true.mp h.networks
  unfold Service.field? Segment.field? at hm
  cases hform : s.networkForm layout with
  | list form =>
    rw [hform] at hm
    have haddress : ∀ a ∈ s.networks, a.address? = none := by
      intro a ha
      unfold Service.networkForm at hform
      split at hform
      · cases hform
      · next hnone =>
        exact Option.not_isSome_iff_eq_none.mp
          (List.any_eq_false.mp (Bool.eq_false_iff.mpr hnone) a ha)
    refine Block.attachments_of_listed ?_ fun a ha => ⟨isToken_network h ha, haddress a ha⟩
    exact hm ▸ Segment.listedIn_list? hkey (fun a ha => isToken_network h ha) form m
  | mapping =>
    rw [hform] at hm
    have hmembers := fun a ha => Attachment.isMember (hvalues a ha)
    rcases Segment.holdsMapping_mapping? hkey hmembers m with
      ⟨hnil, hnone⟩ | ⟨child, hsome, hmapping⟩
    · unfold Block.attachments
      rw [show "networks".toList = Field.networks.key from rfl, hm, hnone, hnil]
    · exact Block.attachments_of_mapping (hm.trans hsome) hmapping hvalues

theorem dependencies_segment (n : Int) :
    ((s.segment layout).block n).dependencies = s.dependsOn := by
  obtain ⟨m, hm⟩ := exists_child?_segment h layout n .dependsOn
  have hkey := Field.isKeyName_key .dependsOn
  have htokens : ∀ t ∈ s.dependsOn, (id t).isToken = true := fun t ht =>
    Text.isToken_of_isKeyName (isKeyName_dependency h ht)
  have hmembers : ∀ t ∈ s.dependsOn, (Segment.bare 6 t).IsMember := fun t ht =>
    Segment.isMember_bare (isKeyName_dependency h ht)
  have hgiven : GivenIn id (Segment.bare 6) s.dependsOn
      (((s.segment layout).block n).child? Field.dependsOn.key) :=
    hm ▸ Segment.givenIn_field? hkey htokens hmembers layout.dependsOn m
  refine Block.dependencies_eq hgiven (fun t ht i => ?_) htokens fun child hchild => ?_
  · exact Row.line_key? i ((hmembers t ht).standsAt.clean _ List.mem_cons_self)
  · exact Segment.pairwise_field? hkey htokens hmembers layout.dependsOn_ne (hm.symm.trans hchild)

/-- **A service reads back.** -/
theorem ofBlock_segment (n : Int) : Service.ofBlock ((s.segment layout).block n) = s := by
  have hchild := exists_child?_segment h layout n
  have hname : ((s.segment layout).block n).name = s.name :=
    Segment.name_block (Text.isKeyName_of_isNameOf h.name) _ n
  have himage : ((s.segment layout).block n).scalar? "image".toList = s.image? := by
    obtain ⟨m, hm⟩ := hchild .image
    exact Block.scalar?_eq hm (Field.isKeyName_key .image) fun t ht => isToken_image h ht
  have hrestart : ((s.segment layout).block n).scalar? "restart".toList = s.restart? := by
    obtain ⟨m, hm⟩ := hchild .restart
    exact Block.scalar?_eq hm (Field.isKeyName_key .restart) fun t ht => isToken_restart h ht
  have hports : ((s.segment layout).block n).mappingsOf "ports".toList = s.ports := by
    obtain ⟨m, hm⟩ := hchild .ports
    have hvalues := List.all_eq_true.mp h.ports
    exact Block.mappingsOf_eq (hm ▸ Segment.listedIn_list? (Field.isKeyName_key .ports)
      (fun p hp => Mapping.isToken_entry (hvalues p hp)) layout.ports m) hvalues
  have henvironment : ((s.segment layout).block n).environment = s.environment := by
    obtain ⟨m, hm⟩ := hchild .environment
    have hvalues := List.all_eq_true.mp h.environment
    exact Block.environment_eq (hm ▸ Segment.givenIn_field? (Field.isKeyName_key .environment)
      (fun v hv => Variable.isToken_entry (hvalues v hv))
      (fun v hv => Variable.isMember (hvalues v hv)) layout.environment m) hvalues
  have hvolumes : ((s.segment layout).block n).mappingsOf "volumes".toList = s.volumes := by
    obtain ⟨m, hm⟩ := hchild .volumes
    have hvalues := List.all_eq_true.mp h.volumes
    exact Block.mappingsOf_eq (hm ▸ Segment.listedIn_list? (Field.isKeyName_key .volumes)
      (fun p hp => Mapping.isToken_entry (hvalues p hp)) layout.volumes m) hvalues
  have hsysctls : ((s.segment layout).block n).sysctls = s.sysctls := by
    obtain ⟨m, hm⟩ := hchild .sysctls
    have hvalues := List.all_eq_true.mp h.sysctls
    exact Block.sysctls_eq (hm ▸ Segment.givenIn_field? (Field.isKeyName_key .sysctls)
      (fun v hv => Setting.isToken_entry (hvalues v hv))
      (fun v hv => Setting.isMember (hvalues v hv)) layout.sysctls m) hvalues
  have hcapabilities : ((((s.segment layout).block n).entriesOf "cap_add".toList).filter
      (!·.2.isEmpty)).map (·.2.unquote) = s.capabilities := by
    obtain ⟨m, hm⟩ := hchild .capabilities
    have htokens : ∀ t ∈ s.capabilities, (id t).isToken = true := fun t ht =>
      Text.isToken_of_isBare (List.all_eq_true.mp h.capabilities t ht)
    exact Block.capabilities_eq (hm ▸ Segment.listedIn_list? (Field.isKeyName_key .capabilities)
      htokens layout.capabilities m) htokens
  rw [Service.ofBlock, hname, himage, command?_segment h layout n, hrestart, hports, henvironment,
    hvolumes, attachments_segment h layout n, dependencies_segment h layout n, hsysctls,
    hcapabilities]

theorem isEntry_segment : (s.segment layout).IsEntry .service :=
  Segment.isEntry_fields (fun _ _ ht => standsAt_field? h layout ht) h.name layout.order

end Service

/-! ## Networks -/

namespace NetworkField

theorem mem_all (f : NetworkField) : f ∈ all := by cases f <;> decide

theorem key_injective : Function.Injective key := by
  intro f g h
  exact List.inj_on_of_nodup_map (by decide) (mem_all f) (mem_all g) h

end NetworkField

namespace Network

variable {n : Network} (h : n.IsCanonical) (layout : NetworkLayout)
include h

theorem isToken_driver {t : Text} (ht : n.driver? = some t) : t.isToken = true :=
  Text.isToken_of_isBare ((Option.all_eq_true _ _).mp h.driver t ht)

theorem standsAt_field? {f : NetworkField} {t : Segment} (ht : n.field? f = some t) :
    t.StandsAt 4 ∧ t.header.key? = some f.key := by
  cases f with
  | external =>
    unfold Network.field? at ht
    dsimp only at ht
    split at ht
    · cases ht
      exact ⟨Segment.standsAt_scalar (by decide) (by decide), rfl⟩
    · cases ht
  | driver =>
    obtain ⟨text, htext, rfl⟩ := Option.map_eq_some_iff.mp ht
    exact ⟨Segment.standsAt_scalar (by decide)
      (Text.isValue_of_isToken (isToken_driver h htext)), rfl⟩

theorem isEntry_segment : (n.segment layout).IsEntry .network :=
  Segment.isEntry_fields (fun _ _ ht => standsAt_field? h ht) h.name layout.order

/-- **A network reads back.** -/
theorem ofBlock_segment (i : Int) : Network.ofBlock ((n.segment layout).block i) = n := by
  have hchild (f : NetworkField) : ∃ m, ((n.segment layout).block i).child? f.key =
      (n.field? f).map (block m) :=
    Segment.exists_child?_fields (fun _ _ ht => standsAt_field? h ht) NetworkField.key_injective
      (layout.order_perm.mem_iff.mpr f.mem_all) _ i
  have hname : ((n.segment layout).block i).name = n.name :=
    Segment.name_block (Text.isKeyName_of_isNameOf h.name) _ i
  have hdriver : ((n.segment layout).block i).scalar? "driver".toList = n.driver? := by
    obtain ⟨m, hm⟩ := hchild .driver
    exact Block.scalar?_eq hm (by decide) fun t ht => isToken_driver h ht
  have hexternal : (((n.segment layout).block i).child? "external".toList).any
      (fun child => child.value.toLower == "true".toList) = n.isExternal := by
    obtain ⟨m, hm⟩ := hchild .external
    rw [show "external".toList = NetworkField.external.key from rfl, hm, Network.field?]
    cases n.isExternal with
    | false => rfl
    | true =>
      rw [if_pos rfl, Option.map_some, Option.any_some,
        Segment.value_scalar (by decide) (by decide)]
      decide
  rw [Network.ofBlock, hname, hdriver, hexternal]

end Network

end ComposeLint
