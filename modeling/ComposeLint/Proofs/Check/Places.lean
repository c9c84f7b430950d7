import ComposeLint.Check.VolumeUse
import ComposeLint.Proofs.Check.Lookups
import ComposeLint.Proofs.Check.Outcome
import ComposeLint.Proofs.PortEntries

/-! # Where findings stand

No check makes up a line. What is said of a line has its number; what is said of a block has the
number of a line in it, and the blocks of a document, their children and the entries of these are
made of its lines (`Block.IsIn`). The same holds for the numbers that host ports and volume names
are kept with until they are compared. -/

namespace ComposeLint

/-- Where a finding may stand in a document: on a line of it, told by its number or counted off.
Two kinds of findings say more. The colon that a key is glued to has its column, and a misplaced
section reaches down to the last line of its block. -/
inductive Finding.StandsIn (doc : Document) : Finding → Place → Prop
  | line (f : Finding) {l : Line} (hl : l ∈ doc) : StandsIn doc f { line? := some l.number }
  | counted (f : Finding) {n : Int} (h : doc ≠ [] → 1 ≤ n ∧ n ≤ doc.length) :
    StandsIn doc f { line? := some n }
  | colon {l : Line} {key : Text} (hl : l ∈ doc)
    (hkey : Check.gluedKey? l.trimmed.withoutComment = some key) :
    StandsIn doc (.gluedColon key)
      { line? := some l.number, column? := some (Check.colonColumn l.raw) }
  | range {f : Finding} {b : Block} (hf : f = .misplacedNetworks ∨ f = .misplacedVolumes)
    (hb : b.IsIn doc) :
    StandsIn doc f
      { line? := some b.header.number
        endLine? := some ((b.body.getLast?.map Line.number).getD b.header.number) }

namespace Document

/-- Whether a line of the document has this number. -/
def HasNumber (doc : Document) (n : Int) : Prop := ∃ l ∈ doc, l.number = n

theorem one_le_length {doc : Document} (h : doc ≠ []) : 1 ≤ (doc.length : Int) :=
  Int.ofNat_le.mpr (List.length_pos_iff.mpr h)

end Document

namespace Check

variable {doc : Document}

/-- A host port is kept with the number of the line that it was read from. -/
theorem exists_entry_of_mem_hostPorts {ports : Block} {taken : List (Int × HostPort)}
    (hok : hostPorts ports = .ok taken) {p : Int × HostPort} (hp : p ∈ taken) :
    ∃ e ∈ ports.entries, e.1.number = p.1 ∧ HostPort.read e.2 = .ok (some p.2) := by
  rw [hostPorts_eq] at hok
  cases hsteps : ports.numberedEntries.mapM hostPort? with
  | error fault => rw [hsteps] at hok; cases hok
  | ok steps =>
    rw [hsteps] at hok
    obtain rfl := Except.ok.inj hok
    obtain ⟨port?, hport?, hsome⟩ := List.mem_filterMap.mp hp
    obtain ⟨_, hentry, hstep⟩ := exists_of_mem_mapM hsteps hport?
    obtain ⟨e, he, rfl⟩ := List.mem_map.mp hentry
    cases hhost : HostPort.read e.2 with
    | error fault => rw [hostPort?, hhost] at hstep; cases hstep
    | ok host? =>
      rw [hostPort?, hhost] at hstep
      obtain rfl := Except.ok.inj hstep
      obtain ⟨port, rfl, rfl⟩ := Option.map_eq_some_iff.mp hsome
      exact ⟨e, he, rfl, hhost⟩

/-! ## Volume names -/

variable {l : Line} {v : VolumeAt}

theorem number_of_declaredVolume? (h : declaredVolume? l = some v) : v.2 = l.number := by
  have hbare (h : declaredVolume?.bareName? l = some v) : v.2 = l.number := by
    unfold declaredVolume?.bareName? at h
    split at h
    · obtain rfl := Option.some.inj h
      rfl
    · cases h
  unfold declaredVolume? at h
  split at h
  · cases h
  · split at h
    · split at h
      · obtain rfl := Option.some.inj h
        rfl
      · exact hbare h
    · exact hbare h

theorem number_of_longSource? (h : longSource? l = some v) : v.2 = l.number := by
  obtain ⟨entry, -, h⟩ := Option.bind_eq_some_iff.mp h
  split at h
  · obtain ⟨name, -, rfl⟩ := Option.map_eq_some_iff.mp h
    rfl
  · cases h

theorem number_of_shortSource? {text : Text} (h : shortSource? l text = some v) :
    v.2 = l.number := by
  unfold shortSource? at h
  dsimp only at h
  split at h
  · cases h
  · obtain ⟨name, -, rfl⟩ := Option.map_eq_some_iff.mp h
    rfl

theorem hasNumber_of_mem_declaredVolumes (h : v ∈ declaredVolumes doc) : doc.HasNumber v.2 := by
  obtain ⟨l, hl, hv⟩ := List.mem_filterMap.mp h
  exact ⟨l, (Document.sectionBody_sublist doc _).mem hl, (number_of_declaredVolume? hv).symm⟩

theorem hasNumber_of_mem_mountedVolumes {volumes : Block} (hvolumes : volumes.IsIn doc)
    (h : v ∈ mountedVolumes volumes) : doc.HasNumber v.2 := by
  rcases List.mem_append.mp h with h | h
  · obtain ⟨e, he, hv⟩ := List.mem_filterMap.mp h
    exact ⟨e.1, hvolumes.entry_mem he, (number_of_shortSource? hv).symm⟩
  · obtain ⟨l, hl, hv⟩ := List.mem_filterMap.mp h
    exact ⟨l, hvolumes.body_sublist.mem (List.mem_filter.mp hl).1, (number_of_longSource? hv).symm⟩

theorem isIn_of_mem_mountLists {service volumes : Block}
    (h : (service, volumes) ∈ mountLists doc) : volumes.IsIn doc := by
  obtain ⟨owner, howner, hpair⟩ := List.mem_filterMap.mp h
  obtain ⟨found, hfound, heq⟩ := Option.map_eq_some_iff.mp hpair
  obtain ⟨rfl, rfl⟩ := Prod.mk.inj heq
  exact (Document.isIn_of_mem_blocks howner).child hfound

end Check

end ComposeLint
