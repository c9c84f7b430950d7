import ComposeLint.Check.Structure
import ComposeLint.Proofs.Check.Service
import ComposeLint.Proofs.Document.Sections
import ComposeLint.Proofs.Port.Grammar

/-! # How the check of the structure comes out

A run of fallible steps fails where one of its steps does. Nothing in the check of the structure is
fallible but the reading of host ports, so its failures go back to a port entry of some service
(`Check.structureIssues_eq_error_iff`). -/

namespace ComposeLint

section Runs

variable {α β ε : Type} {f : α → Except ε β}

theorem mapM_eq_error_iff {l : List α} :
    (∃ e, l.mapM f = .error e) ↔ ∃ a ∈ l, ∃ e, f a = .error e := by
  induction l with
  | nil => simp [pure, Except.pure]
  | cons a rest ih =>
    rw [List.mapM_cons]
    cases ha : f a with
    | error e => simp [bind, Except.bind, ha]
    | ok b =>
      simp only [List.mem_cons, exists_eq_or_imp, ha, reduceCtorEq, exists_false, false_or, ← ih]
      cases rest.mapM f <;> simp [bind, Except.bind, pure, Except.pure]

/-- Each result of a run comes from one of its steps. -/
theorem exists_of_mem_mapM {l : List α} {b : β} : ∀ {r : List β}, l.mapM f = .ok r → b ∈ r →
    ∃ a ∈ l, f a = .ok b := by
  induction l with
  | nil =>
    intro r h hb
    obtain rfl : [] = r := Except.ok.inj h
    cases hb
  | cons a rest ih =>
    intro r h hb
    rw [List.mapM_cons] at h
    cases ha : f a with
    | error e => rw [ha] at h; cases h
    | ok first =>
      rw [ha] at h
      cases hrest : rest.mapM f with
      | error e => rw [hrest] at h; cases h
      | ok others =>
        rw [hrest] at h
        obtain rfl : first :: others = r := Except.ok.inj h
        rcases List.mem_cons.mp hb with rfl | hb
        · exact ⟨a, by simp, ha⟩
        · obtain ⟨c, hc, hstep⟩ := ih hrest hb
          exact ⟨c, by simp [hc], hstep⟩

end Runs

/-- Whether a list of ports has an entry whose host port is too long to be evaluated. -/
def Block.HasOverlongPort (ports : Block) : Prop :=
  ∃ line text, (line, text) ∈ ports.entries ∧ ∃ entry : PortEntry, entry.WellFormed ∧
    text.withoutQuotes = entry.written ∧ Integer.maxDigits < entry.host.length

/-- Whether a service of the document has such a list of ports. -/
def Document.HasOverlongPort (doc : Document) : Prop :=
  ∃ service ∈ doc.blocks .service, ∃ ports, service.child? "ports".toList = some ports ∧
    ports.HasOverlongPort

namespace Check

theorem hostPorts_eq_error_iff {ports : Block} :
    (∃ fault, hostPorts ports = .error fault) ↔ ports.HasOverlongPort := by
  have hentry (e : Int × Text) :
      (∃ fault, hostPort? e = .error fault) ↔ ∃ fault, HostPort.read e.2 = .error fault := by
    unfold hostPort?
    cases HostPort.read e.2 <;> simp [Except.map]
  have hrun : (∃ fault, hostPorts ports = .error fault) ↔
      ∃ fault, ports.numberedEntries.mapM hostPort? = .error fault := by
    rw [hostPorts_eq]
    cases ports.numberedEntries.mapM hostPort? <;> simp [Except.map]
  rw [hrun, mapM_eq_error_iff, Block.numberedEntries, Block.HasOverlongPort]
  simp only [List.mem_map, exists_exists_and_eq_and, hentry, HostPort.read_eq_error_iff]
  exact Prod.exists

theorem portIssues_eq_error_iff {service : Block} : (∃ fault, portIssues service = .error fault) ↔
    ∃ ports, service.child? "ports".toList = some ports ∧ ports.HasOverlongPort := by
  unfold portIssues
  cases service.child? "ports".toList with
  | none => simp [pure, Except.pure]
  | some ports =>
    simp only [Option.some.injEq, exists_eq_left', ← hostPorts_eq_error_iff]
    cases hostPorts ports <;> simp [bind, Except.bind, pure, Except.pure]

theorem serviceIssues_eq_error_iff {service : Block} :
    (∃ fault, serviceIssues service = .error fault) ↔
      ∃ ports, service.child? "ports".toList = some ports ∧ ports.HasOverlongPort := by
  rw [← portIssues_eq_error_iff]
  unfold serviceIssues
  cases portIssues service <;> simp [bind, Except.bind, pure, Except.pure]

variable {doc : Document}

theorem structureIssues_of_none (h : doc.section? EntryKind.service.sectionName = none) :
    structureIssues doc = .ok (placementIssues doc ++ [Finding.missingServices.onLine 1]) := by
  rw [structureIssues, h]
  rfl

theorem structureIssues_of_some {s : Section}
    (h : doc.section? EntryKind.service.sectionName = some s) :
    structureIssues doc = ((doc.blocks .service).mapM serviceIssues).map fun each =>
      placementIssues doc ++
        (if (doc.blocks .service).isEmpty then [Finding.emptyServices.onLine s.lineNumber] else []) ++
        each.flatten := by
  rw [structureIssues, h]
  rfl

theorem structureIssues_eq_error_iff :
    (∃ fault, structureIssues doc = .error fault) ↔ doc.HasOverlongPort := by
  cases h : doc.section? EntryKind.service.sectionName with
  | none => simp [structureIssues_of_none h, Document.HasOverlongPort,
      Document.blocks_of_section?_eq_none h]
  | some s =>
    have hmap : (∃ fault, structureIssues doc = .error fault) ↔
        ∃ fault, (doc.blocks .service).mapM serviceIssues = .error fault := by
      rw [structureIssues_of_some h]
      cases (doc.blocks .service).mapM serviceIssues <;> simp [Except.map]
    simp only [hmap, mapM_eq_error_iff, serviceIssues_eq_error_iff, Document.HasOverlongPort]

end Check

end ComposeLint
