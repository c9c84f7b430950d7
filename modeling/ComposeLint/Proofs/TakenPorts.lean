import ComposeLint.Proofs.Check.Service
import Mathlib.Data.Finset.Card

/-! # Ports taken twice

The check of a list of ports runs over its entries and carries the ports that it has met. What it
has met at an entry are the ports of the entries before it (`portIssuesFrom_takenPorts`), so each
entry can be judged by itself. And as a port that is met again is the only one that adds none to
those met, the repeats make up for what the distinct ports leave
(`countP_duplicatePort_add_card`). -/

namespace ComposeLint.Check

/-- The port that an entry takes, if it has one that can be evaluated. -/
def takenPort? (entry : Line × Text) : Option HostPort := (HostPort.read entry.2).toOption.join

/-- The ports that entries take, each with the number of its line. -/
def takenPorts (entries : List (Line × Text)) : List (Int × HostPort) :=
  entries.filterMap fun entry => (takenPort? entry).map fun taken => (entry.1.number, taken)

/-- The findings at an entry, by the entries before it: whether one of them takes its port, and
whether the port is a well-known one. -/
def portFindings (name : Text) (earlier : List (Line × Text)) (entry : Line × Text) :
    List Finding :=
  match takenPort? entry with
  | none => []
  | some taken =>
    (if ∃ other ∈ earlier, takenPort? other = some taken then
        [Finding.duplicatePort name taken.port]
      else []) ++
      (wellKnownPorts.lookup taken.port).toList.map (Finding.commonPort name taken.port)

/-- The issues of the list of ports of a service. -/
def portListIssues (name : Text) (ports : Block) : Except Integer.Fault (List Issue) :=
  (hostPorts ports).map (portIssuesFrom name [])

theorem portIssues_of_child? {service ports : Block}
    (h : service.child? "ports".toList = some ports) :
    portIssues service = portListIssues service.name ports := by
  rw [portIssues, h]
  rfl

section Entries

variable {entry : Line × Text} {entries earlier : List (Line × Text)} {taken : HostPort}

theorem mem_take_iff {j : Nat} :
    entry ∈ entries.take j ↔ ∃ i < j, entries[i]? = some entry := by
  rw [List.mem_iff_getElem?]
  simp only [List.getElem?_take, Option.ite_none_right_eq_some]

theorem takenPort?_eq_some_iff :
    takenPort? entry = some taken ↔ HostPort.read entry.2 = .ok (some taken) := by
  unfold takenPort?
  cases HostPort.read entry.2 <;> simp [Except.toOption]

theorem takenPorts_cons (entry : Line × Text) (rest : List (Line × Text)) :
    takenPorts (entry :: rest) =
      ((takenPort? entry).map fun taken => (entry.1.number, taken)).toList ++ takenPorts rest := by
  rw [takenPorts, List.filterMap_cons, ← takenPorts]
  cases takenPort? entry <;> rfl

theorem map_snd_takenPorts (entries : List (Line × Text)) :
    (takenPorts entries).map Prod.snd = entries.filterMap takenPort? := by
  simp [takenPorts, List.map_filterMap, Function.comp_def]

/-- Where every entry can be read, the ports are those of the entries one by one. -/
theorem hostPorts_eq_takenPorts {ports : Block}
    (hread : ∀ entry ∈ ports.entries, ∃ port?, HostPort.read entry.2 = .ok port?) :
    hostPorts ports = .ok (takenPorts ports.entries) := by
  have hentry : ∀ entry ∈ ports.entries, hostPort? (entry.1.number, entry.2) =
      pure ((takenPort? entry).map fun taken => (entry.1.number, taken)) := by
    intro entry hentry
    obtain ⟨port?, hport⟩ := hread entry hentry
    rw [hostPort?, hport, takenPort?, hport]
    rfl
  rw [hostPorts_eq, Block.numberedEntries, List.mapM_map, Function.comp_def, mapM_congr hentry,
    List.mapM_pure]
  simp [pure, Except.pure, Except.map, takenPorts, List.filterMap_map]

theorem duplicatePort_mem_portFindings_iff {name : Text} {port : Nat} :
    .duplicatePort name port ∈ portFindings name earlier entry ↔
      ∃ protocol, takenPort? entry = some ⟨port, protocol⟩ ∧
        ∃ other ∈ earlier, takenPort? other = some ⟨port, protocol⟩ := by
  unfold portFindings
  cases takenPort? entry with
  | none => simp
  | some taken =>
    obtain ⟨port', protocol⟩ := taken
    have hknown (usages : List Text) :
        .duplicatePort name port ∉ usages.map (Finding.commonPort name port') := by simp
    simp only [List.mem_append, hknown, or_false, Option.some.injEq, HostPort.mk.injEq]
    split
    · next hrepeated =>
      rw [List.mem_singleton, Finding.duplicatePort.injEq]
      constructor
      · rintro ⟨-, rfl⟩
        exact ⟨protocol, ⟨rfl, rfl⟩, hrepeated⟩
      · rintro ⟨_, ⟨rfl, rfl⟩, -⟩
        exact ⟨rfl, rfl⟩
    · next hfresh =>
      simp only [List.not_mem_nil, false_iff]
      rintro ⟨_, ⟨rfl, rfl⟩, hrepeated⟩
      exact hfresh hrepeated

theorem commonPort_mem_portFindings_iff {name usage : Text} {port : Nat} :
    .commonPort name port usage ∈ portFindings name earlier entry ↔
      (∃ protocol, takenPort? entry = some ⟨port, protocol⟩) ∧
        wellKnownPorts.lookup port = some usage := by
  unfold portFindings
  cases takenPort? entry with
  | none => simp
  | some taken =>
    obtain ⟨port', protocol⟩ := taken
    have hrepeat : .commonPort name port usage ∉
        if ∃ other ∈ earlier, takenPort? other = some ⟨port', protocol⟩ then
          [Finding.duplicatePort name port'] else [] := by split <;> simp
    simp only [List.mem_append, hrepeat, false_or, List.mem_map, Option.mem_toList,
      Option.some.injEq, HostPort.mk.injEq]
    constructor
    · rintro ⟨known, hknown, heq⟩
      cases heq
      exact ⟨⟨protocol, rfl, rfl⟩, hknown⟩
    · rintro ⟨⟨_, rfl, rfl⟩, hknown⟩
      exact ⟨usage, hknown, rfl⟩

/-- An entry has one finding of each kind at most, that of a repeat first. -/
theorem map_code_portFindings_sublist (name : Text) (earlier : List (Line × Text))
    (entry : Line × Text) : ((portFindings name earlier entry).map Finding.code).Sublist
      [.serviceDuplicatePort, .serviceCommonPort] := by
  unfold portFindings
  cases takenPort? entry with
  | none => simp
  | some taken =>
    rw [List.map_append, List.map_map]
    show List.Sublist (_ ++ _) ([Code.serviceDuplicatePort] ++ [Code.serviceCommonPort])
    refine List.Sublist.append ?_ ?_
    · split <;> simp [Finding.code]
    · cases wellKnownPorts.lookup taken.port <;> simp [Finding.code]

end Entries

/-- **Each entry by itself.** Started with the ports of the entries before, the check gives for each
further entry what its own findings are. -/
theorem portIssuesFrom_takenPorts (name : Text) (entries : List (Line × Text)) :
    ∀ (earlier : List (Line × Text)) (used : List HostPort),
      (∀ taken, taken ∈ used ↔ ∃ other ∈ earlier, takenPort? other = some taken) →
      portIssuesFrom name used (takenPorts entries) =
        (entries.zipIdx earlier.length).flatMap fun (entry, j) =>
          (portFindings name ((earlier ++ entries).take j) entry).map
            (·.onLine entry.1.number) := by
  induction entries with
  | nil => exact fun _ _ _ => rfl
  | cons entry rest ih =>
    intro earlier used hused
    have happend : earlier ++ entry :: rest = (earlier ++ [entry]) ++ rest := by simp
    have htake : (earlier ++ entry :: rest).take earlier.length = earlier :=
      List.take_left' rfl
    have hlength : earlier.length + 1 = (earlier ++ [entry]).length := by simp
    rw [List.zipIdx_cons, List.flatMap_cons, takenPorts_cons]
    dsimp only
    rw [htake, happend, hlength, portFindings]
    cases htaken : takenPort? entry with
    | none => exact ih _ used fun taken => by simp [hused, htaken]
    | some taken =>
      have hcontains : used.contains taken =
          decide (∃ other ∈ earlier, takenPort? other = some taken) := by
        rw [Bool.eq_iff_iff, List.contains_iff_mem, decide_eq_true_iff, hused]
      have hrest := ih (earlier ++ [entry]) (taken :: used) fun other => by
        simp [hused, htaken, or_comm, eq_comm]
      simp only [Option.map_some, Option.toList_some, List.singleton_append, portIssuesFrom,
        hcontains, hrest, decide_eq_true_eq]

/-! ## The number of repeats -/

/-- A port is a repeat or one more to the distinct ones. -/
theorem card_insert_sdiff_add_ite {α : Type} [DecidableEq α] (a : α) (s t : Finset α) :
    (insert a s \ t).card + (if a ∈ t then 1 else 0) = (s \ insert a t).card + 1 := by
  split
  · next hmem => rw [Finset.insert_sdiff_of_mem _ hmem, Finset.insert_eq_of_mem hmem]
  · next hnew =>
    have hsplit : insert a s \ t = insert a (s \ insert a t) := by
      ext b
      by_cases hb : b = a
      · simp [hb, hnew]
      · simp [hb]
    rw [hsplit, Finset.card_insert_of_notMem (by simp), Nat.add_zero]

/-- The first of the ports is reported as a repeat if it was met before. -/
theorem countP_duplicatePort_cons (name : Text) (used : List HostPort) (line : Int)
    (taken : HostPort) (rest : List (Int × HostPort)) :
    (portIssuesFrom name used ((line, taken) :: rest)).countP (·.code == .serviceDuplicatePort) =
      (if taken ∈ used then 1 else 0) +
        (portIssuesFrom name (taken :: used) rest).countP (·.code == .serviceDuplicatePort) := by
  have hknown (usages : List Text) : (usages.map (Finding.commonPort name taken.port)).countP
      (fun f => (f.onLine line).code == .serviceDuplicatePort) = 0 := by
    simp [List.countP_eq_zero, Finding.onLine, Finding.issue, Finding.code]
  rw [portIssuesFrom, List.countP_append, List.countP_map, List.countP_append]
  simp only [Function.comp_def, hknown, Nat.add_zero]
  congr 1
  by_cases hmet : taken ∈ used <;> simp [hmet, Finding.onLine, Finding.issue, Finding.code]

/-- Repeats and distinct ports make up all ports, where the ports met before count as repeats. -/
theorem countP_duplicatePort_add_card (name : Text) (taken : List (Int × HostPort)) :
    ∀ used : List HostPort,
      (portIssuesFrom name used taken).countP (·.code == .serviceDuplicatePort) +
        ((taken.map Prod.snd).toFinset \ used.toFinset).card = taken.length := by
  induction taken with
  | nil => simp [portIssuesFrom]
  | cons first rest ih =>
    obtain ⟨line, port⟩ := first
    intro used
    have hrest := ih (port :: used)
    have hcard := card_insert_sdiff_add_ite port (rest.map Prod.snd).toFinset used.toFinset
    rw [countP_duplicatePort_cons, List.map_cons, List.toFinset_cons, List.length_cons]
    rw [List.toFinset_cons] at hrest
    simp only [List.mem_toFinset] at hcard
    dsimp only
    omega

/-- **Ports taken twice.** Where every entry of a list of ports can be read, the check gives, entry
by entry in their order, one issue if an entry before takes the same port of the same protocol, and
after it one if the port is a well-known one. So there are as many repeats as there are entries that
take a port, less the distinct ports. -/
theorem port_repeats_exact (name : Text) {ports : Block}
    (hread : ∀ entry ∈ ports.entries, ∃ port?, HostPort.read entry.2 = .ok port?) :
    let findingsAt (j : Nat) (entry : Line × Text) : List Finding :=
      portFindings name (ports.entries.take j) entry
    let taken : List HostPort := ports.entries.filterMap takenPort?
    ∃ issues, portListIssues name ports = .ok issues ∧
      (∀ service : Block, service.name = name → service.child? "ports".toList = some ports →
        portIssues service = .ok issues) ∧
      issues = ports.entries.zipIdx.flatMap (fun (entry, j) =>
        (findingsAt j entry).map (·.onLine entry.1.number)) ∧
      (∀ j entry, ports.entries[j]? = some entry →
        ((findingsAt j entry).map Finding.code).Sublist
          [.serviceDuplicatePort, .serviceCommonPort] ∧
        (∀ port, .duplicatePort name port ∈ findingsAt j entry ↔
          ∃ i < j, ∃ other, ports.entries[i]? = some other ∧ ∃ protocol,
            HostPort.read other.2 = .ok (some ⟨port, protocol⟩) ∧
            HostPort.read entry.2 = .ok (some ⟨port, protocol⟩)) ∧
        ∀ port usage, .commonPort name port usage ∈ findingsAt j entry ↔
          (∃ protocol, HostPort.read entry.2 = .ok (some ⟨port, protocol⟩)) ∧
            wellKnownPorts.lookup port = some usage) ∧
      issues.countP (·.code == .serviceDuplicatePort) + taken.toFinset.card = taken.length := by
  intro findingsAt taken
  have hissues : portListIssues name ports =
      .ok (portIssuesFrom name [] (takenPorts ports.entries)) := by
    rw [portListIssues, hostPorts_eq_takenPorts hread]
    rfl
  refine ⟨_, hissues, ?_, portIssuesFrom_takenPorts name ports.entries [] [] (by simp), ?_, ?_⟩
  · rintro service rfl hports
    rw [portIssues_of_child? hports, hissues]
  · intro j entry hentry
    refine ⟨map_code_portFindings_sublist name _ entry, fun port => ?_, fun port usage => ?_⟩
    · rw [duplicatePort_mem_portFindings_iff]
      simp only [takenPort?_eq_some_iff]
      constructor
      · rintro ⟨protocol, hport, other, hother, hsame⟩
        obtain ⟨i, hi, hget⟩ := mem_take_iff.mp hother
        exact ⟨i, hi, other, hget, protocol, hsame, hport⟩
      · rintro ⟨i, hi, other, hget, protocol, hsame, hport⟩
        exact ⟨protocol, hport, other, mem_take_iff.mpr ⟨i, hi, hget⟩, hsame⟩
    · rw [commonPort_mem_portFindings_iff]
      simp only [takenPort?_eq_some_iff]
  · have hcount := countP_duplicatePort_add_card name (takenPorts ports.entries) []
    have hlength : (takenPorts ports.entries).length = taken.length := by
      rw [← List.length_map (f := Prod.snd), map_snd_takenPorts]
    rwa [map_snd_takenPorts, hlength, List.toFinset_nil, Finset.sdiff_empty] at hcount

/-- A list in brackets that takes the port 80 three times, one time under another protocol and one
time with a leading zero, around an entry that is no port. -/
theorem port_repeats_bracketed :
    let ports : Block :=
      ⟨Line.ofText 5 "    ports: [80:80, '080:8080', 80:80/udp, $PORT:1]".toList, []⟩
    (∀ entry ∈ ports.entries, ∃ port?, HostPort.read entry.2 = .ok port?) ∧
      ∃ issues, portListIssues "web".toList ports = .ok issues ∧
        issues.map Issue.code =
          [.serviceCommonPort, .serviceDuplicatePort, .serviceCommonPort, .serviceCommonPort] ∧
        issues.countP (·.code == .serviceDuplicatePort) + 2 = 3 := by
  intro ports
  have hread : ∀ entry ∈ ports.entries, ∃ port?, HostPort.read entry.2 = .ok port? := by
    have hall : ports.entries.all (fun entry => (HostPort.read entry.2).toBool) = true := by decide
    intro entry hentry
    have hentry := List.all_eq_true.mp hall entry hentry
    cases hport : HostPort.read entry.2 with
    | ok port? => exact ⟨port?, rfl⟩
    | error fault => rw [hport] at hentry; cases hentry
  obtain ⟨issues, hissues, -, hform, -, hcount⟩ := port_repeats_exact "web".toList hread
  refine ⟨hread, issues, hissues, ?_, ?_⟩
  · rw [hform]
    decide
  · have hdistinct : (ports.entries.filterMap takenPort?).toFinset.card = 2 := by decide
    have hlength : (ports.entries.filterMap takenPort?).length = 3 := by decide
    rw [hdistinct, hlength] at hcount
    exact hcount

end ComposeLint.Check
