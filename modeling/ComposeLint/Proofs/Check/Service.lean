import ComposeLint.Check.Service

/-! # What the checks of a service read of it

A service is checked by its name, by which keys it has, and by what stands below some of these: a
value, entries, and how many keys. Lines come in by their numbers only. So two services that agree
in all this have the same issues (`Check.serviceIssues_of_readsAs`), whatever else their lines
hold. -/

namespace ComposeLint

/-- The issue with its lines under other numbers. -/
def Issue.moved (place : Int → Int) (i : Issue) : Issue :=
  { i with place := { i.place with
      line? := i.place.line?.map place, endLine? := i.place.endLine?.map place } }

@[simp]
theorem Issue.moved_id : Issue.moved id = id := by
  funext i
  simp [moved]

@[simp]
theorem Finding.onLine_moved (place : Int → Int) (f : Finding) (line : Int) :
    (f.onLine line).moved place = f.onLine (place line) := rfl

namespace Block

/-- The entries with the numbers of their lines. -/
def numberedEntries (b : Block) : List (Int × Text) := b.entries.map fun e => (e.1.number, e.2)

/-- A block that shows the same below a service as another one, its lines being numbered anew. -/
structure ShowsAs (place : Int → Int) (b' b : Block) : Prop where
  number : b'.header.number = place b.header.number
  value : b'.value = b.value
  entries : b'.numberedEntries = b.numberedEntries.map fun e => (place e.1, e.2)
  children : b'.children.length = b.children.length

/-- A service that reads the same as another one, its lines being numbered anew. -/
structure ReadsAs (place : Int → Int) (s' s : Block) : Prop where
  number : s'.header.number = place s.header.number
  name : s'.name = s.name
  hasChild : ∀ key, s'.hasChild key = s.hasChild key
  child? : ∀ key, s'.child? key = none ∧ s.child? key = none ∨
    ∃ c' c, s'.child? key = some c' ∧ s.child? key = some c ∧ c'.ShowsAs place c

/-- Children that are found in the same places and changed one by one. -/
theorem child?_showsAs {place : Int → Int} {s' s : Block} {f : Block → Block}
    (hf : ∀ c, (f c).ShowsAs place c) {key : Text} (h : s'.child? key = (s.child? key).map f) :
    s'.child? key = none ∧ s.child? key = none ∨
      ∃ c' c, s'.child? key = some c' ∧ s.child? key = some c ∧ c'.ShowsAs place c := by
  cases hc : s.child? key with
  | none => exact .inl ⟨by rw [h, hc, Option.map_none], rfl⟩
  | some c => exact .inr ⟨f c, c, by rw [h, hc, Option.map_some], rfl, hf c⟩

end Block

namespace Check

variable {place : Int → Int}

/-! ## Below a service -/

section
variable {b' b : Block}

theorem mountIssues_moved (mount : Text) (line : Int) :
    mountIssues mount (place line) = (mountIssues mount line).map (Issue.moved place) := by
  simp [mountIssues, Function.comp_def]

theorem mountListIssues_eq (volumes : Block) :
    mountListIssues volumes = volumes.numberedEntries.flatMap fun e =>
      let mount := e.2.unquote
      if mount.isEmpty || mount.isMappingEntry then [] else mountIssues mount e.1 := by
  rw [Block.numberedEntries, List.flatMap_map]
  rfl

theorem mountListIssues_of_showsAs (h : b'.ShowsAs place b) :
    mountListIssues b' = (mountListIssues b).map (Issue.moved place) := by
  rw [mountListIssues_eq, mountListIssues_eq, h.entries, List.flatMap_map, List.map_flatMap]
  congr 1
  funext e
  dsimp only
  split
  · rfl
  · exact mountIssues_moved _ _

theorem variableCount_of_showsAs (h : b'.ShowsAs place b) :
    variableCount b' = variableCount b := by
  have hentries := congrArg List.length h.entries
  simp only [Block.numberedEntries, List.length_map] at hentries
  rw [variableCount, hentries, h.children, variableCount]

/-- A run of fallible steps whose results are relabelled. -/
theorem mapM_map_result {α β γ ε : Type} {f : α → Except ε β} {g : α → Except ε γ} {h : β → γ}
    (hfg : ∀ a, g a = (f a).map h) : ∀ l : List α, l.mapM g = (l.mapM f).map (List.map h)
  | [] => rfl
  | a :: rest => by
    rw [List.mapM_cons, List.mapM_cons, hfg, mapM_map_result hfg rest]
    cases f a with
    | error e => rfl
    | ok b => cases rest.mapM f <;> rfl

theorem mapM_congr {α β ε : Type} {f g : α → Except ε β} {l : List α} (h : ∀ a ∈ l, f a = g a) :
    l.mapM f = l.mapM g := by
  induction l with
  | nil => rfl
  | cons a rest ih =>
    rw [List.mapM_cons, List.mapM_cons, h a List.mem_cons_self,
      ih fun b hb => h b (List.mem_cons_of_mem a hb)]

/-- The host port of one entry, with the number of its line. -/
def hostPort? (e : Int × Text) : Except Integer.Fault (Option (Int × HostPort)) :=
  (HostPort.read e.2).map (Option.map fun port => (e.1, port))

theorem hostPorts_eq (ports : Block) :
    hostPorts ports = (ports.numberedEntries.mapM hostPort?).map (List.filterMap id) := by
  rw [Block.numberedEntries, List.mapM_map]
  simp only [hostPorts, bind_pure_comp]
  rfl

theorem hostPorts_of_showsAs (h : b'.ShowsAs place b) :
    hostPorts b' = (hostPorts b).map (List.map fun taken => (place taken.1, taken.2)) := by
  have hentry (e : Int × Text) : hostPort? (place e.1, e.2) =
      (hostPort? e).map (Option.map fun taken => (place taken.1, taken.2)) := by
    unfold hostPort?
    cases HostPort.read e.2 with
    | error fault => rfl
    | ok port? => cases port? <;> rfl
  rw [hostPorts_eq, hostPorts_eq, h.entries, List.mapM_map, Function.comp_def,
    mapM_map_result hentry]
  cases b.numberedEntries.mapM hostPort? with
  | error fault => rfl
  | ok read => exact congrArg Except.ok (by simp [List.filterMap_map, List.map_filterMap])

end

theorem portIssuesFrom_moved (name : Text) (taken : List (Int × HostPort)) :
    ∀ used, portIssuesFrom name used (taken.map fun t => (place t.1, t.2)) =
      (portIssuesFrom name used taken).map (Issue.moved place) := by
  induction taken with
  | nil => exact fun _ => rfl
  | cons t rest ih =>
    intro used
    simp only [List.map_cons, portIssuesFrom, ih, List.map_append, List.map_map]
    congr 1

/-! ## The service -/

variable {s' s : Block} (h : s'.ReadsAs place s)
include h

theorem imageIssues_of_readsAs :
    imageIssues s' = (imageIssues s).map (Issue.moved place) := by
  unfold imageIssues
  rcases h.child? "image".toList with ⟨hs', hs⟩ | ⟨c', c, hs', hs, hc⟩
  · simp only [hs', hs, h.hasChild, h.name, h.number]
    split <;> rfl
  · simp only [hs', hs, h.name, hc.value, hc.number, List.map_map]
    rfl

theorem restartIssues_of_readsAs :
    restartIssues s' = (restartIssues s).map (Issue.moved place) := by
  unfold restartIssues
  rw [h.hasChild, h.name, h.number]
  split <;> rfl

theorem volumeIssues_of_readsAs :
    volumeIssues s' = (volumeIssues s).map (Issue.moved place) := by
  unfold volumeIssues
  rcases h.child? "volumes".toList with ⟨hs', hs⟩ | ⟨c', c, hs', hs, hc⟩
  · simp only [hs', hs, h.name, h.number]
    rfl
  · simp only [hs', hs, mountListIssues_of_showsAs hc]

/-- What gives reason to a finding at a child is its value, or nothing of it. -/
theorem childIssues_of_readsAs (key : String) (reason : Block → Bool) (finding : Finding)
    (hreason : ∀ c' c, c'.ShowsAs place c → reason c' = reason c) :
    childIssues s' key reason finding =
      (childIssues s key reason finding).map (Issue.moved place) := by
  unfold childIssues
  rcases h.child? key.toList with ⟨hs', hs⟩ | ⟨c', c, hs', hs, hc⟩
  · simp only [hs', hs]
    rfl
  · simp only [hs', hs, hreason c' c hc, hc.number]
    split <;> rfl

theorem environmentIssues_of_readsAs :
    environmentIssues s' = (environmentIssues s).map (Issue.moved place) := by
  unfold environmentIssues
  rcases h.child? "environment".toList with ⟨hs', hs⟩ | ⟨c', c, hs', hs, hc⟩
  · simp only [hs', hs]
    rfl
  · simp only [hs', hs, h.hasChild, h.name, variableCount_of_showsAs hc, hc.number]
    split <;> rfl

theorem portIssues_of_readsAs :
    portIssues s' = (portIssues s).map (List.map (Issue.moved place)) := by
  unfold portIssues
  rcases h.child? "ports".toList with ⟨hs', hs⟩ | ⟨c', c, hs', hs, hc⟩
  · simp only [hs', hs]
    rfl
  · simp only [hs', hs, h.name, hostPorts_of_showsAs hc]
    cases hostPorts c with
    | error fault => rfl
    | ok taken => exact congrArg Except.ok (portIssuesFrom_moved _ taken [])

/-- The issues are found at the new numbers, and the check fails where it failed. -/
theorem serviceIssues_of_readsAs :
    serviceIssues s' = (serviceIssues s).map (List.map (Issue.moved place)) := by
  have hexpose := childIssues_of_readsAs h "expose" (fun _ => !s.hasChild "ports".toList)
    (.exposedOnly s.name) fun _ _ _ => rfl
  have hprivileged := childIssues_of_readsAs h "privileged"
    (fun child => child.value.unquote.toLower == "true".toList) (.privileged s.name)
    fun _ _ hc => by rw [hc.value]
  have hnetwork := childIssues_of_readsAs h "network_mode"
    (fun child => child.value.unquote == "host".toList) (.hostNetwork s.name)
    fun _ _ hc => by rw [hc.value]
  unfold serviceIssues
  rw [portIssues_of_readsAs h]
  cases portIssues s with
  | error fault => rfl
  | ok ports =>
    refine congrArg Except.ok ?_
    simp only [List.map_append, imageIssues_of_readsAs h, restartIssues_of_readsAs h,
      volumeIssues_of_readsAs h, environmentIssues_of_readsAs h, h.hasChild, h.name, hexpose,
      hprivileged, hnetwork]

omit h in
theorem serviceIssues_eq_of_readsAs (h : s'.ReadsAs id s) : serviceIssues s' = serviceIssues s := by
  rw [serviceIssues_of_readsAs h]
  cases serviceIssues s with
  | error fault => rfl
  | ok issues => exact congrArg Except.ok (by simp)

end Check

end ComposeLint
