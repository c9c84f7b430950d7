import ComposeLint.Proofs.Check.Outcome
import ComposeLint.Proofs.Sorting
import ComposeLint.Stack.Reader

/-! # Variables counted and variables read

The check of a service counts what stands below `environment`: the items of its list and its keys.
The stack reads a variable off every key, and off every item but those that have nothing before
their equals sign. So the count of the check is the number of variables together with that of these
vacant items (`Block.variableCount_eq`), and the check is right about a service where there are none.
-/

namespace ComposeLint

namespace Block

variable {b environment : Block}

/-- The items of a list that name no variable: only blanks stand before the first equals sign. -/
def vacantEntries (b : Block) : List (Line × Text) :=
  b.entries.filter fun e => e.2.unquote.splitAssignment.1.isVacant

theorem variableOfItem?_eq_none_iff {t : Text} :
    variableOfItem? t = none ↔ t.unquote.splitAssignment.1.isVacant = true := by
  unfold variableOfItem?
  dsimp only
  split <;> simp [*]

/-- Each item gives a variable or is vacant. -/
theorem length_filterMap_variableOfItem? (entries : List (Line × Text)) :
    (entries.filterMap fun e => (variableOfItem? e.2).map (e.1.number, ·)).length +
      (entries.filter fun e => e.2.unquote.splitAssignment.1.isVacant).length = entries.length := by
  induction entries with
  | nil => rfl
  | cons e rest ih =>
    rw [List.filterMap_cons, List.filter_cons]
    cases h : variableOfItem? e.2 with
    | none =>
      rw [variableOfItem?_eq_none_iff.mp h]
      simp only [Option.map_none, if_true, List.length_cons]
      omega
    | some v =>
      have hnamed : ¬ e.2.unquote.splitAssignment.1.isVacant = true := fun hvacant => by
        rw [variableOfItem?_eq_none_iff.mpr hvacant] at h
        cases h
      simp only [Option.map_some, if_neg hnamed, List.length_cons]
      omega

/-- The check counts the variables of the stack and the vacant items. -/
theorem variableCount_eq (h : b.child? "environment".toList = some environment) :
    Check.variableCount environment = b.environment.length + environment.vacantEntries.length := by
  have hitems := length_filterMap_variableOfItem? environment.entries
  have hread : b.environment.length =
      (environment.entries.filterMap fun e => (variableOfItem? e.2).map (e.1.number, ·)).length +
        environment.children.length := by
    simp only [Block.environment, h, inLineOrder]
    rw [List.length_map, List.length_mergeSort, List.length_append, List.length_map]
  rw [Check.variableCount, hread, vacantEntries]
  omega

end Block

@[simp]
theorem Service.environment_ofBlock (b : Block) : (ofBlock b).environment = b.environment := rfl

namespace Check

variable {service : Block} {code : Code} {issues : List Issue}

/-! ## The issue about many variables -/

theorem filter_code_eq_nil (h : ∀ i ∈ issues, i.code ≠ code) :
    issues.filter (·.code == code) = [] :=
  List.filter_eq_nil_iff.mpr fun i hi => by simpa using h i hi

theorem code_of_mem_imageIssues {i : Issue} (h : i ∈ imageIssues service) :
    i.code ≠ .serviceManyEnvVars := by
  unfold imageIssues at h
  split at h
  · obtain ⟨f, hf, rfl⟩ := List.mem_map.mp h
    have hfault := Option.mem_toList.mp hf
    show f.code ≠ _
    grind [imageFault?, Finding.code]
  · split at h
    · cases h
    · obtain rfl := List.mem_singleton.mp h
      exact Code.noConfusion

theorem code_of_mem_restartIssues {i : Issue} (h : i ∈ restartIssues service) :
    i.code ≠ .serviceManyEnvVars := by
  unfold restartIssues at h
  split at h
  · cases h
  · obtain rfl := List.mem_singleton.mp h
    exact Code.noConfusion

theorem code_of_mountFault? {mount : Text} {f : Finding} (h : mountFault? mount = some f) :
    f.code ≠ .serviceManyEnvVars := by
  grind [mountFault?, mountPartsFault?, Finding.code]

theorem code_of_mem_volumeIssues {i : Issue} (h : i ∈ volumeIssues service) :
    i.code ≠ .serviceManyEnvVars := by
  unfold volumeIssues at h
  split at h
  · obtain ⟨e, -, h⟩ := List.mem_flatMap.mp h
    dsimp only at h
    split at h
    · cases h
    · obtain ⟨f, hf, rfl⟩ := List.mem_map.mp h
      exact code_of_mountFault? (Option.mem_toList.mp hf)
  · obtain rfl := List.mem_singleton.mp h
    exact Code.noConfusion

theorem code_of_mem_childIssues {i : Issue} {key : String} {reason : Block → Bool}
    {finding : Finding} (h : i ∈ childIssues service key reason finding) :
    i.code = finding.code := by
  unfold childIssues at h
  split at h
  · split at h
    · obtain rfl := List.mem_singleton.mp h
      rfl
    · cases h
  · cases h

theorem code_of_mem_portIssuesFrom {i : Issue} {name : Text} {ports : List (Int × HostPort)} :
    ∀ {used : List HostPort}, i ∈ portIssuesFrom name used ports →
      i.code ≠ .serviceManyEnvVars := by
  induction ports with
  | nil => intro used h; cases h
  | cons taken rest ih =>
    intro used h
    rcases List.mem_append.mp h with h | h
    · obtain ⟨f, hf, rfl⟩ := List.mem_map.mp h
      rcases List.mem_append.mp hf with hf | hf
      · split at hf
        · obtain rfl := List.mem_singleton.mp hf
          exact Code.noConfusion
        · cases hf
      · obtain ⟨usage, -, rfl⟩ := List.mem_map.mp hf
        exact Code.noConfusion
    · exact ih h

theorem code_of_mem_portIssues (hok : portIssues service = .ok issues) :
    ∀ i ∈ issues, i.code ≠ .serviceManyEnvVars := by
  unfold portIssues at hok
  split at hok
  · next ports _ =>
    cases htaken : hostPorts ports with
    | error fault => rw [htaken] at hok; cases hok
    | ok taken =>
      rw [htaken] at hok
      obtain rfl := Except.ok.inj hok
      exact fun i => code_of_mem_portIssuesFrom
  · obtain rfl : [] = issues := Except.ok.inj hok
    exact fun i hi => nomatch hi

theorem filter_childIssues (key : String) (reason : Block → Bool) {f : Finding}
    (hf : f.code ≠ code) : (childIssues service key reason f).filter (·.code == code) = [] :=
  filter_code_eq_nil fun _ hi => code_of_mem_childIssues hi ▸ hf

/-- What the check of variables says, where there is a list or mapping of them. -/
theorem environmentIssues_of_child? {environment : Block}
    (h : service.child? "environment".toList = some environment) :
    environmentIssues service =
      if service.hasChild "env_file".toList = false ∧
          maxInlineVariables < variableCount environment then
        [(Finding.manyVariables service.name (variableCount environment)).onLine
          environment.header.number]
      else [] := by
  simp only [environmentIssues, h, Bool.and_eq_true, Bool.not_eq_true', decide_eq_true_iff]

theorem environmentIssues_of_none (h : service.child? "environment".toList = none) :
    environmentIssues service = [] := by
  simp only [environmentIssues, h]

theorem filter_environmentIssues (service : Block) :
    (environmentIssues service).filter (·.code == .serviceManyEnvVars) =
      environmentIssues service := by
  cases h : service.child? "environment".toList with
  | none => rw [environmentIssues_of_none h, List.filter_nil]
  | some environment =>
    rw [environmentIssues_of_child? h]
    split <;> rfl

/-- No other check of a service has this code. -/
theorem filter_serviceIssues (hok : serviceIssues service = .ok issues) :
    issues.filter (·.code == .serviceManyEnvVars) = environmentIssues service := by
  unfold serviceIssues at hok
  cases hports : portIssues service with
  | error fault => rw [hports] at hok; cases hok
  | ok ports =>
    rw [hports] at hok
    obtain rfl := Except.ok.inj hok
    rw [List.filter_append, List.filter_append, List.filter_append, List.filter_append,
      List.filter_append, List.filter_append, List.filter_append, filter_environmentIssues,
      filter_childIssues "expose" _ Code.noConfusion,
      filter_childIssues "privileged" _ Code.noConfusion,
      filter_childIssues "network_mode" _ Code.noConfusion,
      filter_code_eq_nil fun _ => code_of_mem_imageIssues,
      filter_code_eq_nil fun _ => code_of_mem_restartIssues,
      filter_code_eq_nil fun _ => code_of_mem_volumeIssues,
      filter_code_eq_nil (code_of_mem_portIssues hports)]
    simp only [List.nil_append, List.append_nil]

end Check

theorem Finding.message_manyVariables (name : Text) (count : Nat) (line : Int) :
    ((manyVariables name count).onLine line).message = "Service \"".toList ++ (name ++
      ("\" has ".toList ++ (Text.ofInt count ++ " environment variables.".toList))) := rfl

/-- **How many variables a service is said to have.** The check of a service fails only for a port too
long to be evaluated. Otherwise there is at most one issue about many variables, at the line of
`environment`, and its message counts the variables that the stack reads together with the vacant
items of the list. It is there if and only if this count is above five and the service has an
`environment` but no `env_file`. So the count is that of the stack if and only if every item names a
variable. -/
theorem variables_counted_with_vacant {text : Text} {i : Nat} {service : Block}
    (hservice : ((Document.ofText text).blocks .service)[i]? = some service) :
    ((∃ fault, Check.serviceIssues service = .error fault) ↔
      ∃ ports, service.child? "ports".toList = some ports ∧ ports.HasOverlongPort) ∧
    ∃ parsed, (Stack.read text).services[i]? = some parsed ∧
      ∀ issues, Check.serviceIssues service = .ok issues →
        let reported := issues.filter (·.code == .serviceManyEnvVars)
        (service.child? "environment".toList = none → parsed.environment = [] ∧ reported = []) ∧
        ∀ environment, service.child? "environment".toList = some environment →
          let count := parsed.environment.length + environment.vacantEntries.length
          reported = (if service.hasChild "env_file".toList = false ∧ 5 < count then
              [(Finding.manyVariables parsed.name count).onLine environment.header.number]
            else []) ∧
          (∀ issue ∈ reported, issue.message = "Service \"".toList ++ (parsed.name ++
            ("\" has ".toList ++ (Text.ofInt count ++ " environment variables.".toList)))) ∧
          (count = parsed.environment.length ↔
            ∀ e ∈ environment.entries, (Block.variableOfItem? e.2).isSome) := by
  refine ⟨Check.serviceIssues_eq_error_iff, Service.ofBlock service, ?_, fun issues hok => ?_⟩
  · rw [Stack.read, Stack.ofDocument, List.getElem?_map, hservice, Option.map_some]
  · intro reported
    have hreported : reported = Check.environmentIssues service := Check.filter_serviceIssues hok
    refine ⟨fun hnone => ⟨?_, ?_⟩, fun environment henvironment => ?_⟩
    · simp only [Service.environment_ofBlock, Block.environment, hnone]
    · rw [hreported, Check.environmentIssues_of_none hnone]
    have hissue := hreported.trans (Check.environmentIssues_of_child? henvironment)
    rw [Block.variableCount_eq henvironment] at hissue
    refine ⟨hissue, fun issue hmem => ?_, ?_⟩
    · rw [hissue] at hmem
      split at hmem
      · rw [List.mem_singleton.mp hmem]
        exact Finding.message_manyVariables _ _ _
      · cases hmem
    · rw [Nat.add_eq_left, List.length_eq_zero_iff, Block.vacantEntries, List.filter_eq_nil_iff]
      refine forall₂_congr fun e _ => ?_
      rw [← Block.variableOfItem?_eq_none_iff, Option.isSome_iff_ne_none]

/-- Six variables, with and without values, are counted as they are read. -/
theorem variables_counted_six :
    let line (n : Int) (s : String) : Line := ⟨n, s.toList, false⟩
    let environment : Block := ⟨line 3 "    environment: [A=1, B, C=3, D=, E, F]", []⟩
    let web : Block := ⟨line 2 "  web:", [environment.header]⟩
    let text : Text := "services:\n  web:\n    environment: [A=1, B, C=3, D=, E, F]".toList
    ((Document.ofText text).blocks .service)[0]? = some web ∧
      ∃ parsed issues, (Stack.read text).services[0]? = some parsed ∧
        parsed.environment.length = 6 ∧ Check.serviceIssues web = .ok issues ∧
        issues.filter (·.code == .serviceManyEnvVars) =
          [(Finding.manyVariables parsed.name 6).onLine 3] := by
  intro line environment web text
  have hweb : ((Document.ofText text).blocks .service)[0]? = some web := by decide
  have henvironment : web.child? "environment".toList = some environment := by decide
  have hvacant : environment.vacantEntries = [] := by decide
  have hcounted : Check.variableCount environment = 6 := by decide
  have hfile : web.hasChild "env_file".toList = false := by decide
  have hports : web.child? "ports".toList = none := by decide
  obtain ⟨hfails, parsed, hparsed, hissues⟩ := variables_counted_with_vacant hweb
  obtain rfl : Service.ofBlock web = parsed := by
    rw [Stack.read, Stack.ofDocument, List.getElem?_map, hweb, Option.map_some] at hparsed
    exact Option.some.inj hparsed
  have hlength : (Service.ofBlock web).environment.length = 6 := by
    have hcount := Block.variableCount_eq henvironment
    rw [hvacant, hcounted, List.length_nil, Nat.add_zero] at hcount
    rw [Service.environment_ofBlock, ← hcount]
  cases hok : Check.serviceIssues web with
  | error fault =>
    obtain ⟨ports, hsome, -⟩ := hfails.mp ⟨fault, hok⟩
    rw [hports] at hsome
    cases hsome
  | ok issues =>
    have hreported := ((hissues issues hok).2 environment henvironment).1
    rw [hvacant, hlength, if_pos ⟨hfile, by decide⟩] at hreported
    exact ⟨hweb, _, issues, hparsed, hlength, rfl, hreported⟩

/-- An item that is left empty is counted, though the service has no more than five variables. -/
theorem vacant_item_counted :
    let line (n : Int) (s : String) : Line := ⟨n, s.toList, false⟩
    let environment : Block := ⟨line 3 "    environment:", [line 4 "    - A", line 5 "    - B",
      line 6 "    - C", line 7 "    - D", line 8 "    - E", line 9 "    -"]⟩
    let web : Block := ⟨line 2 "  web:", environment.header :: environment.body⟩
    let text : Text := ("services:\n  web:\n    environment:\n    - A\n    - B\n    - C\n    - D\n" ++
      "    - E\n    -").toList
    (Document.ofText text).blocks .service = [web] ∧
      (Stack.read text).services.map (·.environment.length) = [5] ∧
      (Check.serviceIssues web).map (List.filter (·.code == .serviceManyEnvVars)) =
        .ok [(Finding.manyVariables "web".toList 6).onLine 3] := by
  intro line environment web text
  have hweb : (Document.ofText text).blocks .service = [web] := by decide +kernel
  have henvironment : web.child? "environment".toList = some environment := by decide +kernel
  have hvacant : environment.vacantEntries.length = 1 := by decide
  have hcounted : Check.variableCount environment = 6 := by decide
  have hreported : (Check.serviceIssues web).map (List.filter (·.code == .serviceManyEnvVars)) =
      .ok [(Finding.manyVariables "web".toList 6).onLine 3] := by decide +kernel
  have hcount := Block.variableCount_eq henvironment
  have hlength : web.environment.length = 5 := by omega
  refine ⟨hweb, ?_, hreported⟩
  rw [Stack.read, Stack.ofDocument, hweb, List.map_singleton, List.map_singleton,
    Service.environment_ofBlock, hlength]

end ComposeLint
