import ComposeLint.Proofs.Text.Utf8
import ComposeLint.Server.Lifespan

/-! # What a failed start leaves behind

A start first finds the two paths, then sets the store, then reads the size limit. Whatever is wrong
with the options up to the paths is found while nothing is set yet. A limit that is no number is
found too late: the store is set by then and stays. The environment alone cannot lead there, since
its limit is read together with its paths. -/

namespace ComposeLint

namespace Starting

variable {α β : Type} (s : Shared)

theorem run_bind (a : Starting α) (f : α → Starting β) :
    (a >>= f).run s =
      match a.run s with
      | (.ok x, s') => (f x).run s'
      | (.error fault, s') => (.error fault, s') := by
  change (ExceptT.bindCont f (a.run s).1).run (a.run s).2 = _
  rcases a.run s with ⟨fault | x, s'⟩ <;> rfl

theorem run_lift (x : Except StartFault α) : (liftM x : Starting α).run s = (x, s) := rfl

theorem run_modify (f : Shared → Shared) :
    (modify f : Starting PUnit).run s = (.ok ⟨⟩, f s) := rfl

end Starting

namespace Lifespan

/-! ### What the options say -/

theorem pathOf_eq_ok_iff {v : Json} {path : Text} :
    pathOf v = .ok path ↔ ∃ t, v = .string t ∧ path = FilePath.plain t := by
  cases v <;> simp [pathOf, eq_comm]

theorem members_eq_error_iff {v : Json} {fault : StartFault} :
    members v = .error fault ↔ (∀ ms, v ≠ .object ms) ∧ fault = .notOptions v.kindName := by
  cases v <;> simp [members, eq_comm]

theorem pathOf_eq_error_iff {v : Json} {fault : StartFault} :
    pathOf v = .error fault ↔ (∀ t, v ≠ .string t) ∧ fault = .notAPath v.kindName := by
  cases v <;> simp [pathOf, eq_comm]

end Lifespan

namespace Environment

variable (env : Environment) (ms : List (Text × Json))

def customOption : Json :=
  Lifespan.optionOf ms customKey (.string env.defaultCustomPath)

def startupOption : Json :=
  Lifespan.optionOf ms startupKey (.string env.defaultStartupPath)

def limitOption : Json :=
  Lifespan.optionOf ms limitKey (.integer defaultMaxBytes)

/-- The options are an object with these members, and both paths in it are texts. -/
structure Names (paths : StorePaths) : Prop where
  options : env.options = .ok (.object ms)
  custom : ∃ t, env.customOption ms = .string t ∧ paths.custom = FilePath.plain t
  startup : ∃ t, env.startupOption ms = .string t ∧ paths.startup = FilePath.plain t

/-- What can be wrong with the options before the paths are known. -/
inductive NamesNothing : StartFault → Prop
  | unreadable {fault : OptionsFault} (h : env.options = .error fault) :
    NamesNothing (.options fault)
  | notOptions {v : Json} (h : env.options = .ok v) (hv : ∀ ms, v ≠ .object ms) :
    NamesNothing (.notOptions v.kindName)
  | custom {ms : List (Text × Json)} (h : env.options = .ok (.object ms))
    (hc : ∀ t, env.customOption ms ≠ .string t) :
    NamesNothing (.notAPath (env.customOption ms).kindName)
  | startup {ms : List (Text × Json)} {t : Text} (h : env.options = .ok (.object ms))
    (hc : env.customOption ms = .string t) (hs : ∀ t, env.startupOption ms ≠ .string t) :
    NamesNothing (.notAPath (env.startupOption ms).kindName)

/-! ### Options without a file -/

variable {env ms}

theorem exists_of_ownOptions_eq_ok {v : Json} (h : env.ownOptions = .ok v) :
    ∃ n, v = .record [
      (customKey, .string (env.templatesPath?.getD env.defaultCustomPath)),
      (startupKey, .string (env.startupPath?.getD env.defaultStartupPath)),
      (limitKey, .integer n)] := by
  cases hm : env.maxBytes? with
  | none =>
    simp only [ownOptions, hm, bind, Except.bind, pure, Except.pure, Except.ok.injEq] at h
    exact ⟨_, h.symm⟩
  | some text =>
    cases hr : Integer.read text with
    | error fault => simp only [ownOptions, hm, hr, bind, Except.bind, reduceCtorEq] at h
    | ok n =>
      simp only [ownOptions, hm, hr, bind, Except.bind, pure, Except.pure, Except.ok.injEq] at h
      exact ⟨n, h.symm⟩

/-- By the environment alone the limit is a number as soon as there are options. -/
theorem exists_limitOption_eq_integer (hf : env.optionsFile = .absent)
    (ho : env.options = .ok (.object ms)) : ∃ n, limitOption ms = .integer n := by
  rw [options, hf] at ho
  cases hown : env.ownOptions with
  | error fault =>
    rw [hown] at ho
    change Except.error (OptionsFault.numeral fault) = _ at ho
    cases ho
  | ok v =>
    obtain ⟨n, rfl⟩ := exists_of_ownOptions_eq_ok hown
    rw [hown] at ho
    obtain rfl := Json.object.inj (Except.ok.inj ho)
    exact ⟨n, rfl⟩

/-! ### Options in a file -/

theorem options_of_ofText {text : Text} (hf : env.optionsFile = .ofText text) :
    env.options = (Json.read text.unifyBreaks).mapError (.file · text.unifyBreaks) := by
  rw [options, hf, FileState.ofText_eq]
  dsimp only
  rw [FileState.textOf_encode]
  rfl

end Environment

namespace Lifespan

/-! ### How a start ends -/

variable {env : Environment} {s s' : Shared} {ms : List (Text × Json)} {paths : StorePaths}
  {fault : StartFault}

theorem start_of_error {fault : OptionsFault} (h : env.options = .error fault) :
    start env = throw (.options fault) := by
  rw [start, h]
  rfl

theorem start_of_ok {v : Json} (h : env.options = .ok v) :
    start env = (do
      let ms ← (members v : Except StartFault _)
      let custom ← (pathOf (env.customOption ms) : Except StartFault Text)
      let startup ← (pathOf (env.startupOption ms) : Except StartFault Text)
      modify fun s => { s with store? := some ⟨custom, startup⟩ }
      let limit ← (numberOf (Environment.limitOption ms) : Except StartFault Int)
      modify fun s => { s with maxBytes := limit }) := by
  rw [start, h]
  rfl

theorem run_of_namesNothing (h : env.NamesNothing fault) (s : Shared) :
    run env s = (.error fault, s) := by
  cases h with
  | unreadable h =>
    rw [run, start_of_error h]
    rfl
  | @notOptions v h hv =>
    have hm : members v = .error (.notOptions v.kindName) := members_eq_error_iff.mpr ⟨hv, rfl⟩
    simp only [run, start_of_ok h, hm, Starting.run_bind, Starting.run_lift]
  | @custom ms h hc =>
    have hp : pathOf (env.customOption ms) = .error (.notAPath (env.customOption ms).kindName) :=
      pathOf_eq_error_iff.mpr ⟨hc, rfl⟩
    simp only [run, start_of_ok h, members, hp, Starting.run_bind, Starting.run_lift]
  | @startup ms t h hc hs =>
    have hcustom : pathOf (env.customOption ms) = .ok (FilePath.plain t) :=
      pathOf_eq_ok_iff.mpr ⟨t, hc, rfl⟩
    have hp : pathOf (env.startupOption ms) = .error (.notAPath (env.startupOption ms).kindName) :=
      pathOf_eq_error_iff.mpr ⟨hs, rfl⟩
    simp only [run, start_of_ok h, members, hcustom, hp, Starting.run_bind, Starting.run_lift]

theorem run_of_names (h : env.Names ms paths) (s : Shared) :
    run env s =
      match numberOf (Environment.limitOption ms) with
      | .error fault => (.error fault, { s with store? := some paths })
      | .ok limit => (.ok (), ⟨some paths, limit⟩) := by
  obtain ⟨ho, hc, hs⟩ := h
  simp only [run, start_of_ok ho, members, pathOf_eq_ok_iff.mpr hc, pathOf_eq_ok_iff.mpr hs,
    Starting.run_bind, Starting.run_lift, Starting.run_modify]
  cases numberOf (Environment.limitOption ms) <;> rfl

/-- Either the options name both paths, or one thing is wrong with them. -/
theorem names_or_namesNothing (env : Environment) :
    (∃ ms paths, env.Names ms paths) ∨ ∃ fault, env.NamesNothing fault := by
  rcases ho : env.options with fault | v
  · exact .inr ⟨_, .unreadable ho⟩
  by_cases hv : ∃ ms, v = .object ms
  · obtain ⟨ms, rfl⟩ := hv
    by_cases hc : ∃ t, env.customOption ms = .string t
    · obtain ⟨custom, hc⟩ := hc
      by_cases hs : ∃ t, env.startupOption ms = .string t
      · obtain ⟨startup, hs⟩ := hs
        exact .inl ⟨ms, ⟨FilePath.plain custom, FilePath.plain startup⟩, ho, ⟨_, hc, rfl⟩,
          ⟨_, hs, rfl⟩⟩
      · exact .inr ⟨_, .startup ho hc (not_exists.mp hs)⟩
    · exact .inr ⟨_, .custom ho (not_exists.mp hc)⟩
  · exact .inr ⟨_, .notOptions ho (not_exists.mp hv)⟩

theorem run_eq_error_iff :
    run env s = (.error fault, s') ↔
      env.NamesNothing fault ∧ s' = s ∨
        ∃ ms paths, env.Names ms paths ∧ numberOf (Environment.limitOption ms) = .error fault ∧
          s' = { s with store? := some paths } := by
  constructor
  · intro h
    obtain ⟨ms, paths, hn⟩ | ⟨fault', hn⟩ := names_or_namesNothing env
    · rw [run_of_names hn] at h
      cases hl : numberOf (Environment.limitOption ms) with
      | error fault' =>
        obtain ⟨rfl, rfl⟩ : fault' = fault ∧ _ = s' := by simpa [hl] using h
        exact .inr ⟨ms, paths, hn, hl, rfl⟩
      | ok limit => simp [hl] at h
    · obtain ⟨rfl, rfl⟩ : fault' = fault ∧ s = s' := by
        simpa [run_of_namesNothing hn] using h
      exact .inl ⟨hn, rfl⟩
  · rintro (⟨hn, rfl⟩ | ⟨ms, paths, hn, hl, rfl⟩)
    · exact run_of_namesNothing hn s'
    · rw [run_of_names hn, hl]

theorem run_eq_ok_iff :
    run env s = (.ok (), s') ↔
      ∃ ms paths limit, env.Names ms paths ∧ numberOf (Environment.limitOption ms) = .ok limit ∧
        s' = ⟨some paths, limit⟩ := by
  constructor
  · intro h
    obtain ⟨ms, paths, hn⟩ | ⟨fault', hn⟩ := names_or_namesNothing env
    · rw [run_of_names hn] at h
      cases hl : numberOf (Environment.limitOption ms) with
      | error fault => simp [hl] at h
      | ok limit => exact ⟨ms, paths, limit, hn, hl, by simpa [hl, eq_comm] using h⟩
    · simp [run_of_namesNothing hn] at h
  · rintro ⟨ms, paths, limit, hn, hl, rfl⟩
    rw [run_of_names hn, hl]

/-- A start that fails leaves the state alone, unless only the limit is refused: then the store is
set. By the environment alone it always leaves the state alone. A start that does not fail sets both
from the same options, and stopping takes both back, which a run that is broken off does not come
to. -/
theorem failed_start_keeps_state_unless_limit_refused (env : Environment) (s : Shared) :
    (∀ fault s', run env s = (.error fault, s') ↔
      env.NamesNothing fault ∧ s' = s ∨
        ∃ ms paths, env.Names ms paths ∧ numberOf (Environment.limitOption ms) = .error fault ∧
          s' = { s with store? := some paths }) ∧
      (env.optionsFile = .absent → ∀ fault s', run env s = (.error fault, s') → s' = s) ∧
      (∀ s', run env s = (.ok (), s') ↔
        ∃ ms paths limit, env.Names ms paths ∧
          numberOf (Environment.limitOption ms) = .ok limit ∧ s' = ⟨some paths, limit⟩) ∧
      ∀ s', stop s' = ⟨none, Environment.defaultMaxBytes⟩ ∧ leave .stopped s' = stop s' ∧
        leave .brokenOff s' = s' := by
  refine ⟨fun fault s' => run_eq_error_iff, fun hf fault s' h => ?_, fun s' => run_eq_ok_iff,
    fun _ => ⟨rfl, rfl, rfl⟩⟩
  obtain ⟨-, rfl⟩ | ⟨ms, paths, hn, hl, -⟩ := run_eq_error_iff.mp h
  · rfl
  · obtain ⟨n, hlimit⟩ := Environment.exists_limitOption_eq_integer hf hn.options
    simp [hlimit, numberOf] at hl

/-- A limit with a unit is no number. The start fails, and the store is set nevertheless. -/
theorem store_left_by_failed_start :
    run ⟨"/srv".toList, none, none, none, "/data/options.json".toList,
        .ofText "\x7b\"max_document_bytes\": \"1MB\"\x7d".toList⟩ Shared.stopped =
      (.error (.numeral (.malformed 10 "1MB".toList)),
        ⟨some ⟨"/srv/custom_templates/custom-templates.yml".toList,
          "/srv/startup/startup-template.yml".toList⟩, Environment.defaultMaxBytes⟩) ∧
      ¬ ∀ env s fault s', run env s = (.error fault, s') → s' = s := by
  refine (and_iff_left_of_imp fun hrun hkeeps => ?_).mpr ?_
  · exact absurd (hkeeps _ _ _ _ hrun) (by decide)
  · have hnames : Environment.Names
        ⟨"/srv".toList, none, none, none, "/data/options.json".toList,
          .ofText "\x7b\"max_document_bytes\": \"1MB\"\x7d".toList⟩
        [("max_document_bytes".toList, .string "1MB".toList)]
        ⟨"/srv/custom_templates/custom-templates.yml".toList,
          "/srv/startup/startup-template.yml".toList⟩ :=
      ⟨(Environment.options_of_ofText rfl).trans rfl, ⟨_, rfl, rfl⟩, ⟨_, rfl, rfl⟩⟩
    rw [run_of_names hnames]
    rfl

end Lifespan

end ComposeLint
