import ComposeLint.Check.Mount
import ComposeLint.Proofs.Text.Characters
import ComposeLint.Proofs.Text.Cuts

/-! # Mounts without a fault

A mount that is put together from a source, a path inside the container and perhaps a mode is cut
into these parts again, and then no fault is found. A drive letter keeps its colon, as long as it
starts the mount. This has a price: a source of one letter before a path from the root is taken for
a drive with its path, and what follows is read as the next part. -/

namespace ComposeLint

namespace Text

variable {c : Char} {a b : Text}

theorem ne_nil_of_isVacant_eq_false {t : Text} (h : t.isVacant = false) : t ≠ [] := by
  rintro rfl
  cases h

/-- The last character of a text is in its last part. -/
theorem getLast?_append_ne (hne : b ≠ []) (h : c ∉ b) (a : Text) : (a ++ b).getLast? ≠ some c := by
  rw [List.getLast?_append_of_ne_nil _ hne]
  exact fun hlast => h (List.mem_of_getLast? hlast)

theorem head?_append_ne (hne : a ≠ []) (h : c ∉ a) (b : Text) : (a ++ b).head? ≠ some c := by
  rw [List.head?_append_of_ne_nil _ hne]
  exact fun hhead => h (List.mem_of_head? hhead)

end Text

namespace Mount

/-- A path on a drive: a letter, a colon, a slash of either kind, and no colon after it. -/
def IsDrivePath (t : Text) : Prop :=
  ∃ letter slash rest, t = letter :: ':' :: slash :: rest ∧ Text.isLetter letter = true ∧
    (slash = '/' ∨ slash = '\\') ∧ ':' ∉ rest

/-- A path from the root or from a variable. -/
def IsRootedPath (t : Text) : Prop := Check.isRooted t = true ∧ ':' ∉ t

/-- A mount as it is meant. -/
structure Parts where
  source : Text
  container : Text
  mode? : Option Text

/-- What each part may be: the source a name or a path, the container a path, the mode anything but
blanks. -/
structure Parts.WellFormed (m : Parts) : Prop where
  source : ',' ∉ m.source ∧
    (m.source.isVacant = false ∧ ':' ∉ m.source ∨ IsDrivePath m.source)
  container : ',' ∉ m.container ∧ (IsRootedPath m.container ∨ IsDrivePath m.container)
  mode : ∀ mode ∈ m.mode?, mode.isVacant = false ∧ ':' ∉ mode

/-- The mode after its colon, if there is one. -/
def modeTail : Option Text → Text
  | some mode => ':' :: mode
  | none => []

/-- The mount as text: `source:container[:mode]`. -/
def Parts.written (m : Parts) : Text := m.source ++ ':' :: (m.container ++ modeTail m.mode?)

/-- Whether source and container together look like a path on a drive. -/
def Parts.LooksLikeDrive (m : Parts) : Prop :=
  ∃ letter, m.source = [letter] ∧ Text.isLetter letter = true ∧ m.container.head? = some '/'

/-! ## Cutting -/

section Cutting

variable {source container path mount rest : Text} {mode? : Option Text}

theorem startsWithDrive_iff : startsWithDrive mount = true ↔
    ∃ letter slash tail, mount = letter :: ':' :: slash :: tail ∧ Text.isLetter letter = true ∧
      (slash = '/' ∨ slash = '\\') := by
  constructor
  · intro h
    unfold startsWithDrive at h
    split at h
    · next letter slash tail => exact ⟨letter, slash, tail, rfl, by simpa using h⟩
    · cases h
  · rintro ⟨letter, slash, tail, rfl, hletter, hslash⟩
    simpa [startsWithDrive, hletter] using hslash

theorem IsDrivePath.startsWithDrive_append (h : IsDrivePath path) (rest : Text) :
    startsWithDrive (path ++ rest) = true := by
  obtain ⟨letter, slash, tail, rfl, hletter, hslash, -⟩ := h
  exact startsWithDrive_iff.mpr ⟨letter, slash, tail ++ rest, rfl, hletter, hslash⟩

/-- What stands after the colon of the drive has no colon. -/
theorem IsDrivePath.exists_body (h : IsDrivePath path) :
    ∃ letter body, path = letter :: ':' :: body ∧ Text.isLetter letter = true ∧ ':' ∉ body := by
  obtain ⟨letter, slash, tail, rfl, hletter, hslash, htail⟩ := h
  refine ⟨letter, slash :: tail, rfl, hletter, ?_⟩
  rcases hslash with rfl | rfl <;> simp [htail]

theorem split_of_startsWithDrive (h : startsWithDrive mount = true) :
    split mount = ((mount.drop 2).splitOn ':').modifyHead (mount.take 2 ++ ·) := by
  rw [split, h, if_pos rfl]
  cases (mount.drop 2).splitOn ':' <;> rfl

/-- A drive letter stays with its path. -/
theorem split_drive_append (h : IsDrivePath path) (rest : Text) :
    split (path ++ ':' :: rest) = path :: rest.splitOn ':' := by
  rw [split_of_startsWithDrive (h.startsWithDrive_append _)]
  obtain ⟨letter, body, rfl, -, hbody⟩ := h.exists_body
  have hcut : (body ++ ':' :: rest).splitOn ':' = body :: rest.splitOn ':' :=
    Text.splitOn_append_cons hbody rest
  simp [hcut]

/-- A path on a drive alone is a single part. -/
theorem split_drive (h : IsDrivePath path) : split path = [path] := by
  have hdrive := h.startsWithDrive_append []
  rw [List.append_nil] at hdrive
  rw [split_of_startsWithDrive hdrive]
  obtain ⟨letter, body, rfl, -, hbody⟩ := h.exists_body
  simp [Text.splitOn_one hbody]

theorem split_append (h : ':' ∉ source) (hdrive : startsWithDrive (source ++ ':' :: rest) ≠ true) :
    split (source ++ ':' :: rest) = source :: rest.splitOn ':' := by
  rw [split, if_neg hdrive, Text.splitOn_append_cons h]

/-- A source without a colon makes a drive of what follows only if it is a letter. -/
theorem exists_letter_of_startsWithDrive (h : ':' ∉ source)
    (hdrive : startsWithDrive (source ++ ':' :: rest) = true) :
    ∃ letter, source = [letter] ∧ Text.isLetter letter = true ∧
      (rest.head? = some '/' ∨ rest.head? = some '\\') := by
  obtain ⟨letter, slash, tail, heq, hletter, hslash⟩ := startsWithDrive_iff.mp hdrive
  match source with
  | [] => exact absurd (List.cons.inj heq).1.symm (Text.ne_of_isLetter hletter (by decide))
  | [first] =>
    simp only [List.cons_append, List.nil_append, List.cons.injEq, true_and] at heq
    obtain ⟨rfl, rfl⟩ := heq
    exact ⟨first, rfl, hletter, by simpa using hslash⟩
  | first :: second :: others =>
    obtain ⟨-, heq⟩ := List.cons.inj heq
    obtain ⟨rfl, -⟩ := List.cons.inj heq
    exact absurd (by simp) h

theorem splitOn_container (hcontainer : ':' ∉ container) (hmode : ∀ mode ∈ mode?, ':' ∉ mode) :
    (container ++ modeTail mode?).splitOn ':' = container :: mode?.toList := by
  cases mode? with
  | none => rw [modeTail, List.append_nil, Text.splitOn_one hcontainer, Option.toList_none]
  | some mode =>
    rw [modeTail, Text.splitOn_two hcontainer (hmode mode rfl), Option.toList_some]

end Cutting

end Mount

/-! ## The check -/

namespace Check

open Mount

variable {mount source container : Text} {mode? : Option Text}

theorem mountIssues_eq_nil_iff {line : Int} :
    mountIssues mount line = [] ↔ mountFault? mount = none := by
  rw [mountIssues, List.map_eq_nil_iff, Option.toList_eq_nil_iff]

theorem exists_of_isRooted {path : Text} (h : isRooted path = true) :
    ∃ c rest, path = c :: rest ∧ (c = '/' ∨ c = '$') ∧ Text.isBlank c = false := by
  cases path with
  | nil => cases h
  | cons c rest =>
    have hc : c = '/' ∨ c = '$' := by simpa [isRooted] using h
    refine ⟨c, rest, rfl, hc, ?_⟩
    rcases hc with rfl | rfl <;> decide

theorem isVacant_of_isRooted {path : Text} (h : isRooted path = true) :
    path.isVacant = false := by
  obtain ⟨c, rest, rfl, -, hblank⟩ := exists_of_isRooted h
  simp [Text.isVacant, hblank]

/-- A path that is rooted stays so without the blanks around it. -/
theorem isRooted_trim {path : Text} (h : isRooted path = true) : isRooted path.trim = true := by
  obtain ⟨c, rest, rfl, hc, hblank⟩ := exists_of_isRooted h
  have htrim : Text.trim (c :: rest) = c :: Text.trimEnd rest := by
    rw [Text.trim, Text.trimStart, List.dropWhile_cons_of_neg (by simp [hblank])]
    exact Text.dropEndWhile_append_cons hblank [] rest
  rw [htrim]
  simpa [isRooted] using hc

/-- Without a colon a path has no drive. -/
theorem startsWithDrive_trim_eq_false (h : ':' ∉ container) :
    startsWithDrive container.trim = false := by
  rw [Bool.eq_false_iff]
  intro hdrive
  obtain ⟨letter, slash, tail, heq, -, -⟩ := startsWithDrive_iff.mp hdrive
  have hmem : ':' ∈ container.trim := by simp [heq]
  exact h ((List.dropWhile_sublist _).mem (Text.mem_of_mem_dropEndWhile hmem))

/-- When a mount of two or three parts, all with something in them, has no fault. -/
theorem mountFault?_eq_none_iff_of_split (hsplit : split mount = source :: container :: mode?.toList)
    (hhead : mount.head? ≠ some ':') (hlast : mount.getLast? ≠ some ':')
    (hparts : ∀ part ∈ source :: container :: mode?.toList, part.isVacant = false)
    (hcontainer : ':' ∉ container) :
    mountFault? mount = none ↔
      ',' ∉ source ∧ ',' ∉ container ∧ isRooted container.trim = true := by
  have hmode : ¬ 1 < mode?.toList.length := by cases mode? <;> simp
  have hvacant : (source :: container :: mode?.toList).any Text.isVacant = false :=
    List.any_eq_false.mpr fun part hpart => by simp [hparts part hpart]
  have hfault : mountFault? mount =
      if source.contains ',' || container.contains ',' then some (.mountComma mount)
      else if isRooted container.trim then none
      else some (.relativeContainerPath mount container.trim) := by
    simp [mountFault?, hsplit, mountPartsFault?, hmode, hvacant, hhead, hlast,
      startsWithDrive_trim_eq_false hcontainer]
  rw [hfault]
  by_cases hcomma : ',' ∈ source ∨ ',' ∈ container
  · simp [hcomma, ← and_assoc, ← not_or]
  · obtain ⟨hs, hc⟩ := not_or.mp hcomma
    simp [hs, hc]

end Check

/-! ## Mounts as they are meant -/

namespace Mount.Parts

variable {m : Parts}

theorem WellFormed.mode_toList (h : m.WellFormed) {mode : Text} (hmode : mode ∈ m.mode?.toList) :
    mode.isVacant = false ∧ ':' ∉ mode := h.mode mode (by simpa using hmode)

theorem WellFormed.source_isVacant (h : m.WellFormed) : m.source.isVacant = false := by
  rcases h.source.2 with ⟨hvacant, -⟩ | hdrive
  · exact hvacant
  · obtain ⟨letter, body, hsource, hletter, -⟩ := hdrive.exists_body
    simp [hsource, Text.isVacant, Text.isBlank_eq_false_of_isLetter hletter]

/-- A mount starts as its source does. -/
theorem WellFormed.head?_written (h : m.WellFormed) : m.written.head? ≠ some ':' := by
  rcases h.source.2 with ⟨hvacant, hcolon⟩ | hdrive
  · exact Text.head?_append_ne (Text.ne_nil_of_isVacant_eq_false hvacant) hcolon _
  · obtain ⟨letter, body, hsource, hletter, -⟩ := hdrive.exists_body
    rw [written, hsource]
    simpa using Text.ne_of_isLetter hletter (by decide)

/-- A mount ends as its last part does. -/
theorem WellFormed.getLast?_written (h : m.WellFormed) (hcontainer : IsRootedPath m.container) :
    m.written.getLast? ≠ some ':' := by
  obtain ⟨source, container, mode?⟩ := m
  have hne := Text.ne_nil_of_isVacant_eq_false (Check.isVacant_of_isRooted hcontainer.1)
  cases mode? with
  | none =>
    have hwritten : written ⟨source, container, none⟩ = (source ++ [':']) ++ container := by
      simp [written, modeTail]
    rw [hwritten]
    exact Text.getLast?_append_ne hne hcontainer.2 _
  | some mode =>
    obtain ⟨hvacant, hcolon⟩ := h.mode mode rfl
    have hwritten : written ⟨source, container, some mode⟩ =
        (source ++ ':' :: (container ++ [':'])) ++ mode := by simp [written, modeTail]
    rw [hwritten]
    exact Text.getLast?_append_ne (Text.ne_nil_of_isVacant_eq_false hvacant) hcolon _

/-- A mount is cut into the parts that it was put together from. -/
theorem WellFormed.split_written (h : m.WellFormed) (hcontainer : IsRootedPath m.container)
    (hdrive : ¬ m.LooksLikeDrive) :
    split m.written = m.source :: m.container :: m.mode?.toList := by
  rw [← splitOn_container hcontainer.2 fun mode hmode => (h.mode mode hmode).2]
  rcases h.source.2 with ⟨-, hcolon⟩ | hpath
  · refine split_append hcolon fun hstarts => hdrive ?_
    obtain ⟨letter, hsource, hletter, hslash⟩ := exists_letter_of_startsWithDrive hcolon hstarts
    refine ⟨letter, hsource, hletter, ?_⟩
    rw [List.head?_append_of_ne_nil _
      (Text.ne_nil_of_isVacant_eq_false (Check.isVacant_of_isRooted hcontainer.1))] at hslash
    rcases hslash with hslash | hslash
    · exact hslash
    · have hrooted := hcontainer.1
      rw [Check.isRooted, hslash] at hrooted
      cases hrooted
  · exact split_drive_append hpath _

/-- What looks like a path on a drive is one. -/
theorem LooksLikeDrive.exists_path (hdrive : m.LooksLikeDrive) (hcontainer : ':' ∉ m.container) :
    ∃ path, m.written = path ++ modeTail m.mode? ∧ IsDrivePath path ∧ path.isVacant = false ∧
      Check.isRooted m.written = false ∧ (',' ∉ m.container → ',' ∉ path) := by
  obtain ⟨letter, hsource, hletter, hslash⟩ := hdrive
  obtain ⟨rest, hrest⟩ := List.head?_eq_some_iff.mp hslash
  have hne {c : Char} (hc : Text.isLetter c = false) : letter ≠ c := Text.ne_of_isLetter hletter hc
  refine ⟨letter :: ':' :: m.container, by simp [written, hsource],
    ⟨letter, '/', rest, by rw [hrest], hletter, .inl rfl, ?_⟩, ?_, ?_, ?_⟩
  · exact fun hmem => hcontainer (by simp [hrest, hmem])
  · simp [Text.isVacant, Text.isBlank_eq_false_of_isLetter hletter]
  · simp [written, hsource, Check.isRooted, hne (c := '/') (by decide), hne (c := '$') (by decide)]
  · intro hcomma
    simp [hcomma, (hne (c := ',') (by decide)).symm]

end Mount.Parts

/-- **Mounts without a fault.** A mount from a name or a path to a path from the root or from a
variable, with or without a mode, has no fault. The one exception is a source of a single letter
before a path from the root. This is taken for one path on a drive, and the mode for the path inside
the container. -/
theorem wellFormed_mount_accepted_iff {m : Mount.Parts} (h : m.WellFormed)
    (hcontainer : Mount.IsRootedPath m.container) (line : Int) :
    Check.mountIssues m.written line = [] ↔
      ¬ m.LooksLikeDrive ∨
        ∃ mode ∈ m.mode?, ',' ∉ mode ∧ Check.isRooted mode.trim = true := by
  rw [Check.mountIssues_eq_nil_iff]
  have hhead := h.head?_written
  have hlast := h.getLast?_written hcontainer
  by_cases hdrive : m.LooksLikeDrive
  · obtain ⟨path, hwritten, hpath, hvacant, hrooted, hcomma⟩ := hdrive.exists_path hcontainer.2
    cases hmode? : m.mode? with
    | none =>
      rw [hmode?, Mount.modeTail, List.append_nil] at hwritten
      have hsplit : Mount.split m.written = [path] := by rw [hwritten, Mount.split_drive hpath]
      simp [Check.mountFault?, hsplit, hrooted, hdrive]
    | some mode =>
      obtain ⟨hsome, hcolon⟩ := h.mode mode hmode?
      have hsplit : Mount.split m.written = path :: mode :: (none : Option Text).toList := by
        rw [hwritten, hmode?, Mount.modeTail, Mount.split_drive_append hpath,
          Text.splitOn_one hcolon, Option.toList_none]
      have hparts : ∀ part ∈ path :: mode :: (none : Option Text).toList,
          part.isVacant = false := by simp [hvacant, hsome]
      rw [Check.mountFault?_eq_none_iff_of_split hsplit hhead hlast hparts hcolon]
      simp [hdrive, hcomma h.container.1]
  · have hparts : ∀ part ∈ m.source :: m.container :: m.mode?.toList,
        part.isVacant = false := by
      intro part hpart
      rcases List.mem_cons.mp hpart with rfl | hpart
      · exact h.source_isVacant
      · rcases List.mem_cons.mp hpart with rfl | hpart
        · exact Check.isVacant_of_isRooted hcontainer.1
        · exact (h.mode_toList hpart).1
    rw [Check.mountFault?_eq_none_iff_of_split (h.split_written hcontainer hdrive) hhead hlast
      hparts hcontainer.2]
    simp [hdrive, h.source.1, h.container.1, Check.isRooted_trim hcontainer.1]

/-- A folder on a drive, mounted with two options. -/
theorem wellFormed_mount_accepted_drive :
    let m : Mount.Parts := ⟨"C:\\Users\\me".toList, "/data".toList, some "ro,z".toList⟩
    m.WellFormed ∧ Mount.IsRootedPath m.container ∧ ¬ m.LooksLikeDrive ∧
      Check.mountIssues m.written 1 = [] := by
  intro m
  have hpath : Mount.IsDrivePath m.source :=
    ⟨'C', '\\', "Users\\me".toList, rfl, by decide, .inr rfl, by decide⟩
  have hcontainer : Mount.IsRootedPath m.container := ⟨by decide, by decide⟩
  have hwell : m.WellFormed := by
    refine ⟨⟨by decide, .inr hpath⟩, ⟨by decide, .inl hcontainer⟩, ?_⟩
    rintro mode hmode
    obtain rfl := Option.some.inj hmode
    exact ⟨by decide, by decide⟩
  have hdrive : ¬ m.LooksLikeDrive := by
    rintro ⟨letter, hsource, -⟩
    cases hsource
  exact ⟨hwell, hcontainer, hdrive, (wellFormed_mount_accepted_iff hwell hcontainer 1).mpr
    (.inl hdrive)⟩

/-- Two mounts that are put together well and have a fault all the same: one from a volume of a
single letter, and one to a path on a drive, whose letter is cut off. -/
theorem mounts_refused_for_letters :
    let named : Mount.Parts := ⟨"a".toList, "/data".toList, none⟩
    let toDrive : Mount.Parts := ⟨"data".toList, "C:/data".toList, none⟩
    (named.WellFormed ∧ Check.mountIssues named.written 1 ≠ []) ∧
      toDrive.WellFormed ∧ Check.mountIssues toDrive.written 1 ≠ [] := by
  intro named toDrive
  have hpath : Mount.IsDrivePath toDrive.container :=
    ⟨'C', '/', "data".toList, rfl, by decide, .inl rfl, by decide⟩
  refine ⟨⟨⟨⟨by decide, .inl ⟨by decide, by decide⟩⟩,
    ⟨by decide, .inl ⟨by decide, by decide⟩⟩, nofun⟩, by decide⟩,
    ⟨⟨by decide, .inl ⟨by decide, by decide⟩⟩, ⟨by decide, .inr hpath⟩, nofun⟩, by decide⟩

end ComposeLint
