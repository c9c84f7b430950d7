import ComposeLint.Check.Mount
import ComposeLint.Proofs.Document.Lines
import ComposeLint.Proofs.Line.QuotedWords
import ComposeLint.Proofs.Text.Cuts
import ComposeLint.Stack.Reader

/-! # Mounts in the stack and in the check

The stack drops every quote of an entry and cuts the rest at its colons; the check takes one pair of
quotes off and leaves a drive letter with its path. Where neither makes a difference they see the
same parts: dropping quotes moves no colon, and the blanks that are trimmed off the whole entry would
have been trimmed off its first and last part. -/

namespace ComposeLint

/-- Blanks around the whole are blanks around its first or its last part. -/
theorem Mapping.read?_trim {source container rest : Text} (hsource : ':' ∉ source)
    (hcontainer : ':' ∉ container) (hrest : rest = [] ∨ rest.head? = some ':')
    (hs : source.isVacant = false) (hc : container.isVacant = false) :
    Mapping.read? (Text.trim (source ++ ':' :: (container ++ rest))) =
      some ⟨source.trim, container.trim⟩ := by
  have hne {t : Text} (h : t.isVacant = false) : t.trim.isEmpty = false := by
    rw [List.isEmpty_eq_false_iff]
    intro hnil
    rw [Text.isVacant, List.all_eq_true.mpr (Text.trim_eq_nil_iff.mp hnil)] at h
    cases h
  have hsome : ∃ c ∈ source, Text.isBlank c = false := by simpa [Text.isVacant] using hs
  have htrim : Text.trim (source ++ ':' :: (container ++ rest)) =
      source.trimStart ++ ':' :: Text.trimEnd (container ++ rest) := by
    rw [Text.trim, Text.trimStart_append hsome, Text.trimEnd,
      Text.dropEndWhile_append_cons (by decide)]
    rfl
  obtain ⟨first, others, hparts, hfirst⟩ : ∃ (first : Text) (others : List Text),
      (Text.trimEnd (container ++ rest)).splitOn ':' = first :: others ∧
        first.trim = container.trim := by
    rcases hrest with rfl | hhead
    · have hnone : ':' ∉ container.trimEnd := fun h => hcontainer (Text.mem_of_mem_dropEndWhile h)
      exact ⟨_, [], by rw [List.append_nil, Text.splitOn_one hnone], Text.trim_trimEnd container⟩
    · obtain ⟨tail, rfl⟩ : ∃ tail, rest = ':' :: tail := List.head?_eq_some_iff.mp hhead
      refine ⟨container, (Text.trimEnd tail).splitOn ':', ?_, rfl⟩
      rw [Text.trimEnd, Text.dropEndWhile_append_cons (by decide),
        Text.splitOn_append_cons hcontainer, ← Text.trimEnd]
  have hstart : ':' ∉ source.trimStart := fun h => hsource ((List.dropWhile_sublist _).mem h)
  rw [Mapping.read?, htrim, Text.splitOn_append_cons hstart, hparts]
  simp only [Text.trim_trimStart, hfirst, hne hs, hne hc, Bool.or_self, Bool.false_eq_true, if_false]

/-- The mapping that an entry of a list of ports or volumes gives, if it is in short form. -/
def Mapping.ofListed? (text : Text) : Option Mapping :=
  if text.withoutQuotes.isMappingEntry then none else Mapping.read? text.withoutQuotes

theorem Block.mappingsOf_of_child? {b child : Block} {key : Text} (h : b.child? key = some child) :
    b.mappingsOf key = child.entries.filterMap fun e => Mapping.ofListed? e.2 := by
  rw [mappingsOf, entriesOf, h, List.filterMap_map]
  rfl

namespace Check

/-- A mount without a fault has parts that are no blanks. -/
theorem isVacant_eq_false_of_mountFault? {mount source container : Text} {mode : List Text}
    (hsplit : Mount.split mount = source :: container :: mode) (h : mountFault? mount = none) :
    source.isVacant = false ∧ container.isVacant = false := by
  rw [mountFault?, hsplit] at h
  have hvacant : (source :: container :: mode).any Text.isVacant = false := by
    grind [mountPartsFault?]
  rw [List.any_cons, List.any_cons, Bool.or_eq_false_iff, Bool.or_eq_false_iff] at hvacant
  exact ⟨hvacant.1, hvacant.2.1⟩

end Check

/-- The stack takes a sound mount apart as the check does, where all colons are separators to both
and neither part has quotes of its own. -/
theorem Mapping.ofListed?_eq_some {text source container : Text} {mode : List Text}
    (hshort : text.withoutQuotes.isMappingEntry = false)
    (hdrive : Mount.startsWithDrive text.unquote = false)
    (hsplit : Mount.split text.unquote = source :: container :: mode)
    (hquotes : ∀ c ∈ source ++ container, Text.isQuote c = false)
    (hsound : Check.mountFault? text.unquote = none) :
    ofListed? text = some ⟨source.trim, container.trim⟩ := by
  obtain ⟨hs, hc⟩ := Check.isVacant_eq_false_of_mountFault? hsplit hsound
  have hparts : text.unquote.splitOn ':' = source :: container :: mode := by
    rw [← hsplit, Mount.split, hdrive]
    rfl
  have hcolon := Document.not_mem_of_mem_splitOn (c := ':') text.unquote
  rw [hparts] at hcolon
  obtain ⟨rest, hjoined, hrest⟩ := Text.exists_of_splitOn_cons_cons hparts
  have hfilter : text.unquote.filter (!Text.isQuote ·) =
      source ++ ':' :: (container ++ rest.filter (!Text.isQuote ·)) := by
    have hkept {part : Text} (h : ∀ c ∈ part, Text.isQuote c = false) :
        part.filter (!Text.isQuote ·) = part := List.filter_eq_self.mpr fun c hc => by simp [h c hc]
    rw [hjoined, List.filter_append, List.filter_cons_of_pos (by decide), List.filter_append,
      hkept fun c hc => hquotes c (List.mem_append_left _ hc),
      hkept fun c hc => hquotes c (List.mem_append_right _ hc)]
  have htext : text.withoutQuotes =
      Text.trim (source ++ ':' :: (container ++ rest.filter (!Text.isQuote ·))) := by
    rw [← Text.withoutQuotes_unquote, Text.withoutQuotes, hfilter]
  have hend : rest.filter (!Text.isQuote ·) = [] ∨
      (rest.filter (!Text.isQuote ·)).head? = some ':' := by
    rcases hrest with rfl | hhead
    · exact .inl rfl
    · obtain ⟨tail, rfl⟩ := List.head?_eq_some_iff.mp hhead
      exact .inr rfl
  rw [ofListed?, hshort, htext]
  exact Mapping.read?_trim (hcolon source (by simp)) (hcolon container (by simp)) hend hs hc

/-- **Mounts read twice.** Take an entry of the mounts of a service that is no mapping once its
quotes are dropped, that the check finds sound and cuts into at least two parts, that starts with no
drive letter and has no quotes within these parts. The stack lists, at the place of the entry, the
same two parts. -/
theorem volumes_agree_with_mounts {text : Text} {k : Nat} {service volumes : Block}
    (hservice : ((Document.ofText text).blocks .service)[k]? = some service)
    (hvolumes : service.child? "volumes".toList = some volumes)
    {before after : List (Line × Text)} {l : Line} {mount : Text}
    (hentries : volumes.entries = before ++ (l, mount) :: after)
    (hshort : mount.withoutQuotes.isMappingEntry = false)
    {source container : Text} {mode : List Text}
    (hsplit : Mount.split mount.unquote = source :: container :: mode)
    (hsound : Check.mountIssues mount.unquote l.number = [])
    (hdrive : Mount.startsWithDrive mount.unquote = false)
    (hquotes : ∀ c ∈ source ++ container, Text.isQuote c = false) :
    ∃ parsed, (Stack.read text).services[k]? = some parsed ∧
      parsed.volumes = before.filterMap (fun e => Mapping.ofListed? e.2) ++
        ⟨source.trim, container.trim⟩ :: after.filterMap fun e => Mapping.ofListed? e.2 := by
  refine ⟨Service.ofBlock service, ?_, ?_⟩
  · rw [Stack.read, Stack.ofDocument, List.getElem?_map, hservice, Option.map_some]
  · have hfault : Check.mountFault? mount.unquote = none := by
      rw [Check.mountIssues, List.map_eq_nil_iff] at hsound
      exact Option.toList_eq_nil_iff.mp hsound
    have hmapping := Mapping.ofListed?_eq_some hshort hdrive hsplit hquotes hfault
    change service.mappingsOf "volumes".toList = _
    rw [Block.mappingsOf_of_child? hvolumes, hentries, List.filterMap_append, List.filterMap_cons,
      hmapping]

/-- A quoted mount with a mode, between an anonymous volume and another mount. -/
theorem volumes_agree_quoted :
    let line (n : Int) (s : String) : Line := Line.ofText n s.toList
    let volumes : Block := ⟨line 3 "    volumes:",
      [line 4 "      - /cache", line 5 "      - 'data:/b:ro'", line 6 "      - logs:/c"]⟩
    let service : Block := ⟨line 2 "  web:", volumes.header :: volumes.body⟩
    let text : Text := ("services:\n  web:\n    volumes:\n      - /cache\n      - 'data:/b:ro'\n" ++
      "      - logs:/c").toList
    ((Document.ofText text).blocks .service)[0]? = some service ∧
      service.child? "volumes".toList = some volumes ∧
      ∃ parsed, (Stack.read text).services[0]? = some parsed ∧
        parsed.volumes = [⟨"data".toList, "/b".toList⟩, ⟨"logs".toList, "/c".toList⟩] := by
  intro line volumes service text
  have hservice : ((Document.ofText text).blocks .service)[0]? = some service := by decide
  have hvolumes : service.child? "volumes".toList = some volumes := by decide
  have hentries : volumes.entries = [(line 4 "      - /cache", "/cache".toList)] ++
      (line 5 "      - 'data:/b:ro'", "'data:/b:ro'".toList) ::
        [(line 6 "      - logs:/c", "logs:/c".toList)] := by decide
  have hsplit : Mount.split (Text.unquote "'data:/b:ro'".toList) =
      ["data".toList, "/b".toList, "ro".toList] := by decide
  have hquotes : ∀ c ∈ "data".toList ++ "/b".toList, Text.isQuote c = false := by
    simp [Text.isQuote]
  exact ⟨hservice, hvolumes, volumes_agree_with_mounts hservice hvolumes hentries (by decide) hsplit
    (by decide) (by decide) hquotes⟩

/-- Mounts that the check finds sound and the stack takes apart elsewhere: a drive letter is a part
of its own to the stack, quotes within a part are dropped by it, and a mount that looks like a
mapping without its quotes is no mount to it. -/
theorem mounts_read_differently :
    let entriesOf (mount : Text) : Text :=
      "services:\n  web:\n    volumes:\n      - ".toList ++ mount
    let isListed (mount : Text) : Bool :=
      ((Document.ofText (entriesOf mount)).blocks .service).map
        (·.entriesOf "volumes".toList |>.map Prod.snd) == [[mount]]
    let isSound (mount : Text) : Bool :=
      !mount.isMappingEntry && 2 ≤ (Mount.split mount.unquote).length &&
        Check.mountIssues mount.unquote 4 == []
    let isReadAlike (mount : Text) : Bool :=
      (Stack.read (entriesOf mount)).services.map
          (·.volumes.map fun m => [m.host, m.container]) ==
        [[((Mount.split mount.unquote).take 2).map Text.trim]]
    let isCounterexample (mount : String) : Bool :=
      isListed mount.toList && isSound mount.toList && !isReadAlike mount.toList
    isCounterexample "C:/data:/data" = true ∧ isCounterexample "\"a\":/b" = true ∧
      isCounterexample "\" a: /b\"" = true := by
  decide

end ComposeLint
