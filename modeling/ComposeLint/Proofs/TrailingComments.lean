import ComposeLint.Proofs.Alike.Check
import ComposeLint.Proofs.Alike.Stack
import ComposeLint.Proofs.Annotated.Document
import ComposeLint.Proofs.Check.Codes

/-! # What a trailing comment changes

A comment behind a line is cut off wherever a value or an item of the line is read, so the line reads
as before. There are three exceptions. A source of a long mount that does not stand on the line of
its item is read with the comment, and so is a line of a command that is neither an item nor scalar
text; and a bare key with another blank than a space or a tab at its end is no key any more once
something follows this blank. Nothing else is changed by a comment, neither the report
(`report_eq_of_comment_appended`) nor the stack (`stack_eq_of_comment_appended`). -/

namespace ComposeLint

/-- Below its header an entry reaches over no line that starts another. -/
theorem Document.startsEntry_of_mem_body {doc : Document} {kind : EntryKind} {entry : Block}
    (hentry : entry ∈ doc.blocks kind) {l : Line} (hl : l ∈ entry.body) : l.startsEntry = false := by
  obtain ⟨before, following, -, -, hbody⟩ := Block.exists_of_mem_blocksAt hentry
  rw [hbody] at hl
  simpa using List.mem_takeWhile_imp hl

/-- **What a trailing comment changes in a report.** Put a comment behind a content line without
quotes that is not scalar text and does not start an entry, with no more than spaces and tabs after
its colon if it is a bare key. Only the pass over volumes can find anything else, and the report
stays as it is if the line is an item or gives no source of a long mount. -/
theorem report_eq_of_comment_appended {text : Text} {a : Annotation text} {l : Line}
    (h : a.IsBehind l) (hentry : l.startsEntry = false)
    (hbare : ∀ key, KeyValue.read? l.trimmed = some ⟨key, none⟩ →
      (a.line.rtakeWhile Text.isBlank).head?.all Text.isSpaceOrTab = true) :
    (∀ p : Pass, p ≠ .volumeRefs →
      p.run (Document.ofText a.edited) = p.run (Document.ofText text)) ∧
    ((∀ owned ∈ Check.mountLists (Document.ofText text), l ∈ owned.2.content →
        l.isListItem = true ∨ Check.longSource? l = none) →
      validate a.edited = validate text) := by
  have hline := h.annotates hentry hbare
  have hrun (p : Pass) (hsource : p = .volumeRefs →
      ∀ owned ∈ Check.mountLists (Document.ofText text), l ∈ owned.2.content →
        l.isListItem = true ∨ Check.longSource? l = none) :
      p.run (Document.ofText a.edited) = p.run (Document.ofText text) := by
    rw [h.ofText_edited hline]
    refine p.run_alike (Line.alike_replaced hline.alike) (fun k => ?_) fun hp owned howned k hk => ?_
    · exact Line.read_replaced fun _ => hline.lineIssues
    · exact Line.read_replaced fun heq => hline.longSource? (hsource hp owned howned (heq ▸ hk))
  exact ⟨fun p hp => hrun p fun heq => absurd heq hp,
    fun hsource => validate_eq_of_run_eq fun p => hrun p fun _ => hsource⟩

/-- A comment behind a bare key that has a space at its end, in front of a carriage return. -/
theorem report_eq_with_comment :
    validate "services:\n  web:\n    volumes:  # mounts\r\n      - data:/d\nvolumes:\n  data:".toList =
      validate "services:\n  web:\n    volumes: \r\n      - data:/d\nvolumes:\n  data:".toList := by
  let text : Text :=
    "services:\n  web:\n    volumes: \r\n      - data:/d\nvolumes:\n  data:".toList
  let a : Annotation text := {
    above := ["services:", "  web:"].map String.toList
    line := "    volumes: ".toList
    returns := ['\r']
    below := ["      - data:/d", "volumes:", "  data:"].map String.toList
    comment := "mounts".toList }
  let l : Line := Line.ofText 3 "    volumes: ".toList
  have hbehind : a.IsBehind l := ⟨by decide, by decide, by decide⟩
  have hsource : ∀ owned ∈ Check.mountLists (Document.ofText text), l ∈ owned.2.content →
      l.isListItem = true ∨ Check.longSource? l = none := fun _ _ _ => .inr (by decide)
  have hedited : a.edited =
      "services:\n  web:\n    volumes:  # mounts\r\n      - data:/d\nvolumes:\n  data:".toList := by
    decide
  rw [← hedited]
  exact (report_eq_of_comment_appended hbehind (by decide) fun _ _ => by decide).2 hsource

/-- A comment behind the source of a mount, and one behind a bare key with a blank of another kind
at its end: either way the volume is not found to be used any more. -/
theorem report_changed_by_comment :
    let source : Text :=
      "services:\n  web:\n    volumes:\n      - type: volume\n        source: data\nvolumes:\n  data:".toList
    let key : Text :=
      "services:\n  web:\n    volumes:\u00a0\n      - data:/d\nvolumes:\n  data:".toList
    (∃ (a : Annotation source) (l : Line), a.IsBehind l ∧ l.startsEntry = false ∧
      validate a.edited ≠ validate source) ∧
    ∃ (a : Annotation key) (l : Line), a.IsBehind l ∧ l.startsEntry = false ∧
      validate a.edited ≠ validate key := by
  intro source key
  have hunused (t : Text) : (validate t).Has .composeUnusedVolume ↔
      ∃ i ∈ Check.volumeUseIssues (Document.ofText t), i.code = .composeUnusedVolume :=
    (has_validate_iff (p := .volumeRefs) rfl).trans (by simp [Pass.run])
  have hne {t u : Text} (ht : ∃ i ∈ Check.volumeUseIssues (Document.ofText t),
      i.code = .composeUnusedVolume) (hu : ¬ ∃ i ∈ Check.volumeUseIssues (Document.ofText u),
      i.code = .composeUnusedVolume) : validate t ≠ validate u := fun heq =>
    hu ((hunused u).mp (heq ▸ (hunused t).mpr ht))
  let behindSource : Annotation source := {
    above := ["services:", "  web:", "    volumes:", "      - type: volume"].map String.toList
    line := "        source: data".toList
    returns := []
    below := ["volumes:", "  data:"].map String.toList
    comment := "db".toList }
  let behindKey : Annotation key := {
    above := ["services:", "  web:"].map String.toList
    line := "    volumes:\u00a0".toList
    returns := []
    below := ["      - data:/d", "volumes:", "  data:"].map String.toList
    comment := "mounts".toList }
  exact ⟨⟨behindSource, Line.ofText 5 "        source: data".toList,
      ⟨by decide, by decide, by decide⟩, by decide, hne (by decide) (by decide)⟩,
    ⟨behindKey, Line.ofText 3 "    volumes:\u00a0".toList,
      ⟨by decide, by decide, by decide⟩, by decide, hne (by decide) (by decide)⟩⟩

/-- **What a trailing comment changes in the stack.** Put a comment behind a content line without
quotes that stands below the header of an entry and is not scalar text. If no more than spaces and
tabs follow a bare key there, and the line is no part of a command or an item of one, the counts and
the stack stay as they are. -/
theorem stack_eq_of_comment_appended {text : Text} {a : Annotation text} {l : Line}
    (h : a.IsBehind l) {kind : EntryKind} {entry : Block}
    (hentry : entry ∈ (Document.ofText text).blocks kind) (hbody : l ∈ entry.body)
    (hbare : ∀ key, KeyValue.read? l.trimmed = some ⟨key, none⟩ →
      (a.line.rtakeWhile Text.isBlank).head?.all Text.isSpaceOrTab = true)
    (hcommand : ∀ service ∈ (Document.ofText text).blocks .service, ∀ command,
      service.child? "command".toList = some command → command.isReadBelow = true →
        l ∈ command.content → l.isListItem = true ∨ l.indent < 4) :
    Counts.read a.edited = Counts.read text ∧ Stack.read a.edited = Stack.read text := by
  have hline := h.annotates (Document.startsEntry_of_mem_body hentry hbody) hbare
  have halike := Line.alike_replaced hline.alike
  rw [Counts.read, Stack.read, h.ofText_edited hline, Counts.ofDocument_alike halike]
  refine ⟨rfl, Stack.ofDocument_alike halike strictMono_id ?_⟩
  intro service hservice command hchild hbelow k hk
  refine Line.read_replaced fun heq => ?_
  rw [heq] at hk
  exact hline.alike.commandPart? h.content (hcommand service hservice command hchild hbelow hk) h.free

/-- A comment behind an item of a command. -/
theorem stack_eq_with_comment :
    let text : Text := "services:\n  web:\n    command:\n      - run\n      - on".toList
    let edited : Text := "services:\n  web:\n    command:\n      - run # all\n      - on".toList
    Counts.read edited = Counts.read text ∧ Stack.read edited = Stack.read text := by
  intro text edited
  let a : Annotation text := {
    above := ["services:", "  web:", "    command:"].map String.toList
    line := "      - run".toList
    returns := []
    below := ["      - on".toList]
    comment := "all".toList }
  let line (n : Int) (s : String) : Line := Line.ofText n s.toList
  let entry : Block := ⟨line 2 "  web:",
    [line 3 "    command:", line 4 "      - run", line 5 "      - on"]⟩
  have hbehind : a.IsBehind (line 4 "      - run") := ⟨by decide, by decide, by decide⟩
  have hentry : entry ∈ (Document.ofText text).blocks .service := by decide
  have hedited : a.edited = edited := by decide
  rw [← hedited]
  exact stack_eq_of_comment_appended hbehind hentry (by decide) (fun _ _ => by decide)
    fun _ _ _ _ _ _ => .inl (by decide)

/-- A comment behind a line of a command, which becomes a part of it, and one behind a bare key with
a blank of another kind at its end, which hides the list below. -/
theorem stack_changed_by_comment :
    let command : Text := "services:\n  web:\n    command:\n      run".toList
    let key : Text := "services:\n  web:\n    volumes:\u00a0\n      - data:/d".toList
    (∃ (a : Annotation command) (l : Line), a.IsBehind l ∧
      (∃ entry ∈ (Document.ofText command).blocks .service, l ∈ entry.body) ∧
      Stack.read a.edited ≠ Stack.read command) ∧
    ∃ (a : Annotation key) (l : Line), a.IsBehind l ∧
      (∃ entry ∈ (Document.ofText key).blocks .service, l ∈ entry.body) ∧
      Stack.read a.edited ≠ Stack.read key := by
  intro command key
  let behindCommand : Annotation command := {
    above := ["services:", "  web:", "    command:"].map String.toList
    line := "      run".toList
    returns := []
    below := []
    comment := "all".toList }
  let behindKey : Annotation key := {
    above := ["services:", "  web:"].map String.toList
    line := "    volumes:\u00a0".toList
    returns := []
    below := ["      - data:/d".toList]
    comment := "mounts".toList }
  exact ⟨⟨behindCommand, Line.ofText 4 "      run".toList, ⟨by decide, by decide, by decide⟩,
      by decide, by decide⟩,
    ⟨behindKey, Line.ofText 3 "    volumes:\u00a0".toList, ⟨by decide, by decide, by decide⟩,
      by decide, by decide⟩⟩

end ComposeLint
