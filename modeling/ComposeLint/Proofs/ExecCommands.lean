import ComposeLint.Proofs.Alike.Block
import ComposeLint.Proofs.Line.QuotedWords
import ComposeLint.Proofs.Rendering.Lists

/-! # Commands written as lists in brackets

A command in exec form is a list of quoted words in brackets. Everything that is read on the way lets
the quotes pass: the key, the comment scan, for which each of them opens and closes, and the brackets
at both ends. But the list is cut at its commas before quotes are looked at, so a word with a comma
falls into parts of which none is the word (`exec_command_keeps_words`). -/

namespace ComposeLint

namespace Block

/-- The block of a key comes before those of all keys that follow. -/
theorem find?_blocksAt {opens : Line → Bool} (scope : Line → List Line → List Line) {key : Text}
    {above : List Line} {l : Line} (below : List Line) (hl : opens l = true)
    (hkey : l.key? = some key)
    (hfirst : ∀ m ∈ above, opens m = true → m.key? ≠ some key) :
    (blocksAt opens scope (above ++ l :: below)).find? (fun b => b.header.key? == some key) =
      some ⟨l, scope l below⟩ := by
  induction above with
  | nil => rw [List.nil_append, blocksAt, if_pos hl, List.find?_cons_of_pos (by simp [hkey])]
  | cons m above ih =>
    have hrest := ih fun n hn => hfirst n (List.mem_cons_of_mem m hn)
    rw [List.cons_append, blocksAt]
    split
    · next hm =>
      rw [List.find?_cons_of_neg (by simpa using hfirst m List.mem_cons_self hm), hrest]
    · exact hrest

theorem child?_of_first {b : Block} {key : Text} {above below : List Line} {l : Line}
    (hbody : b.body = above ++ l :: below) (hl : isKeyAt b.childIndent? l = true)
    (hkey : l.key? = some key) (hfirst : ∀ m ∈ above, m ∈ b.children → m.key? ≠ some key) :
    b.child? key = some ⟨l, owned l below⟩ := by
  rw [child?, childBlocks, hbody]
  refine find?_blocksAt owned below hl hkey fun m hm hopens => hfirst m hm ?_
  have hbody' : m ∈ b.body := hbody ▸ List.mem_append_left _ hm
  exact List.mem_filter.mpr ⟨List.mem_filter.mpr ⟨hbody', isContent_of_isKeyAt hopens⟩, hopens⟩

end Block

/-! ## Quoted words in a list -/

namespace Text

/-- Words between quotes are kept with all that stands between them. -/
theorem beforeComment_joinWith {q : Quote} {words : List Text} (h : ∀ w ∈ words, q.char ∉ w)
    (rest : Text) : ∀ previous, quoteMayFollow previous = true →
      ∃ last, beforeComment none previous (joinWith ", " (words.map q.around) ++ rest) =
        joinWith ", " (words.map q.around) ++ beforeComment none last rest := by
  induction words with
  | nil => exact fun previous _ => ⟨previous, rfl⟩
  | cons first others ih =>
    intro previous hprevious
    have hfirst := h first List.mem_cons_self
    cases others with
    | nil => exact ⟨some q.char, by simpa [joinWith] using beforeComment_around hfirst hprevious rest⟩
    | cons second others =>
      obtain ⟨last, hlast⟩ := ih (fun w hw => h w (List.mem_cons_of_mem first hw)) (some ' ') (by decide)
      refine ⟨last, ?_⟩
      let listed := joinWith ", " ((second :: others).map q.around)
      have hjoin (tail : Text) : joinWith ", " ((first :: second :: others).map q.around) ++ tail =
          q.around first ++ ([',', ' '] ++ (listed ++ tail)) := by
        simp [listed, joinWith, List.intercalate_cons_cons]
      calc beforeComment none previous (joinWith ", " ((first :: second :: others).map q.around) ++ rest)
        _ = q.around first ++ beforeComment none (some q.char) ([',', ' '] ++ (listed ++ rest)) := by
          rw [hjoin, beforeComment_around hfirst hprevious]
        _ = q.around first ++ ([',', ' '] ++ (listed ++ beforeComment none last rest)) := by
          rw [beforeComment_append (List.all_eq_true.mp (by decide))]
          exact congrArg _ (congrArg _ hlast)
        _ = joinWith ", " ((first :: second :: others).map q.around) ++ beforeComment none last rest :=
          (hjoin _).symm

theorem withoutComment_bracketed {q : Quote} {words : List Text} (h : ∀ w ∈ words, q.char ∉ w) :
    (Segment.bracketed (words.map q.around)).withoutComment =
      Segment.bracketed (words.map q.around) := by
  have hopen : ∀ c ∈ ['['], isPlain c = true := List.all_eq_true.mp (by decide)
  have hclose (previous : Option Char) : beforeComment none previous [']'] = [']'] :=
    beforeComment_plain (List.all_eq_true.mp (by decide)) previous
  obtain ⟨last, hscan⟩ := beforeComment_joinWith h [']'] (some '[') (by decide)
  have hwhole : beforeComment none none (Segment.bracketed (words.map q.around)) =
      Segment.bracketed (words.map q.around) := by
    rw [Segment.bracketed, ← List.singleton_append, beforeComment_append hopen]
    exact congrArg _ (hscan.trans (by rw [hclose]))
  rw [withoutComment, hwhole]
  refine dropEndWhile_eq_self fun c hc => ?_
  rw [Segment.bracketed, ← List.cons_append, List.getLast?_concat] at hc
  exact Option.some.inj hc ▸ by decide

theorem trim_bracketed (parts : List Text) :
    (Segment.bracketed parts).trim = Segment.bracketed parts := by
  refine trim_eq_self rfl ?_
  rw [Segment.bracketed, ← List.cons_append, List.getLast?_concat]
  rfl

end Text

namespace Quote

variable {q : Quote} {w : Text}

/-- What a list in brackets makes of a word in quotes, a text for each of its pieces. -/
def decoded (q : Quote) (w : Text) : List Text := (q.around w).pieces.map Text.unquote

theorem decoded_of_no_comma (h : ',' ∉ w) : q.decoded w = [w] := by
  have hcomma : ',' ∉ q.around w := by cases q <;> simp [around, char, h]
  have hshown : (q.around w).trim ≠ [] := (q.trim_around w).trans_ne (q.around_ne_nil w)
  rw [decoded, Text.pieces_one hcomma hshown, q.trim_around, List.map_singleton, q.unquote_around]

/-- The quote before a word with a comma is left in its first piece. -/
theorem exists_quote_mem_decoded (hquote : q.char ∉ w) (h : ',' ∈ w) :
    ∃ part ∈ q.decoded w, q.char ∈ part := by
  obtain ⟨start, rest, rfl, hstart⟩ := List.eq_append_cons_of_mem h
  have hcut : q.around (start ++ ',' :: rest) = (q.char :: start) ++ ',' :: (rest ++ [q.char]) := by
    simp [around]
  have hcomma : ',' ∉ q.char :: start := by cases q <;> simp [char, hstart]
  have hshown : Text.trim (q.char :: start) ≠ [] :=
    List.ne_nil_of_mem (Text.mem_trim q.isBlank_char List.mem_cons_self)
  have hleft : q.char ∉ start := fun hmem => hquote (List.mem_append_left _ hmem)
  refine ⟨Text.unquote (q.char :: start), ?_, Text.quote_mem_unquote hleft⟩
  rw [decoded, hcut, Text.pieces_append_cons, Text.pieces_one hcomma hshown, List.map_append,
    List.map_singleton, Text.unquote_trim]
  exact List.mem_cons_self

/-- Words are read back from a list of them just if none has a comma. -/
theorem flatMap_decoded_eq_iff {words : List Text} (h : ∀ w ∈ words, q.char ∉ w) :
    words.flatMap q.decoded = words ↔ ∀ w ∈ words, ',' ∉ w := by
  constructor
  · intro heq w hw hcomma
    obtain ⟨part, hpart, hquote⟩ := exists_quote_mem_decoded (h w hw) hcomma
    exact h part (heq ▸ List.mem_flatMap.mpr ⟨w, hw, hpart⟩) hquote
  · intro hcomma
    exact (List.flatMap_congr fun w hw => decoded_of_no_comma (hcomma w hw)).trans
      (List.flatMap_singleton' words)

end Quote

/-- What a command line makes of a list of quoted words. -/
theorem Block.command?_of_bracketed {b command : Block} {q : Quote} {words : List Text}
    (hchild : b.child? "command".toList = some command)
    (hvalue : command.value = Segment.bracketed (words.map q.around)) :
    b.command? = some (.parts (words.flatMap q.decoded)) := by
  have hparts : command.entries.map (·.2.unquote) = words.flatMap q.decoded := by
    calc command.entries.map (·.2.unquote)
      _ = (Text.joinWith ", " (words.map q.around)).pieces.map Text.unquote := by
        rw [entries_of_value hvalue, List.map_map]
        rfl
      _ = ((words.map q.around).flatMap Text.pieces).map Text.unquote := by rw [Text.pieces_joinWith]
      _ = words.flatMap q.decoded := by rw [List.flatMap_map, List.map_flatMap]; rfl
  rw [command?, hchild, Option.bind_eq_bind, Option.bind_some, if_pos (isFlowList_of_value hvalue),
    hparts]

/-- **Commands in exec form keep their words.** Take the first line at the indent of the children of
a service that has the key `command`, with a list of words in double quotes between brackets for its
value. The words are any texts without double quotes. Each word gives what it is between its commas,
so the command is the list of the words if and only if none of them has a comma. -/
theorem exec_command_keeps_words {text : Text} {k : Nat} {service : Block} {above below : List Line}
    {l : Line} {words : List Text}
    (hservice : ((Document.ofText text).blocks .service)[k]? = some service)
    (hbody : service.body = above ++ l :: below)
    (hline : l.trimmed =
      "command: ".toList ++ Segment.bracketed (words.map Quote.double.around))
    (hplace : some l.indent = service.childIndent?) (hfree : l.inScalar = false)
    (hfirst : ∀ m ∈ above, m ∈ service.children → m.key? ≠ some "command".toList)
    (hwords : ∀ w ∈ words, '"' ∉ w) :
    ∃ parsed, (Stack.read text).services[k]? = some parsed ∧
      parsed.command? = some (.parts (words.flatMap Quote.double.decoded)) ∧
      (parsed.command? = some (.parts words) ↔ ∀ w ∈ words, ',' ∉ w) := by
  have hnl : '\n' ∉ Segment.bracketed (words.map Quote.double.around) := by
    have hmem : l ∈ service.body := hbody ▸ List.mem_append_right above List.mem_cons_self
    have hraw : '\n' ∉ l.raw := Document.newline_not_mem_raw
      ((Document.isIn_of_mem_blocks (List.mem_of_getElem? hservice)).body_sublist.mem hmem)
    intro hnl
    have htrimmed : '\n' ∈ l.trimmed := hline ▸ List.mem_append_right _ hnl
    exact hraw ((List.dropWhile_sublist _).mem (Text.mem_of_mem_dropEndWhile htrimmed))
  have hrole : l.role =
      .mappingKey "command".toList (Segment.bracketed (words.map Quote.double.around)) := by
    have hpair := @Role.ofTrimmed_pair "command".toList _ (by decide) rfl hnl
    rw [Text.withoutComment_bracketed hwords, Text.trim_bracketed] at hpair
    rw [Line.role, hline]
    exact hpair
  have hkey : l.key? = some "command".toList := by rw [Line.key?, hrole]
  have hopens : Block.isKeyAt service.childIndent? l = true := by
    simp [Block.isKeyAt, Line.isMappingKey, hkey, hplace, hfree]
  have hcommand : (Service.ofBlock service).command? =
      some (.parts (words.flatMap Quote.double.decoded)) := by
    refine Block.command?_of_bracketed (Block.child?_of_first hbody hopens hkey hfirst) ?_
    rw [Block.value, Line.value, Line.value?, hrole, Option.getD_some]
  refine ⟨Service.ofBlock service, ?_, hcommand, ?_⟩
  · rw [Stack.read, Stack.ofDocument, List.getElem?_map, hservice, Option.map_some]
  · rw [hcommand, Option.some_inj, Command.parts.injEq]
    exact Quote.flatMap_decoded_eq_iff hwords

/-- Words that look like a comment, a key, a list and the end of one, a blank word and an empty one,
behind a key of the block before. -/
theorem exec_command_keeps_signs :
    let words := ["a # b", "c: d", "[e", "f]", " ", "", "it's"].map String.toList
    let line (n : Int) (s : String) : Line := Line.ofText n s.toList
    let l := line 4 "    command: [\"a # b\", \"c: d\", \"[e\", \"f]\", \" \", \"\", \"it's\"]"
    let web : Block := ⟨line 2 "  web:", [line 3 "    image: f", l]⟩
    let text : Text := ("services:\n  web:\n    image: f\n" ++
      "    command: [\"a # b\", \"c: d\", \"[e\", \"f]\", \" \", \"\", \"it's\"]").toList
    ((Document.ofText text).blocks .service)[0]? = some web ∧
      l.trimmed = "command: ".toList ++ Segment.bracketed (words.map Quote.double.around) ∧
      (∀ w ∈ words, '"' ∉ w) ∧ (∀ w ∈ words, ',' ∉ w) ∧
      ∃ parsed, (Stack.read text).services[0]? = some parsed ∧
        parsed.command? = some (.parts words) := by
  intro words line l web text
  have hweb : ((Document.ofText text).blocks .service)[0]? = some web := by decide +kernel
  have hline : l.trimmed = "command: ".toList ++
      Segment.bracketed (words.map Quote.double.around) := by decide
  have hquotes : ∀ w ∈ words, '"' ∉ w := by decide
  have hcommas : ∀ w ∈ words, ',' ∉ w := by decide
  have hbody : web.body = [line 3 "    image: f"] ++ l :: [] := rfl
  obtain ⟨parsed, hparsed, -, hiff⟩ :=
    exec_command_keeps_words hweb hbody hline (by decide) rfl (by decide) hquotes
  exact ⟨hweb, hline, hquotes, hcommas, parsed, hparsed, hiff.mpr hcommas⟩

/-- A word with a comma is cut there, and each part keeps one of the quotes. -/
theorem exec_command_cut_at_comma :
    let words := ["a,b".toList]
    let line (n : Int) (s : String) : Line := Line.ofText n s.toList
    let l := line 3 "    command: [\"a,b\"]"
    let web : Block := ⟨line 2 "  web:", [l]⟩
    let text : Text := "services:\n  web:\n    command: [\"a,b\"]".toList
    (((Document.ofText text).blocks .service)[0]? = some web ∧
        l.trimmed = "command: ".toList ++ Segment.bracketed (words.map Quote.double.around) ∧
        ∀ w ∈ words, ∀ c ∈ ['"', '\'', '\\', '\n'], c ∉ w) ∧
      (Stack.read text).services.map (·.command?) =
        [some (.parts ["\"a".toList, "b\"".toList])] := by
  intro words line l web text
  refine ⟨⟨by decide, by decide, ?_⟩, by decide⟩
  simp [words]

end ComposeLint
