import ComposeLint.Proofs.Bare.Block
import ComposeLint.Proofs.Check.Lookups
import ComposeLint.Proofs.OwnedLines
import ComposeLint.Stack.Reader

/-! # Commands written as block scalars

Each line of scalar text below `command: |` is a part of the command as it stands. But the lines are
told apart before they are known to be scalar text, so a script line that looks like a comment has
been left out of the content by then (`scalar_command_keeps_content`). All other lines are kept, also
where they look like items or keys. -/

namespace ComposeLint

/-- A command of these parts, none if there are no parts. -/
def Command.ofParts? (parts : List Text) : Option Command :=
  if parts.isEmpty then none else some (.parts parts)

theorem Command.ofParts?_injective : Function.Injective ofParts? := by
  intro a b h
  cases a <;> cases b <;> simp_all [ofParts?]

/-- Marked lines with some text are all kept with the content if and only if none is a comment. -/
theorem Line.map_trimmed_filter_eq_iff {lines : List Line} :
    ((lines.filter fun l => l.inScalar && l.isContent).map trimmed =
        (lines.filter fun l => l.inScalar && !l.isBlank).map trimmed) ↔
      ∀ l ∈ lines, l.inScalar = true → l.trimmed.head? ≠ some '#' := by
  have hsub : (lines.filter fun l => l.inScalar && !l.isBlank).filter (!·.isComment) =
      lines.filter fun l => l.inScalar && l.isContent := by
    rw [List.filter_filter]
    refine List.filter_congr fun l _ => ?_
    rw [isContent, Bool.and_comm, Bool.and_assoc]
  constructor
  · intro h l hl hmark hhash
    have hcomment := isComment_iff.mpr hhash
    -- the kept lines are a part of the marked ones, and as many
    have hlength := congrArg List.length h
    rw [List.length_map, List.length_map, ← hsub, List.length_filter_eq_length_iff] at hlength
    have hshown : l.isBlank = false := by
      rw [Bool.eq_false_iff]
      intro hblank
      rw [isBlank_iff.mp hblank] at hhash
      cases hhash
    have hkept := hlength l (List.mem_filter.mpr ⟨hl, by rw [hmark, hshown]; rfl⟩)
    rw [hcomment] at hkept
    cases hkept
  · intro h
    rw [← hsub, List.filter_eq_self.mpr fun l hl => ?_]
    obtain ⟨hl, hmark⟩ := List.mem_filter.mp hl
    rw [Bool.and_eq_true] at hmark
    rw [Bool.not_eq_true', Bool.eq_false_iff, ne_eq, isComment_iff]
    exact h l hl hmark.1

namespace Block

/-- The lines that a child of a block may reach over: those below its header up to the first one that
ends it. -/
def scopeOf (b child : Block) : List Line :=
  (b.body.drop (b.body.idxOf child.header + 1)).takeWhile (continuesFrom child.header)

/-- Only lines without content are cut off at the end of a block. -/
theorem filter_isContent_owned (header : Line) (following : List Line) :
    (owned header following).filter (·.isContent) =
      (following.takeWhile (continuesFrom header)).filter (·.isContent) := by
  obtain ⟨gap, rest, hcut, hreach, -, hgap, hrest⟩ := exists_owned_cut header following
  have htake : following.takeWhile (continuesFrom header) = owned header following ++ gap := by
    conv_lhs => rw [hcut]
    rw [← List.append_assoc, List.takeWhile_append_of_pos hreach]
    cases rest with
    | nil => simp
    | cons l rest => rw [List.takeWhile_cons_of_neg (by simp [hrest l rfl]), List.append_nil]
  have hnone : gap.filter (·.isContent) = [] :=
    List.filter_eq_nil_iff.mpr fun l hl => by simp [hgap l hl]
  rw [htake, List.filter_append, hnone, List.append_nil]

/-- The content of a child is that of the lines that it may reach over. -/
theorem content_eq_scopeOf {b child : Block} {key : Text}
    (hbody : b.body.Pairwise fun l m => l.number < m.number) (hchild : b.child? key = some child) :
    child.content = (b.scopeOf child).filter (·.isContent) := by
  have hplace := at?_idxOf_header hbody (List.mem_of_find?_eq_some hchild)
  unfold at? at hplace
  cases hheader : b.body[b.body.idxOf child.header]? with
  | none => simp [hheader] at hplace
  | some header =>
    have hcut : (⟨header, owned header (b.body.drop (b.body.idxOf child.header + 1))⟩ : Block) =
        child := by
      simpa [hheader] using hplace
    have hsame : header = child.header := congrArg Block.header hcut
    rw [content, ← hcut, scopeOf, filter_isContent_owned, hsame]

/-- A key that opens a block scalar has nothing but the header of the scalar for its value. -/
theorem isScalarHeader_value_of_child? {b child : Block} {key : Text}
    (hchild : b.child? key = some child) (hopens : child.header.opensScalar = true) :
    Line.isScalarHeader child.value = true := by
  have hkey : child.header.key? = some key := by simpa using List.find?_some hchild
  cases hrole : child.header.role <;> simp_all [Line.key?, value, Line.value, Line.value?,
    Line.opensScalar]

/-- A command below the header of a block scalar is made of the content lines there. -/
theorem command?_of_isScalarHeader {b command : Block} (h : b.child? "command".toList = some command)
    (hheader : Line.isScalarHeader command.value = true) :
    b.command? = Command.ofParts? (command.content.filterMap commandPart?) := by
  have hflow : command.isFlowList = false := by
    cases hvalue : command.value with
    | nil => simp [hvalue, Line.isScalarHeader] at hheader
    | cons c rest =>
      have hc : c ≠ '[' := by
        rintro rfl
        simp [hvalue, Line.isScalarHeader] at hheader
      simp [isFlowList, hvalue, hc]
  unfold command?
  simp only [h, Option.bind_eq_bind, Option.bind_some, hflow, hheader]
  simp [Command.ofParts?]

end Block

/-- **Commands written as block scalars.** Take a service whose command opens a block scalar, with
nothing but scalar text for content in its scope. The command is the list of the trimmed lines of
this content, none if there are none. So it is the list of all lines of scalar text that are not blank
if and only if none of them starts with a number sign. -/
theorem scalar_command_keeps_content {text : Text} {k : Nat} {service command : Block}
    (hservice : ((Document.ofText text).blocks .service)[k]? = some service)
    (hcommand : service.child? "command".toList = some command)
    (hopens : command.header.opensScalar = true)
    (hscope : ∀ l ∈ service.scopeOf command, l.isContent = true → l.inScalar = true) :
    ∃ parsed, (Stack.read text).services[k]? = some parsed ∧
      parsed.command? = Command.ofParts?
        (((service.scopeOf command).filter fun l => l.inScalar && l.isContent).map Line.trimmed) ∧
      (parsed.command? = Command.ofParts?
          (((service.scopeOf command).filter fun l => l.inScalar && !l.isBlank).map Line.trimmed) ↔
        ∀ l ∈ service.scopeOf command, l.inScalar = true → l.trimmed.head? ≠ some '#') := by
  have hbody := (Document.pairwise_number text).sublist
    (Document.isIn_of_mem_blocks (List.mem_of_getElem? hservice)).body_sublist
  have hcontent : command.content =
      (service.scopeOf command).filter fun l => l.inScalar && l.isContent := by
    rw [Block.content_eq_scopeOf hbody hcommand]
    refine List.filter_congr fun l hl => ?_
    cases hc : l.isContent with
    | true => rw [hscope l hl hc, Bool.and_self]
    | false => rw [Bool.and_false]
  have hparts : service.command? = Command.ofParts?
      (((service.scopeOf command).filter fun l => l.inScalar && l.isContent).map Line.trimmed) := by
    rw [Block.command?_of_isScalarHeader hcommand
      (Block.isScalarHeader_value_of_child? hcommand hopens), hcontent, ← List.filterMap_eq_map]
    refine congrArg _ (List.filterMap_congr fun l hl => ?_)
    have hmark := (List.mem_filter.mp hl).2
    rw [Bool.and_eq_true] at hmark
    rw [Block.commandPart?, if_pos hmark.1, Function.comp_apply]
  refine ⟨Service.ofBlock service, ?_, hparts, ?_⟩
  · rw [Stack.read, Stack.ofDocument, List.getElem?_map, hservice, Option.map_some]
  · rw [show (Service.ofBlock service).command? = _ from hparts, Command.ofParts?_injective.eq_iff,
      Line.map_trimmed_filter_eq_iff]

/-- Script lines that look like an item, a key and a quote that is left open. -/
theorem scalar_command_keeps_script :
    let line (n : Int) (s : String) : Line := ⟨n, s.toList, true⟩
    let command : Block := ⟨⟨3, "    command: |".toList, false⟩, [line 4 "      - a: |",
      line 5 "", line 6 "        b: it's 'c", line 7 "      d # e"]⟩
    let web : Block := ⟨⟨2, "  web:".toList, false⟩, command.header :: command.body ++
      [⟨8, "    image: f".toList, false⟩]⟩
    let text : Text := ("services:\n  web:\n    command: |\n      - a: |\n\n        b: it's 'c\n" ++
      "      d # e\n    image: f").toList
    ((Document.ofText text).blocks .service)[0]? = some web ∧
      web.child? "command".toList = some command ∧ command.header.opensScalar = true ∧
      (∀ l ∈ web.scopeOf command, l.isContent = true → l.inScalar = true) ∧
      ∃ parsed, (Stack.read text).services[0]? = some parsed ∧ parsed.command? =
        some (.parts ["- a: |".toList, "b: it's 'c".toList, "d # e".toList]) := by
  intro line command web text
  have hweb : ((Document.ofText text).blocks .service)[0]? = some web := by decide
  have hcommand : web.child? "command".toList = some command := by decide
  have hopens : command.header.opensScalar = true := by decide
  have hscope : ∀ l ∈ web.scopeOf command, l.isContent = true → l.inScalar = true := by decide
  obtain ⟨parsed, hparsed, hparts, -⟩ :=
    scalar_command_keeps_content hweb hcommand hopens hscope
  refine ⟨hweb, hcommand, hopens, hscope, parsed, hparsed, hparts.trans ?_⟩
  decide

/-- A script loses the line that names its interpreter, and a comment within it. -/
theorem scalar_command_loses_comments :
    let line (n : Int) (s : String) : Line := ⟨n, s.toList, true⟩
    let command : Block := ⟨⟨3, "    command: |".toList, false⟩, [line 4 "      #!/bin/sh",
      line 5 "      a", line 6 "      # b", line 7 "      c"]⟩
    let web : Block := ⟨⟨2, "  web:".toList, false⟩, command.header :: command.body⟩
    let text : Text := ("services:\n  web:\n    command: |\n      #!/bin/sh\n      a\n" ++
      "      # b\n      c").toList
    (((Document.ofText text).blocks .service)[0]? = some web ∧
        web.child? "command".toList = some command ∧ command.header.opensScalar = true ∧
        ∀ l ∈ web.scopeOf command, l.isContent = true → l.inScalar = true) ∧
      ((web.scopeOf command).filter fun l => l.inScalar && !l.isBlank).map Line.trimmed =
        ["#!/bin/sh", "a", "# b", "c"].map String.toList ∧
      (Stack.read text).services.map (·.command?) = [some (.parts ["a".toList, "c".toList])] := by
  decide

end ComposeLint
