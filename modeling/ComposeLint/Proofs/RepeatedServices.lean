import ComposeLint.Proofs.Check.Codes
import ComposeLint.Proofs.Check.LineForm
import ComposeLint.Proofs.Document.Headers
import ComposeLint.Proofs.ScalarHeaders

/-! # Services of one name

The stack lists a service for every header in the section of services, and nothing merges two of one
name. The scan for repeated keys sees the same headers as keys at two spaces, but a line that is
indented less ends the block that it looks at, where the section goes on to the next letter in the
first column. So a service of a name that an earlier one has is reported as long as no such line
stands between the two (`repeated_service_reported_in_block`). -/

namespace ComposeLint

/-- Whether the report has an error at this line for a key that is repeated there. -/
def Report.RepeatsKeyAt (r : Report) (line : Int) : Prop :=
  ∃ i ∈ r.issues, i.code = .yamlDuplicateKey ∧ i.severity = .error ∧ i.line? = some line

namespace Document

variable {text : Text}

/-! ## Repeated keys in the report -/

/-- Only the scan for repeated keys reports any. -/
theorem mem_duplicateKeyIssues_iff {i : Issue} (hcode : i.code = .yamlDuplicateKey) :
    i ∈ (validate text).issues ↔ i ∈ Check.duplicateKeyIssues (ofText text) := by
  rw [mem_issues_validate]
  constructor
  · rintro ⟨p, hi⟩
    have hpass : .yamlSyntax = p := by
      by_contra hne
      have hnone : (p.contribution [] (ofText text)).filter (·.code == .yamlDuplicateKey) = [] :=
        Pass.filter_contribution_eq_nil rfl hne (ofText text)
      exact List.filter_eq_nil_iff.mp hnone i hi (by simp [hcode])
    subst hpass
    have hsyntax : i ∈ Check.syntaxIssues (ofText text) := hi
    refine (Check.mem_syntaxIssues_iff.mp hsyntax).resolve_left ?_
    rintro ⟨l, -, hl⟩
    exact Check.code_ne_duplicateKey_of_mem_lineIssues hl hcode
  · exact fun hi => ⟨.yamlSyntax, Check.mem_syntaxIssues_iff.mpr (.inr hi)⟩

/-- A line is reported if and only if it repeats a key of a line above. -/
theorem repeatsKeyAt_iff (n : Nat) : (validate text).RepeatsKeyAt (n + 1) ↔
    ∃ key j, (ofText text).Repeats n key j := by
  obtain ⟨repeats, hrepeats, hissues⟩ := Check.exists_repeats text
  constructor
  · rintro ⟨i, hi, hcode, -, hline⟩
    rw [mem_duplicateKeyIssues_iff hcode, hissues] at hi
    obtain ⟨r, hr, rfl⟩ := List.mem_map.mp hi
    obtain rfl : r.line = n := by
      have hnumber : (r.line : Int) + 1 = n + 1 := Option.some.inj hline
      omega
    exact ⟨r.key, r.previous, (hrepeats.sound r hr).2.1⟩
  · rintro ⟨key, j, hrepeat⟩
    have hn : n < (ofText text).length := by
      obtain ⟨l, hl, -⟩ := hrepeat
      exact (List.getElem?_eq_some_iff.mp hl).1
    obtain ⟨r, hr, rfl⟩ := hrepeats.complete n key j hn hrepeat
    have hmem : r.issue ∈ (validate text).issues := by
      rw [mem_duplicateKeyIssues_iff rfl, hissues]
      exact List.mem_map_of_mem hr
    exact ⟨r.issue, hmem, rfl, rfl, rfl⟩

/-! ## Headers as keys -/

section Services

variable {a b : Block}

/-- The header of a service is a key at two spaces, and its place is that of the block. -/
theorem header_of_mem_services (hb : b ∈ (ofText text).blocks .service) :
    (ofText text)[b.start]? = some b.header ∧ b.header.number = b.start + 1 ∧
      b.header.key? = some b.name ∧ b.header.indent = 2 := by
  obtain ⟨-, -, -, hheader, -⟩ := Block.exists_of_mem_blocksAt hb
  obtain ⟨s, hs⟩ : ∃ s, (ofText text).section? EntryKind.service.sectionName = some s := by
    refine Option.ne_none_iff_exists'.mp fun hnone => ?_
    rw [blocks_of_section?_eq_none hnone] at hb
    cases hb
  have hline := getElem?_start hs hb
  exact ⟨hline, number_of_getElem? hline, Block.key?_header_of_isHeader hheader,
    Line.indent_of_startsEntry (EntryKind.startsEntry_of_isHeader hheader)⟩

/-- A service is reported if and only if its header sees its name as a key. -/
theorem repeatsKeyAt_header_iff (hb : b ∈ (ofText text).blocks .service)
    (hfree : b.header.inScalar = false) : (validate text).RepeatsKeyAt b.header.number ↔
      ∃ k, (ofText text).Sees b.start 2 b.name k := by
  obtain ⟨hline, hnumber, hkey, hindent⟩ := header_of_mem_services hb
  rw [hnumber, repeatsKeyAt_iff]
  constructor
  · rintro ⟨key, k, hrepeat⟩
    obtain rfl : b.name = key := by
      obtain ⟨l, hl, -, hgiven, -⟩ := hrepeat
      obtain rfl := Option.some.inj (hline.symm.trans hl)
      exact Option.some.inj (hkey.symm.trans hgiven)
    exact ⟨k, hindent ▸ (repeats_iff hline hfree hkey).mp hrepeat⟩
  · rintro ⟨k, hsees⟩
    exact ⟨b.name, k, (repeats_iff hline hfree hkey).mpr (hindent.symm ▸ hsees)⟩

/-- An earlier service of the same name is seen over all that is indented by two spaces at least. -/
theorem sees_earlier_service (ha : a ∈ (ofText text).blocks .service)
    (hbefore : a.start < b.start) (hfree : a.header.inScalar = false) (hname : a.name = b.name)
    (hsight : ∀ k l, a.start < k → k < b.start → (ofText text)[k]? = some l →
      l.isContent = true → l.inScalar = false → 2 ≤ l.indent) :
    (ofText text).Sees b.start 2 b.name a.start := by
  obtain ⟨hline, -, hkey, hindent⟩ := header_of_mem_services ha
  exact ⟨hbefore, ⟨a.header, hline, hfree, hname ▸ hkey, hindent⟩, hsight⟩

/-- The blocks of services stand in the order of the text. -/
theorem start_lt_start {i j : Nat} (hij : i < j) (ha : ((ofText text).blocks .service)[i]? = some a)
    (hb : ((ofText text).blocks .service)[j]? = some b) : a.start < b.start := by
  obtain ⟨hi, rfl⟩ := List.getElem?_eq_some_iff.mp ha
  obtain ⟨hj, rfl⟩ := List.getElem?_eq_some_iff.mp hb
  have hnumbers := List.pairwise_iff_getElem.mp (pairwise_header text .service) i j hi hj hij
  have hstart := (header_of_mem_services (List.mem_of_getElem? ha)).2.1
  have hstart' := (header_of_mem_services (List.mem_of_getElem? hb)).2.1
  omega

end Services

end Document

/-- The names that the stack gives to its services are those of their blocks. -/
theorem Stack.name_services (text : Text) (i : Nat) :
    (read text).services[i]?.map Service.name =
      ((Document.ofText text).blocks .service)[i]?.map Block.name := by
  rw [read, ofDocument, List.getElem?_map, Option.map_map]
  rfl

/-- **When a service of a repeated name is reported.** Take a service whose header is no scalar text.
Its line is reported for a repeated key if and only if it sees its name given as a key at two spaces:
by an earlier line that is no scalar text, with no content line in between that is indented less,
scalar text apart. So wherever an earlier service has its name, with a header that is no scalar text
either, it is reported unless a line in between is indented by fewer than two spaces. -/
theorem repeated_service_reported_in_block {text : Text} {j : Nat} {b : Block}
    (hb : ((Document.ofText text).blocks .service)[j]? = some b)
    (hfree : b.header.inScalar = false) :
    let doc := Document.ofText text
    ((validate text).RepeatsKeyAt b.header.number ↔ ∃ k, doc.Sees b.start 2 b.name k) ∧
    ∀ i a, i < j → (doc.blocks .service)[i]? = some a → a.header.inScalar = false →
      (Stack.read text).services[i]?.map Service.name =
        (Stack.read text).services[j]?.map Service.name →
      (∀ k l, a.start < k → k < b.start → doc[k]? = some l → l.isContent = true →
        l.inScalar = false → 2 ≤ l.indent) →
      (validate text).RepeatsKeyAt b.header.number := by
  intro doc
  have hreported := Document.repeatsKeyAt_header_iff (List.mem_of_getElem? hb) hfree
  refine ⟨hreported, fun i a hij ha hfree' hname hsight => hreported.mpr ⟨a.start, ?_⟩⟩
  rw [Stack.name_services, Stack.name_services, ha, hb] at hname
  exact Document.sees_earlier_service (List.mem_of_getElem? ha)
    (Document.start_lt_start hij ha hb) hfree' (Option.some.inj hname) hsight

/-- The second service of a name is reported over the fields of the first and a comment in the first
column. -/
theorem repeated_service_reported_below_comment :
    let text := "services:\n  a:\n    image: x\n# note\n  a:".toList
    ∃ b, ((Document.ofText text).blocks .service)[1]? = some b ∧ b.header.inScalar = false ∧
      b.header.number = 5 ∧ (validate text).RepeatsKeyAt 5 := by
  intro text
  let first : Block := ⟨⟨2, "  a:".toList, false⟩,
    [⟨3, "    image: x".toList, false⟩, ⟨4, "# note".toList, false⟩]⟩
  let second : Block := ⟨⟨5, "  a:".toList, false⟩, []⟩
  have hblocks : (Document.ofText text).blocks .service = [first, second] := by decide
  have hsecond : ((Document.ofText text).blocks .service)[1]? = some second := by rw [hblocks]; rfl
  have hfirst : ((Document.ofText text).blocks .service)[0]? = some first := by rw [hblocks]; rfl
  have hnames : (Stack.read text).services[0]?.map Service.name =
      (Stack.read text).services[1]?.map Service.name := by
    rw [Stack.name_services, Stack.name_services, hfirst, hsecond]
    rfl
  have hbetween : ∀ k < 4, 1 < k → ∀ l ∈ (Document.ofText text)[k]?, l.isContent = true →
      2 ≤ l.indent := by decide
  obtain ⟨-, hreported⟩ := repeated_service_reported_in_block hsecond rfl
  exact ⟨second, hsecond, rfl, rfl, hreported 0 first Nat.zero_lt_one hfirst rfl hnames
    fun k l hlow hhigh hl hcontent _ => hbetween k hhigh hlow l hl hcontent⟩

/-- A figure in the first column does not end the section of services, yet it ends the block of the
keys below: the second service of a name is not reported, and neither header is scalar text. -/
theorem repeated_service_unreported :
    let text := "services:\n  a:\n1:\n  a:".toList
    (Stack.read text).services.map Service.name = ["a".toList, "a".toList] ∧
      ((Document.ofText text).blocks .service).map Block.header =
        [⟨2, "  a:".toList, false⟩, ⟨4, "  a:".toList, false⟩] ∧
      ¬ (validate text).RepeatsKeyAt 4 := by
  intro text
  refine ⟨by decide, by decide, ?_⟩
  rintro ⟨i, hi, hcode, -⟩
  have hnone : Check.duplicateKeyIssues (Document.ofText text) = [] := by decide
  rw [Document.mem_duplicateKeyIssues_iff hcode, hnone] at hi
  cases hi

end ComposeLint
