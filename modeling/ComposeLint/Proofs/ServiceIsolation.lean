import ComposeLint.Proofs.Document.Blocks
import ComposeLint.Proofs.Moved.Document
import ComposeLint.Proofs.SectionLocality
import ComposeLint.Proofs.Segmentation

/-! # A service is read by itself

The scope of a service is cut by raw text, but its fields are looked up by marks that were set from
the top of the document. If the header itself is unmarked, no scalar is open there, so its lines
are marked as they would be with nothing above them (`Document.exists_entry_texts`). A document of
these lines alone then has this one service, at an offset. -/

namespace ComposeLint

open Line (moved)

namespace Block

/-- The texts of the lines of a block, its header first. -/
def ownTexts (b : Block) : List Text := (b.header :: b.body).map Line.raw

/-- The document that holds one service and nothing else. -/
def standalone (b : Block) : Text := Text.joinWith "\n" ("services:".toList :: b.ownTexts)

end Block

namespace Document

/-- An unmarked line and what follows it are marked as if nothing stood above them. -/
theorem exists_entry_texts {n : Int} {texts : List Text} {before body after : List Line}
    {header : Line}
    (h : markScalars none (numberFrom n texts) = before ++ header :: (body ++ after))
    (hfree : header.inScalar = false) :
    ∃ m own, header :: body = markScalars none (numberFrom m own) := by
  obtain ⟨above, rest, -, -, hrest⟩ := exists_cut h
  cases rest with
  | nil => cases hrest
  | cons t rest =>
    rw [numberFrom] at hrest
    cases hheld : isHeld (holderAfter none (numberFrom n above))
        (Line.ofText (n + above.length) t) with
    | true =>
      rw [markScalars_cons_held hheld] at hrest
      rw [(List.cons.inj hrest).1] at hfree
      cases hfree
    | false =>
      rw [markScalars_cons_free hheld, ← markScalars_cons_none, ← numberFrom,
        ← List.cons_append, eq_comm] at hrest
      obtain ⟨own, -, -, hown, -⟩ := exists_cut hrest
      exact ⟨_, own, hown⟩

/-- One entry with its scope, cut again from its own lines. -/
theorem blocksAt_alone {kind : EntryKind} {b : Block} (hheader : kind.isHeader b.header = true)
    (hbody : ∀ l ∈ b.body, l.startsEntry = false) :
    Block.blocksAt kind.isHeader entryScope (b.header :: b.body) = [b] := by
  have hscope : entryScope b.header b.body = b.body := by
    simpa [entryScope] using hbody
  have hnone : ∀ l ∈ b.body, kind.isHeader l = false := by
    intro l hl
    cases h : kind.isHeader l with
    | false => rfl
    | true =>
      rw [← hbody l hl, EntryKind.startsEntry_of_isHeader h]
  rw [Block.blocksAt, if_pos hheader, hscope, Block.blocksAt_eq_nil hnone]

section
variable {text : Text} {b : Block} (hb : b ∈ (ofText text).blocks .service)
include hb

/-- A service is its header and the lines down to the next entry, in the body of the section. -/
theorem exists_of_mem_services : EntryKind.service.isHeader b.header = true ∧
    (∀ l ∈ b.body, l.startsEntry = false) ∧ ∃ above top before after below,
      ofText text = above ++ top :: ((before ++ b.header :: (b.body ++ after)) ++ below) ∧
      IsSection EntryKind.service.sectionName above top
        (before ++ b.header :: (b.body ++ after)) below := by
  obtain ⟨k, hk⟩ := List.getElem?_of_mem hb
  obtain ⟨above, top, before, after, below, hdoc, hentry⟩ := exists_isEntry hk
  exact ⟨hentry.header, hentry.body, above, top, before, after, below, hdoc, hentry.lies⟩

/-- The own document of a service has its lines below the header of the section. -/
theorem sectionBody_standalone :
    (ofText b.standalone).sectionBody EntryKind.service.sectionName =
      markScalars none (numberFrom 2 b.ownTexts) := by
  obtain ⟨-, -, above, top, before, after, below, hdoc, his⟩ := exists_of_mem_services hb
  have hmem : ∀ l ∈ b.header :: b.body, l ∈ before ++ b.header :: (b.body ++ after) := by
    intro l hl
    rw [← List.cons_append]
    exact List.mem_append_right _ (List.mem_append_left _ hl)
  have hdocmem : ∀ l ∈ b.header :: b.body, l ∈ ofText text := by
    intro l hl
    rw [hdoc]
    exact List.mem_append_right _ (List.mem_cons_of_mem _ (List.mem_append_left _ (hmem l hl)))
  have hlines : ∀ t ∈ [] ++ "services:".toList :: (b.ownTexts ++ []), '\n' ∉ t := by
    intro t ht
    rw [List.nil_append, List.append_nil] at ht
    rcases List.mem_cons.mp ht with rfl | ht
    · decide
    · obtain ⟨l, hl, rfl⟩ := List.mem_map.mp ht
      exact newline_not_mem_raw (hdocmem l hl)
  have hown : ∀ t ∈ b.ownTexts, (Line.ofText 0 t).startsTopLevel = false := by
    intro t ht
    obtain ⟨l, hl, rfl⟩ := List.mem_map.mp ht
    rw [startsTopLevel_congr (raw_ofText_raw (hdocmem l hl) 0)]
    exact his.body l (hmem l hl)
  have hbody := @sectionBody_joinWith .service [] b.ownTexts [] _ hlines (by simp) (by decide)
    hown rfl
  rw [List.nil_append, List.append_nil] at hbody
  exact hbody

/-- A service whose header is unmarked is the one service of its own document, at an offset. -/
theorem blocks_standalone (hfree : b.header.inScalar = false) :
    ∃ alone offset, (ofText b.standalone).blocks .service = [alone] ∧
      alone.moved id = b.moved (· + offset) := by
  obtain ⟨hheader, hscope, above, top, before, after, below, hdoc, his⟩ :=
    exists_of_mem_services hb
  obtain ⟨n, texts, hmarked⟩ := exists_body_texts hdoc his.header
  obtain ⟨m, own, hown⟩ := exists_entry_texts hmarked.symm hfree
  have hmoved : ((ofText b.standalone).blocks .service).map (Block.moved id) =
      [b.moved (· + (2 - m))] := by
    rw [blocks, sectionBody_standalone hb, ← entryBlocks_moved, Block.ownTexts, reread_moved hown,
      entryBlocks_moved, blocksAt_alone hheader hscope]
    rfl
  obtain ⟨alone, hblocks, hsame⟩ := List.map_eq_singleton_iff.mp hmoved
  exact ⟨alone, 2 - m, hblocks, hsame⟩

end

end Document

/-- Blocks that differ by their place alone are one service. -/
theorem Service.ofBlock_eq_of_moved {a b : Block} {offset : Int}
    (h : a.moved id = b.moved (· + offset)) : Service.ofBlock a = Service.ofBlock b := by
  have hp : StrictMono (· + offset) := fun m n hmn => Int.add_lt_add_right hmn offset
  rw [← Service.ofBlock_moved strictMono_id, h, Service.ofBlock_moved hp]

theorem Check.serviceIssues_eq_of_moved {a b : Block} {place : Int → Int}
    (h : a.moved id = b.moved place) :
    serviceIssues a = (serviceIssues b).map (List.map (Issue.moved place)) := by
  have ha := serviceIssues_moved id a
  rw [h, serviceIssues_moved, Issue.moved_id, List.map_id_fun] at ha
  rw [ha]
  cases serviceIssues a <;> rfl

/-- **A service is read by itself.** Take any service whose header is not scalar text. A document
of its own lines has one service, which is that service, and the checks of a service find the same
there, or fail in the same way, with all lines off by one offset. So two documents in which a
service has the same lines agree on it, whatever the other services hold. -/
theorem service_read_alone {text : Text} {k : Nat} {b : Block}
    (hb : ((Document.ofText text).blocks .service)[k]? = some b)
    (hfree : b.header.inScalar = false) :
    (∃ alone service offset, (Document.ofText b.standalone).blocks .service = [alone] ∧
      (Stack.read b.standalone).services = [service] ∧
      (Stack.read text).services[k]? = some service ∧
      Check.serviceIssues alone =
        (Check.serviceIssues b).map (List.map (Issue.moved (· + offset)))) ∧
    ∀ (text' : Text) (k' : Nat) (b' : Block),
      ((Document.ofText text').blocks .service)[k']? = some b' → b'.header.inScalar = false →
      b'.ownTexts = b.ownTexts →
      (Stack.read text').services[k']? = (Stack.read text).services[k]? ∧
      ∃ offset, Check.serviceIssues b' =
        (Check.serviceIssues b).map (List.map (Issue.moved (· + offset))) := by
  have hservice (u : Text) (i : Nat) (c : Block)
      (hc : ((Document.ofText u).blocks .service)[i]? = some c) :
      (Stack.read u).services[i]? = some (Service.ofBlock c) := by
    simp only [Stack.read, Stack.ofDocument, List.getElem?_map, hc, Option.map_some]
  obtain ⟨alone, offset, halone, hmoved⟩ :=
    Document.blocks_standalone (List.mem_of_getElem? hb) hfree
  refine ⟨⟨alone, Service.ofBlock b, offset, halone, ?_, hservice text k b hb,
    Check.serviceIssues_eq_of_moved hmoved⟩, ?_⟩
  · rw [Stack.read, Stack.ofDocument, halone, ← Service.ofBlock_eq_of_moved hmoved]
    rfl
  · intro text' k' b' hb' hfree' htexts
    obtain ⟨alone', offset', halone', hmoved'⟩ :=
      Document.blocks_standalone (List.mem_of_getElem? hb') hfree'
    rw [Block.standalone, htexts, ← Block.standalone, halone] at halone'
    obtain rfl : alone = alone' := by simpa using halone'
    have hsame : b'.moved id = b.moved (· + (offset - offset')) :=
      calc b'.moved id = (b'.moved (· + offset')).moved (· - offset') := by
            simp only [Block.moved_moved, Int.add_sub_cancel]
            rfl
        _ = (b.moved (· + offset)).moved (· - offset') := by rw [← hmoved', hmoved]
        _ = b.moved (· + (offset - offset')) := by
            simp only [Block.moved_moved, Int.add_sub_assoc]
    refine ⟨?_, offset - offset', Check.serviceIssues_eq_of_moved hsame⟩
    rw [hservice text' k' b' hb', hservice text k b hb, Service.ofBlock_eq_of_moved hsame]

/-- A service below an open scalar, and the same service below a line that makes no sense. -/
theorem web_read_alone :
    let text : Text := "services:\n  db:\n    command: |\n      run\n  web:\n    image: a".toList
    let text' : Text := "services:\n  db: [\n  web:\n    image: a\nx: y".toList
    let b : Block := ⟨⟨5, "  web:".toList, false⟩, [⟨6, "    image: a".toList, false⟩]⟩
    ((Document.ofText text).blocks .service)[1]? = some b ∧ b.header.inScalar = false ∧
      (Stack.read b.standalone).services.length = 1 ∧
      (Stack.read text').services[0]? = (Stack.read text).services[1]? := by
  intro text text' b
  have hb : ((Document.ofText text).blocks .service)[1]? = some b := by decide
  have hb' : ((Document.ofText text').blocks .service)[0]? =
      some ⟨⟨3, "  web:".toList, false⟩, [⟨4, "    image: a".toList, false⟩]⟩ := by decide
  obtain ⟨⟨alone, service, offset, -, hservice, -⟩, hsame⟩ := service_read_alone hb rfl
  obtain ⟨heq, -⟩ := hsame text' 0 _ hb' rfl rfl
  exact ⟨hb, rfl, by rw [hservice]; rfl, heq⟩

end ComposeLint
