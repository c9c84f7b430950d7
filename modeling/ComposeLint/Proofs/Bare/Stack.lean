import ComposeLint.Proofs.Bare.Block
import ComposeLint.Stack.Reader

/-! # Stacks without blank lines and comments

Every field of a service or network is read off the entries and the children of a block, and these
are the same without the lines that carry nothing. -/

namespace ComposeLint

namespace Block

variable (b : Block)

@[simp]
theorem scalar?_bare (key : Text) : b.bare.scalar? key = b.scalar? key := by
  simp [scalar?, Option.bind_map, Function.comp_def]

@[simp]
theorem entriesOf_bare (key : Text) : b.bare.entriesOf key = b.entriesOf key := by
  unfold entriesOf
  rw [child?_bare]
  cases b.child? key with
  | none => rfl
  | some child => exact entries_bare child

@[simp]
theorem mappingsOf_bare (key : Text) : b.bare.mappingsOf key = b.mappingsOf key := by
  rw [mappingsOf, entriesOf_bare, mappingsOf]

@[simp]
theorem command?_bare : b.bare.command? = b.command? := by
  unfold command?
  rw [child?_bare]
  cases b.child? "command".toList with
  | none => rfl
  | some child => simp

theorem environment_bare : b.bare.environment = b.environment := by
  unfold environment
  rw [child?_bare]
  cases b.child? "environment".toList with
  | none => rfl
  | some child => simp

theorem attachmentOf_bare : attachmentOf b.bare = attachmentOf b := by simp [attachmentOf]

theorem attachments_bare : b.bare.attachments = b.attachments := by
  unfold attachments
  rw [child?_bare]
  cases b.child? "networks".toList with
  | none => rfl
  | some child => simp [Function.comp_def, attachmentOf_bare]

theorem dependencies_bare : b.bare.dependencies = b.dependencies := by
  unfold dependencies
  rw [child?_bare]
  cases b.child? "depends_on".toList with
  | none => rfl
  | some child => simp

theorem sysctls_bare : b.bare.sysctls = b.sysctls := by
  unfold sysctls
  rw [child?_bare]
  cases b.child? "sysctls".toList with
  | none => rfl
  | some child => simp

end Block

@[simp]
theorem Service.ofBlock_bare (b : Block) : Service.ofBlock b.bare = Service.ofBlock b := by
  simp [Service.ofBlock, Block.environment_bare, Block.attachments_bare, Block.dependencies_bare,
    Block.sysctls_bare]

@[simp]
theorem Network.ofBlock_bare (b : Block) : Network.ofBlock b.bare = Network.ofBlock b := by
  simp [Network.ofBlock, Option.any_map]

/-- A stack is read off the lines that carry something. -/
theorem Stack.ofDocument_bare (doc : Document) : ofDocument doc.bare = ofDocument doc := by
  simp [ofDocument, Document.blocks_bare, Function.comp_def]

theorem Counts.ofDocument_bare (doc : Document) : ofDocument doc.bare = ofDocument doc := by
  have hcount (kind : EntryKind) : ofDocument.count doc.bare kind = ofDocument.count doc kind := by
    rw [ofDocument.count, Document.sectionBody_bare, Document.bare, List.countP_filter,
      ofDocument.count]
    refine List.countP_congr fun l _ => ?_
    rw [Bool.and_eq_true, and_iff_left_iff_imp]
    exact fun h => Line.isContent_of_startsEntry (EntryKind.startsEntry_of_isHeader h)
  simp [ofDocument, hcount]

end ComposeLint
