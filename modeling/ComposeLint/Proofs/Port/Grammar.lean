import ComposeLint.Port
import ComposeLint.Proofs.Text.Characters
import ComposeLint.Proofs.Text.Cuts
import ComposeLint.Stack.Reader

/-! # The grammar of port entries

A well-formed entry is written in one way, and the reader accepts what is so written and nothing
else (`PortEntry.read?_eq_some_iff`). The signs that part an entry are no digits, so every cut of
the reader falls where the writer put a sign. -/

namespace ComposeLint

theorem Protocol.ofName?_name (p : Protocol) : ofName? p.name = some p := by cases p <;> decide

namespace PortEntry

/-- An address as it stands in front of the ports: digits and points, or brackets around
hexadecimal figures and colons. -/
def IsAddress (a : Text) : Prop :=
  isAddress a = true ∨ ∃ inner, a = '[' :: (inner ++ [']']) ∧ isBracketAddress inner = true

structure WellFormed (e : PortEntry) : Prop where
  address : ∀ a ∈ e.address?, IsAddress a
  host : isDigits e.host = true
  container : isDigits e.container = true

/-- The address, if there is one, and the two ports, each part after a colon but the first. -/
def joinParts (address? : Option Text) (host container : Text) : Text :=
  match address? with
  | some address => address ++ ':' :: (host ++ ':' :: container)
  | none => host ++ ':' :: container

/-- The protocol after its slash, if there is one. -/
def protocolTail : Option Protocol → Text
  | some p => '/' :: p.name
  | none => []

/-- The entry as text: `[address:]host:container[/protocol]`. -/
def written (e : PortEntry) : Text :=
  joinParts e.address? e.host e.container ++ protocolTail e.protocol?

/-! ## Signs between the parts -/

variable {t host container : Text} {c : Char}

theorem not_mem_of_isDigits (h : isDigits t = true) (hc : Text.isDigit c = false) : c ∉ t := by
  simp only [isDigits, Bool.and_eq_true] at h
  exact Text.not_mem_of_all h.2 hc

theorem not_mem_of_isAddress (h : isAddress t = true) (hc : Text.isDigit c = false)
    (hpoint : c ≠ '.') : c ∉ t := by
  simp only [isAddress, Bool.and_eq_true] at h
  exact Text.not_mem_of_all h.2 (by simp [hc, hpoint])

theorem not_mem_of_isBracketAddress (h : isBracketAddress t = true)
    (hc : Text.isHexFigure c = false) (hcolon : c ≠ ':') : c ∉ t := by
  simp only [isBracketAddress, Bool.and_eq_true] at h
  exact Text.not_mem_of_all h.2 (by simp [hc, hcolon])

theorem slash_not_mem_joinParts {address? : Option Text} (ha : ∀ a ∈ address?, IsAddress a)
    (hh : isDigits host = true) (hk : isDigits container = true) :
    '/' ∉ joinParts address? host container := by
  have hhost := not_mem_of_isDigits hh (c := '/') (by decide)
  have hcontainer := not_mem_of_isDigits hk (c := '/') (by decide)
  cases address? with
  | none => simp [joinParts, hhost, hcontainer]
  | some address =>
    have haddress : '/' ∉ address := by
      rcases ha address rfl with hplain | ⟨inner, rfl, hinner⟩
      · exact not_mem_of_isAddress hplain (by decide) (by decide)
      · simp [not_mem_of_isBracketAddress hinner (c := '/') (by decide) (by decide)]
    simp [joinParts, haddress, hhost, hcontainer]

/-! ## The protocol -/

theorem splitProtocol?_append (h : '/' ∉ t) (protocol? : Option Protocol) :
    splitProtocol? (t ++ protocolTail protocol?) = some (t, protocol?) := by
  cases protocol? with
  | none => rw [protocolTail, List.append_nil, splitProtocol?, Text.cutAt?_eq_none h]
  | some p =>
    rw [protocolTail, splitProtocol?, Text.cutAt?_append h]
    simp [Protocol.ofName?_name]

theorem eq_of_splitProtocol? {parts : Text} {protocol? : Option Protocol}
    (h : splitProtocol? t = some (parts, protocol?)) : t = parts ++ protocolTail protocol? := by
  unfold splitProtocol? at h
  split at h
  · obtain ⟨rfl, rfl⟩ := Prod.mk.inj (Option.some.inj h)
    exact (List.append_nil t).symm
  · next start name hcut =>
    obtain ⟨p, hp, heq⟩ := Option.map_eq_some_iff.mp h
    obtain ⟨rfl, rfl⟩ := Prod.mk.inj heq
    rw [Text.eq_of_cutAt? hcut, protocolTail, Protocol.ofName?_eq_some hp]

/-! ## The parts -/

/-- Without a bracket in front the colons alone tell the parts. -/
theorem splitParts?_of_head (h : t.head? ≠ some '[') : splitParts? t =
    match t.splitOn ':' with
    | [host, container] => some (none, host, container)
    | [address, host, container] =>
      if isAddress address then some (some address, host, container) else none
    | _ => none := by
  unfold splitParts?
  split
  · next rest => exact absurd rfl h
  · rfl

theorem head?_ne_bracket {a rest : Text} (h : isAddress a = true) :
    (a ++ rest).head? ≠ some '[' := by
  have hbracket := not_mem_of_isAddress h (c := '[') (by decide) (by decide)
  cases a with
  | nil => cases h
  | cons d a =>
    rw [List.cons_append, List.head?_cons, ne_eq, Option.some.injEq]
    rintro rfl
    exact hbracket List.mem_cons_self

theorem isAddress_of_isDigits (h : isDigits t = true) : isAddress t = true := by
  simp only [isDigits, isAddress, Bool.and_eq_true, List.all_eq_true] at h ⊢
  exact ⟨h.1, fun c hc => by simp [h.2 c hc]⟩

theorem splitParts?_joinParts {address? : Option Text} (ha : ∀ a ∈ address?, IsAddress a)
    (hh : isDigits host = true) (hk : isDigits container = true) :
    splitParts? (joinParts address? host container) = some (address?, host, container) := by
  have hhost := not_mem_of_isDigits hh (c := ':') (by decide)
  have hcontainer := not_mem_of_isDigits hk (c := ':') (by decide)
  cases address? with
  | none =>
    rw [joinParts, splitParts?_of_head (head?_ne_bracket (isAddress_of_isDigits hh)),
      Text.splitOn_two hhost hcontainer]
  | some address =>
    rcases ha address rfl with hplain | ⟨inner, rfl, hinner⟩
    · have haddress := not_mem_of_isAddress hplain (c := ':') (by decide) (by decide)
      rw [joinParts, splitParts?_of_head (head?_ne_bracket hplain),
        Text.splitOn_three haddress hhost hcontainer]
      exact if_pos hplain
    · have hclose := not_mem_of_isBracketAddress hinner (c := ']') (by decide) (by decide)
      have hafter : (':' :: (host ++ ':' :: container)).splitOn ':' = [[], host, container] :=
        Text.splitOn_three List.not_mem_nil hhost hcontainer
      rw [joinParts, List.cons_append, List.append_assoc, List.singleton_append, splitParts?,
        Text.cutAt?_append hclose]
      rw [Option.bind_eq_bind, Option.bind_some]
      dsimp only
      rw [hafter]
      exact if_pos hinner

theorem eq_of_splitParts? {address? : Option Text}
    (h : splitParts? t = some (address?, host, container)) :
    t = joinParts address? host container ∧ ∀ a ∈ address?, IsAddress a := by
  unfold splitParts? at h
  split at h
  · next rest =>
    obtain ⟨⟨inner, after⟩, hcut, h⟩ := Option.bind_eq_some_iff.mp h
    dsimp only at h
    split at h
    · next host' container' hafter =>
      split at h
      · next hinner =>
        simp only [Option.some.injEq, Prod.mk.injEq] at h
        obtain ⟨rfl, rfl, rfl⟩ := h
        refine ⟨?_, fun a ha => .inr ⟨inner, (Option.some.inj ha).symm, hinner⟩⟩
        rw [Text.eq_of_cutAt? hcut, Text.eq_of_splitOn_three hafter, joinParts]
        simp
      · cases h
    · cases h
  · split at h
    · next host' container' hparts =>
      simp only [Option.some.injEq, Prod.mk.injEq] at h
      obtain ⟨rfl, rfl, rfl⟩ := h
      exact ⟨Text.eq_of_splitOn_two hparts, nofun⟩
    · next address host' container' hparts =>
      split at h
      · next haddress =>
        simp only [Option.some.injEq, Prod.mk.injEq] at h
        obtain ⟨rfl, rfl, rfl⟩ := h
        exact ⟨Text.eq_of_splitOn_three hparts, fun a ha => .inl (Option.some.inj ha ▸ haddress)⟩
      · cases h
    · cases h

/-! ## Entries -/

/-- The reader accepts well-formed entries as they are written and nothing else. -/
theorem read?_eq_some_iff {e : PortEntry} : read? t = some e ↔ e.WellFormed ∧ t = e.written := by
  constructor
  · intro h
    obtain ⟨⟨parts, protocol?⟩, hprotocol, h⟩ := Option.bind_eq_some_iff.mp h
    obtain ⟨⟨address?, host, container⟩, hparts, h⟩ := Option.bind_eq_some_iff.mp h
    dsimp only at h
    split at h
    · next hdigits =>
      obtain rfl := Option.some.inj h
      simp only [Bool.and_eq_true] at hdigits
      obtain ⟨htext, haddress⟩ := eq_of_splitParts? hparts
      refine ⟨⟨haddress, hdigits.1, hdigits.2⟩, ?_⟩
      rw [eq_of_splitProtocol? hprotocol, htext, written]
    · cases h
  · rintro ⟨hwell, rfl⟩
    have hslash := slash_not_mem_joinParts hwell.address hwell.host hwell.container
    have hparts := splitParts?_joinParts hwell.address hwell.host hwell.container
    simp [read?, written, splitProtocol?_append hslash, hparts, hwell.host, hwell.container]

end PortEntry

theorem Integer.ofDigits_eq_error_iff {digits : Text} :
    (∃ fault, Integer.ofDigits digits = .error fault) ↔ Integer.maxDigits < digits.length := by
  unfold Integer.ofDigits
  split <;> simp [*]

namespace HostPort

variable {t : Text} {entry : PortEntry}

theorem read_of_none (h : PortEntry.read? t.withoutQuotes = none) : read t = .ok none := by
  have hentry : PortEntry.read? (Text.trim (t.filter (!Text.isQuote ·))) = none := h
  rw [read, hentry]

theorem read_of_some (h : PortEntry.read? t.withoutQuotes = some entry) :
    read t = (Integer.ofDigits entry.host).map fun port =>
      some ⟨port, entry.protocol?.getD .tcp⟩ := by
  have hentry : PortEntry.read? (Text.trim (t.filter (!Text.isQuote ·))) = some entry := h
  rw [read, hentry]
  rfl

/-- Reading a host port fails on one kind of entry alone: where the port has too many digits. -/
theorem read_eq_error_iff : (∃ fault, read t = .error fault) ↔
    ∃ entry : PortEntry, entry.WellFormed ∧ t.withoutQuotes = entry.written ∧
      Integer.maxDigits < entry.host.length := by
  simp only [← and_assoc, ← PortEntry.read?_eq_some_iff, ← Integer.ofDigits_eq_error_iff]
  cases hentry : PortEntry.read? t.withoutQuotes with
  | none => simp [read_of_none hentry]
  | some entry =>
    rw [read_of_some hentry]
    cases hport : Integer.ofDigits entry.host <;> simp [Except.map, hport]

end HostPort

end ComposeLint
