import ComposeLint.Proofs.Number.Integer
import ComposeLint.Proofs.Port.Grammar

/-! # What a port entry stands for

On its face the form of port entries is ambiguous: an address may be a plain number, as the ports
are, and it may be left out. The number of parts settles which part is which, so no text is written
by two entries. Reading therefore answers with the host port of the one entry that a text is written
by, and with nothing for a text that is written by none. -/

namespace ComposeLint

namespace PortEntry

variable {e e' : PortEntry}

/-- No text has two readings. -/
theorem eq_of_written_eq (h : e.WellFormed) (h' : e'.WellFormed) (heq : e.written = e'.written) :
    e = e' := by
  have hread : read? e.written = some e := read?_eq_some_iff.mpr ⟨h, rfl⟩
  have hread' : read? e.written = some e' := read?_eq_some_iff.mpr ⟨h', heq⟩
  exact Option.some.inj (hread.symm.trans hread')

/-- The number of the host port. Its digits may be of any script. -/
def hostNumber (e : PortEntry) : Nat :=
  Nat.ofDigits 10 (e.host.reverse.map fun c => (Text.digitValue? c).getD 0)

/-- The port of the host that an entry takes. Without a protocol it is one of `tcp`. -/
def hostPort (e : PortEntry) : HostPort := ⟨e.hostNumber, e.protocol?.getD .tcp⟩

theorem ofDigits_host (e : PortEntry) : Integer.ofDigits e.host =
    if Integer.maxDigits < e.host.length then .error (.tooLong e.host.length)
    else .ok e.hostNumber := by
  rw [Integer.ofDigits, Text.numberOf_eq_ofDigits, hostNumber]

/-- As an integer literal the host is read whole. -/
theorem read_host (h : e.WellFormed) :
    Integer.read e.host = (Integer.ofDigits e.host).map Int.ofNat := by
  have hdigits := h.host
  simp only [isDigits, Bool.and_eq_true, Bool.not_eq_true', List.isEmpty_eq_false_iff,
    List.all_eq_true] at hdigits
  exact Integer.read_of_all_isDigit hdigits.1 hdigits.2

theorem read_host_eq_ok (h : e.WellFormed) (hlength : e.host.length ≤ Integer.maxDigits) :
    Integer.read e.host = .ok e.hostNumber := by
  rw [read_host h, ofDigits_host, if_neg (Nat.not_lt.mpr hlength)]
  rfl

end PortEntry

namespace HostPort

/-- The outcome of a reading, by the entry that the text is written by. -/
theorem read_eq (t : Text) : read t =
    match PortEntry.read? t.withoutQuotes with
    | none => .ok none
    | some e =>
      if Integer.maxDigits < e.host.length then .error (.tooLong e.host.length)
      else .ok (some e.hostPort) := by
  cases hentry : PortEntry.read? t.withoutQuotes with
  | none => exact read_of_none hentry
  | some e =>
    rw [read_of_some hentry, PortEntry.ofDigits_host]
    dsimp only
    split <;> rfl

theorem read_eq_ok_some_iff {t : Text} {port : HostPort} : read t = .ok (some port) ↔
    ∃ e : PortEntry, e.WellFormed ∧ t.withoutQuotes = e.written ∧
      e.host.length ≤ Integer.maxDigits ∧ port = e.hostPort := by
  simp only [← and_assoc, ← PortEntry.read?_eq_some_iff, read_eq]
  cases PortEntry.read? t.withoutQuotes with
  | none => simp
  | some e =>
    by_cases hlong : Integer.maxDigits < e.host.length
    · simp [hlong]
    · simp [hlong, Nat.not_lt.mp hlong, eq_comm]

theorem isWritable_port {t : Text} {port : HostPort} (h : read t = .ok (some port)) :
    Integer.isWritable port.port = true := by
  obtain ⟨e, -, -, hlength, rfl⟩ := read_eq_ok_some_iff.mp h
  exact Integer.isWritable_of_ofDigits ((e.ofDigits_host).trans (if_neg (Nat.not_lt.mpr hlength)))

theorem read_eq_ok_none_iff {t : Text} : read t = .ok none ↔
    ∀ e : PortEntry, e.WellFormed → t.withoutQuotes ≠ e.written := by
  have hnone : (∀ e : PortEntry, e.WellFormed → t.withoutQuotes ≠ e.written) ↔
      ∀ e, PortEntry.read? t.withoutQuotes ≠ some e := by
    simp only [ne_eq, PortEntry.read?_eq_some_iff, not_and]
  rw [hnone, read_eq]
  cases PortEntry.read? t.withoutQuotes with
  | none => simp
  | some e =>
    by_cases hlong : Integer.maxDigits < e.host.length <;> simp [hlong]

theorem read_eq_error_tooLong_iff {t : Text} {fault : Integer.Fault} : read t = .error fault ↔
    ∃ e : PortEntry, e.WellFormed ∧ t.withoutQuotes = e.written ∧
      Integer.maxDigits < e.host.length ∧ fault = .tooLong e.host.length := by
  simp only [← and_assoc, ← PortEntry.read?_eq_some_iff, read_eq]
  cases PortEntry.read? t.withoutQuotes with
  | none => simp
  | some e =>
    by_cases hlong : Integer.maxDigits < e.host.length <;> simp [hlong, eq_comm]

end HostPort

/-- **What a port entry stands for.** Quotes and the blanks around it put aside, a text is written by
one well-formed entry at most. If there is one, reading gives its host port, that is the number that
the host denotes as an integer literal, with the protocol or `tcp`; only where the host has more
digits than are evaluated does reading fail, for that length. If there is none, reading gives
nothing. -/
theorem port_entries_read_exactly (t : Text) :
    (∀ port, HostPort.read t = .ok (some port) ↔
      ∃ e : PortEntry, e.WellFormed ∧ t.withoutQuotes = e.written ∧
        e.host.length ≤ Integer.maxDigits ∧ port = e.hostPort) ∧
    (HostPort.read t = .ok none ↔
      ∀ e : PortEntry, e.WellFormed → t.withoutQuotes ≠ e.written) ∧
    (∀ fault, HostPort.read t = .error fault ↔
      ∃ e : PortEntry, e.WellFormed ∧ t.withoutQuotes = e.written ∧
        Integer.maxDigits < e.host.length ∧ fault = .tooLong e.host.length) ∧
    (∀ e e' : PortEntry, e.WellFormed → e'.WellFormed → t.withoutQuotes = e.written →
      t.withoutQuotes = e'.written → e = e') ∧
    ∀ e : PortEntry, e.WellFormed → e.host.length ≤ Integer.maxDigits →
      Integer.read e.host = .ok e.hostNumber := by
  refine ⟨fun port => HostPort.read_eq_ok_some_iff, HostPort.read_eq_ok_none_iff,
    fun fault => HostPort.read_eq_error_tooLong_iff, ?_, fun e => PortEntry.read_host_eq_ok⟩
  intro e e' h h' ht ht'
  exact PortEntry.eq_of_written_eq h h' (ht.symm.trans ht')

-- A plain number before two ports is an address.
example : HostPort.read "'10:80:8080/udp'".toList = .ok (some ⟨80, .udp⟩) := by decide

end ComposeLint
