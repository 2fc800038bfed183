import RouterMenu.Proofs.Client.Traffic
import RouterMenu.Proofs.Record.Faults

/-!
# Found, missing, unclear or failed

No device says in so many words that there is no object with a key: its reply has no row then, which
is read as the record where everything is zero, and a record without a key is taken for none. So an
object that is missing must be told from one that is there, from replies that make no sense and from
calls that failed. What a search results in is `Settled` by what became of its one call. There are
four ways, one of which is taken whatever the reply is (`settled_found`), and no other result is
possible (`run_find_iff`). To get an object, or none if it is missing, is the same with one of the
four changed.
-/

namespace RouterMenu

open Wire (Command Reply)

/-! ## Replies about one object -/

namespace Cells

variable {fields : List Field} {reply : Reply}

theorem isZero_of_mem_zero {entry : Descriptor × Value} (h : entry ∈ (zero fields).entries) :
    entry.2.isZero = true := by
  induction fields with
  | nil => simp [zero, entries] at h
  | cons f fields ih =>
    rw [zero, entries] at h
    split at h
    · rcases List.mem_cons.1 h with rfl | h
      · obtain ⟨name, type, _⟩ := f
        cases type <;> rfl
      · exact ih h
    · exact ih h

/-- **Where everything is zero there is no text**, whatever the field. -/
theorem textOf_zero (fields : List Field) (wire : String) : (zero fields).textOf wire = "" := by
  unfold textOf
  split
  · next d s hfind =>
    exact String.isEmpty_iff.1 (isZero_of_mem_zero (List.mem_of_find?_eq_some hfind))
  · rfl

theorem ofReply_of_nil (h : reply.rows = []) : ofReply reply fields = .ok (zero fields) := by
  simp only [ofReply, h]

theorem ofReply_of_singleton {row : Wire.Sentence} (h : reply.rows = [row]) :
    ofReply reply fields = ofRow row fields := by
  simp only [ofReply, h]

end Cells

theorem Dialogue.run_map {α β σ : Type} (f : α → β) (d : Dialogue α) (call : Gateway σ) (s : σ) :
    (d.map f).run call s = (f (d.run call s).1, (d.run call s).2) := by
  induction d generalizing s with
  | done result => rfl
  | send command next ih => exact ih _ _

/-- A call is reported as unclear only if it failed to decode something. -/
theorem ClientError.ofGateway_eq_decode_iff {e : GatewayError} {message : String} :
    ofGateway e = .decode message ↔ ∃ source, e = .decode source ∧ message = source.message := by
  cases e <;> simp [ofGateway, ofDecode, eq_comm]

namespace Menu

variable {m : Menu} {key : String} {reply : Reply} {r : Record m} {σ : Type} {call : Gateway σ}
  {s : σ}

/-! ## What a reply says -/

/-- The reply has one row, which describes an object. -/
def Present (m : Menu) (reply : Reply) (r : Record m) : Prop :=
  ∃ row, reply.rows = [row] ∧ Cells.ofRow row m.fields = .ok r ∧ m.keyOf r ≠ ""

/-- The reply has no row, or one that describes a record without a key. -/
def Absent (m : Menu) (reply : Reply) : Prop :=
  reply.rows = [] ∨ ∃ row r, reply.rows = [row] ∧ Cells.ofRow row m.fields = .ok r ∧ m.keyOf r = ""

/-- The reply has several rows, or one that cannot be read. -/
def Unclear (m : Menu) (reply : Reply) (e : DecodeError) : Prop :=
  1 < reply.rows.length ∧ e = .ambiguous reply.rows.length
    ∨ ∃ row, reply.rows = [row] ∧ Cells.ofRow row m.fields = .error e

/-- What a search for a key results in, for everything that can become of its call. -/
inductive Settled (m : Menu) (key : String) :
    Except GatewayError Reply → Outcome (Record m) → Prop where
  | present {reply : Reply} {r : Record m} (h : m.Present reply r) :
      Settled m key (.ok reply) (.ok r)
  | absent {reply : Reply} (h : m.Absent reply) :
      Settled m key (.ok reply) (.error (.notFound m.kind key))
  | unclear {reply : Reply} {e : DecodeError} (h : m.Unclear reply e) :
      Settled m key (.ok reply) (.error (.ofDecode e))
  | failed (e : GatewayError) : Settled m key (.error e) (.error (.ofGateway e))

/-- A record that was read is an object if it has a key. -/
theorem found_of_read (key : String) (read : Cells.ofReply reply m.fields = .ok r) :
    m.found key reply = if m.keyOf r = "" then .error (.notFound m.kind key) else .ok r := by
  simp only [found, read, String.isEmpty_iff]

theorem found_of_error (key : String) {e : DecodeError}
    (read : Cells.ofReply reply m.fields = .error e) :
    m.found key reply = .error (.ofDecode e) := by
  simp only [found, read]

/-- **Every reply settles a search.** -/
theorem settled_found (key : String) (reply : Reply) :
    m.Settled key (.ok reply) (m.found key reply) := by
  match hrows : reply.rows with
  | [] =>
    -- nothing was found, which reads as a record without a key
    have hkey : m.keyOf (Cells.zero m.fields) = "" := Cells.textOf_zero _ _
    rw [found_of_read key (Cells.ofReply_of_nil hrows), if_pos hkey]
    exact .absent (.inl hrows)
  | [row] =>
    have hreply : Cells.ofReply reply m.fields = Cells.ofRow row m.fields :=
      Cells.ofReply_of_singleton hrows
    cases hrow : Cells.ofRow row m.fields with
    | error e =>
      rw [found_of_error key (hreply.trans hrow)]
      exact .unclear (.inr ⟨row, hrows, hrow⟩)
    | ok r =>
      rw [found_of_read key (hreply.trans hrow)]
      by_cases hkey : m.keyOf r = ""
      · rw [if_pos hkey]
        exact .absent (.inr ⟨row, r, hrows, hrow, hkey⟩)
      · rw [if_neg hkey]
        exact .present ⟨row, hrows, hrow, hkey⟩
  | first :: second :: rest =>
    have hlength : 1 < reply.rows.length := by simp [hrows]
    rw [found_of_error key (Cells.ofReply_eq_ambiguous_iff.2 ⟨rfl, hlength⟩)]
    exact .unclear (.inl ⟨hlength, rfl⟩)

/-- A reply settles a search in one way only. -/
theorem Settled.eq_found {outcome : Outcome (Record m)} (h : m.Settled key (.ok reply) outcome) :
    m.found key reply = outcome := by
  cases h with
  | present h =>
    obtain ⟨row, hrows, hrow, hkey⟩ := h
    rw [found_of_read key ((Cells.ofReply_of_singleton hrows).trans hrow), if_neg hkey]
  | absent h =>
    rcases h with hrows | ⟨row, r, hrows, hrow, hkey⟩
    · rw [found_of_read key (Cells.ofReply_of_nil hrows), if_pos]
      exact Cells.textOf_zero _ _
    · rw [found_of_read key ((Cells.ofReply_of_singleton hrows).trans hrow), if_pos hkey]
  | unclear h =>
    rcases h with ⟨hlength, rfl⟩ | ⟨row, hrows, hrow⟩
    · exact found_of_error key (Cells.ofReply_eq_ambiguous_iff.2 ⟨rfl, hlength⟩)
    · exact found_of_error key ((Cells.ofReply_of_singleton hrows).trans hrow)

/-! ## What a search results in -/

theorem run_find_of_ok (answered : (call (m.printWhere key) s).1 = .ok reply) :
    ((m.find key).run call s).1 = m.found key reply := by
  have hcall : call ((Command.mk (m.verb "print") []).query m.key key) s
      = (.ok reply, (call (m.printWhere key) s).2) := Prod.ext answered rfl
  simp only [find, Dialogue.run, hcall]

theorem run_find_of_error {e : GatewayError} (failed : (call (m.printWhere key) s).1 = .error e) :
    ((m.find key).run call s).1 = .error (.ofGateway e) := by
  have hcall : call ((Command.mk (m.verb "print") []).query m.key key) s
      = (.error e, (call (m.printWhere key) s).2) := Prod.ext failed rfl
  simp only [find, Dialogue.run, hcall]

/-- **A search results in what its one call settles**, and in nothing else. -/
theorem run_find_iff {outcome : Outcome (Record m)} :
    ((m.find key).run call s).1 = outcome
      ↔ m.Settled key (call (m.printWhere key) s).1 outcome := by
  cases hanswer : (call (m.printWhere key) s).1 with
  | error e =>
    rw [run_find_of_error hanswer]
    constructor
    · rintro rfl
      exact .failed e
    · rintro ⟨⟩
      rfl
  | ok reply =>
    rw [run_find_of_ok hanswer]
    constructor
    · rintro rfl
      exact settled_found key reply
    · exact fun h => h.eq_found

theorem run_get : ((m.get key).run call s).1 = absentAsNone ((m.find key).run call s).1 := by
  rw [get, Dialogue.run_map]

theorem absentAsNone_eq_none_iff {outcome : Outcome (Record m)} :
    absentAsNone outcome = .ok none ↔ ∃ e, outcome = .error e ∧ e.isNotFound = true := by
  cases outcome with
  | ok r => simp [absentAsNone]
  | error e => cases he : e.isNotFound <;> simp [absentAsNone, he]

theorem absentAsNone_eq_some_iff {outcome : Outcome (Record m)} :
    absentAsNone outcome = .ok (some r) ↔ outcome = .ok r := by
  cases outcome with
  | ok r => simp [absentAsNone]
  | error e => cases he : e.isNotFound <;> simp [absentAsNone, he]

theorem absentAsNone_eq_error_iff {outcome : Outcome (Record m)} {e : ClientError} :
    absentAsNone outcome = .error e ↔ outcome = .error e ∧ e.isNotFound = false := by
  cases outcome with
  | ok r => simp [absentAsNone]
  | error e' =>
    cases he : e'.isNotFound with
    | true =>
      simp only [absentAsNone, he, if_true, Except.error.injEq, reduceCtorEq, false_iff, not_and]
      rintro rfl
      simp [he]
    | false =>
      simp only [absentAsNone, he, Bool.false_eq_true, if_false, Except.error.injEq,
        iff_self_and]
      rintro rfl
      exact he

/-! ## How a search can end -/

section

variable {answer : Except GatewayError Reply}

theorem settled_ok_iff :
    m.Settled key answer (.ok r) ↔ ∃ reply, answer = .ok reply ∧ m.Present reply r := by
  constructor
  · rintro ⟨h⟩
    exact ⟨_, rfl, h⟩
  · rintro ⟨reply, rfl, h⟩
    exact .present h

/-- Only a reply says that an object is missing. -/
theorem settled_notFound_iff {kind k : String} :
    m.Settled key answer (.error (.notFound kind k))
      ↔ kind = m.kind ∧ k = key ∧ ∃ reply, answer = .ok reply ∧ m.Absent reply := by
  constructor
  · intro h
    generalize he : ClientError.notFound kind k = e at h
    cases h with
    | absent h =>
      cases he
      exact ⟨rfl, rfl, _, rfl, h⟩
    | unclear h => cases he
    | failed e =>
      -- no error of the gateway is translated to one of absence
      have hnot := ClientError.isNotFound_ofGateway e
      rw [← he] at hnot
      cases hnot
  · rintro ⟨rfl, rfl, reply, rfl, h⟩
    exact .absent h

theorem settled_decode_iff {message : String} :
    m.Settled key answer (.error (.decode message))
      ↔ (∃ reply e, answer = .ok reply ∧ m.Unclear reply e ∧ message = e.message)
        ∨ ∃ e, answer = .error (.decode e) ∧ message = e.message := by
  constructor
  · intro h
    generalize he : ClientError.decode message = e at h
    cases h with
    | absent h => cases he
    | unclear h =>
      cases he
      exact .inl ⟨_, _, rfl, h, rfl⟩
    | failed e =>
      -- the one error of the gateway that is translated to a decoding error
      obtain ⟨source, rfl, hmessage⟩ := ClientError.ofGateway_eq_decode_iff.1 he.symm
      exact .inr ⟨source, rfl, hmessage⟩
  · rintro (⟨reply, e, rfl, h, rfl⟩ | ⟨e, rfl, rfl⟩)
    · exact .unclear h
    · exact .failed (.decode e)

end

/-- How a search for a key can end, and what follows for an object that may be missing. -/
structure Lookup (m : Menu) (key : String) (answer : Except GatewayError Reply)
    (found : Outcome (Record m)) (got : Outcome (Option (Record m))) : Prop where
  /-- An object is found exactly if there is one row, which describes an object with a key. -/
  present (r : Record m) : found = .ok r ↔ ∃ reply, answer = .ok reply ∧ m.Present reply r
  /-- It is reported missing, by its kind and the key that was searched for, exactly if there is no
  row, or one that describes a record without a key. -/
  absent (kind k : String) :
    found = .error (.notFound kind k)
      ↔ kind = m.kind ∧ k = key ∧ ∃ reply, answer = .ok reply ∧ m.Absent reply
  /-- A reply cannot be decoded exactly if it has several rows or one that cannot be read. A call
  that failed for such a reason itself is reported in the same class. -/
  unclear (message : String) :
    found = .error (.decode message)
      ↔ (∃ reply e, answer = .ok reply ∧ m.Unclear reply e ∧ message = e.message)
        ∨ ∃ e, answer = .error (.decode e) ∧ message = e.message
  /-- A failed call is reported as what it is. -/
  failed (e : GatewayError) : answer = .error e → found = .error (.ofGateway e)
  /-- There are no other failures: what a reply leads to is one of the above. -/
  otherwise (reply : Reply) :
    answer = .ok reply → (∃ r, found = .ok r) ∨ found = .error (.notFound m.kind key)
      ∨ ∃ message, found = .error (.decode message)
  /-- No object is got exactly where one would be reported missing. -/
  got_none : got = .ok none ↔ ∃ reply, answer = .ok reply ∧ m.Absent reply
  /-- An object is got exactly where it is found. -/
  got_some (r : Record m) : got = .ok (some r) ↔ found = .ok r
  /-- All other failures are the same, and none of them says that an object is missing. -/
  got_error (e : ClientError) : got = .error e ↔ found = .error e ∧ e.isNotFound = false

/-- **Whatever the menu and the key are, and whatever becomes of the call,** an object is found,
missing, unclear or out of reach, and it can be told which. -/
theorem lookup_of_answer (m : Menu) (key : String) (call : Gateway σ) (s : σ) :
    m.Lookup key (call (m.printWhere key) s).1 ((m.find key).run call s).1
      ((m.get key).run call s).1 where
  present r := run_find_iff.trans settled_ok_iff
  absent kind k := run_find_iff.trans settled_notFound_iff
  unclear message := run_find_iff.trans settled_decode_iff
  failed e := run_find_of_error
  otherwise reply answered := by
    rw [run_find_of_ok answered]
    generalize hfound : m.found key reply = outcome
    cases hfound ▸ settled_found key reply with
    | present h => exact .inl ⟨_, rfl⟩
    | absent h => exact .inr (.inl rfl)
    | unclear h => exact .inr (.inr ⟨_, rfl⟩)
  got_none := by
    rw [run_get, absentAsNone_eq_none_iff]
    constructor
    · rintro ⟨e, hfind, hmissing⟩
      -- of all errors only absence is taken for nothing found
      cases e with
      | notFound kind k =>
        obtain ⟨-, -, hreply⟩ := settled_notFound_iff.1 (run_find_iff.1 hfind)
        exact hreply
      | _ => cases hmissing
    · intro hreply
      exact ⟨_, run_find_iff.2 (settled_notFound_iff.2 ⟨rfl, rfl, hreply⟩), rfl⟩
  got_some r := by rw [run_get, absentAsNone_eq_some_iff]
  got_error e := by rw [run_get, absentAsNone_eq_error_iff]

end Menu

end RouterMenu
