import RouterMenu.Proofs.Gateway.Turns

/-!
# The past of a connection

What has passed over the connection in the slot is the past of a dialogue that was always read to
the end: first the login, by which the user was let in, and then one command after another, each
with the sentences that answer it. `Ledger` ties this past to the bytes among the deeds. Nothing is
missing from it and nothing is in it twice; the only bytes outside of it are those that arrived
behind the last answer and wait in the buffer.

`Books` says what is left of this when a connection has been lost: its bytes are still those of the
login and of commands called in this order, cut off somewhere, and nothing but the login was
written before the user had been let in. `kept_run` has both for every run.
-/

namespace RouterMenu

open Wire

/-- The reading of a stream whose start is known. -/
theorem Wire.Framing.drain_sentences_append (bytes more : List UInt8) :
    (Framing.drain bytes).sentences <+: (Framing.drain (bytes ++ more)).sentences := by
  fun_induction Framing.drain bytes with
  | case1 bytes e hd => exact List.nil_prefix ..
  | case2 bytes hd => exact List.nil_prefix ..
  | case3 bytes words rest hd later ih =>
    rw [Framing.drain_of_some (Framing.decode_append hd more)]
    exact List.cons_prefix_cons.2 ⟨rfl, ih⟩

/-! ## Commands answered in full -/

/-- A command and its answer, read to the end. -/
structure Exchanged where
  command : Command
  /-- The sentences before the last one. -/
  body : List (List String)
  last : List String
  answer : Answer
  result : Except GatewayError Reply
  fits : command.Fits
  gathered : ({} : Answer).gather body = some answer
  closed : answer.absorb last = .done result
  answered : Session.isAnswered result = true

namespace Exchanged

/-- All sentences of the answer. -/
def sentences (e : Exchanged) : List (List String) := e.body ++ [e.last]

/-- The answer to a login that lets the user in. -/
def Admits (e : Exchanged) : Prop := ∃ reply, e.result = .ok reply ∧ reply.ret? = none

theorem not_transport (e : Exchanged) :
    ∀ fault, e.result = .error fault → fault.isTransport = false := by
  intro fault h
  have := e.answered
  rw [h] at this
  simpa [Session.isAnswered] using this

end Exchanged

/-- The bytes begin with an answer to a login that lets the user in: it ends well, without a trap
before its end and without a challenge in it. -/
def LetIn (bytes : List UInt8) : Prop :=
  ∃ body last later, (Framing.drain bytes).sentences = body ++ last :: later
    ∧ (∀ words ∈ body, words.head? ∈ [none, some "!re", some "!empty"])
    ∧ last.head? = some "!done" ∧ (Sentence.ofWords last.tail).get? "ret" = none

theorem letIn_append {bytes : List UInt8} (h : LetIn bytes) (more : List UInt8) :
    LetIn (bytes ++ more) := by
  obtain ⟨body, last, later, h1, h2, h3, h4⟩ := h
  obtain ⟨rest, hrest⟩ := Framing.drain_sentences_append bytes more
  refine ⟨body, last, later ++ rest, ?_, h2, h3, h4⟩
  rw [← hrest, h1, List.append_assoc]
  rfl

/-- The sentences of an answer that lets the user in say so. -/
theorem letIn_of_admits {e : Exchanged} (h : e.Admits) {bytes : List UInt8}
    {others : List (List String)} (hs : Framing.Spells bytes (e.sentences ++ others)) :
    LetIn bytes := by
  obtain ⟨reply, hr, hret⟩ := h
  obtain ⟨attributes, hlast, hfin⟩ := Answer.absorb_done_of_not_transport e.closed e.not_transport
  obtain ⟨hcont, hrows, htrap⟩ := Answer.gather_eq_some e.gathered
  rw [hr] at hfin
  -- no trap was remembered, and the last sentence is what came with the end
  have hfinish : e.answer.trap? = none ∧ reply.done = Sentence.ofWords attributes := by
    unfold Answer.finish at hfin
    cases ht : e.answer.trap? with
    | some trap => simp [ht] at hfin
    | none =>
      simp only [ht, Except.ok.injEq] at hfin
      exact ⟨rfl, by rw [hfin]⟩
  obtain ⟨hnone, hdone⟩ := hfinish
  rw [hnone] at htrap
  refine ⟨e.body, e.last, others, ?_, ?_, ?_, ?_⟩
  · unfold Framing.Spells at hs
    rw [hs]
    simp [Exchanged.sentences]
  · intro words hw
    have hc := hcont words hw
    have hno : Answer.reported? words = none := by
      have hall : e.body.findSome? Answer.reported? = none := by simpa using htrap.symm
      exact List.findSome?_eq_none_iff.1 hall words hw
    cases words with
    | nil => simp
    | cons kind rest =>
      simp only [Answer.Continues, List.head?_cons, List.mem_cons, Option.some.injEq,
        List.not_mem_nil, or_false, reduceCtorEq, false_or] at hc ⊢
      rcases hc with hc | hc | hc
      · exact .inl hc
      · rw [hc] at hno
        simp [Answer.reported?] at hno
      · exact .inr hc
  · rw [hlast]
    rfl
  · rw [hlast, List.tail_cons, ← hdone]
    exact hret

/-! ## The ledger of a connection -/

/-- All that was written on a connection and read from it, apart from what waits in its buffer. -/
structure Ledger (deeds : List Deed) (live : Live) (past : List Exchanged) : Prop where
  out : Deed.written live.id deeds = past.flatMap fun e => e.command.frame
  taken : ∃ bytes, Deed.heard live.id deeds = bytes ++ live.connection.inbox.buffer
    ∧ Framing.Spells bytes (past.flatMap Exchanged.sentences)

namespace Ledger

variable {deeds : List Deed} {live : Live} {past : List Exchanged}

/-- A connection of which nothing is known yet. -/
theorem nil {id : Nat} (h1 : Deed.written id deeds = []) (h2 : Deed.heard id deeds = []) :
    Ledger deeds ⟨id, {}⟩ [] :=
  ⟨h1, [], h2, Framing.spells_nil⟩

theorem quiet (h : Ledger deeds live past) {later : List Deed}
    (hq : ∀ e ∈ later, e.connection? ≠ some live.id) : Ledger (later ++ deeds) live past := by
  obtain ⟨h1, h2⟩ := Deed.quiet_append hq deeds
  exact ⟨h1 ▸ h.out, h2 ▸ h.taken⟩

/-- **An exchange that was answered** is entered into the ledger. -/
theorem enter (h : Ledger deeds live past) {talk : List Deed} {command : Command}
    {c : Connection} {result : Except GatewayError Reply}
    (reached : Exchange.Reached live.connection command (Deed.written live.id talk)
      (Deed.heard live.id talk) c (.done result)) (answered : Session.isAnswered result = true) :
    ∃ e : Exchanged, e.command = command ∧ e.result = result
      ∧ Ledger (talk ++ deeds) ⟨live.id, c⟩ (past ++ [e]) := by
  -- an exchange that was broken off has no answer to enter
  cases reached with
  | broken fault out unfit => simp [Session.isAnswered, fault] at answered
  | @ended a bytes sentences last _ fits out empty taken spelled gathered closed =>
    refine ⟨⟨command, sentences, last, a, result, fits, gathered, closed, answered⟩,
      rfl, rfl, ?_, ?_⟩
    · rw [Deed.written_append, h.out, out, List.flatMap_append]
      simp
    · obtain ⟨before, h1, h2⟩ := h.taken
      -- what was taken in before, and now the bytes of this answer
      refine ⟨before ++ bytes, ?_, ?_⟩
      · rw [Deed.heard_append, h1, List.append_assoc, taken, List.append_assoc]
      · rw [List.flatMap_append]
        refine Framing.spells_append h2 ?_
        simpa [Exchanged.sentences] using spelled

end Ledger

/-- A connection that is held by a session or by a call: the user was let in on it, and commands
that were called in this order have been answered since. -/
structure Admitted (d : Device) (calls : List Command) (deeds : List Deed) (live : Live)
    (login : Exchanged) (past : List Exchanged) : Prop where
  ledger : Ledger deeds live (login :: past)
  asked : login.command = Login.command d.credentials
  admits : login.Admits
  called : (past.map Exchanged.command).Sublist calls

theorem Admitted.letIn {d : Device} {calls : List Command} {deeds : List Deed} {live : Live}
    {login : Exchanged} {past : List Exchanged} (h : Admitted d calls deeds live login past) :
    LetIn (Deed.heard live.id deeds) := by
  obtain ⟨bytes, h1, h2⟩ := h.ledger.taken
  rw [h1]
  exact letIn_append (letIn_of_admits h.admits h2) _

/-- The frames of the login and of the commands exchanged since. -/
theorem Admitted.written {d : Device} {calls : List Command} {deeds : List Deed} {live : Live}
    {login : Exchanged} {past : List Exchanged} (h : Admitted d calls deeds live login past) :
    Deed.written live.id deeds = (Login.command d.credentials ::
      past.map Exchanged.command).flatMap Command.frame := by
  rw [h.ledger.out, List.flatMap_cons, List.flatMap_cons, h.asked, List.flatMap_map]

/-! ## The books of a session -/

/-- What is written behind the login is written after the user was let in. -/
def Guarded (d : Device) (deeds : List Deed) : Prop :=
  ∀ later id bytes earlier, deeds = later ++ .wrote id bytes :: earlier →
    (Login.command d.credentials).frame.length
      < (Deed.written id (.wrote id bytes :: earlier)).length →
    LetIn (Deed.heard id earlier)

theorem guarded_cons {d : Device} {deeds : List Deed} {e : Deed} (h : Guarded d deeds)
    (he : ∀ id bytes, e = .wrote id bytes →
      (Login.command d.credentials).frame.length < (Deed.written id (e :: deeds)).length →
      LetIn (Deed.heard id deeds)) : Guarded d (e :: deeds) := by
  intro later id bytes earlier heq hlen
  cases later with
  | nil =>
    injection heq with h1 h2
    subst h1
    subst h2
    exact he id bytes rfl hlen
  | cons x later =>
    injection heq with h1 h2
    exact h later id bytes earlier h2 hlen

/-- Talk over a connection is in order if it stays within the login, or comes after it. -/
theorem guarded_talk {d : Device} {deeds talk : List Deed} {id : Nat} (h : Guarded d deeds)
    (along : Deed.Over id talk)
    (hg : (Deed.written id (talk ++ deeds)).length ≤ (Login.command d.credentials).frame.length
      ∨ LetIn (Deed.heard id deeds)) : Guarded d (talk ++ deeds) := by
  -- deed by deed, the latest first: only a deed that writes can be out of turn
  induction talk with
  | nil => exact h
  | cons e talk ih =>
    have hover : Deed.Over id talk := fun e' he' => along e' (List.mem_cons_of_mem _ he')
    have hg' : (Deed.written id (talk ++ deeds)).length
        ≤ (Login.command d.credentials).frame.length ∨ LetIn (Deed.heard id deeds) := by
      refine hg.imp_left (fun hle => Nat.le_trans ?_ hle)
      rw [List.cons_append, Deed.written_cons, List.length_append]
      omega
    rw [List.cons_append] at hg ⊢
    refine guarded_cons (ih hover hg') ?_
    intro k bytes hk hlen
    have hid : k = id := by
      have := along.connection (List.mem_cons_self ..)
      rw [hk] at this
      injection this
    subst hid
    rcases hg with hle | hin
    · omega
    · rw [Deed.heard_append]
      exact letIn_append hin _

/-- What holds of the traffic over all connections, of which as many were dialed as `dials` says,
after these commands were called. -/
structure Books (d : Device) (calls : List Command) (dials : Nat) (deeds : List Deed) : Prop where
  /-- There was no traffic over a connection that was not dialed. -/
  fresh : ∀ id, dials ≤ id → Deed.written id deeds = [] ∧ Deed.heard id deeds = []
  /-- On each connection the login comes first, and then commands in the order in which they were
  called; of the last of these frames a part may be missing. Nothing is written of what does not fit
  into a frame. -/
  order : ∀ id, ∃ commands : List Command, commands.Sublist calls
    ∧ Deed.written id deeds
      <+: (Login.command d.credentials :: commands).flatMap Command.frame
    ∧ (∀ c ∈ commands, c.Fits)
    ∧ ((Login.command d.credentials).Fits ∨ Deed.written id deeds = [])
  guarded : Guarded d deeds

namespace Books

variable {d : Device} {calls : List Command} {dials : Nat} {deeds : List Deed}

theorem nil (d : Device) : Books d [] 0 [] where
  fresh := fun _ _ => ⟨rfl, rfl⟩
  order := fun _ => ⟨[], List.Sublist.refl _, List.nil_prefix .., by simp, .inr rfl⟩
  guarded := by
    intro later id bytes earlier h
    simp at h

/-- More may have been called, and more dialed. -/
theorem mono (h : Books d calls dials deeds) {calls' : List Command} {dials' : Nat}
    (hc : calls.Sublist calls') (hd : dials ≤ dials') : Books d calls' dials' deeds where
  fresh := fun id hid => h.fresh id (Nat.le_trans hd hid)
  order := by
    intro id
    obtain ⟨commands, h1, h2⟩ := h.order id
    exact ⟨commands, h1.trans hc, h2⟩
  guarded := h.guarded

theorem quiet_cons {e : Deed} (h : Books d calls dials deeds) (he : e.connection? = none) :
    Books d calls dials (e :: deeds) := by
  -- a deed of no connection stands in the account of none
  have hq : ∀ id, Deed.written id (e :: deeds) = Deed.written id deeds
      ∧ Deed.heard id (e :: deeds) = Deed.heard id deeds := by
    intro id
    have hone : ∀ e' ∈ [e], e'.connection? ≠ some id := by
      intro e' he'
      rw [List.mem_singleton.1 he', he]
      simp
    exact Deed.quiet_append hone deeds
  refine ⟨?_, ?_, ?_⟩
  · intro id hid
    rw [(hq id).1, (hq id).2]
    exact h.fresh id hid
  · intro id
    rw [(hq id).1]
    exact h.order id
  · refine guarded_cons h.guarded ?_
    intro id bytes hw
    rw [hw] at he
    simp [Deed.connection?] at he

/-- Talk over one connection changes the books of this connection only. -/
theorem talk (h : Books d calls dials deeds) {id : Nat} {talk : List Deed} (hid : id < dials)
    (along : Deed.Over id talk)
    (order : ∃ commands : List Command, commands.Sublist calls
      ∧ Deed.written id (talk ++ deeds)
        <+: (Login.command d.credentials :: commands).flatMap Command.frame
      ∧ (∀ c ∈ commands, c.Fits)
      ∧ ((Login.command d.credentials).Fits ∨ Deed.written id (talk ++ deeds) = []))
    (hg : (Deed.written id (talk ++ deeds)).length ≤ (Login.command d.credentials).frame.length
      ∨ LetIn (Deed.heard id deeds)) : Books d calls dials (talk ++ deeds) := by
  -- the accounts of all other connections stay as they are
  have hq : ∀ k, k ≠ id → Deed.written k (talk ++ deeds) = Deed.written k deeds
      ∧ Deed.heard k (talk ++ deeds) = Deed.heard k deeds := by
    intro k hk
    refine Deed.quiet_append ?_ deeds
    intro e he
    rw [along.connection he]
    intro hc
    injection hc with hc
    exact hk hc.symm
  refine ⟨?_, ?_, guarded_talk h.guarded along hg⟩
  · intro k hk
    have hne : k ≠ id := by omega
    rw [(hq k hne).1, (hq k hne).2]
    exact h.fresh k hk
  · intro k
    by_cases hk : k = id
    · rw [hk]
      exact order
    · rw [(hq k hk).1]
      exact h.order k

/-- The login on a connection that has just been dialed. -/
theorem login (h : Books d calls dials deeds) {talk : List Deed} (along : Deed.Over dials talk)
    {c : Connection} {x : Exchange}
    (reached : Exchange.Reached {} (Login.command d.credentials) (Deed.written dials talk)
      (Deed.heard dials talk) c x) : Books d calls (dials + 1) (talk ++ deeds) := by
  obtain ⟨h1, h2⟩ := reached.sent_le
  obtain ⟨hw, -⟩ := h.fresh dials (Nat.le_refl _)
  -- nothing was written on a new connection, so all of it is this exchange
  have hall : Deed.written dials (talk ++ deeds) = Deed.written dials talk := by
    rw [Deed.written_append, hw, List.nil_append]
  refine (h.mono (List.Sublist.refl _) (Nat.le_succ _)).talk (Nat.lt_succ_self _) along ?_ ?_
  · refine ⟨[], List.nil_sublist _, ?_, by simp, ?_⟩
    · rw [hall]
      simpa using h1
    · rw [hall]
      exact h2
  · rw [hall]
    exact .inl h1.length_le

/-- The exchange of a command after others. -/
theorem command (h : Books d calls dials deeds) {live : Live} {login : Exchanged}
    {past : List Exchanged} (ha : Admitted d calls deeds live login past) (hid : live.id < dials)
    {talk : List Deed} (along : Deed.Over live.id talk) {command : Command} {c : Connection}
    {x : Exchange}
    (reached : Exchange.Reached live.connection command (Deed.written live.id talk)
      (Deed.heard live.id talk) c x) : Books d (calls ++ [command]) dials (talk ++ deeds) := by
  have hm := h.mono (List.sublist_append_left calls [command]) (Nat.le_refl dials)
  refine hm.talk hid along ?_ (.inr ha.letIn)
  obtain ⟨hsent, hfits⟩ := reached.sent_le
  have hpast : ∀ c ∈ past.map Exchanged.command, c.Fits := by
    intro c hc
    obtain ⟨e, -, rfl⟩ := List.mem_map.1 hc
    exact e.fits
  have hlogin : (Login.command d.credentials).Fits := ha.asked ▸ login.fits
  -- a command that does not fit has written nothing, so it is not among those written
  rcases hfits with hfits | hnone
  · refine ⟨past.map Exchanged.command ++ [command], ha.called.append_right _, ?_, ?_, .inl hlogin⟩
    · rw [Deed.written_append, ha.written, ← List.cons_append, List.flatMap_append]
      simpa using hsent
    · exact List.forall_mem_append.2 ⟨hpast, List.forall_mem_singleton.2 hfits⟩
  · refine ⟨past.map Exchanged.command, ha.called.trans (List.sublist_append_left ..), ?_, hpast,
      .inl hlogin⟩
    have hsame : Deed.written live.id (talk ++ deeds) = (Login.command d.credentials ::
        past.map Exchanged.command).flatMap Command.frame := by
      rw [Deed.written_append, ha.written, hnone, List.append_nil]
    exact hsame ▸ List.prefix_rfl

end Books

/-! ## Between turns -/

namespace Session

variable {d : Device} {calls : List Command} {s b s' : Session} {live : Live} {command : Command}

/-- What holds of a session after these commands were called. -/
structure Kept (d : Device) (calls : List Command) (s : Session) : Prop where
  books : Books d calls s.dials s.deeds
  held : ∀ live, s.slot? = some live → live.id < s.dials
    ∧ ∃ login past, Admitted d calls s.deeds live login past

/-- The books of a session that dials. -/
theorem Kept.dialed (h : Kept d calls s) : Books d calls s.dialed.dials s.dialed.deeds :=
  ((h.books.quiet_cons rfl).quiet_cons rfl).mono (List.Sublist.refl _) (Nat.le_succ _)

/-- The books of a session that dials and logs in. -/
theorem Kept.login (h : Kept d calls s) {talk : List Deed} (along : Deed.Over s.dials talk)
    {c : Connection} {x : Exchange}
    (reached : Exchange.Reached {} (Login.command d.credentials) (Deed.written s.dials talk)
      (Deed.heard s.dials talk) c x) :
    Books d calls (s.dialed.noteAll talk).dials (s.dialed.noteAll talk).deeds := by
  have hb : Books d calls s.dials (.dialed s.dials :: .published .connecting :: s.deeds) :=
    (h.books.quiet_cons rfl).quiet_cons rfl
  exact hb.login along reached

/-- A connection that is ready is one on which the user was let in; nothing but that has passed
over one that was opened for the call. -/
theorem Kept.ready (h : Kept d calls s) (ready : Ready d s b live) :
    Books d calls b.dials b.deeds ∧ live.id < b.dials
      ∧ ∃ login past, Admitted d calls b.deeds live login past ∧ (s.slot? = none → past = []) := by
  cases ready with
  | kept held =>
    obtain ⟨hid, login, past, ha⟩ := h.held live held
    refine ⟨h.books, hid, login, past, ha, fun hnone => ?_⟩
    rw [held] at hnone
    simp at hnone
  | @opened talk c reply vacant along reached accepted =>
    refine ⟨(h.login along reached).quiet_cons rfl, Nat.lt_succ_self _, ?_⟩
    obtain ⟨h1, h2⟩ := h.books.fresh s.dials (Nat.le_refl _)
    have hq : ∀ e ∈ [Deed.dialed s.dials, .published .connecting],
        e.connection? ≠ some s.dials := by
      intro e he
      simp only [List.mem_cons, List.not_mem_nil, or_false] at he
      rcases he with rfl | rfl <;> simp [Deed.connection?]
    -- the accounts of a connection just dialed begin empty, and the login is entered first
    have hempty : Ledger (.dialed s.dials :: .published .connecting :: s.deeds) ⟨s.dials, {}⟩ [] :=
      (Ledger.nil h1 h2).quiet hq
    obtain ⟨e, he, hr, hl⟩ := hempty.enter reached rfl
    have hpub : ∀ e ∈ [Deed.published .connected], e.connection? ≠ some s.dials := by
      intro e he
      rw [List.mem_singleton.1 he]
      simp [Deed.connection?]
    exact ⟨e, [], ⟨hl.quiet hpub, he, ⟨reply, hr, accepted⟩, List.nil_sublist _⟩, fun _ => rfl⟩

/-- **A call that was answered** leaves a connection whose ledger ends with its command, entered
behind all that was exchanged before. -/
theorem Kept.answered (h : Kept d calls s) (ready : Ready d s b live) {talk : List Deed}
    {c : Connection} {result : Except GatewayError Reply}
    (reached : Exchange.Reached live.connection command (Deed.written live.id talk)
      (Deed.heard live.id talk) c (.done result)) (answered : isAnswered result = true) :
    ∃ login past e, e.command = command ∧ e.result = result
      ∧ Admitted d calls b.deeds live login past ∧ (s.slot? = none → past = [])
      ∧ Admitted d (calls ++ [command]) (talk ++ b.deeds) ⟨live.id, c⟩ login (past ++ [e]) := by
  obtain ⟨-, -, login, past, ha, hnew⟩ := h.ready ready
  obtain ⟨e, he, hr, hl⟩ := ha.ledger.enter reached answered
  refine ⟨login, past, e, he, hr, ha, hnew, hl, ha.asked, ha.admits, ?_⟩
  rw [List.map_append, List.map_singleton, he]
  exact ha.called.append_right _

/-- A session with an empty slot holds nothing that could be out of order. -/
theorem kept_of_vacant (hb : Books d calls s.dials s.deeds) (hs : s.slot? = none) :
    Kept d calls s := by
  refine ⟨hb, fun live h => ?_⟩
  rw [hs] at h
  simp at h

/-- A call that is over leaves everything in order. -/
theorem Kept.call (h : Kept d calls s) {c : Call} (hr : Reached d s command s' c)
    (ended : c.Over) : Kept d (calls ++ [command]) s' := by
  have hmono : ∀ {n : Nat} {deeds : List Deed}, Books d calls n deeds →
      Books d (calls ++ [command]) n deeds :=
    fun hb => hb.mono (List.sublist_append_left ..) (Nat.le_refl _)
  -- a call that is over has left the slot vacant, whatever it had done before, or has put back
  -- the connection that answered it
  cases hr with
  | dialing vacant => simp [Call.Over] at ended
  | entering vacant along reached => simp [Call.Over] at ended
  | running ready along reached => simp [Call.Over] at ended
  | unopened vacant fault => exact kept_of_vacant (hmono (h.dialed.quiet_cons rfl)) vacant
  | leftDialing vacant => exact kept_of_vacant (hmono (h.dialed.quiet_cons rfl)) vacant
  | rejected vacant along reached refused =>
    exact kept_of_vacant (hmono (((h.login along reached).quiet_cons rfl).quiet_cons rfl)) vacant
  | leftEntering vacant along reached =>
    exact kept_of_vacant (hmono (((h.login along reached).quiet_cons rfl).quiet_cons rfl)) vacant
  | lost ready along reached unanswered =>
    obtain ⟨hb, hid, login, past, ha, -⟩ := h.ready ready
    exact kept_of_vacant (((hb.command ha hid along reached).quiet_cons rfl).quiet_cons rfl)
      ready.slot
  | leftRunning ready along reached =>
    obtain ⟨hb, hid, login, past, ha, -⟩ := h.ready ready
    exact kept_of_vacant (((hb.command ha hid along reached).quiet_cons rfl).quiet_cons rfl)
      ready.slot
  | answered ready along reached answered =>
    obtain ⟨hb, hid, login, past, ha, -⟩ := h.ready ready
    refine ⟨hb.command ha hid along reached, fun live' hlive' => ?_⟩
    obtain ⟨login', past', e, -, -, -, -, ha'⟩ := h.answered ready reached answered
    injection hlive' with hlive'
    rw [← hlive']
    exact ⟨hid, login', past' ++ [e], ha'⟩

theorem Kept.close (h : Kept d calls s) : Kept d calls s.close := by
  refine kept_of_vacant ?_ (close_slot s)
  unfold Session.close release
  cases hs : s.slot? with
  | none => exact h.books.quiet_cons rfl
  | some live => exact (h.books.quiet_cons rfl).quiet_cons rfl

/-- **Between turns everything is in order.** -/
theorem kept_run (d : Device) (turns : List Turn) :
    Kept d (turns.filterMap Turn.command?) (run d {} turns) := by
  refine run_induction (P := fun turns s => Kept d (turns.filterMap Turn.command?) s) ?_ ?_ turns
  · exact kept_of_vacant (Books.nil d) rfl
  · intro turns t ih
    rw [List.filterMap_append]
    -- of the turns only a call has something to write
    cases t with
    | forgone =>
      rw [show [Turn.forgone].filterMap Turn.command? = [] from rfl, List.append_nil]
      exact ih
    | close =>
      rw [show [Turn.close].filterMap Turn.command? = [] from rfl, List.append_nil]
      exact ih.close
    | call command stimuli =>
      obtain ⟨hr, hover⟩ := reached_run d turns command stimuli
      exact ih.call hr hover

end Session

end RouterMenu
