import RouterMenu.Proofs.Gateway.Outcome

/-!
# What a login comes to

Whatever happens to an exchange, what it comes to can be read off the sentences that have arrived
(`Course.told`). As long as all of them continue the answer, the exchange is still under way, or the
stream has failed it. The first one that does not has ended it, and decides with those before it.

A login asks the same of its exchange and draws other conclusions. It succeeds exactly if the end of
the answer was reached without a trap and without a challenge; a trap and a challenge are the only
ways to be rejected; and whatever broke the exchange off is reported as it is
(`login_classified`).
-/

namespace RouterMenu

open Wire

/-! ## Exchanges to which things happen -/

/-- An exchange on its connection, and what it has read so far. -/
structure Course where
  connection : Connection
  exchange : Exchange
  heard : List UInt8 := []

namespace Course

/-- Where an exchange begins. -/
def begin (c : Connection) (command : Command) : Course :=
  let (connection, exchange) := Exchange.start c command
  { connection, exchange }

/-- What an event does to an exchange of which the time is bounded by so many seconds. -/
def feel (seconds : Nat) (k : Course) (event : StreamEvent) : Course :=
  let (connection, exchange) := k.exchange.step seconds k.connection event
  { connection, exchange, heard := k.heard ++ k.exchange.heard event }

/-- A command on a connection to which these events happen. -/
def run (seconds : Nat) (c : Connection) (command : Command) (events : List StreamEvent) : Course :=
  events.foldl (feel seconds) (begin c command)

/-- What the exchange came to, once it is over. -/
def result? (k : Course) : Option (Except GatewayError Reply) :=
  match k.exchange with
  | .done result => some result
  | _ => none

/-- What a login came to, once its exchange is over. -/
def login? (k : Course) : Option (Except GatewayError Unit) := k.result?.map Login.outcome

end Course

/-- Ways in which an exchange breaks off. -/
inductive GatewayError.Breaks (seconds : Nat) : GatewayError → Prop where
  | stream (fault : StreamFault) : Breaks seconds (.stream fault)
  | timeout : Breaks seconds (.timeout seconds)
  | protocol (fault : ProtocolFault) : Breaks seconds (.protocol fault)
  | fatal (reason : String) : Breaks seconds (.fatal reason)

/-- Nothing can be read without more bytes: the stream is open and without fault, and no whole
sentence is left in the buffer. -/
def Inbox.Waiting (i : Inbox) : Prop := i.Ready ∧ Framing.decode i.buffer = .ok none

/-! ## What has arrived decides -/

/-- Sentences that are read in one go: all of them continue the answer, and the last of the bytes
are no whole sentence or break the rules of framing; or one of them ends it. -/
theorem Exchange.pump_told {i : Inbox} (h : i.Ready) (a : Answer) :
    (∃ b, a.gather (Framing.drain i.buffer).sentences = some b
        ∧ ((pump i a).2 = .receiving b
          ∨ ∃ e, (pump i a).2 = .done (.error (.protocol (.frame e)))))
      ∨ ∃ before last later b result,
        (Framing.drain i.buffer).sentences = before ++ last :: later
          ∧ a.gather before = some b ∧ b.absorb last = .done result
          ∧ (pump i a).2 = .done result := by
  -- the reader and the drain take the same sentences off the buffer
  refine reading_induction (fun i a h hd => ?_) (fun i a e h hd => ?_)
    (fun i a words rest h hd ih => ?_) h a
  · rw [Framing.drain_of_none hd, pump_of_none h hd]
    exact .inl ⟨a, rfl, .inl rfl⟩
  · rw [Framing.drain_of_error hd, pump_of_error h hd]
    exact .inl ⟨a, rfl, .inr ⟨e, rfl⟩⟩
  · rw [Framing.drain_of_some hd, pump_of_some h hd]
    cases ha : a.absorb words with
    | done result => exact .inr ⟨[], words, _, a, result, rfl, rfl, ha, rfl⟩
    | more b =>
      have hgather (sentences : List (List String)) :
          a.gather (words :: sentences) = b.gather sentences := by
        rw [Answer.gather, ha]
      rcases ih b ha with ⟨b', hall, hend⟩ | ⟨before, last, later, b', result, hall, hb, hl, hp⟩
      · exact .inl ⟨b', (hgather _).trans hall, hend⟩
      · refine .inr ⟨words :: before, last, later, b', result, ?_, (hgather _).trans hb, hl, hp⟩
        simp only [hall, List.cons_append]

namespace Course

/-- How an exchange stands to the bytes that it found in the buffer and those that it has read:
reading all of them in one go leads to where it is, or to where it broke off. -/
inductive Follows (seconds : Nat) (found : List UInt8) : Course → Prop where
  | writing {c : Connection} {x : Exchange} (unread : c.inbox.buffer = found)
      (waiting : c.inbox.Waiting) (busy : x = .sending ∨ ∃ command, x = .clearing command) :
      Follows seconds found ⟨c, x, []⟩
  | reading {c : Connection} {a : Answer} {heard : List UInt8} (waiting : c.inbox.Waiting)
      (same : (Exchange.pump (.holding (found ++ heard)) {}).2 = .receiving a)
      (left : (Exchange.pump (.holding (found ++ heard)) {}).1.buffer = c.inbox.buffer) :
      Follows seconds found ⟨c, .receiving a, heard⟩
  | settled {c : Connection} {result : Except GatewayError Reply} {heard : List UInt8}
      (same : (Exchange.pump (.holding (found ++ heard)) {}).2 = .done result) :
      Follows seconds found ⟨c, .done result, heard⟩
  | broken {c : Connection} {a : Answer} {e : GatewayError} {heard : List UInt8}
      (cause : e.Breaks seconds)
      (same : (Exchange.pump (.holding (found ++ heard)) {}).2 = .receiving a) :
      Follows seconds found ⟨c, .done (.error e), heard⟩

variable {seconds : Nat} {found : List UInt8} {c : Connection}

/-- What waits for more bytes is not read. -/
theorem pump_waiting {i : Inbox} (h : i.Waiting) (a : Answer) :
    Exchange.pump (.holding i.buffer) a
      = ({ Inbox.holding i.buffer with readable := false }, .receiving a) :=
  Exchange.pump_of_none (Inbox.ready_holding _) h.2

theorem follows_frame (unread : c.inbox.buffer = found) (waiting : c.inbox.Waiting)
    (command : Command) :
    Follows seconds found
      ⟨(Exchange.frame c command).1, (Exchange.frame c command).2, []⟩ := by
  cases hf : (Framing.write command.words).fault with
  | none =>
    simp only [Exchange.frame, hf]
    exact .writing unread waiting (.inl rfl)
  | some e =>
    simp only [Exchange.frame, hf]
    refine .broken (a := {}) (.protocol (.frame e)) ?_
    rw [List.append_nil, ← unread, pump_waiting waiting]

/-- To read on is to read what has arrived in one go. -/
theorem follows_resume {i : Inbox} (ready : i.Ready) {a : Answer} {heard : List UInt8}
    (same : (Exchange.pump (.holding (found ++ heard)) {}).2 = (Exchange.pump i a).2)
    (left : (Exchange.pump (.holding (found ++ heard)) {}).1.buffer
      = (Exchange.pump i a).1.buffer) :
    Follows seconds found ⟨(Exchange.resume c i a).1, (Exchange.resume c i a).2, heard⟩ := by
  have hcases := Exchange.pump_ready ready a
  rcases hp : Exchange.pump i a with ⟨j, x⟩
  rw [hp] at hcases same left
  simp only [Exchange.resume, hp]
  rcases hcases with ⟨b, rfl, hready, hd⟩ | ⟨result, rfl, -, -⟩
  · exact .reading ⟨hready, hd⟩ same left
  · exact .settled same

theorem follows_begin (waiting : c.inbox.Waiting) (command : Command) :
    Follows seconds c.inbox.buffer (begin c command) := by
  simp only [begin, Exchange.start]
  split
  · exact .writing rfl waiting (.inr ⟨command, rfl⟩)
  · exact follows_frame rfl waiting command

/-- An exchange that is still writing. -/
theorem follows_feel_writing {x : Exchange} (unread : c.inbox.buffer = found)
    (waiting : c.inbox.Waiting) (busy : x = .sending ∨ ∃ command, x = .clearing command)
    (event : StreamEvent) : Follows seconds found (feel seconds ⟨c, x, []⟩ event) := by
  have hstays : Follows seconds found ⟨c, x, []⟩ := .writing unread waiting busy
  have hbroken {e : GatewayError} (cause : e.Breaks seconds) :
      Follows seconds found ⟨c, .done (.error e), []⟩ := by
    refine .broken (a := {}) cause ?_
    rw [List.append_nil, ← unread, pump_waiting waiting]
  cases event with
  | took n =>
    rcases busy with rfl | ⟨command, rfl⟩ <;>
      simp only [feel, Exchange.step, Exchange.heard, List.append_nil] <;> split
    · -- the command is out, and nothing can be read yet
      refine follows_resume waiting.1 ?_ ?_
      · rw [List.append_nil, ← unread, pump_waiting waiting,
          Exchange.pump_of_none waiting.1 waiting.2]
      · rw [List.append_nil, ← unread, pump_waiting waiting,
          Exchange.pump_of_none waiting.1 waiting.2]
        rfl
    · exact .writing unread waiting (.inl rfl)
    · exact follows_frame (c := { c with outbox := c.outbox.drop n }) unread waiting command
    · exact .writing unread waiting (.inr ⟨command, rfl⟩)
  | refused reason =>
    rcases busy with rfl | ⟨command, rfl⟩ <;> exact hbroken (.stream (.reported reason))
  | elapsed => rcases busy with rfl | ⟨command, rfl⟩ <;> exact hbroken .timeout
  | delivered bytes | ended | failed reason =>
    rcases busy with rfl | ⟨command, rfl⟩ <;> exact hstays

/-- An exchange that reads its answer. -/
theorem follows_feel_reading {a : Answer} {heard : List UInt8} (waiting : c.inbox.Waiting)
    (same : (Exchange.pump (.holding (found ++ heard)) {}).2 = .receiving a)
    (left : (Exchange.pump (.holding (found ++ heard)) {}).1.buffer = c.inbox.buffer)
    (event : StreamEvent) :
    Follows seconds found (feel seconds ⟨c, .receiving a, heard⟩ event) := by
  have hnothing : heard ++ Exchange.heard (.receiving a) .elapsed = heard := List.append_nil heard
  cases event with
  | delivered bytes =>
    simp only [feel, Exchange.step, Exchange.heard]
    -- what was read in one go before is left in the buffer where the exchange is
    have hready := Exchange.pump_ready (Inbox.ready_holding (found ++ heard)) {}
    have hall := Exchange.pump_receive (Inbox.ready_holding (found ++ heard)) {} bytes
    rw [Inbox.receive_of_ready (Inbox.ready_holding _)] at hall
    rcases hp : Exchange.pump (.holding (found ++ heard)) {} with ⟨j, x⟩
    rw [hp] at hready hall same left
    simp only at same left
    subst same
    rcases hready with ⟨b, -, hj, -⟩ | ⟨result, hdone, -, -⟩
    · have hmore : Exchange.pump (.holding (found ++ (heard ++ bytes))) {}
          = Exchange.pump (c.inbox.receive bytes) a := by
        rw [← List.append_assoc, Inbox.receive_of_ready waiting.1, ← left,
          ← Inbox.receive_of_ready hj]
        exact hall
      refine follows_resume (Inbox.ready_receive waiting.1 bytes) ?_ ?_
      · rw [hmore]
      · rw [hmore]
    · cases hdone
  | ended =>
    have hclose := Conversation.pump_close waiting.1 waiting.2 a
    simp only [feel, Exchange.step, Exchange.resume, Exchange.heard, List.append_nil, hclose]
    refine .broken ?_ same
    split
    · exact .protocol .closedEarly
    · exact .stream .unfinished
  | failed reason =>
    simp only [feel, Exchange.step, Exchange.heard, List.append_nil]
    exact .broken (.stream (.reported reason)) same
  | elapsed =>
    simp only [feel, Exchange.step, Exchange.heard, List.append_nil]
    exact .broken .timeout same
  | took n =>
    simp only [feel, Exchange.step, Exchange.heard, List.append_nil]
    exact .reading waiting same left
  | refused reason =>
    simp only [feel, Exchange.step, Exchange.heard, List.append_nil]
    exact .reading waiting same left

/-- **Every event keeps an exchange in step with what has arrived.** -/
theorem follows_feel {k : Course} (h : Follows seconds found k) (event : StreamEvent) :
    Follows seconds found (k.feel seconds event) := by
  cases h with
  | writing unread waiting busy => exact follows_feel_writing unread waiting busy event
  | reading waiting same left => exact follows_feel_reading waiting same left event
  | settled same =>
    simp only [feel, Exchange.step, Exchange.heard, List.append_nil]
    exact .settled same
  | broken cause same =>
    simp only [feel, Exchange.step, Exchange.heard, List.append_nil]
    exact .broken cause same

theorem follows_run (waiting : c.inbox.Waiting) (seconds : Nat) (command : Command)
    (events : List StreamEvent) :
    Follows seconds c.inbox.buffer (run seconds c command events) := by
  have hfold : ∀ (events : List StreamEvent) (k : Course), Follows seconds c.inbox.buffer k →
      Follows seconds c.inbox.buffer (events.foldl (feel seconds) k) := by
    intro events
    induction events with
    | nil => exact fun k hk => hk
    | cons event events ih => exact fun k hk => ih _ (follows_feel hk event)
  exact hfold events _ (follows_begin waiting command)

/-- The sentences that have arrived: those that were left in the buffer, and those read since. -/
def told (k : Course) (found : List UInt8) : List (List String) :=
  (Framing.drain (found ++ k.heard)).sentences

end Course

theorem Answer.not_continues_of_absorb {a : Answer} {words : List String}
    {result : Except GatewayError Reply} (h : a.absorb words = .done result) :
    ¬ Continues words := by
  intro hcontinues
  rw [absorb_of_continues hcontinues] at h
  cases h

namespace Course

/-- **What an exchange comes to can be read off the sentences that have arrived.** If all of them
continue the answer, it is under way or has broken off; the first that does not settles it. -/
theorem told_cases {seconds : Nat} {found : List UInt8} {k : Course}
    (h : Follows seconds found k) :
    (∀ words ∈ k.told found, Answer.Continues words)
        ∧ (k.result? = none ∨ ∃ e, k.result? = some (.error e) ∧ e.Breaks seconds)
      ∨ ∃ before last later result, k.told found = before ++ last :: later
        ∧ (∀ words ∈ before, Answer.Continues words) ∧ ¬ Answer.Continues last
        ∧ Answer.Settles before last result ∧ k.result? = some result := by
  have hread (heard : List UInt8) := Exchange.pump_told (Inbox.ready_holding (found ++ heard)) {}
  have hwaits (heard : List UInt8) (a : Answer)
      (same : (Exchange.pump (.holding (found ++ heard)) {}).2 = .receiving a) :
      ∀ words ∈ (Framing.drain (found ++ heard)).sentences, Answer.Continues words := by
    rcases hread heard with ⟨b, hb, -⟩ | ⟨before, last, later, b, result, -, -, -, hp⟩
    · exact (Answer.gather_eq_some hb).1
    · rw [same] at hp
      cases hp
  cases h with
  | @writing c x unread waiting busy =>
    refine .inl ⟨?_, ?_⟩
    · refine hwaits [] {} ?_
      rw [List.append_nil, ← unread, pump_waiting waiting]
    · rcases busy with rfl | ⟨command, rfl⟩ <;> exact .inl rfl
  | reading waiting same left => exact .inl ⟨hwaits _ _ same, .inl rfl⟩
  | broken cause same => exact .inl ⟨hwaits _ _ same, .inr ⟨_, rfl, cause⟩⟩
  | @settled c result heard same =>
    rcases hread heard with ⟨b, hb, hp⟩ | ⟨before, last, later, b, result', hall, hb, hl, hp⟩
    · -- no sentence ended the answer, so bytes behind them broke the rules of framing
      rw [same] at hp
      rcases hp with hp | ⟨e, hp⟩
      · cases hp
      · cases hp
        exact .inl ⟨(Answer.gather_eq_some hb).1, .inr ⟨_, rfl, .protocol _⟩⟩
    · rw [same] at hp
      cases hp
      have hends := Answer.not_continues_of_absorb hl
      obtain ⟨result', hl', hsettles⟩ := Answer.settles_of_absorb hb hends
      rw [hl] at hl'
      cases hl'
      exact .inr ⟨before, last, later, result, hall, (Answer.gather_eq_some hb).1, hends, hsettles,
        rfl⟩

end Course

/-! ## The end of an answer -/

namespace Answer

/-- The sentences reach the end of the answer, with these before it and these attributes in it. -/
def Ends (told before : List (List String)) (attributes : List String) : Prop :=
  (∃ later, told = before ++ ("!done" :: attributes) :: later)
    ∧ ∀ words ∈ before, Continues words

/-- None of the sentences is a trap. -/
def Untrapped (sentences : List (List String)) : Prop :=
  ∀ words ∈ sentences, words.head? ≠ some "!trap"

/-- A list has one first item that fails a test. -/
theorem split_unique {α : Type} {p : α → Prop} {before before' later later' : List α}
    {last last' : α} (same : before ++ last :: later = before' ++ last' :: later')
    (passes : ∀ x ∈ before, p x) (fails : ¬ p last) (passes' : ∀ x ∈ before', p x)
    (fails' : ¬ p last') : before = before' ∧ last = last' := by
  -- neither can be the longer one: what ends one list would pass in the other
  induction before generalizing before' with
  | nil =>
    cases before' with
    | nil => exact ⟨rfl, (List.cons.inj same).1⟩
    | cons x before' =>
      exact absurd ((List.cons.inj same).1 ▸ passes' x (List.mem_cons_self ..)) fails
  | cons x before ih =>
    cases before' with
    | nil => exact absurd ((List.cons.inj same).1 ▸ passes x (List.mem_cons_self ..)) fails'
    | cons x' before' =>
      obtain ⟨rfl, hrest⟩ := List.cons.inj same
      rw [List.forall_mem_cons] at passes passes'
      obtain ⟨rfl, rfl⟩ := ih hrest passes.2 passes'.2
      exact ⟨rfl, rfl⟩

theorem not_continues_done (attributes : List String) : ¬ Continues ("!done" :: attributes) := by
  simp [Continues]

/-- **An answer ends once.** -/
theorem Ends.unique {told before before' : List (List String)}
    {attributes attributes' : List String} (h : Ends told before attributes)
    (h' : Ends told before' attributes') :
    before = before' ∧ attributes = attributes' := by
  obtain ⟨⟨later, rfl⟩, hcontinues⟩ := h
  obtain ⟨⟨later', hsame⟩, hcontinues'⟩ := h'
  obtain ⟨hbefore, hlast⟩ := split_unique hsame hcontinues (not_continues_done _) hcontinues'
    (not_continues_done _)
  exact ⟨hbefore, (List.cons.inj hlast).2⟩

theorem not_ends_of_continues {told : List (List String)} (h : ∀ words ∈ told, Continues words) :
    ¬ ∃ before attributes, Ends told before attributes := by
  rintro ⟨before, attributes, ⟨later, rfl⟩, -⟩
  exact not_continues_done attributes (h _ (by simp))

end Answer

/-! ## Logins -/

namespace Login

open Answer

/-- What sentences say of a login, once they have reached the end of the answer. -/
inductive Concludes (told : List (List String)) : Except GatewayError Unit → Prop where
  | admitted {before : List (List String)} {attributes : List String}
      (ends : Ends told before attributes) (untrapped : Untrapped before)
      (unchallenged : (Sentence.ofWords attributes).get? "ret" = none) : Concludes told (.ok ())
  /-- The first trap counts, whatever comes with the end. -/
  | trapped {early later : List (List String)} {trap attributes : List String}
      (ends : Ends told (early ++ ("!trap" :: trap) :: later) attributes)
      (untrapped : Untrapped early) : Concludes told (.error (.authentication
        (((Sentence.ofWords trap).get? "message").getD "unknown error")))
  | challenged {before : List (List String)} {attributes : List String} {value : String}
      (ends : Ends told before attributes) (untrapped : Untrapped before)
      (asked : (Sentence.ofWords attributes).get? "ret" = some value) :
      Concludes told (.error (.authentication challenge))

theorem not_untrapped {early later : List (List String)} {trap : List String} :
    ¬ Untrapped (early ++ ("!trap" :: trap) :: later) :=
  fun h => h ("!trap" :: trap) (by simp) rfl

/-- **There is one conclusion.** -/
theorem Concludes.unique {told : List (List String)} {r r' : Except GatewayError Unit}
    (h : Concludes told r) (h' : Concludes told r') : r = r' := by
  -- the sentence that ends the login is unique, and so is the first trap before it
  cases h with
  | admitted ends untrapped unchallenged =>
    cases h' with
    | admitted => rfl
    | trapped ends' => exact absurd ((ends.unique ends').1 ▸ untrapped) not_untrapped
    | challenged ends' untrapped' asked =>
      obtain ⟨-, rfl⟩ := ends.unique ends'
      rw [unchallenged] at asked
      cases asked
  | trapped ends untrapped =>
    cases h' with
    | admitted ends' untrapped' => exact absurd ((ends'.unique ends).1 ▸ untrapped') not_untrapped
    | challenged ends' untrapped' => exact absurd ((ends'.unique ends).1 ▸ untrapped') not_untrapped
    | trapped ends' untrapped' =>
      obtain ⟨-, htrap⟩ := split_unique (ends.unique ends').1 untrapped (by simp) untrapped'
        (by simp)
      cases htrap
      rfl
  | challenged ends untrapped asked =>
    cases h' with
    | challenged => rfl
    | trapped ends' => exact absurd ((ends.unique ends').1 ▸ untrapped) not_untrapped
    | admitted ends' untrapped' unchallenged =>
      obtain ⟨-, rfl⟩ := ends.unique ends'
      rw [unchallenged] at asked
      cases asked

theorem outcome_of_breaks {seconds : Nat} {e : GatewayError} (h : e.Breaks seconds) :
    outcome (.error e) = .error e := by
  cases h <;> rfl

theorem ne_authentication_of_breaks {seconds : Nat} {e : GatewayError} (h : e.Breaks seconds)
    (message : String) : e ≠ .authentication message := by
  cases h <;> simp

/-- A sentence that ends the answer concludes the login, or breaks it off. -/
theorem concludes_of_settles {told before later : List (List String)} {last : List String}
    {result : Except GatewayError Reply} (split : told = before ++ last :: later)
    (continues : ∀ words ∈ before, Continues words) (ends : ¬ Continues last)
    (settles : Settles before last result) (seconds : Nat) :
    Concludes told (outcome result)
      ∨ (¬ ∃ before attributes, Ends told before attributes)
        ∧ ∃ e, result = .error e ∧ e.Breaks seconds := by
  -- sentences that end otherwise do not reach the end that is meant
  have hother (h : last.head? ≠ some "!done") :
      ¬ ∃ before attributes, Ends told before attributes := by
    rintro ⟨before', attributes, ⟨later', hsplit⟩, hcontinues'⟩
    rw [split] at hsplit
    obtain ⟨-, rfl⟩ := split_unique hsplit continues ends hcontinues' (not_continues_done _)
    exact h rfl
  cases settles with
  | @trapped early late trap attributes first untrapped =>
    subst first
    exact .inl (.trapped ⟨⟨later, split⟩, continues⟩ untrapped)
  | complete attributes untrapped =>
    cases hret : (Sentence.ofWords attributes).get? "ret" with
    | none =>
      have houtcome : outcome (.ok ⟨before.filterMap row?, Sentence.ofWords attributes⟩)
          = .ok () := by
        simp [outcome, Reply.ret?, hret]
      rw [houtcome]
      exact .inl (.admitted ⟨⟨later, split⟩, continues⟩ untrapped hret)
    | some value =>
      have houtcome : outcome (.ok ⟨before.filterMap row?, Sentence.ofWords attributes⟩)
          = .error (.authentication challenge) := by
        simp [outcome, Reply.ret?, hret]
      rw [houtcome]
      exact .inl (.challenged ⟨⟨later, split⟩, continues⟩ untrapped hret)
  | fatal reason => exact .inr ⟨hother (by simp), _, rfl, .fatal _⟩
  | @unknown word others foreign =>
    refine .inr ⟨hother ?_, _, rfl, .protocol _⟩
    intro hdone
    simp only [List.head?_cons, Option.some.injEq] at hdone
    simp [hdone] at foreign

theorem exists_ends_of_concludes {told : List (List String)} {r : Except GatewayError Unit}
    (h : Concludes told r) : ∃ before attributes, Ends told before attributes := by
  cases h with
  | admitted ends => exact ⟨_, _, ends⟩
  | trapped ends => exact ⟨_, _, ends⟩
  | challenged ends => exact ⟨_, _, ends⟩

/-- **A login comes to what the sentences conclude.** If they conclude nothing it may have broken
off. -/
theorem login_eq_some_iff {seconds : Nat} {found : List UInt8} {k : Course}
    (h : k.Follows seconds found) {r : Except GatewayError Unit} :
    k.login? = some r ↔ Concludes (k.told found) r
      ∨ (¬ ∃ before attributes, Ends (k.told found) before attributes)
        ∧ ∃ e, k.result? = some (.error e) ∧ e.Breaks seconds ∧ r = .error e := by
  -- what it came to if it was concluded, and what it may have come to if not
  have hcases : (∃ r, Concludes (k.told found) r ∧ k.login? = some r)
      ∨ (¬ ∃ before attributes, Ends (k.told found) before attributes)
        ∧ (k.result? = none ∨ ∃ e, k.result? = some (.error e) ∧ e.Breaks seconds) := by
    rcases Course.told_cases h with ⟨hcontinues, hresult⟩ |
      ⟨before, last, later, result, hsplit, hcontinues, hends, hsettles, hr⟩
    · exact .inr ⟨not_ends_of_continues hcontinues, hresult⟩
    · rcases concludes_of_settles hsplit hcontinues hends hsettles seconds with
        h | ⟨hno, e, rfl, he⟩
      · exact .inl ⟨_, h, by rw [Course.login?, hr]; rfl⟩
      · exact .inr ⟨hno, .inr ⟨e, hr, he⟩⟩
  rcases hcases with ⟨r', hr', hlogin⟩ | ⟨hno, hresult⟩
  · have hends := exists_ends_of_concludes hr'
    rw [hlogin, Option.some.injEq]
    constructor
    · rintro rfl
      exact .inl hr'
    · rintro (h | ⟨hno, -⟩)
      · exact hr'.unique h
      · exact absurd hends hno
  · have hnone : ¬ Concludes (k.told found) r := fun h => hno (exists_ends_of_concludes h)
    rw [or_iff_right hnone, and_iff_right hno]
    rcases hresult with hresult | ⟨e, hresult, he⟩
    · rw [Course.login?, hresult]
      simp
    · rw [Course.login?, hresult, Option.map_some, outcome_of_breaks he]
      constructor
      · intro h
        exact ⟨e, rfl, he, (Option.some.inj h).symm⟩
      · rintro ⟨e', he', -, rfl⟩
        cases he'
        rfl

/-- **What comes of a login,** whoever logs in and whatever happens to the stream. It succeeds
exactly if the end of the answer was reached, without a trap before it and without a challenge in
it. It is rejected with the message of the first trap exactly if the end was reached behind a trap,
whatever comes with the end; and it is rejected because of the challenge exactly if the end was
reached without a trap and with a challenge, be it an empty one. Any other failure is that of the
exchange, which did not reach the end. So it fails as a stream fails, or it is rejected. -/
theorem login_classified {c : Connection} (waiting : c.inbox.Waiting) (who : Credentials)
    (seconds : Nat) (events : List StreamEvent) :
    let k := Course.run seconds c (command who) events
    let told := k.told c.inbox.buffer
    (k.login? = some (.ok ()) ↔ ∃ before attributes, Ends told before attributes
        ∧ Untrapped before ∧ (Sentence.ofWords attributes).get? "ret" = none)
      ∧ (∀ message, k.login? = some (.error (.authentication message)) ↔
        (∃ early trap later attributes,
          Ends told (early ++ ("!trap" :: trap) :: later) attributes ∧ Untrapped early
            ∧ message = ((Sentence.ofWords trap).get? "message").getD "unknown error")
        ∨ ∃ before attributes value, Ends told before attributes ∧ Untrapped before
            ∧ (Sentence.ofWords attributes).get? "ret" = some value
            ∧ message = "device requested the legacy challenge login, which is not supported")
      ∧ (∀ e, k.login? = some (.error e) ∧ (∀ message, e ≠ .authentication message) ↔
        k.result? = some (.error e) ∧ ¬ ∃ before attributes, Ends told before attributes)
      ∧ ∀ e, k.login? = some (.error e) →
        (∃ message, e = .authentication message) ∨ e.Breaks seconds := by
  intro k told
  have hfollows : k.Follows seconds c.inbox.buffer := Course.follows_run waiting seconds _ events
  have hlogin (r : Except GatewayError Unit) := login_eq_some_iff (r := r) hfollows
  refine ⟨?_, fun message => ?_, fun e => ?_, fun e he => ?_⟩
  · rw [hlogin]
    constructor
    · rintro (h | ⟨-, e, -, -, h⟩)
      · cases h with
        | admitted ends untrapped unchallenged => exact ⟨_, _, ends, untrapped, unchallenged⟩
      · cases h
    · rintro ⟨before, attributes, hends, huntrapped, hret⟩
      exact .inl (.admitted hends huntrapped hret)
  · rw [hlogin]
    constructor
    · rintro (h | ⟨-, e, -, hbreaks, h⟩)
      · cases h with
        | trapped ends untrapped => exact .inl ⟨_, _, _, _, ends, untrapped, rfl⟩
        | challenged ends untrapped asked => exact .inr ⟨_, _, _, ends, untrapped, asked, rfl⟩
      · exact absurd (Except.error.inj h).symm (ne_authentication_of_breaks hbreaks message)
    · rintro (⟨early, trap, later, attributes, hends, huntrapped, rfl⟩ |
        ⟨before, attributes, value, hends, huntrapped, hret, rfl⟩)
      · exact .inl (.trapped hends huntrapped)
      · exact .inl (.challenged hends huntrapped hret)
  · rw [hlogin]
    constructor
    · rintro ⟨h | ⟨hno, e', hresult, -, h⟩, hother⟩
      · cases h with
        | trapped => exact absurd rfl (hother _)
        | challenged => exact absurd rfl (hother _)
      · cases h
        exact ⟨hresult, hno⟩
    · rintro ⟨hresult, hno⟩
      -- an exchange that is over and did not reach the end broke off
      have hover : k.login? = some (outcome (.error e)) := by rw [Course.login?, hresult]; rfl
      rcases (hlogin _).1 hover with h | ⟨-, e', hresult', hbreaks, -⟩
      · exact absurd (exists_ends_of_concludes h) hno
      · cases hresult.symm.trans hresult'
        exact ⟨.inr ⟨hno, e, hresult, hbreaks, rfl⟩, ne_authentication_of_breaks hbreaks⟩
  · rcases (hlogin _).1 he with h | ⟨-, e', -, hbreaks, h⟩
    · cases h with
      | trapped => exact .inl ⟨_, rfl⟩
      | challenged => exact .inl ⟨_, rfl⟩
    · cases h
      exact .inr hbreaks

/-- Half a row was left over. Behind its other half two traps arrive, in two pieces, and an end with
a challenge in it: the first trap is what counts. -/
theorem login_classified_traps_and_challenge :
    let c : Connection := { inbox := { buffer := [3, 33, 114] } }
    let sent := [101, 0] ++ (Framing.write ["!trap", "=message=first"]).bytes
      ++ (Framing.write ["!trap", "=message=second"]).bytes
      ++ (Framing.write ["!done", "=ret=0a1b"]).bytes
    let k := Course.run 10 c (command ⟨"admin", "secret"⟩)
      [.took 64, .delivered (sent.take 9), .delivered (sent.drop 9)]
    c.inbox.Waiting ∧ k.login? = some (.error (.authentication "first")) := by
  intro c sent k
  have hdecode : Framing.decode c.inbox.buffer = .ok none := by decide +kernel
  have hwaiting : c.inbox.Waiting := ⟨⟨rfl, rfl, fun _ => hdecode⟩, hdecode⟩
  have htold : k.told c.inbox.buffer = [["!re"]] ++ ["!trap", "=message=first"]
      :: [["!trap", "=message=second"]] ++ ["!done", "=ret=0a1b"] :: [] := by
    decide +kernel
  have huntrapped : Untrapped [["!re"]] := by unfold Untrapped; decide
  exact ⟨hwaiting, ((login_classified hwaiting _ 10 _).2.1 "first").2 (.inl ⟨[["!re"]], _, _, _,
    ⟨⟨[], htold⟩, by decide⟩, huntrapped, by decide +kernel⟩)⟩

end Login

end RouterMenu
