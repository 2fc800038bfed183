import RouterMenu.Gateway.Tape
import RouterMenu.Proofs.Gateway.Exchange
import RouterMenu.Proofs.Wire.Delivery

/-!
# What comes of a command

What comes of a command depends on the sentences of the stream and not on how it is cut
(`Exchange.pump_receive`): reading what arrived before, and then the rest, is reading all of it. So
the outcome can be read off the whole stream. The first sentence that does not continue the answer
ends it, and decides with those before it what comes of the command (`Answer.Settles`); the bytes
behind it wait for the next command, in the buffer or still on their way. A stream that ends without
such a sentence has ended early.
-/

namespace RouterMenu

open Wire

/-! ## The sentence that ends an answer -/

namespace Answer

/-- What comes of a command when these sentences were read, with one behind them that ends the
answer. -/
inductive Settles (before : List (List String)) :
    List String → Except GatewayError Reply → Prop where
  /-- Of all traps the first is reported, when the end has come. -/
  | trapped {early later : List (List String)} {trap : List String} (attributes : List String)
      (first : before = early ++ ("!trap" :: trap) :: later)
      (untrapped : ∀ words ∈ early, words.head? ≠ some "!trap") :
      Settles before ("!done" :: attributes) (.error (.device
        { message := ((Sentence.ofWords trap).get? "message").getD "unknown error"
          category? := ((Sentence.ofWords trap).get? "category").bind
            fun text => Text.natUpTo? 255 text.toList }))
  /-- Without a trap the rows are all there, in order. -/
  | complete (attributes : List String)
      (untrapped : ∀ words ∈ before, words.head? ≠ some "!trap") :
      Settles before ("!done" :: attributes)
        (.ok { rows := before.filterMap row?, done := Sentence.ofWords attributes })
  | fatal (reason : List String) :
      Settles before ("!fatal" :: reason) (.error (.fatal (" ".intercalate reason)))
  | unknown {word : String} (others : List String)
      (foreign : word ∉ ["!re", "!trap", "!empty", "!done", "!fatal"]) :
      Settles before (word :: others) (.error (.protocol (.unexpectedWord word)))

theorem reported?_eq_none_iff {words : List String} :
    reported? words = none ↔ words.head? ≠ some "!trap" := by
  cases words with
  | nil => simp [reported?]
  | cons kind attributes => simp [reported?]

/-- What was gathered and a sentence that ends the answer settle it. -/
theorem settles_of_absorb {before : List (List String)} {last : List String} {b : Answer}
    (gathered : ({} : Answer).gather before = some b) (ends : ¬ Continues last) :
    ∃ result, b.absorb last = .done result ∧ Settles before last result := by
  obtain ⟨-, hrows, htrap⟩ := gather_eq_some gathered
  simp only [List.append_nil, Option.none_or] at hrows htrap
  cases last with
  | nil => exact absurd (by simp [Continues]) ends
  | cons word others =>
    simp only [Continues, List.head?_cons, List.mem_cons, Option.some.injEq, reduceCtorEq,
      List.not_mem_nil, or_false, false_or, not_or] at ends
    obtain ⟨hre, htrapped, hempty⟩ := ends
    simp only [absorb, if_neg hre, if_neg htrapped, if_neg hempty]
    by_cases hdone : word = "!done"
    · subst hdone
      refine ⟨_, by rw [if_pos rfl], ?_⟩
      -- the end of the answer reports the first trap before it, and drops the rows
      cases ht : b.trap? with
      | none =>
        rw [ht, eq_comm, List.findSome?_eq_none_iff] at htrap
        simp only [finish, ht, hrows, List.reverse_reverse]
        exact .complete others fun words hw => reported?_eq_none_iff.1 (htrap words hw)
      | some trap =>
        rw [ht, eq_comm, List.findSome?_eq_some_iff] at htrap
        obtain ⟨early, words, later, hsplit, hwords, hearly⟩ := htrap
        cases words with
        | nil => simp [reported?] at hwords
        | cons kind attributes =>
          simp only [reported?, Option.ite_none_right_eq_some, Option.some.injEq] at hwords
          obtain ⟨rfl, rfl⟩ := hwords
          simp only [finish, ht]
          exact .trapped others hsplit fun words hw => reported?_eq_none_iff.1 (hearly words hw)
    · rw [if_neg hdone]
      by_cases hfatal : word = "!fatal"
      · subst hfatal
        exact ⟨_, by rw [if_pos rfl], .fatal others⟩
      · exact ⟨_, by rw [if_neg hfatal], .unknown others (by simp [*])⟩

end Answer

/-! ## Whole sentences -/

namespace Wire.Framing

theorem eq_nil_of_spells {bytes : List UInt8} (h : Spells bytes []) : bytes = [] := by
  unfold Spells at h
  cases hd : decode bytes with
  | error e => simp [drain_of_error hd] at h
  | ok found? =>
    cases found? with
    | none => simpa [drain_of_none hd] using h
    | some found => simp [drain_of_some hd] at h

/-- The first of whole sentences is read, and then the others. -/
theorem decode_of_spells {bytes : List UInt8} {words : List String}
    {sentences : List (List String)} (h : Spells bytes (words :: sentences)) :
    ∃ rest, decode bytes = .ok (some (words, rest)) ∧ Spells rest sentences := by
  unfold Spells at h
  cases hd : decode bytes with
  | error e => simp [drain_of_error hd] at h
  | ok found? =>
    cases found? with
    | none => simp [drain_of_none hd] at h
    | some found =>
      obtain ⟨words', rest⟩ := found
      simp only [drain_of_some hd, Drained.mk.injEq, List.cons.injEq] at h
      obtain ⟨⟨rfl, hsentences⟩, hfault, hrest⟩ := h
      refine ⟨rest, rfl, ?_⟩
      rw [Spells, ← hsentences, ← hfault, ← hrest]

theorem split_of_spells {bytes : List UInt8} {sentences others : List (List String)}
    (h : Spells bytes (sentences ++ others)) :
    ∃ front back, bytes = front ++ back ∧ Spells front sentences ∧ Spells back others := by
  induction sentences generalizing bytes with
  | nil => exact ⟨[], bytes, rfl, spells_nil, h⟩
  | cons words sentences ih =>
    obtain ⟨rest, hd, hrest⟩ := decode_of_spells h
    obtain ⟨frame, rfl, hframe⟩ := decode_alone hd
    obtain ⟨front, back, rfl, hfront, hback⟩ := ih hrest
    exact ⟨frame ++ front, back, (List.append_assoc ..).symm, spells_cons hframe hfront, hback⟩

theorem spells_write {words : List String} (hne : ∀ word ∈ words, word ≠ "")
    (hf : (write words).fault = none) : Spells (write words).bytes [words] := by
  have hone := spells_cons (decode_write_alone hne hf) spells_nil
  rwa [List.append_nil] at hone

end Wire.Framing

/-! ## Reading on -/

namespace Inbox

/-- Reading can go on: the stream is open and without fault, and unless the buffer is known to hold
no whole sentence it is looked at first. -/
def Ready (i : Inbox) : Prop :=
  i.stopped = false ∧ i.ended = false ∧ (i.readable = false → Framing.decode i.buffer = .ok none)

/-- An inbox with bytes to read. -/
def holding (bytes : List UInt8) : Inbox := { buffer := bytes, readable := true }

theorem ready_holding (bytes : List UInt8) : (holding bytes).Ready :=
  ⟨rfl, rfl, fun h => by cases h⟩

variable {i : Inbox}

theorem ready_receive (h : i.Ready) (bytes : List UInt8) : (i.receive bytes).Ready :=
  ⟨h.1, rfl, fun hf => by cases hf⟩

theorem receive_of_ready (h : i.Ready) (bytes : List UInt8) :
    i.receive bytes = holding (i.buffer ++ bytes) := by
  simp [receive, holding, h.1]

theorem next_of_none (h : i.Ready) (hd : Framing.decode i.buffer = .ok none) :
    i.next = ({ i with readable := false }, .starved) := by
  cases i with
  | mk buffer ended readable stopped =>
    obtain ⟨rfl, rfl, -⟩ := h
    cases readable with
    | false => rfl
    | true => simp [next, hd]

theorem readable_of_ready (h : i.Ready) (hd : Framing.decode i.buffer ≠ .ok none) :
    i.readable = true := by
  cases hr : i.readable with
  | false => exact absurd (h.2.2 hr) hd
  | true => rfl

theorem next_of_error (h : i.Ready) {e : FrameError} (hd : Framing.decode i.buffer = .error e) :
    i.next = ({ i with stopped := true }, .fault (.protocol (.frame e))) := by
  have hr := readable_of_ready h (by simp [hd])
  simp [next, h.1, hr, hd]

theorem next_of_some (h : i.Ready) {words : List String} {rest : List UInt8}
    (hd : Framing.decode i.buffer = .ok (some (words, rest))) :
    i.next = ({ i with buffer := rest }, .sentence words) := by
  have hr := readable_of_ready h (by simp [hd])
  simp [next, h.1, hr, hd]

end Inbox

namespace Exchange

variable {i : Inbox} {a : Answer}

theorem pump_of_none (h : i.Ready) (hd : Framing.decode i.buffer = .ok none) :
    pump i a = ({ i with readable := false }, .receiving a) := by
  have hn := Inbox.next_of_none h hd
  rw [pump]
  split
  · next heq =>
    cases hn.symm.trans heq
    rfl
  · next heq => cases hn.symm.trans heq
  · next heq => cases hn.symm.trans heq
  · next heq => cases hn.symm.trans heq

theorem pump_of_some (h : i.Ready) {words : List String} {rest : List UInt8}
    (hd : Framing.decode i.buffer = .ok (some (words, rest))) :
    pump i a = match a.absorb words with
      | .more b => pump { i with buffer := rest } b
      | .done result => ({ i with buffer := rest }, .done result) := by
  have hn := Inbox.next_of_some h hd
  rw [pump]
  split
  · next heq => cases hn.symm.trans heq
  · next heq => cases hn.symm.trans heq
  · next heq => cases hn.symm.trans heq
  · next heq =>
    cases hn.symm.trans heq
    cases a.absorb words <;> rfl

theorem pump_of_error (h : i.Ready) {e : FrameError} (hd : Framing.decode i.buffer = .error e) :
    pump i a = ({ i with stopped := true }, .done (.error (.protocol (.frame e)))) := by
  have hn := Inbox.next_of_error h hd
  rw [pump]
  split
  · next heq => cases hn.symm.trans heq
  · next heq => cases hn.symm.trans heq
  · next heq =>
    cases hn.symm.trans heq
    rfl
  · next heq => cases hn.symm.trans heq

theorem ready_after (h : i.Ready) {words : List String} {rest : List UInt8}
    (hd : Framing.decode i.buffer = .ok (some (words, rest))) :
    ({ i with buffer := rest } : Inbox).Ready := by
  have hr := Inbox.readable_of_ready h (by simp [hd])
  exact ⟨h.1, h.2.1, fun hf => absurd (hr.symm.trans hf) (by decide)⟩

/-- Reading comes to its end sentence by sentence. -/
@[elab_as_elim]
theorem reading_induction {motive : Inbox → Answer → Prop}
    (waits : ∀ i a, i.Ready → Framing.decode i.buffer = .ok none → motive i a)
    (breaks : ∀ i a e, i.Ready → Framing.decode i.buffer = .error e → motive i a)
    (reads : ∀ i a words rest, i.Ready → Framing.decode i.buffer = .ok (some (words, rest)) →
      (∀ b, a.absorb words = .more b → motive { i with buffer := rest } b) → motive i a)
    (h : i.Ready) (a : Answer) : motive i a := by
  -- every sentence that is read leaves fewer bytes
  induction hn : i.buffer.length using Nat.strongRecOn generalizing i a with
  | ind n ih =>
    cases hd : Framing.decode i.buffer with
    | error e => exact breaks i a e h hd
    | ok found? =>
      cases found? with
      | none => exact waits i a h hd
      | some found =>
        refine reads i a found.1 found.2 h hd fun b _ => ?_
        exact ih _ (hn ▸ Framing.decode_lt hd) (ready_after h hd) b rfl

/-- **Reading what is there, and then the rest, is reading all of it.** An answer that is over stays
as it is, and the rest waits. -/
theorem pump_receive (h : i.Ready) (a : Answer) (more : List UInt8) :
    pump (i.receive more) a =
      match pump i a with
      | (j, .receiving b) => pump (j.receive more) b
      | (j, x) => (j.receive more, x) := by
  refine reading_induction (fun i a h hd => ?_) (fun i a e h hd => ?_)
    (fun i a words rest h hd ih => ?_) h a
  · -- nothing is read without the rest, so that all of it is read with the rest
    rw [pump_of_none h hd]
    rfl
  · rw [pump_of_error h hd,
      pump_of_error (Inbox.ready_receive h more) (Framing.decode_append_error hd more)]
    rfl
  · rw [pump_of_some h hd,
      pump_of_some (Inbox.ready_receive h more) (Framing.decode_append hd more)]
    cases ha : a.absorb words with
    | done result => rfl
    | more b => exact ih b ha

/-- Sentences that continue the answer are gathered. -/
theorem pump_spelled {bytes : List UInt8} {sentences : List (List String)} {b : Answer}
    (spelled : Framing.Spells bytes sentences) (gathered : a.gather sentences = some b)
    (rest : List UInt8) :
    pump (.holding (bytes ++ rest)) a = pump (.holding rest) b := by
  -- sentence by sentence, as they are spelled one after another
  induction sentences generalizing bytes a with
  | nil =>
    simp only [Answer.gather, Option.some.injEq] at gathered
    rw [Framing.eq_nil_of_spells spelled, gathered]
    rfl
  | cons words sentences ih =>
    obtain ⟨later, hd, hlater⟩ := Framing.decode_of_spells spelled
    rw [pump_of_some (Inbox.ready_holding _) (Framing.decode_append hd rest)]
    simp only [Answer.gather] at gathered
    cases ha : a.absorb words with
    | done result => simp [ha] at gathered
    | more a' =>
      simp only [ha] at gathered
      exact ih hlater gathered

/-- A sentence that ends the answer is the last one read. -/
theorem pump_ended {bytes : List UInt8} {sentences : List (List String)} {last : List String}
    {b : Answer} {result : Except GatewayError Reply}
    (spelled : Framing.Spells bytes (sentences ++ [last])) (gathered : a.gather sentences = some b)
    (closed : b.absorb last = .done result) (rest : List UInt8) :
    pump (.holding (bytes ++ rest)) a = (.holding rest, .done result) := by
  obtain ⟨front, frame, rfl, hfront, hframe⟩ := Framing.split_of_spells spelled
  obtain ⟨later, hd, hlater⟩ := Framing.decode_of_spells hframe
  rw [Framing.eq_nil_of_spells hlater] at hd
  rw [List.append_assoc, pump_spelled hfront gathered,
    pump_of_some (Inbox.ready_holding _) (Framing.decode_append hd rest), closed]
  rfl

/-- A buffer of sentences that continue the answer is read to its end. -/
theorem pump_continuing {bytes : List UInt8} {sentences : List (List String)} {b : Answer}
    (spelled : Framing.Spells bytes sentences) (gathered : a.gather sentences = some b) :
    pump (.holding bytes) a = ({}, .receiving b) := by
  have hall := pump_spelled spelled gathered []
  have hnil : Framing.decode [] = .ok none := by
    rw [Framing.decode, Framing.collect]
    rfl
  rw [List.append_nil, pump_of_none (Inbox.ready_holding []) hnil] at hall
  exact hall

/-- Reading neither ends the stream nor looks away from the buffer, unless more bytes are needed. -/
theorem pump_ready (h : i.Ready) (a : Answer) :
    (∃ b, (pump i a).2 = .receiving b ∧ (pump i a).1.Ready
        ∧ Framing.decode (pump i a).1.buffer = .ok none)
      ∨ ∃ result, (pump i a).2 = .done result ∧ (pump i a).1.ended = false
        ∧ (pump i a).1.readable = true := by
  -- the reader stops at what is no whole sentence, at a fault, or at the sentence that ends it
  refine reading_induction (fun i a h hd => ?_) (fun i a e h hd => ?_)
    (fun i a words rest h hd ih => ?_) h a
  · rw [pump_of_none h hd]
    exact .inl ⟨a, rfl, ⟨h.1, h.2.1, fun _ => hd⟩, hd⟩
  · have hr := Inbox.readable_of_ready h (by simp [hd])
    rw [pump_of_error h hd]
    exact .inr ⟨_, rfl, h.2.1, hr⟩
  · have hr := Inbox.readable_of_ready h (by simp [hd])
    rw [pump_of_some h hd]
    cases ha : a.absorb words with
    | done result => exact .inr ⟨result, rfl, h.2.1, hr⟩
    | more b => exact ih b ha

end Exchange

/-! ## The whole conversation -/

namespace Conversation

open Exchange

/-- What comes of a conversation that has written its command, given what reading all the rest of
the stream at once would find. -/
structure Agrees (conv : Conversation) (sent : List UInt8) (found : Inbox × Exchange) : Prop where
  written : conv.written = sent
  silent : conv.connection.outbox = []
  /-- An answer that is over leaves the rest of the stream where it is. -/
  settled : ∀ result, found.2 = .done result → conv.result = result
    ∧ conv.connection.inbox.ended = false ∧ conv.connection.inbox.readable = true
    ∧ ∃ left, conv.tape = { chunks := left }
      ∧ conv.connection.inbox.receive left.flatten = found.1
  /-- An answer that is not over when all has been read has ended early. -/
  short : ∀ b, found.2 = .receiving b → conv.result =
    .error (if found.1.buffer.isEmpty then .protocol .closedEarly else .stream .unfinished)

/-- The end of the stream ends an answer of which no whole sentence is left to read. -/
theorem pump_close {i : Inbox} (h : i.Ready) (hd : Framing.decode i.buffer = .ok none)
    (a : Answer) : (pump i.close a).2 = .done (.error
      (if i.buffer.isEmpty then .protocol .closedEarly else .stream .unfinished)) := by
  cases i with
  | mk buffer ended readable stopped =>
    obtain ⟨rfl, rfl, -⟩ := h
    have hclose : (Inbox.mk buffer false readable false).close = ⟨buffer, true, true, false⟩ := rfl
    rw [hclose, pump]
    cases hb : buffer.isEmpty with
    | true => split <;> simp_all [Inbox.next]
    | false => split <;> simp_all [Inbox.next]

theorem play_done (seconds : Nat) (t : Tape) (c : Connection) (sent : List UInt8)
    (result : Except GatewayError Reply) (fuel : Nat) :
    play seconds t c sent (.done result) fuel = ⟨c, t, sent, result⟩ := by
  cases fuel <;> rfl

/-- What comes of a conversation when reading goes on with this inbox. -/
theorem agrees_resume {seconds : Nat} {c : Connection} (out : c.outbox = []) {i : Inbox}
    (ready : i.Ready) {a : Answer} {chunks : List (List UInt8)} {sent : List UInt8} {fuel : Nat}
    (later : ∀ c' b, c'.outbox = [] → c'.inbox.Ready →
      Framing.decode c'.inbox.buffer = .ok none →
      (play seconds { chunks } c' sent (.receiving b) fuel).Agrees sent
        (pump (c'.inbox.receive chunks.flatten) b)) :
    (play seconds { chunks } (resume c i a).1 sent (resume c i a).2 fuel).Agrees sent
      (pump (i.receive chunks.flatten) a) := by
  rw [pump_receive ready]
  have hcases := pump_ready ready a
  rcases hp : pump i a with ⟨j, x⟩
  rw [hp] at hcases
  simp only [resume, hp]
  -- either more is waited for, and then all of it may come at once, or all is done
  rcases hcases with ⟨b, rfl, hready, hd⟩ | ⟨result, rfl, hended, hreadable⟩
  · exact later { c with inbox := j } b out hready hd
  · rw [play_done]
    refine ⟨rfl, out, fun result' h => ?_, fun b h => by cases h⟩
    cases h
    exact ⟨rfl, hended, hreadable, chunks, rfl, rfl⟩

/-- **The rest of a conversation is read like one piece**, whatever the chunks. -/
theorem agrees_play (seconds : Nat) {c : Connection} (out : c.outbox = [])
    (ready : c.inbox.Ready) (starved : Framing.decode c.inbox.buffer = .ok none) (a : Answer)
    (chunks : List (List UInt8)) (sent : List UInt8) {fuel : Nat} (enough : chunks.length < fuel) :
    (play seconds { chunks } c sent (.receiving a) fuel).Agrees sent
      (pump (c.inbox.receive chunks.flatten) a) := by
  -- between two chunks no whole sentence is left in the buffer: `starved` carries the induction
  induction chunks generalizing c a fuel with
  | nil =>
    obtain ⟨fuel, rfl⟩ := Nat.exists_eq_succ_of_ne_zero (Nat.ne_zero_of_lt enough)
    have hall : pump (c.inbox.receive []) a
        = ({ c.inbox.receive [] with readable := false }, .receiving a) :=
      pump_of_none (Inbox.ready_receive ready []) (by rwa [Inbox.receive, List.append_nil])
    have hclose := pump_close ready starved a
    rcases hp : pump c.inbox.close a with ⟨j, x⟩
    rw [hp] at hclose
    simp only [play, Tape.react, Tape.onRead, step, resume, hp, hclose, play_done]
    rw [List.flatten_nil, hall]
    refine ⟨List.append_nil sent, out, fun result h => (by cases h), fun b _ => ?_⟩
    simp only [Inbox.receive, List.append_nil]
  | cons chunk chunks ih =>
    obtain ⟨fuel, rfl⟩ := Nat.exists_eq_succ_of_ne_zero (Nat.ne_zero_of_lt enough)
    have hchunks : c.inbox.receive (chunk :: chunks).flatten
        = (c.inbox.receive chunk).receive chunks.flatten := by
      simp only [Inbox.receive, List.flatten_cons, List.append_assoc]
    have hfuel : chunks.length < fuel := Nat.lt_of_succ_lt_succ enough
    have hstep : play seconds { chunks := chunk :: chunks } c sent (.receiving a) (fuel + 1)
        = play seconds { chunks } (resume c (c.inbox.receive chunk) a).1 sent
          (resume c (c.inbox.receive chunk) a).2 fuel := by
      simp only [play, Tape.react, Tape.onRead, step, Exchange.written, List.append_nil]
    rw [hchunks, hstep]
    exact agrees_resume out (Inbox.ready_receive ready chunk)
      fun c' b hout hready hd => ih hout hready hd b hfuel

theorem play_sending (seconds : Nat) (t : Tape) (writable : t.refuses? = none) (c : Connection)
    (sent : List UInt8) (fuel : Nat) :
    play seconds t c sent .sending (fuel + 1) =
      play seconds t (resume { c with outbox := [] } c.inbox {}).1 (sent ++ c.outbox)
        (resume { c with outbox := [] } c.inbox {}).2 fuel := by
  simp [play, Tape.react, Tape.onWrite, writable, step, Exchange.written]

theorem play_clearing (seconds : Nat) (t : Tape) (writable : t.refuses? = none) (c : Connection)
    (command : Command) (sent : List UInt8) (fuel : Nat) :
    play seconds t c sent (.clearing command) (fuel + 1) =
      play seconds t (frame { c with outbox := [] } command).1 (sent ++ c.outbox)
        (frame { c with outbox := [] } command).2 fuel := by
  simp [play, Tape.react, Tape.onWrite, writable, step, Exchange.written]

/-- What comes of a command depends on the whole stream, the bytes that arrived before and those
that are still to come. -/
theorem agrees_run {c : Connection} (ready : c.inbox.Ready) {command : Command}
    (fits : command.Fits) (seconds : Nat) (chunks : List (List UInt8)) :
    (run seconds { chunks } c command).Agrees (c.outbox ++ command.frame)
      (pump (.holding (c.inbox.buffer ++ chunks.flatten)) {}) := by
  have hframe (c : Connection) :
      frame c command = ({ c with outbox := c.outbox ++ command.frame }, .sending) := by
    have hwritten : (Framing.write command.words).fault = none := fits
    simp only [frame, hwritten, Command.frame]
  have hread (c : Connection) (ready : c.inbox.Ready) (sent : List UInt8) {fuel : Nat}
      (enough : chunks.length < fuel) :
      (play seconds { chunks } c sent .sending (fuel + 1)).Agrees (sent ++ c.outbox)
        (pump (.holding (c.inbox.buffer ++ chunks.flatten)) {}) := by
    rw [play_sending seconds { chunks } rfl, ← Inbox.receive_of_ready ready]
    exact agrees_resume rfl ready fun c' b hout hready hd =>
      agrees_play seconds hout hready hd b chunks _ enough
  unfold run start
  by_cases hfull : fullOutbox ≤ c.outbox.length
  · -- what was left in the outbox is written first
    simp only [if_pos hfull]
    rw [play_clearing seconds { chunks } rfl, hframe]
    exact hread { c with outbox := [] ++ command.frame } ready ([] ++ c.outbox) (by omega)
  · simp only [if_neg hfull, hframe]
    exact hread { c with outbox := c.outbox ++ command.frame } ready [] (by omega)

/-- **What comes of a command is settled by the first sentence that does not continue the answer.**
The command is written, and whatever arrived before and in whatever chunks the stream arrives: if it
is made of sentences that continue the answer, and then ends, it ended early. If one that does not
comes behind them it decides, together with them, and not a byte behind it is lost: the bytes are
still in the buffer, or on their way, when the next command begins. -/
theorem run_settled {c : Connection} (ready : c.inbox.Ready) {command : Command}
    (fits : command.Fits) (seconds : Nat) (chunks : List (List UInt8)) :
    let conv := run seconds { chunks } c command
    conv.written = c.outbox ++ command.frame
      ∧ (∀ sentences, Framing.Spells (c.inbox.buffer ++ chunks.flatten) sentences →
          (∀ words ∈ sentences, Answer.Continues words) →
            conv.result = .error (.protocol .closedEarly)
              ∧ ProtocolFault.closedEarly.message = "connection closed before !done")
      ∧ ∀ bytes rest before last, c.inbox.buffer ++ chunks.flatten = bytes ++ rest →
          Framing.Spells bytes (before ++ [last]) → (∀ words ∈ before, Answer.Continues words) →
          ¬ Answer.Continues last →
            Answer.Settles before last conv.result
              ∧ (conv.connection.inbox.Ready ∧ conv.connection.outbox = [])
              ∧ ∃ left, conv.tape = { chunks := left }
                ∧ conv.connection.inbox.buffer ++ left.flatten = rest := by
  -- played in chunks, the conversation agrees with one that is given all bytes at once
  intro conv
  have hagrees := agrees_run ready fits seconds chunks
  refine ⟨hagrees.written, fun sentences hspelled hcontinues => ⟨?_, rfl⟩, ?_⟩
  · -- every sentence leaves the answer open, so it is still open at the end of the stream
    obtain ⟨b, hb⟩ := Answer.gather_of_continues hcontinues {}
    rw [pump_continuing hspelled hb] at hagrees
    exact hagrees.short b rfl
  · intro bytes rest before last hstream hspelled hcontinues hends
    obtain ⟨b, hb⟩ := Answer.gather_of_continues hcontinues {}
    -- what comes behind the deciding sentence is left where it is
    obtain ⟨result, hlast, hsettles⟩ := Answer.settles_of_absorb hb hends
    rw [hstream, pump_ended hspelled hb hlast] at hagrees
    obtain ⟨hresult, hended, hreadable, left, htape, hleft⟩ := hagrees.settled result rfl
    refine ⟨hresult ▸ hsettles, ⟨⟨?_, hended, fun hf => ?_⟩, hagrees.silent⟩, left, htape, ?_⟩
    · exact congrArg Inbox.stopped hleft
    · exact absurd (hreadable.symm.trans hf) (by decide)
    · exact congrArg Inbox.buffer hleft

/-- Half a row was left over; the other half, two traps, the end and a byte more arrive in three
chunks. -/
theorem run_settled_two_traps :
    let c : Connection := { inbox := { buffer := [3, 33, 114] } }
    let command : Command := { path := "/ip/route/print" }
    let trap := (Framing.write ["!trap", "=message=first"]).bytes
    let later := (Framing.write ["!trap", "=message=second", "=category=2"]).bytes
    let chunks := [[101, 0] ++ trap, later, (Framing.write ["!done"]).bytes ++ [3]]
    let conv := run 10 { chunks } c command
    c.inbox.Ready ∧ command.Fits ∧ conv.written = command.frame
      ∧ Answer.Settles
          [["!re"], ["!trap", "=message=first"], ["!trap", "=message=second", "=category=2"]]
          ["!done"] conv.result
      ∧ ∃ left, conv.tape = { chunks := left }
        ∧ conv.connection.inbox.buffer ++ left.flatten = [3] := by
  intro c command trap later chunks conv
  have hready : c.inbox.Ready := ⟨rfl, rfl, fun _ => by decide +kernel⟩
  have hfits : command.Fits := by unfold Command.Fits; decide +kernel
  have hrow : Framing.Spells (Framing.write ["!re"]).bytes [["!re"]] :=
    Framing.spells_write (by decide) (by decide +kernel)
  have htrap : Framing.Spells trap [["!trap", "=message=first"]] :=
    Framing.spells_write (by decide) (by decide +kernel)
  have hlater : Framing.Spells later [["!trap", "=message=second", "=category=2"]] :=
    Framing.spells_write (by decide) (by decide +kernel)
  have hdone : Framing.Spells (Framing.write ["!done"]).bytes [["!done"]] :=
    Framing.spells_write (by decide) (by decide +kernel)
  have hspelled := Framing.spells_append
    (Framing.spells_append hrow (Framing.spells_append htrap hlater)) hdone
  have hstream : c.inbox.buffer ++ chunks.flatten =
      (((Framing.write ["!re"]).bytes ++ (trap ++ later)) ++ (Framing.write ["!done"]).bytes)
        ++ [3] := by decide +kernel
  obtain ⟨hwritten, -, hends⟩ := run_settled hready hfits 10 chunks
  obtain ⟨hsettles, -, hleft⟩ :=
    hends _ [3] _ _ hstream hspelled (by decide) (by decide)
  exact ⟨hready, hfits, hwritten, hsettles, hleft⟩

end Conversation

end RouterMenu
