import RouterMenu.Proofs.Wire.Framing
import RouterMenu.Gateway.Connection

/-!
# What an exchange has written and read

An exchange writes the frame of its command and nothing else, and only then does it read. What it
reads joins what the connection had left unread, and the whole is cut into sentences: those that
the answer has absorbed, and the bytes behind them, which stay in the buffer. `Exchange.Reached`
says this of every point an exchange can reach; it holds at the start and every event keeps it.
An exchange that ended with the end of the answer has therefore read a run of whole sentences,
and one that ended otherwise reports a fault of the transport.
-/

namespace RouterMenu

open Wire

/-- The bytes of a command, as far as it can be framed. -/
def Wire.Command.frame (c : Command) : List UInt8 := (Framing.write c.words).bytes

/-- No word of the command is too long. -/
def Wire.Command.Fits (c : Command) : Prop := (Framing.write c.words).fault = none

/-- The words of a command; they are none of them empty, but for the path perhaps. -/
theorem Wire.Command.words_ne_empty {c : Command} (h : c.path ≠ "") :
    ∀ word ∈ c.words, word ≠ "" := by
  intro word hw
  unfold words at hw
  rcases List.mem_cons.1 hw with rfl | hw
  · exact h
  · obtain ⟨clause, -, rfl⟩ := List.mem_map.1 hw
    intro he
    have hl := congrArg String.toList he
    cases clause <;> simp [Clause.word] at hl

/-- A frame is read back as its command. -/
theorem Wire.Command.decode_frame {c : Command} (h : c.path ≠ "") (hf : c.Fits) :
    Framing.decode c.frame = .ok (some (c.words, [])) :=
  Framing.decode_write_alone (words_ne_empty h) hf

/-! ## The sentences of an answer -/

namespace Answer

/-- What is gathered from sentences none of which ends the answer. -/
def gather (a : Answer) : List (List String) → Option Answer
  | [] => some a
  | words :: rest =>
    match a.absorb words with
    | .more b => b.gather rest
    | .done _ => none

theorem gather_append {a b : Answer} {sentences : List (List String)}
    (h : a.gather sentences = some b) (more : List (List String)) :
    a.gather (sentences ++ more) = b.gather more := by
  induction sentences generalizing a with
  | nil =>
    simp only [gather, Option.some.injEq] at h
    rw [h, List.nil_append]
  | cons words sentences ih =>
    simp only [gather, List.cons_append] at h ⊢
    cases ha : a.absorb words with
    | done result => simp [ha] at h
    | more a' =>
      simp only [ha] at h ⊢
      exact ih h

/-- The row a sentence carries, if it is one. -/
def row? : List String → Option Sentence
  | kind :: attributes => if kind = "!re" then some (Sentence.ofWords attributes) else none
  | [] => none

/-- The trap a sentence reports, if it is one. -/
def reported? : List String → Option Trap
  | kind :: attributes =>
    if kind = "!trap" then some (trapOf (Sentence.ofWords attributes)) else none
  | [] => none

/-- A sentence after which more are to come. -/
def Continues (words : List String) : Prop :=
  words.head? ∈ [none, some "!re", some "!trap", some "!empty"]

instance (words : List String) : Decidable (Continues words) :=
  inferInstanceAs (Decidable (_ ∈ _))

theorem absorb_of_continues {a : Answer} {words : List String} (h : Continues words) :
    a.absorb words =
      .more ⟨(row? words).toList ++ a.rows, a.trap?.or (reported? words)⟩ := by
  cases words with
  | nil => simp [absorb, row?, reported?]
  | cons kind attributes =>
    simp only [Continues, List.head?_cons, List.mem_cons, Option.some.injEq, List.not_mem_nil,
      or_false, reduceCtorEq, false_or] at h
    rcases h with rfl | rfl | rfl
    · simp [absorb, row?, reported?]
    · simp [absorb, row?, reported?]
    · simp [absorb, row?, reported?]

theorem continues_of_absorb {a b : Answer} {words : List String} (h : a.absorb words = .more b) :
    Continues words := by
  cases words with
  | nil => simp [Continues]
  | cons kind attributes =>
    -- the kinds of sentences in the order in which they are told apart
    unfold absorb at h
    simp only at h
    unfold Continues
    split at h
    · next hk => simp [hk]
    · split at h
      · simp at h
      · split at h
        · next hk => simp [hk]
        · split at h
          · simp at h
          · split at h
            · next hk => simp [hk]
            · simp at h

theorem gather_of_continues {body : List (List String)} (h : ∀ words ∈ body, Continues words)
    (a : Answer) : ∃ b, a.gather body = some b := by
  induction body generalizing a with
  | nil => exact ⟨a, rfl⟩
  | cons words body ih =>
    rw [gather, absorb_of_continues (h words (List.mem_cons_self ..))]
    exact ih (fun w hw => h w (List.mem_cons_of_mem _ hw)) _

/-- The rows and the first trap of what was gathered, and that no sentence ended the answer. -/
theorem gather_eq_some {a b : Answer} {sentences : List (List String)}
    (h : a.gather sentences = some b) :
    (∀ words ∈ sentences, Continues words)
      ∧ b.rows = (sentences.filterMap row?).reverse ++ a.rows
      ∧ b.trap? = a.trap?.or (sentences.findSome? reported?) := by
  induction sentences generalizing a with
  | nil =>
    simp only [gather, Option.some.injEq] at h
    subst h
    simp
  | cons words sentences ih =>
    simp only [gather] at h
    cases ha : a.absorb words with
    | done result => simp [ha] at h
    | more a' =>
      simp only [ha] at h
      have hc := continues_of_absorb ha
      rw [absorb_of_continues hc] at ha
      injection ha with ha
      obtain ⟨h1, h2, h3⟩ := ih h
      refine ⟨?_, ?_, ?_⟩
      · intro w hw
        rcases List.mem_cons.1 hw with rfl | hw
        · exact hc
        · exact h1 w hw
      · rw [h2, ← ha]
        -- a row goes before the rows already there, which are kept latest first
        cases hr : row? words with
        | none => simp [hr]
        | some row => simp [hr]
      · rw [h3, ← ha, List.findSome?_cons]
        -- of several traps the first is kept
        cases hr : reported? words with
        | none => simp
        | some trap => cases a.trap? <;> simp

/-- An answer that was read to its end ended with the sentence that says so. -/
theorem absorb_done_of_not_transport {a : Answer} {words : List String}
    {result : Except GatewayError Reply} (h : a.absorb words = .done result)
    (ht : ∀ e, result = .error e → e.isTransport = false) :
    ∃ attributes, words = "!done" :: attributes
      ∧ result = a.finish (Sentence.ofWords attributes) := by
  cases words with
  | nil => simp [absorb] at h
  | cons kind attributes =>
    unfold absorb at h
    simp only at h
    split at h
    · simp at h
    · split at h
      · next hk =>
        injection h with h
        exact ⟨attributes, by rw [hk], h.symm⟩
      · split at h
        · simp at h
        · -- the other ways to end are faults of the transport
          split at h
          · injection h with h
            have := ht _ h.symm
            simp [GatewayError.isTransport] at this
          · split at h
            · simp at h
            · injection h with h
              have := ht _ h.symm
              simp [GatewayError.isTransport] at this

end Answer

/-! ## Reading -/

namespace Inbox

theorem next_sentence {i j : Inbox} {words : List String} (h : i.next = (j, .sentence words)) :
    Framing.decode i.buffer = .ok (some (words, j.buffer)) := by
  -- a sentence is found in one branch only, where the buffer holds all of it
  unfold next at h
  split at h
  · simp at h
  · split at h
    · simp at h
    · split at h
      · simp at h
      · next hd =>
        simp only [Prod.mk.injEq, Found.sentence.injEq] at h
        obtain ⟨rfl, rfl⟩ := h
        exact hd
      · split at h
        · simp at h
        · split at h <;> simp at h

theorem next_starved {i j : Inbox} (h : i.next = (j, .starved)) : j.buffer = i.buffer := by
  unfold next at h
  split at h
  · simp at h
  · split at h
    · simp only [Prod.mk.injEq, and_true] at h
      rw [h]
    · split at h
      · simp at h
      · simp at h
      · split at h
        · simp only [Prod.mk.injEq, and_true] at h
          rw [← h]
        · split at h <;> simp at h

theorem next_fault {i j : Inbox} {e : GatewayError} (h : i.next = (j, .fault e)) :
    e.isTransport = true := by
  -- two branches find a fault: damaged framing, and an end in the middle of something
  unfold next at h
  split at h
  · simp at h
  · split at h
    · simp at h
    · split at h
      · simp only [Prod.mk.injEq, Found.fault.injEq] at h
        rw [← h.2]
        rfl
      · simp at h
      · split at h
        · simp at h
        · split at h
          · simp at h
          · simp only [Prod.mk.injEq, Found.fault.injEq] at h
            rw [← h.2]
            rfl

end Inbox

namespace Exchange

/-- **How reading goes on.** Whole sentences are taken from the front of the buffer, until more
bytes are needed or one of them ends the answer; or the transport is at fault. -/
theorem pump_cases {i j : Inbox} {a : Answer} {x : Exchange} (h : pump i a = (j, x)) :
    (∃ bytes sentences b, i.buffer = bytes ++ j.buffer ∧ Framing.Spells bytes sentences
        ∧ a.gather sentences = some b ∧ x = .receiving b)
      ∨ (∃ bytes sentences b last result, i.buffer = bytes ++ j.buffer
        ∧ Framing.Spells bytes (sentences ++ [last]) ∧ a.gather sentences = some b
        ∧ b.absorb last = .done result ∧ x = .done result)
      ∨ (∃ e, x = .done (.error e) ∧ e.isTransport = true) := by
  -- one sentence after another is taken off the buffer
  fun_induction pump i a generalizing j with
  | case1 i a k hn =>
    simp only [Prod.mk.injEq] at h
    obtain ⟨rfl, rfl⟩ := h
    exact .inl ⟨[], [], a, (Inbox.next_starved hn).symm, Framing.spells_nil, rfl, rfl⟩
  | case2 i a k hn =>
    simp only [Prod.mk.injEq] at h
    exact .inr (.inr ⟨_, h.2.symm, rfl⟩)
  | case3 i a k e hn =>
    simp only [Prod.mk.injEq] at h
    exact .inr (.inr ⟨e, h.2.symm, Inbox.next_fault hn⟩)
  | case4 i a k words hn b hb ih =>
    -- a sentence that leaves the answer open goes in front of what is taken next
    obtain ⟨frame, hi, hone⟩ := Framing.decode_alone (Inbox.next_sentence hn)
    rcases ih h with ⟨bytes, sentences, c, h1, h2, h3, h4⟩ |
      ⟨bytes, sentences, c, last, result, h1, h2, h3, h4, h5⟩ | ⟨e, h1, h2⟩
    · refine .inl ⟨frame ++ bytes, words :: sentences, c, ?_, Framing.spells_cons hone h2, ?_, h4⟩
      · rw [hi, h1, List.append_assoc]
      · rw [Answer.gather, hb]
        exact h3
    · refine .inr (.inl ⟨frame ++ bytes, words :: sentences, c, last, result, ?_,
        Framing.spells_cons hone h2, ?_, h4, h5⟩)
      · rw [hi, h1, List.append_assoc]
      · rw [Answer.gather, hb]
        exact h3
    · exact .inr (.inr ⟨e, h1, h2⟩)
  | case5 i a k words hn result hb =>
    simp only [Prod.mk.injEq] at h
    obtain ⟨rfl, rfl⟩ := h
    obtain ⟨frame, hi, hone⟩ := Framing.decode_alone (Inbox.next_sentence hn)
    refine .inr (.inl ⟨frame, [], a, words, result, hi, ?_, rfl, hb, rfl⟩)
    have := Framing.spells_cons hone Framing.spells_nil
    rwa [List.append_nil] at this

/-- The bytes an event lets an exchange read. -/
def heard : Exchange → StreamEvent → List UInt8
  | .receiving _, .delivered bytes => bytes
  | _, _ => []

/-- Where an exchange of a command can stand that began on the connection `c₀`, and the
connection with it, after the bytes `sent` were written and the bytes `got` were read. -/
inductive Reached (c₀ : Connection) (command : Command) (sent got : List UInt8) :
    Connection → Exchange → Prop where
  /-- What is in the outbox is all that is missing from the frame. -/
  | sending {c : Connection} (fits : command.Fits)
      (out : sent ++ c.outbox = command.frame) (quiet : got = [])
      (unread : c.inbox = c₀.inbox) : Reached c₀ command sent got c .sending
  /-- What is in the buffer is all that has not been absorbed. -/
  | receiving {c : Connection} {a : Answer} {bytes : List UInt8} {sentences : List (List String)}
      (fits : command.Fits)
      (out : sent = command.frame) (empty : c.outbox = [])
      (taken : c₀.inbox.buffer ++ got = bytes ++ c.inbox.buffer)
      (spelled : Framing.Spells bytes sentences)
      (gathered : ({} : Answer).gather sentences = some a) :
      Reached c₀ command sent got c (.receiving a)
  /-- A sentence ended the exchange. -/
  | ended {c : Connection} {a : Answer} {bytes : List UInt8} {sentences : List (List String)}
      {last : List String} {result : Except GatewayError Reply}
      (fits : command.Fits)
      (out : sent = command.frame) (empty : c.outbox = [])
      (taken : c₀.inbox.buffer ++ got = bytes ++ c.inbox.buffer)
      (spelled : Framing.Spells bytes (sentences ++ [last]))
      (gathered : ({} : Answer).gather sentences = some a)
      (closed : a.absorb last = .done result) : Reached c₀ command sent got c (.done result)
  /-- The transport was at fault, or the command does not fit into a frame. -/
  | broken {c : Connection} {e : GatewayError} (fault : e.isTransport = true)
      (out : sent <+: command.frame)
      (unfit : ¬ command.Fits → sent = []) :
      Reached c₀ command sent got c (.done (.error e))

/-- An exchange begins with nothing written and nothing read. -/
theorem reached_start {c₀ : Connection} {command : Command} (h : c₀.outbox = []) :
    Reached c₀ command [] [] (start c₀ command).1 (start c₀ command).2 := by
  have hfull : ¬ fullOutbox ≤ c₀.outbox.length := by rw [h]; decide
  rw [start, if_neg hfull, frame]
  cases hf : (Framing.write command.words).fault with
  | none =>
    simp only [h, List.nil_append]
    exact .sending hf rfl rfl rfl
  | some e => exact .broken rfl (List.nil_prefix ..) (fun _ => rfl)

/-- Reading on keeps a command's exchange on its course. -/
theorem reached_resume {c₀ c : Connection} {command : Command} {sent got before : List UInt8}
    {i : Inbox} {a : Answer} {sentences : List (List String)}
    (fits : command.Fits)
    (out : sent = command.frame) (empty : c.outbox = [])
    (taken : c₀.inbox.buffer ++ got = before ++ i.buffer)
    (spelled : Framing.Spells before sentences)
    (gathered : ({} : Answer).gather sentences = some a) :
    Reached c₀ command sent got (resume c i a).1 (resume c i a).2 := by
  rcases hp : pump i a with ⟨j, x⟩
  simp only [resume, hp]
  -- it goes on, it ends with a sentence, or it breaks off
  rcases pump_cases hp with ⟨bytes, more, b, h1, h2, h3, rfl⟩ |
    ⟨bytes, more, b, last, result, h1, h2, h3, h4, rfl⟩ | ⟨e, rfl, h2⟩
  · have htaken : c₀.inbox.buffer ++ got = (before ++ bytes) ++ j.buffer := by
      rw [taken, h1, List.append_assoc]
    refine .receiving fits out empty htaken (Framing.spells_append spelled h2) ?_
    rw [Answer.gather_append gathered, h3]
  · have htaken : c₀.inbox.buffer ++ got = (before ++ bytes) ++ j.buffer := by
      rw [taken, h1, List.append_assoc]
    have hspelled : Framing.Spells (before ++ bytes) ((sentences ++ more) ++ [last]) := by
      rw [List.append_assoc]
      exact Framing.spells_append spelled h2
    refine .ended fits out empty htaken hspelled ?_ h4
    rw [Answer.gather_append gathered, h3]
  · exact .broken h2 (out ▸ List.prefix_rfl) (fun hn => absurd fits hn)

/-- **Every event keeps an exchange on its course.** -/
theorem reached_step {c₀ c : Connection} {command : Command} {sent got : List UInt8} {x : Exchange}
    (h : Reached c₀ command sent got c x) (seconds : Nat) (event : StreamEvent) :
    Reached c₀ command (sent ++ x.written c event) (got ++ x.heard event)
      (x.step seconds c event).1 (x.step seconds c event).2 := by
  cases h with
  | sending fits out quiet unread =>
    have hpre : sent <+: command.frame := out ▸ List.prefix_append ..
    cases event <;> simp only [step, written, heard, List.append_nil]
    case took n =>
      have hout : (sent ++ c.outbox.take n) ++ c.outbox.drop n
          = command.frame := by
        rw [List.append_assoc, List.take_append_drop, out]
      split
      · next hd =>
        -- the command is out, and what was left unread is read first
        have hd' : c.outbox.drop n = [] := List.isEmpty_iff.1 hd
        rw [hd', List.append_nil] at hout
        have htaken : c₀.inbox.buffer ++ got = [] ++ c.inbox.buffer := by
          rw [quiet, List.append_nil, List.nil_append, unread]
        exact reached_resume fits hout hd' htaken Framing.spells_nil rfl
      · exact .sending fits hout quiet unread
    case refused => exact .broken rfl hpre (fun hn => absurd fits hn)
    case elapsed => exact .broken rfl hpre (fun hn => absurd fits hn)
    all_goals exact .sending fits out quiet unread
  | receiving fits out empty taken spelled gathered =>
    have hpre : sent <+: command.frame := out ▸ List.prefix_rfl
    cases event <;> simp only [step, written, heard, List.append_nil]
    case delivered bytes =>
      refine reached_resume fits out empty ?_ spelled gathered
      rw [← List.append_assoc, taken, List.append_assoc]
      rfl
    case ended =>
      refine reached_resume fits out empty ?_ spelled gathered
      rw [taken]
      unfold Inbox.close
      split <;> rfl
    case failed => exact .broken rfl hpre (fun hn => absurd fits hn)
    case elapsed => exact .broken rfl hpre (fun hn => absurd fits hn)
    all_goals exact .receiving fits out empty taken spelled gathered
  | ended fits out empty taken spelled gathered closed =>
    simp only [step, written, heard, List.append_nil]
    exact .ended fits out empty taken spelled gathered closed
  | broken fault out unfit =>
    simp only [step, written, heard, List.append_nil]
    exact .broken fault out unfit

/-- An exchange writes no more than the frame of its command, and nothing of one that does not
fit. -/
theorem Reached.sent_le {c₀ c : Connection} {command : Command} {sent got : List UInt8}
    {x : Exchange} (h : Reached c₀ command sent got c x) :
    sent <+: command.frame ∧ (command.Fits ∨ sent = []) := by
  cases h with
  | sending fits out quiet unread => exact ⟨out ▸ List.prefix_append .., .inl fits⟩
  | receiving fits out empty taken spelled gathered => exact ⟨out ▸ List.prefix_rfl, .inl fits⟩
  | ended fits out empty taken spelled gathered closed => exact ⟨out ▸ List.prefix_rfl, .inl fits⟩
  | broken fault out unfit =>
    refine ⟨out, ?_⟩
    by_cases hf : command.Fits
    · exact .inl hf
    · exact .inr (unfit hf)

end Exchange

end RouterMenu
