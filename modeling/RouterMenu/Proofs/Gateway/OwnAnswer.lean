import Mathlib.Control.Monad.Basic
import RouterMenu.Proofs.Gateway.Ledger

/-!
# No call receives the answer to another

The device of this module answers every sentence that it has received on a connection, once, with
sentences of its choice and one that ends the answer. How its bytes are delivered is left open:
in chunks of any kind, late, or not at all from some byte on. All that is asked (`Heeds`) is that
what a session reads has been sent, and that nothing is sent before the sentence that it answers
has been received in full.

A call that was answered has read as many answers on its connection as sentences were written
there, its own the last one: so the ledger of the connection and what the device had to say there
agree answer by answer, and the result of the call is what the device answered to its command.
-/

namespace RouterMenu

open Wire

/-! ## Sentences on the wire -/

/-- Frames are read back one by one. -/
theorem Wire.Framing.spells_frames {commands : List Command}
    (h : ∀ c ∈ commands, c.path ≠ "" ∧ c.Fits) :
    Framing.Spells (commands.flatMap Command.frame) (commands.map Command.words) := by
  induction commands with
  | nil => exact Framing.spells_nil
  | cons c commands ih =>
    obtain ⟨hp, hf⟩ := h c (List.mem_cons_self ..)
    exact Framing.spells_cons (Command.decode_frame hp hf)
      (ih fun c' hc' => h c' (List.mem_cons_of_mem _ hc'))

/-! ## Answer after answer -/

namespace Answer

/-- The outcomes of all answers in a row of sentences, the first of which goes on from here. -/
def outcomes (a : Answer) : List (List String) → List (Except GatewayError Reply)
  | [] => []
  | words :: rest =>
    match a.absorb words with
    | .more b => b.outcomes rest
    | .done result => result :: ({} : Answer).outcomes rest

/-- An answer that ends has its outcome, whatever comes after it. -/
theorem outcomes_append {a b : Answer} {body : List (List String)} {last : List String}
    {result : Except GatewayError Reply} (gathered : a.gather body = some b)
    (closed : b.absorb last = .done result) (later : List (List String)) :
    a.outcomes (body ++ [last] ++ later) = result :: ({} : Answer).outcomes later := by
  -- the sentences of the body only gather; the last one closes, and the next answer starts empty
  induction body generalizing a with
  | nil =>
    simp only [gather, Option.some.injEq] at gathered
    simp [outcomes, gathered, closed]
  | cons words body ih =>
    simp only [gather] at gathered
    cases ha : a.absorb words with
    | done result => simp [ha] at gathered
    | more a' =>
      simp only [ha] at gathered
      simp only [List.cons_append, outcomes, ha]
      exact ih gathered

end Answer

/-- The outcomes of exchanges that were answered are those of their sentences. -/
theorem Exchanged.outcomes_sentences (es : List Exchanged) (later : List (List String)) :
    ({} : Answer).outcomes (es.flatMap Exchanged.sentences ++ later)
      = es.map Exchanged.result ++ ({} : Answer).outcomes later := by
  induction es with
  | nil => rfl
  | cons e es ih =>
    rw [List.flatMap_cons, List.append_assoc, Exchanged.sentences,
      Answer.outcomes_append e.gathered e.closed, ih]
    rfl

/-! ## Devices that answer -/

/-- A sentence, and bytes that carry it and nothing else. -/
structure Frame where
  bytes : List UInt8
  words : List String
  reads : Framing.decode bytes = .ok (some (words, []))

/-- The frame of a sentence without empty words. -/
def Frame.ofWords (words : List String) (h : ∀ word ∈ words, word ≠ "")
    (hf : (Framing.write words).fault = none) : Frame where
  bytes := (Framing.write words).bytes
  words := words
  reads := Framing.decode_write_alone h hf

/-- What a device says to a sentence. -/
structure Response where
  /-- Empty sentences, rows, traps and notices that there are no rows. -/
  body : List Frame
  last : Frame
  continues : ∀ f ∈ body, Answer.Continues f.words
  ends : last.words.head? = some "!done"

namespace Response

/-- All sentences of a response. -/
def sentences (r : Response) : List (List String) := r.body.map Frame.words ++ [r.last.words]

/-- All bytes of a response. -/
def bytes (r : Response) : List UInt8 := r.body.flatMap Frame.bytes ++ r.last.bytes

/-- What a response means for whoever asked: the first trap in it, if there is one, and otherwise
its rows and what came with its end. -/
def outcome (r : Response) : Except GatewayError Reply :=
  match (r.body.map Frame.words).findSome? Answer.reported? with
  | some trap => .error (.device trap)
  | none =>
    .ok ⟨(r.body.map Frame.words).filterMap Answer.row?, Sentence.ofWords r.last.words.tail⟩

theorem spells (r : Response) : Framing.Spells r.bytes r.sentences := by
  have hbody : ∀ frames : List Frame,
      Framing.Spells (frames.flatMap Frame.bytes) (frames.map Frame.words) := by
    intro frames
    induction frames with
    | nil => exact Framing.spells_nil
    | cons f frames ih => exact Framing.spells_cons f.reads ih
  have hlast := Framing.spells_cons r.last.reads Framing.spells_nil
  rw [List.append_nil] at hlast
  exact Framing.spells_append (hbody r.body) hlast

/-- The sentences of a response are an answer with its outcome. -/
theorem outcomes_sentences (rs : List Response) :
    ({} : Answer).outcomes (rs.flatMap Response.sentences) = rs.map Response.outcome := by
  induction rs with
  | nil => rfl
  | cons r rs ih =>
    have hcont : ∀ words ∈ r.body.map Frame.words, Answer.Continues words := by
      intro words hw
      obtain ⟨f, hf, rfl⟩ := List.mem_map.1 hw
      exact r.continues f hf
    obtain ⟨b, hb⟩ := Answer.gather_of_continues hcont {}
    obtain ⟨-, hrows, htrap⟩ := Answer.gather_eq_some hb
    -- the last sentence hands over what was gathered: the first trap, or else the rows
    have hlast : b.absorb r.last.words = .done r.outcome := by
      cases hw : r.last.words with
      | nil =>
        have hends := r.ends
        rw [hw] at hends
        simp at hends
      | cons kind attributes =>
        have hkind : kind = "!done" := by
          have hends := r.ends
          rw [hw] at hends
          simpa using hends
        rw [hkind, outcome, hw]
        simp only [Option.none_or, List.append_nil] at hrows htrap
        rw [← htrap]
        simp only [Answer.absorb, Answer.finish, hrows, List.reverse_reverse]
        cases b.trap? <;> rfl
    rw [List.flatMap_cons, Response.sentences, Answer.outcomes_append hb hlast, ih]
    rfl

end Response

/-- A device that answers: what it says on a connection to the last of the sentences that it has
received there. As each sentence is received once, any choice that a device can make on its way is
the choice of such a function. -/
def Responder : Type := Nat → List (List String) → Response

namespace Responder

/-- The responses to sentences received on a connection, one for each. -/
def responses (r : Responder) (id : Nat) (received : List (List String)) : List Response :=
  (List.range received.length).map fun k => r id (received.take (k + 1))

/-- All that the device sends on a connection after it received these sentences. -/
def sends (r : Responder) (id : Nat) (received : List (List String)) : List UInt8 :=
  (r.responses id received).flatMap Response.bytes

/-- The responses to more sentences come behind those to the first ones. -/
theorem responses_append (r : Responder) (id : Nat) (received more : List (List String)) :
    r.responses id (received ++ more) = r.responses id received
      ++ (List.range more.length).map fun k => r id (received ++ more.take (k + 1)) := by
  unfold responses
  rw [List.length_append, List.range_add, List.map_append, List.map_map]
  congr 1
  · refine List.map_congr_left fun k hk => ?_
    have hlt := List.mem_range.1 hk
    rw [List.take_append_of_le_length (by omega)]
  · refine List.map_congr_left fun k _ => ?_
    rw [Function.comp_apply, Nat.add_assoc, List.take_length_add_append]

theorem sends_mono (r : Responder) (id : Nat) {received more : List (List String)}
    (h : received <+: more) : r.sends id received <+: r.sends id more := by
  obtain ⟨rest, rfl⟩ := h
  unfold sends
  rw [responses_append, List.flatMap_append]
  exact List.prefix_append ..

theorem spells (r : Responder) (id : Nat) (received : List (List String)) :
    Framing.Spells (r.sends id received)
      ((r.responses id received).flatMap Response.sentences) := by
  unfold sends
  induction r.responses id received with
  | nil => exact Framing.spells_nil
  | cons one rs ih => exact Framing.spells_append one.spells ih

/-- The last response is the one to the last sentence. -/
theorem responses_concat (r : Responder) (id : Nat) (received : List (List String))
    (words : List String) :
    r.responses id (received ++ [words])
      = r.responses id received ++ [r id (received ++ [words])] := by
  rw [responses_append]
  simp

end Responder

/-- Whatever is read was sent by the device, in answer to sentences that it had received. -/
def Heeds (r : Responder) (deeds : List Deed) : Prop :=
  ∀ later id bytes earlier, deeds = later ++ .read id bytes :: earlier →
    Deed.heard id (.read id bytes :: earlier) <+: r.sends id (Deed.received id earlier)

theorem heeds_cons {r : Responder} {e : Deed} {earlier : List Deed} :
    Heeds r (e :: earlier) ↔ Heeds r earlier ∧ ∀ id bytes, e = .read id bytes →
      Deed.heard id (.read id bytes :: earlier) <+: r.sends id (Deed.received id earlier) := by
  constructor
  · intro h
    refine ⟨fun later id bytes before heq => ?_, fun id bytes he => ?_⟩
    · exact h (e :: later) id bytes before (by rw [heq, List.cons_append])
    · exact h [] id bytes earlier (by rw [he, List.nil_append])
  · rintro ⟨h1, h2⟩ later id bytes before heq
    -- the deed in question is the latest one, or an earlier one
    cases later with
    | nil =>
      injection heq with he hb
      subst hb
      exact h2 id bytes he
    | cons x later =>
      injection heq with he hb
      exact h1 later id bytes before hb

/-- Whether a device was heeded can be tested, deed by deed. -/
instance decidableHeeds (r : Responder) : (deeds : List Deed) → Decidable (Heeds r deeds)
  | [] => isTrue (by intro later id bytes earlier h; simp at h)
  | e :: earlier =>
    have := decidableHeeds r earlier
    have : Decidable (∀ id bytes, e = .read id bytes →
        Deed.heard id (.read id bytes :: earlier) <+: r.sends id (Deed.received id earlier)) :=
      match e with
      | .read id bytes =>
        decidable_of_iff
          (Deed.heard id (.read id bytes :: earlier) <+: r.sends id (Deed.received id earlier))
          ⟨fun h k more hk => by
            injection hk with h1 h2
            rw [← h1, ← h2]
            exact h, fun h => h id bytes rfl⟩
      | .published _ | .dialed _ | .wrote .. | .dropped _ =>
        isTrue (by intro id bytes h; simp at h)
    decidable_of_iff _ heeds_cons.symm

/-- At any time no more has been heard than the device had to say. -/
theorem heard_le_sends {r : Responder} {deeds : List Deed} (h : Heeds r deeds) (id : Nat) :
    Deed.heard id deeds <+: r.sends id (Deed.received id deeds) := by
  induction deeds with
  | nil => exact List.nil_prefix ..
  | cons e earlier ih =>
    obtain ⟨h1, h2⟩ := heeds_cons.1 h
    have hih := ih h1
    -- what was received can only have grown
    have hrec : Deed.received id earlier <+: Deed.received id (e :: earlier) := by
      unfold Deed.received
      rw [Deed.written_cons]
      exact Framing.drain_sentences_append ..
    refine List.IsPrefix.trans ?_ (r.sends_mono id hrec)
    by_cases hc : ∃ bytes, e = .read id bytes
    · obtain ⟨bytes, rfl⟩ := hc
      exact h2 id bytes rfl
    · have hgot : e.got id = [] := by
        cases e with
        | read k bytes =>
          have hk : k ≠ id := fun hk => hc ⟨bytes, by rw [hk]⟩
          simp [Deed.got, hk]
        | _ => rfl
      rw [Deed.heard_cons, hgot, List.append_nil]
      exact hih

/-! ## The answer to a call -/

namespace Session

variable {d : Device} {r : Responder}

/-- The sentences received on a connection are those of its login and of the commands since. -/
theorem received_of_admitted {calls : List Command} (paths : ∀ c ∈ calls, c.path ≠ "")
    {deeds : List Deed} {live : Live} {login : Exchanged} {past : List Exchanged}
    (h : Admitted d calls deeds live login past) :
    Deed.received live.id deeds
      = (login :: past).map fun e => e.command.words := by
  have hfits : ∀ c ∈ (login :: past).map Exchanged.command, c.path ≠ "" ∧ c.Fits := by
    intro c hc
    obtain ⟨e, he, rfl⟩ := List.mem_map.1 hc
    refine ⟨?_, e.fits⟩
    rcases List.mem_cons.1 he with rfl | he
    · rw [h.asked]
      simp [Login.command, Command.attr]
    · exact paths _ (h.called.subset (List.mem_map_of_mem he))
  -- all that was written are whole frames, so reading them back gives the sentences
  have hw : Deed.written live.id deeds
      = ((login :: past).map Exchanged.command).flatMap Command.frame := by
    rw [h.written, List.map_cons, h.asked]
  have hs := Framing.spells_frames hfits
  rw [← hw] at hs
  unfold Framing.Spells at hs
  rw [Deed.received, hs, List.map_map]
  rfl

/-- **The ledger and the device agree** answer by answer. -/
theorem outcomes_of_admitted {calls : List Command} (paths : ∀ c ∈ calls, c.path ≠ "")
    {deeds : List Deed} (heeds : Heeds r deeds) {live : Live} {login : Exchanged}
    {past : List Exchanged} (h : Admitted d calls deeds live login past) :
    (login :: past).map Exchanged.result
      = (r.responses live.id (Deed.received live.id deeds)).map Response.outcome := by
  obtain ⟨bytes, hb, hspelled⟩ := h.ledger.taken
  obtain ⟨unread, hunread⟩ := heard_le_sends heeds live.id
  -- what was read and what was sent begin with the same sentences
  have hsent := r.spells live.id (Deed.received live.id deeds)
  rw [← hunread, hb, List.append_assoc] at hsent
  unfold Framing.Spells at hsent
  rw [Framing.drain_append hspelled] at hsent
  have hsentences := congrArg Framing.Drained.sentences hsent
  have houtcomes := congrArg ({} : Answer).outcomes hsentences
  rw [Exchanged.outcomes_sentences, Response.outcomes_sentences] at houtcomes
  -- and there are as many of one kind as of the other
  have hlength := congrArg List.length houtcomes
  rw [List.length_append, List.length_map, List.length_map, Responder.responses, List.length_map,
    List.length_range, received_of_admitted paths h, List.length_map] at hlength
  have hnil : ({} : Answer).outcomes
      (Framing.drain (live.connection.inbox.buffer ++ unread)).sentences = [] := by
    rw [← List.length_eq_zero_iff]
    omega
  rw [hnil, List.append_nil] at houtcomes
  exact houtcomes

/-- A login does not fail as commands fail. -/
theorem outcome_ne_device (result : Except GatewayError Reply) (trap : Trap) :
    Login.outcome result ≠ .error (.device trap) := by
  cases result with
  | ok reply =>
    simp only [Login.outcome]
    split <;> simp
  | error e => cases e <;> simp [Login.outcome]

theorem dialFault_ne_device (fault : DialFault) (trap : Trap) :
    fault.error d ≠ .device trap := by
  cases fault <;> simp [DialFault.error]

/-- Only a call that was answered has a reply, or a trap, to show. -/
theorem answered_of_result {s s' : Session} {command : Command}
    {result : Except GatewayError Reply} (hr : Reached d s command s' (.done result))
    (h : (∃ reply, result = .ok reply) ∨ ∃ trap, result = .error (.device trap)) :
    ∃ b live talk c, Ready d s b live ∧ Deed.Over live.id talk
      ∧ Exchange.Reached live.connection command (Deed.written live.id talk)
        (Deed.heard live.id talk) c (.done result)
      ∧ isAnswered result = true
      ∧ s'.slot? = some ⟨live.id, c⟩ ∧ s'.deeds = talk ++ b.deeds := by
  -- a reply or a trap comes from no other end of a call than an answer
  cases hr with
  | unopened vacant fault =>
    rcases h with ⟨reply, h⟩ | ⟨trap, h⟩
    · simp at h
    · exact absurd (Except.error.inj h) (dialFault_ne_device fault trap)
  | @rejected talk c result' e vacant along reached refused =>
    rcases h with ⟨reply, h⟩ | ⟨trap, h⟩
    · simp at h
    · rw [Except.error.inj h] at refused
      exact absurd refused (outcome_ne_device result' trap)
  | @answered b live talk c _ ready along reached answered =>
    exact ⟨b, live, talk, c, ready, along, reached, answered, rfl, rfl⟩
  | lost ready along reached unanswered =>
    rcases h with ⟨reply, rfl⟩ | ⟨trap, rfl⟩
    · simp [isAnswered] at unanswered
    · simp [isAnswered, GatewayError.isTransport] at unanswered

/-- **No call receives the answer to another.** A device answers the sentences that it receives, in
whatever way and whatever becomes of its bytes. After any turns, if a call has a reply to show, or
the trap that a device reported, then its command was received behind the sentences of calls before
it on the same connection, or behind the login on one that was opened for it; and what the call
shows is what the device answered to this very sentence. -/
theorem result_of_own_answer {turns : List Turn} {command : Command} {stimuli : List Stimulus}
    {s' : Session} {result : Except GatewayError Reply}
    (paths : ∀ c ∈ (turns ++ [Turn.call command stimuli]).filterMap Turn.command?, c.path ≠ "")
    (ends : (run d {} turns).through d command stimuli = (s', .done result))
    (heeds : Heeds r s'.deeds)
    (shows : (∃ reply, result = .ok reply) ∨ ∃ trap, result = .error (.device trap)) :
    ∃ id earlier, s'.slot?.map Live.id = some id
      ∧ ((run d {} turns).slot?.map Live.id = some id
          ∧ earlier = Deed.received id (run d {} turns).deeds
        ∨ (run d {} turns).slot? = none ∧ id = (run d {} turns).dials
          ∧ earlier = [(Login.command d.credentials).words])
      ∧ Deed.received id s'.deeds = earlier ++ [command.words]
      ∧ result = (r id (earlier ++ [command.words])).outcome := by
  have hkept := kept_run d turns
  obtain ⟨hr, -⟩ := reached_run d turns command stimuli
  rw [ends] at hr
  obtain ⟨b, live, talk, c, ready, along, reached, answered, hslot, hdeeds⟩ :=
    answered_of_result hr shows
  obtain ⟨login, past, e, rfl, rfl, hbefore, hnew, hafter⟩ := hkept.answered ready reached answered
  rw [List.filterMap_append] at paths
  rw [hdeeds] at heeds
  -- what was received, and the outcomes of all answers, before this call and with it
  have hpaths : ∀ c ∈ turns.filterMap Turn.command?, c.path ≠ "" :=
    fun c hc => paths c (List.mem_append_left _ hc)
  have hreceived := received_of_admitted paths hafter
  have houtcomes := outcomes_of_admitted paths heeds hafter
  have hearlier := received_of_admitted hpaths hbefore
  rw [← List.cons_append, List.map_append, ← hearlier, List.map_singleton] at hreceived
  rw [hreceived, Responder.responses_concat, ← List.cons_append, List.map_append, List.map_append]
    at houtcomes
  have hlast := (List.append_inj' houtcomes rfl).2
  rw [hslot, hdeeds]
  refine ⟨live.id, Deed.received live.id b.deeds, rfl, ?_, hreceived, by simpa using hlast⟩
  cases ready with
  | kept held => exact .inl ⟨by rw [held]; rfl, rfl⟩
  | opened vacant along reached' accepted =>
    refine .inr ⟨vacant, rfl, ?_⟩
    rw [hearlier, hnew vacant, List.map_singleton, hbefore.asked]

deriving instance DecidableEq for Exchange, Call

/-- A device without anything to tell but one row, in answer to the third sentence. -/
def rowAtThird : Responder := fun _ received =>
  let done := Frame.ofWords ["!done"] (by decide) (by decide +kernel)
  let row := Frame.ofWords ["!re", "=name=c"] (by decide) (by decide +kernel)
  { body := if received.length = 3 then [row] else []
    last := done
    continues := by
      intro f hf
      split at hf
      · rw [List.mem_singleton.1 hf]
        decide
      · simp at hf
    ends := by decide }

/-- What happens to a call that is answered by `rowAtThird`, which says `bytes` in two pieces. -/
def inPieces (bytes : List UInt8) : List Stimulus :=
  [.stream (.took 64), .stream (.delivered (bytes.take 4)), .stream (.delivered (bytes.drop 4))]

/-- A call given up with half of its answer read, and one that was answered since. -/
def leftThenAnswered : List Turn :=
  let done := (rowAtThird 0 []).bytes
  [.call ⟨"/a", []⟩ ([.opened] ++ inPieces done ++ inPieces (done.take 4)),
    .call ⟨"/b", []⟩ ([.opened] ++ inPieces done ++ inPieces done)]

/-- The third sentence of the connection that is in use gets the row, not the third of all. -/
theorem row_after_left_call :
    ∃ s', (run {} {} leftThenAnswered).through {} ⟨"/c", []⟩
          (inPieces (rowAtThird 1 [[], [], []]).bytes)
        = (s', .done (.ok ⟨[Sentence.ofWords ["=name=c"]], Sentence.ofWords []⟩))
      ∧ Heeds rowAtThird s'.deeds
      ∧ ∃ id earlier, s'.slot?.map Live.id = some id
      ∧ ((run {} {} leftThenAnswered).slot?.map Live.id = some id
          ∧ earlier = Deed.received id (run {} {} leftThenAnswered).deeds
        ∨ (run {} {} leftThenAnswered).slot? = none ∧ id = (run {} {} leftThenAnswered).dials
          ∧ earlier = [(Login.command (Device.credentials {})).words])
      ∧ Deed.received id s'.deeds = earlier ++ [["/c"]]
      ∧ .ok ⟨[Sentence.ofWords ["=name=c"]], Sentence.ofWords []⟩
        = (rowAtThird id (earlier ++ [["/c"]])).outcome := by
  have hdone : ((run {} {} leftThenAnswered).through {} ⟨"/c", []⟩
      (inPieces (rowAtThird 1 [[], [], []]).bytes)).2
        = .done (.ok ⟨[Sentence.ofWords ["=name=c"]], Sentence.ofWords []⟩) := by decide +kernel
  have hheeds : Heeds rowAtThird ((run {} {} leftThenAnswered).through {} ⟨"/c", []⟩
      (inPieces (rowAtThird 1 [[], [], []]).bytes)).1.deeds := by decide +kernel
  exact ⟨_, Prod.ext rfl hdone, hheeds,
    result_of_own_answer (by decide) (Prod.ext rfl hdone) hheeds (.inl ⟨_, rfl⟩)⟩

end Session

end RouterMenu
