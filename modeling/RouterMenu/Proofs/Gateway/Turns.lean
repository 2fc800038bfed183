import Mathlib.Data.List.Induction
import RouterMenu.Proofs.Gateway.Exchange
import RouterMenu.Gateway.Session

/-!
# Everything a call can do

A session is used by turns: a call is carried to its end, or the session is closed, or somebody
gives up before the turn comes. `Session.run` takes turns one after another, and every session
there is has been reached by such a run.

`Session.Reached` lists where a call can stand that began in a session, with all that it has done
by then; it holds when the call begins and every stimulus keeps it. Whatever is true of a call is
read off this list, and no other proof looks into the steps of a call.
-/

namespace RouterMenu

open Wire

/-! ## The bytes among the deeds -/

namespace Deed

/-- The bytes a deed wrote on a connection. -/
def sent (id : Nat) : Deed → List UInt8
  | .wrote k bytes => if k = id then bytes else []
  | _ => []

/-- The bytes a deed read from a connection. -/
def got (id : Nat) : Deed → List UInt8
  | .read k bytes => if k = id then bytes else []
  | _ => []

/-- All bytes written on a connection. Deeds are listed latest first. -/
def written (id : Nat) (deeds : List Deed) : List UInt8 := deeds.reverse.flatMap (sent id)

/-- All bytes read from a connection. -/
def heard (id : Nat) (deeds : List Deed) : List UInt8 := deeds.reverse.flatMap (got id)

/-- The sentences that the other side of a connection has received in full. -/
def received (id : Nat) (deeds : List Deed) : List (List String) :=
  (Framing.drain (written id deeds)).sentences

theorem written_append (id : Nat) (later earlier : List Deed) :
    written id (later ++ earlier) = written id earlier ++ written id later := by
  simp [written]

theorem heard_append (id : Nat) (later earlier : List Deed) :
    heard id (later ++ earlier) = heard id earlier ++ heard id later := by
  simp [heard]

theorem written_cons (id : Nat) (e : Deed) (earlier : List Deed) :
    written id (e :: earlier) = written id earlier ++ e.sent id := by
  simp [written]

theorem heard_cons (id : Nat) (e : Deed) (earlier : List Deed) :
    heard id (e :: earlier) = heard id earlier ++ e.got id := by
  simp [heard]

theorem received_of_written_nil {id : Nat} {deeds : List Deed} (h : written id deeds = []) :
    received id deeds = [] := by
  have hnil := Framing.spells_nil
  unfold Framing.Spells at hnil
  rw [received, h, hnil]

/-- The connection over which a deed moved bytes. -/
def connection? : Deed → Option Nat
  | .wrote id _ | .read id _ => some id
  | _ => none

theorem sent_of_connection_ne {id : Nat} {e : Deed} (h : e.connection? ≠ some id) :
    e.sent id = [] := by
  cases e with
  | wrote k bytes =>
    have hk : k ≠ id := fun hk => h (by rw [hk]; rfl)
    simp [sent, hk]
  | _ => rfl

theorem got_of_connection_ne {id : Nat} {e : Deed} (h : e.connection? ≠ some id) :
    e.got id = [] := by
  cases e with
  | read k bytes =>
    have hk : k ≠ id := fun hk => h (by rw [hk]; rfl)
    simp [got, hk]
  | _ => rfl

/-- Deeds that moved nothing over a connection add nothing to its bytes. -/
theorem quiet_append {id : Nat} {later : List Deed} (h : ∀ e ∈ later, e.connection? ≠ some id)
    (earlier : List Deed) :
    written id (later ++ earlier) = written id earlier
      ∧ heard id (later ++ earlier) = heard id earlier := by
  induction later with
  | nil => exact ⟨rfl, rfl⟩
  | cons e later ih =>
    have he := h e (List.mem_cons_self ..)
    obtain ⟨h1, h2⟩ := ih (fun e' he' => h e' (List.mem_cons_of_mem _ he'))
    rw [List.cons_append, written_cons, heard_cons, h1, h2, sent_of_connection_ne he,
      got_of_connection_ne he, List.append_nil, List.append_nil]
    exact ⟨rfl, rfl⟩

/-- Nothing but traffic over one connection. -/
def Over (id : Nat) (talk : List Deed) : Prop :=
  ∀ e ∈ talk, ∃ bytes, e = .wrote id bytes ∨ e = .read id bytes

theorem Over.connection {id : Nat} {talk : List Deed} (h : Over id talk) {e : Deed}
    (he : e ∈ talk) : e.connection? = some id := by
  obtain ⟨bytes, rfl | rfl⟩ := h e he <;> rfl

theorem over_nil (id : Nat) : Over id [] := by
  intro e he
  simp at he

theorem over_cons_wrote {id : Nat} {talk : List Deed} (h : Over id talk) (bytes : List UInt8) :
    Over id (.wrote id bytes :: talk) := by
  intro e he
  rcases List.mem_cons.1 he with rfl | he
  · exact ⟨bytes, .inl rfl⟩
  · exact h e he

theorem over_cons_read {id : Nat} {talk : List Deed} (h : Over id talk) (bytes : List UInt8) :
    Over id (.read id bytes :: talk) := by
  intro e he
  rcases List.mem_cons.1 he with rfl | he
  · exact ⟨bytes, .inr rfl⟩
  · exact h e he

end Deed

/-! ## Turns -/

/-- What is done with a session at one go. -/
inductive Turn where
  /-- A call, and what happens to it. Should it not be over by then, nobody waits any longer. -/
  | call (command : Command) (stimuli : List Stimulus)
  | close
  /-- A call or a closing given up before its turn came. -/
  | forgone
deriving DecidableEq, Repr

/-- The command of a call. -/
def Turn.command? : Turn → Option Command
  | .call command _ => some command
  | _ => none

namespace Session

variable (d : Device)

/-- Lets stimuli act on a call one after another. -/
def feel (c : Session × Call) (stimuli : List Stimulus) : Session × Call :=
  stimuli.foldl (fun c stimulus => c.1.step d c.2 stimulus) c

/-- A call from its beginning to its end. -/
def through (s : Session) (command : Command) (stimuli : List Stimulus) : Session × Call :=
  feel d (s.begin command) (stimuli ++ [.abandoned])

/-- The session after a turn. -/
def turn (s : Session) : Turn → Session
  | .call command stimuli => (s.through d command stimuli).1
  | .close => s.close
  | .forgone => s

/-- The session after turns taken one after another. -/
def run (s : Session) (turns : List Turn) : Session := turns.foldl (turn d) s

theorem run_append (s : Session) (turns more : List Turn) :
    run d s (turns ++ more) = run d (run d s turns) more := by
  simp [run]

theorem run_concat (s : Session) (turns : List Turn) (t : Turn) :
    run d s (turns ++ [t]) = (run d s turns).turn d t := by
  simp [run]

end Session

/-- Nothing can happen to a call that is over. -/
def Call.Over : Call → Prop
  | .done _ | .abandoned => True
  | _ => False

/-- A call that ended with a fault of the transport, or that was given up. -/
def Call.Lost : Call → Prop
  | .done (.error e) => e.isTransport = true
  | .abandoned => True
  | _ => False

theorem Call.Lost.ended {c : Call} (h : c.Lost) : c.Over := by
  cases c <;> simp_all [Call.Lost, Call.Over]

/-- A user is let in by a reply without a challenge. -/
theorem Login.accepted_of_outcome {result : Except GatewayError Reply} {u : Unit}
    (h : Login.outcome result = .ok u) : ∃ reply, result = .ok reply ∧ reply.ret? = none := by
  cases result with
  | error e => cases e <;> simp [Login.outcome] at h
  | ok reply =>
    refine ⟨reply, rfl, ?_⟩
    simp only [Login.outcome] at h
    split at h
    · simp at h
    · next hr => simpa using hr

namespace Session

/-- What holds when a session begins and is kept by every turn holds after every run. -/
theorem run_induction {d : Device} {P : List Turn → Session → Prop} {s : Session} (init : P [] s)
    (step : ∀ turns t, P turns (run d s turns) → P (turns ++ [t]) ((run d s turns).turn d t))
    (turns : List Turn) : P turns (run d s turns) := by
  induction turns using List.reverseRecOn with
  | nil => exact init
  | append_singleton turns t ih =>
    rw [run_concat]
    exact step turns t ih

/-- What a call keeps at every stimulus it keeps to its end. -/
theorem feel_induction {d : Device} {P : Session → Call → Prop}
    (step : ∀ s c stimulus, P s c → P (s.step d c stimulus).1 (s.step d c stimulus).2)
    {c : Session × Call} (h : P c.1 c.2) (stimuli : List Stimulus) :
    P (feel d c stimuli).1 (feel d c stimuli).2 := by
  induction stimuli generalizing c with
  | nil => exact h
  | cons stimulus stimuli ih => exact ih (step c.1 c.2 stimulus h)

theorem feel_append (d : Device) (r : Session × Call) (stimuli later : List Stimulus) :
    feel d r (stimuli ++ later) = feel d (feel d r stimuli) later := List.foldl_append

/-- Nothing happens to a call that is over. -/
theorem feel_over (d : Device) {c : Session × Call} (h : c.2.Over) (stimuli : List Stimulus) :
    feel d c stimuli = c := by
  induction stimuli with
  | nil => rfl
  | cons stimulus stimuli ih =>
    obtain ⟨s, call⟩ := c
    cases call with
    | done result => exact ih
    | abandoned => exact ih
    | dialing id command => simp [Call.Over] at h
    | entering live x command => simp [Call.Over] at h
    | running live x => simp [Call.Over] at h

/-- A call nobody waits for is over. -/
theorem over_step_abandoned (d : Device) (s : Session) (c : Call) :
    (s.step d c .abandoned).2.Over := by
  cases c <;> simp [step, Call.Over]

theorem through_over (d : Device) (s : Session) (command : Command) (stimuli : List Stimulus) :
    (s.through d command stimuli).2.Over := by
  unfold through feel
  rw [List.foldl_append]
  exact over_step_abandoned d _ _

/-! ## The course of a call -/

/-- The session with more deeds done. -/
def noteAll (s : Session) (talk : List Deed) : Session := { s with deeds := talk ++ s.deeds }

/-- The session as it is while its device is dialed. -/
def dialed (s : Session) : Session :=
  { s with
    status := .connecting
    dials := s.dials + 1
    deeds := .dialed s.dials :: .published .connecting :: s.deeds }

/-- The session and the connection on which a call sends its command: those it found, or a
connection that it opened and on which the user was let in. -/
inductive Ready (d : Device) (s : Session) : Session → Live → Prop where
  | kept {live : Live} (held : s.slot? = some live) : Ready d s { s with slot? := none } live
  | opened {talk : List Deed} {c : Connection} {reply : Reply} (vacant : s.slot? = none)
      (along : Deed.Over s.dials talk)
      (reached : Exchange.Reached {} (Login.command d.credentials) (Deed.written s.dials talk)
        (Deed.heard s.dials talk) c (.done (.ok reply)))
      (accepted : reply.ret? = none) :
      Ready d s ((s.dialed.noteAll talk).publish .connected) ⟨s.dials, c⟩

/-- Where a call of a command can stand that began in the session `s`, and the session with it. -/
inductive Reached (d : Device) (s : Session) (command : Command) : Session → Call → Prop where
  | dialing (vacant : s.slot? = none) : Reached d s command s.dialed (.dialing s.dials command)
  | unopened (vacant : s.slot? = none) (fault : DialFault) :
      Reached d s command (s.dialed.publish .failed) (.done (.error (fault.error d)))
  | leftDialing (vacant : s.slot? = none) :
      Reached d s command (s.dialed.publish .unconnected) .abandoned
  | entering {talk : List Deed} {c : Connection} {x : Exchange} (vacant : s.slot? = none)
      (along : Deed.Over s.dials talk)
      (reached : Exchange.Reached {} (Login.command d.credentials) (Deed.written s.dials talk)
        (Deed.heard s.dials talk) c x) :
      Reached d s command (s.dialed.noteAll talk) (.entering ⟨s.dials, c⟩ x command)
  | rejected {talk : List Deed} {c : Connection} {result : Except GatewayError Reply}
      {e : GatewayError} (vacant : s.slot? = none) (along : Deed.Over s.dials talk)
      (reached : Exchange.Reached {} (Login.command d.credentials) (Deed.written s.dials talk)
        (Deed.heard s.dials talk) c (.done result))
      (refused : Login.outcome result = .error e) :
      Reached d s command (((s.dialed.noteAll talk).note (.dropped s.dials)).publish .failed)
        (.done (.error e))
  | leftEntering {talk : List Deed} {c : Connection} {x : Exchange} (vacant : s.slot? = none)
      (along : Deed.Over s.dials talk)
      (reached : Exchange.Reached {} (Login.command d.credentials) (Deed.written s.dials talk)
        (Deed.heard s.dials talk) c x) :
      Reached d s command (((s.dialed.noteAll talk).note (.dropped s.dials)).publish .unconnected)
        .abandoned
  | running {b : Session} {live : Live} {talk : List Deed} {c : Connection} {x : Exchange}
      (ready : Ready d s b live) (along : Deed.Over live.id talk)
      (reached : Exchange.Reached live.connection command (Deed.written live.id talk)
        (Deed.heard live.id talk) c x) :
      Reached d s command (b.noteAll talk) (.running ⟨live.id, c⟩ x)
  | answered {b : Session} {live : Live} {talk : List Deed} {c : Connection}
      {result : Except GatewayError Reply} (ready : Ready d s b live)
      (along : Deed.Over live.id talk)
      (reached : Exchange.Reached live.connection command (Deed.written live.id talk)
        (Deed.heard live.id talk) c (.done result)) (answered : isAnswered result = true) :
      Reached d s command { b.noteAll talk with slot? := some ⟨live.id, c⟩ } (.done result)
  | lost {b : Session} {live : Live} {talk : List Deed} {c : Connection}
      {result : Except GatewayError Reply} (ready : Ready d s b live)
      (along : Deed.Over live.id talk)
      (reached : Exchange.Reached live.connection command (Deed.written live.id talk)
        (Deed.heard live.id talk) c (.done result)) (unanswered : isAnswered result = false) :
      Reached d s command (((b.noteAll talk).note (.dropped live.id)).publish .unconnected)
        (.done result)
  | leftRunning {b : Session} {live : Live} {talk : List Deed} {c : Connection} {x : Exchange}
      (ready : Ready d s b live) (along : Deed.Over live.id talk)
      (reached : Exchange.Reached live.connection command (Deed.written live.id talk)
        (Deed.heard live.id talk) c x) :
      Reached d s command (((b.noteAll talk).note (.dropped live.id)).publish .unconnected)
        .abandoned

variable {d : Device} {s : Session} {command : Command}

@[simp] theorem noteAll_nil (b : Session) : b.noteAll [] = b := rfl

/-- A call that uses a connection has taken it out of the slot. -/
theorem Ready.slot {b : Session} {live : Live} (h : Ready d s b live) : b.slot? = none := by
  cases h with
  | kept held => rfl
  | opened vacant along reached accepted => exact vacant

/-- A connection that is ready has written out everything. -/
theorem Ready.outbox {b : Session} {live : Live} (h : Ready d s b live)
    (hs : ∀ live, s.slot? = some live → live.connection.outbox = []) :
    live.connection.outbox = [] := by
  cases h with
  | kept held => exact hs live held
  | opened vacant along reached accepted =>
    cases reached with
    | ended fits out empty taken spelled gathered closed => exact empty

/-- An exchange that goes on leaves its call running, and one that is over ends it. -/
theorem reached_settle {b : Session} {live : Live} {talk : List Deed} {c : Connection}
    {x : Exchange} (ready : Ready d s b live) (along : Deed.Over live.id talk)
    (reached : Exchange.Reached live.connection command (Deed.written live.id talk)
      (Deed.heard live.id talk) c x) :
    Reached d s command ((b.noteAll talk).settle ⟨live.id, c⟩ x).1
      ((b.noteAll talk).settle ⟨live.id, c⟩ x).2 := by
  cases x with
  | done result =>
    -- only an answer gives the connection back
    cases ha : isAnswered result with
    | true =>
      simp only [settle, ha, if_true]
      exact .answered ready along reached ha
    | false =>
      simp only [settle, ha, Bool.false_eq_true, if_false]
      exact .lost ready along reached ha
  | clearing c' => exact .running ready along reached
  | sending => exact .running ready along reached
  | receiving a => exact .running ready along reached

theorem reached_use {b : Session} {live : Live} (ready : Ready d s b live)
    (hs : ∀ live, s.slot? = some live → live.connection.outbox = []) :
    Reached d s command (b.use live command).1 (b.use live command).2 := by
  have hover : Deed.Over live.id [] := Deed.over_nil live.id
  exact reached_settle ready hover (Exchange.reached_start (ready.outbox hs))

/-- A login that goes on leaves its call waiting; one that is over lets the command be sent, or
ends the call. -/
theorem reached_enter {talk : List Deed} {c : Connection} {x : Exchange} (vacant : s.slot? = none)
    (along : Deed.Over s.dials talk)
    (reached : Exchange.Reached {} (Login.command d.credentials) (Deed.written s.dials talk)
      (Deed.heard s.dials talk) c x) :
    Reached d s command ((s.dialed.noteAll talk).enter ⟨s.dials, c⟩ command x).1
      ((s.dialed.noteAll talk).enter ⟨s.dials, c⟩ command x).2 := by
  have hs : ∀ live, s.slot? = some live → live.connection.outbox = [] := by
    intro live h
    rw [vacant] at h
    simp at h
  cases x with
  | clearing c' => exact .entering vacant along reached
  | sending => exact .entering vacant along reached
  | receiving a => exact .entering vacant along reached
  | done result =>
    -- once the login is answered the call is refused, or goes on with its own command
    cases ho : Login.outcome result with
    | error e =>
      simp only [enter, ho]
      exact .rejected vacant along reached ho
    | ok u =>
      simp only [enter, ho]
      obtain ⟨reply, rfl, haccepted⟩ := Login.accepted_of_outcome ho
      exact reached_use (.opened vacant along reached haccepted) hs

/-- A call begins. -/
theorem reached_begin (hs : ∀ live, s.slot? = some live → live.connection.outbox = []) :
    Reached d s command (s.begin command).1 (s.begin command).2 := by
  unfold begin
  cases hslot : s.slot? with
  | none => exact .dialing hslot
  | some live => exact reached_use (.kept hslot) hs

/-- What an event lets a session note is what it lets the exchange write and read. -/
theorem traffic_noteAll (b : Session) {id : Nat} {talk : List Deed} (along : Deed.Over id talk)
    (c : Connection) (x : Exchange) (event : StreamEvent) :
    ∃ talk', (b.noteAll talk).traffic ⟨id, c⟩ x event = b.noteAll talk' ∧ Deed.Over id talk'
      ∧ Deed.written id talk' = Deed.written id talk ++ x.written c event
      ∧ Deed.heard id talk' = Deed.heard id talk ++ x.heard event := by
  cases event with
  | took n =>
    refine ⟨.wrote id (x.written c (.took n)) :: talk, ?_, Deed.over_cons_wrote along _, ?_, ?_⟩
    · cases x <;> rfl
    · simp [Deed.written_cons, Deed.sent]
    · cases x <;> simp [Deed.heard_cons, Deed.got, Exchange.heard]
  | delivered bytes =>
    cases x with
    | receiving a =>
      refine ⟨.read id bytes :: talk, rfl, Deed.over_cons_read along _, ?_, ?_⟩
      · simp [Deed.written_cons, Deed.sent, Exchange.written]
      · simp [Deed.heard_cons, Deed.got, Exchange.heard]
    | clearing c' => exact ⟨talk, rfl, along, by simp [Exchange.written], by simp [Exchange.heard]⟩
    | sending => exact ⟨talk, rfl, along, by simp [Exchange.written], by simp [Exchange.heard]⟩
    | done result => exact ⟨talk, rfl, along, by simp [Exchange.written], by simp [Exchange.heard]⟩
  | refused reason | ended | failed reason | elapsed =>
    -- no bytes are moved
    refine ⟨talk, ?_, along, ?_, ?_⟩
    · cases x <;> rfl
    · cases x <;> simp [Exchange.written]
    · cases x <;> simp [Exchange.heard]

/-- **Every stimulus keeps a call on its course.** -/
theorem reached_step {s₁ : Session} {c : Call} (h : Reached d s command s₁ c)
    (stimulus : Stimulus) :
    Reached d s command (s₁.step d c stimulus).1 (s₁.step d c stimulus).2 := by
  cases h with
  | dialing vacant =>
    cases stimulus with
    | opened =>
      have hover : Deed.Over s.dials [] := Deed.over_nil s.dials
      have hstart : Exchange.Reached {} (Login.command d.credentials) [] [] _ _ :=
        Exchange.reached_start rfl
      rcases hx : Exchange.start {} (Login.command d.credentials) with ⟨c, x⟩
      rw [hx] at hstart
      have henter : Reached d s command _ _ := reached_enter vacant hover hstart
      rw [noteAll_nil] at henter
      simp only [step, hx]
      exact henter
    | unopened fault => exact .unopened vacant fault
    | stream event => exact .dialing vacant
    | abandoned => exact .leftDialing vacant
  | @entering talk c x vacant along reached =>
    cases stimulus with
    | opened => exact .entering vacant along reached
    | unopened fault => exact .entering vacant along reached
    | stream event =>
      -- the exchange of the login takes what the stream brings, and may end with it
      obtain ⟨talk', h1, h2, h3, h4⟩ := traffic_noteAll s.dialed along c x event
      have := Exchange.reached_step reached d.seconds event
      rw [← h3, ← h4] at this
      simp only [step, h1]
      exact reached_enter vacant h2 this
    | abandoned => exact .leftEntering vacant along reached
  | @running b live talk c x ready along reached =>
    cases stimulus with
    | opened => exact .running ready along reached
    | unopened fault => exact .running ready along reached
    | stream event =>
      obtain ⟨talk', h1, h2, h3, h4⟩ := traffic_noteAll b along c x event
      have := Exchange.reached_step reached d.seconds event
      rw [← h3, ← h4] at this
      simp only [step, h1]
      exact reached_settle ready h2 this
    | abandoned =>
      show Reached d s command (((b.noteAll talk).note (.dropped live.id)).publish .unconnected)
        .abandoned
      exact .leftRunning ready along reached
  | unopened vacant fault => exact .unopened vacant fault
  | leftDialing vacant => exact .leftDialing vacant
  | rejected vacant along reached refused => exact .rejected vacant along reached refused
  | leftEntering vacant along reached => exact .leftEntering vacant along reached
  | answered ready along reached answered => exact .answered ready along reached answered
  | lost ready along reached unanswered => exact .lost ready along reached unanswered
  | leftRunning ready along reached => exact .leftRunning ready along reached

/-- **A call stands where a call can stand**, whatever happened to it. -/
theorem reached_feel (hs : ∀ live, s.slot? = some live → live.connection.outbox = [])
    (stimuli : List Stimulus) :
    Reached d s command (feel d (s.begin command) stimuli).1
      (feel d (s.begin command) stimuli).2 :=
  feel_induction (P := Reached d s command) (fun _ _ stimulus h => reached_step h stimulus)
    (reached_begin hs) stimuli

/-- **How a call ends.** Either the slot holds its connection, the answer having been read to the
end, or the slot is empty; and it says that connecting failed only if it was empty before. -/
theorem Reached.ends {s' : Session} {c : Call} (h : Reached d s command s' c) (ended : c.Over) :
    (∃ live, s'.slot? = some live ∧ live.connection.outbox = []
        ∧ (s'.status = .connected ∨ s.slot? ≠ none ∧ s'.status = s.status))
      ∨ s'.slot? = none ∧ (s'.status = .unconnected ∨ s.slot? = none ∧ s'.status = .failed) := by
  -- over is a call that has failed, was left, or was answered; the others still wait
  cases h with
  | dialing vacant => simp [Call.Over] at ended
  | entering vacant along reached => simp [Call.Over] at ended
  | running ready along reached => simp [Call.Over] at ended
  | unopened vacant fault => exact .inr ⟨vacant, .inr ⟨vacant, rfl⟩⟩
  | leftDialing vacant => exact .inr ⟨vacant, .inl rfl⟩
  | rejected vacant along reached refused => exact .inr ⟨vacant, .inr ⟨vacant, rfl⟩⟩
  | leftEntering vacant along reached => exact .inr ⟨vacant, .inl rfl⟩
  | lost ready along reached unanswered =>
    have hslot := ready.slot
    exact .inr ⟨hslot, .inl rfl⟩
  | leftRunning ready along reached =>
    have hslot := ready.slot
    exact .inr ⟨hslot, .inl rfl⟩
  | answered ready along reached answered =>
    refine .inl ⟨_, rfl, ?_, ?_⟩
    · cases reached with
      | ended fits out empty taken spelled gathered closed => exact empty
      | broken fault out unfit => simp [isAnswered, fault] at answered
    · cases ready with
      | kept held => exact .inr ⟨by rw [held]; simp, rfl⟩
      | opened vacant along reached accepted => exact .inl rfl

theorem release_slot (s : Session) : s.release.slot? = none := by
  unfold release
  cases hs : s.slot? with
  | none => exact hs
  | some live => rfl

theorem release_dials (s : Session) : s.release.dials = s.dials := by
  unfold release
  cases s.slot? <;> rfl

theorem close_slot (s : Session) : s.close.slot? = none := release_slot s

/-- Between turns nothing waits to be written. -/
theorem run_outbox (d : Device) (turns : List Turn) :
    ∀ live, (run d {} turns).slot? = some live → live.connection.outbox = [] := by
  refine run_induction (P := fun _ s => ∀ live, s.slot? = some live → live.connection.outbox = [])
    (by simp) ?_ turns
  intro turns t ih live hlive
  cases t with
  | forgone => exact ih live hlive
  | close =>
    rw [show (run d {} turns).turn d .close = (run d {} turns).close from rfl, close_slot] at hlive
    simp at hlive
  | call command stimuli =>
    have h : Reached d _ command ((run d {} turns).through d command stimuli).1
      ((run d {} turns).through d command stimuli).2 := reached_feel ih _
    -- what is put back into the slot has an answer, and so nothing left to write
    rcases h.ends (through_over d _ command stimuli) with ⟨live', h1, h2, -⟩ | ⟨h1, -⟩
    · rw [turn, h1] at hlive
      injection hlive with hlive
      rw [← hlive]
      exact h2
    · rw [turn, h1] at hlive
      simp at hlive

/-- A call in a run stands where a call can stand, and is over. -/
theorem reached_run (d : Device) (turns : List Turn) (command : Command)
    (stimuli : List Stimulus) :
    Reached d (run d {} turns) command ((run d {} turns).through d command stimuli).1
        ((run d {} turns).through d command stimuli).2
      ∧ ((run d {} turns).through d command stimuli).2.Over :=
  ⟨reached_feel (run_outbox d turns) _, through_over d _ command stimuli⟩

end Session

end RouterMenu
