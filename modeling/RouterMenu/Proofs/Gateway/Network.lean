import RouterMenu.Gateway.Network
import RouterMenu.Proofs.Client.Traffic
import RouterMenu.Proofs.Gateway.OwnAnswer

/-!
# A network takes a session through turns

Whoever holds a dialogue over a network takes turns with the session: each command of the dialogue
is a call, and what happens to it is what the network answers (`hold_eq_run`). So all that is known
of turns is known of a session at the end of a dialogue, whatever the network does. In particular
its device has received the login, and sentences that the dialogue sent, and no others
(`received_of_run`).
-/

namespace RouterMenu

open Wire

/-- A call that waits for something, if it is not over: its exchange has not ended yet. -/
def Call.Awake : Call → Prop
  | .entering _ (.done _) _ | .running _ (.done _) => False
  | _ => True

namespace Session

variable {d : Device} {s : Session} {σ : Type} {n : Network σ}

/-! ## One call -/

theorem awake_settle (s : Session) (live : Live) (x : Exchange) : (s.settle live x).2.Awake := by
  cases x with
  | done result =>
    simp only [settle]
    split <;> trivial
  | _ => trivial

theorem awake_enter (s : Session) (live : Live) (command : Command) (x : Exchange) :
    (s.enter live command x).2.Awake := by
  cases x with
  | done result =>
    simp only [enter]
    split
    · exact awake_settle ..
    · trivial
  | _ => trivial

theorem awake_begin (s : Session) (command : Command) : (s.begin command).2.Awake := by
  unfold begin
  split
  · exact awake_settle ..
  · trivial

/-- **A call is awake** as long as it is not over. -/
theorem awake_step (d : Device) (s : Session) {c : Call} (h : c.Awake) (stimulus : Stimulus) :
    (s.step d c stimulus).2.Awake := by
  -- only what moves the call on can change what it waits for
  cases c with
  | done result => trivial
  | abandoned => trivial
  | dialing id command =>
    cases stimulus with
    | opened => exact awake_enter ..
    | _ => trivial
  | entering live x command =>
    cases stimulus with
    | stream event => exact awake_enter ..
    | abandoned => trivial
    | _ => exact h
  | running live x =>
    cases stimulus with
    | stream event => exact awake_settle ..
    | abandoned => trivial
    | _ => exact h

/-- A call that waits for nothing is over. -/
theorem over_of_awake {c : Call} (h : c.Awake) (idle : c.want = .nothing) : c.Over := by
  cases c with
  | done result => trivial
  | abandoned => trivial
  | dialing id command => simp [Call.want] at idle
  | entering live x command =>
    cases x with
    | done result => exact h.elim
    | _ => simp [Call.want, Call.wantOn] at idle
  | running live x =>
    cases x with
    | done result => exact h.elim
    | _ => simp [Call.want, Call.wantOn] at idle

/-- **A call is over when its time is.** -/
theorem over_step_deadline (d : Device) (s : Session) {c : Call} (h : c.Awake) :
    (s.step d c c.deadline).2.Over := by
  cases c with
  | done result => trivial
  | abandoned => trivial
  | dialing id command => trivial
  | entering live x command =>
    cases x with
    | done result => exact h.elim
    | _ => trivial
  | running live x =>
    cases x with
    | done result => exact h.elim
    | _ => trivial

/-- What a network does to a call is a course of stimuli, and at the end the call is over. -/
theorem follow_eq_feel (n : Network σ) (d : Device) (fuel : Nat) (s : Session) {c : Call}
    (h : c.Awake) (w : σ) :
    ∃ stimuli, (follow n d fuel s c w).1 = feel d (s, c) stimuli
      ∧ (follow n d fuel s c w).1.2.Over := by
  induction fuel generalizing s c w with
  | zero => exact ⟨[c.deadline], rfl, over_step_deadline d s h⟩
  | succ fuel ih =>
    rw [follow]
    split
    · next hidle => exact ⟨[], rfl, over_of_awake h hidle⟩
    · obtain ⟨stimuli, hfeel, hover⟩ :=
        ih (s.step d c (n.answer d c.want w).1).1 (awake_step d s h (n.answer d c.want w).1)
          (n.answer d c.want w).2
      exact ⟨(n.answer d c.want w).1 :: stimuli, hfeel, hover⟩

/-- **A call over a network is a turn.** -/
theorem call_eq_turn (n : Network σ) (d : Device) (command : Command) (s : Session) (w : σ) :
    ∃ stimuli, (call n d command (s, w)).2.1 = s.turn d (.call command stimuli) := by
  obtain ⟨stimuli, hfeel, hover⟩ := follow_eq_feel n d n.patience (s.begin command).1
    (awake_begin s command) w
  refine ⟨stimuli, ?_⟩
  -- to give up what is over changes nothing
  have hend : feel d (feel d (s.begin command) stimuli) [.abandoned]
      = feel d (s.begin command) stimuli := by
    refine feel_over d ?_ _
    rw [← hfeel]
    exact hover
  rw [turn, through, feel, List.foldl_append]
  exact (congrArg Prod.fst hfeel).trans (congrArg Prod.fst hend).symm

/-! ## A dialogue -/

/-- **A dialogue over a network is a run of turns,** the calls of which are what it sent. -/
theorem hold_eq_run {α : Type} (n : Network σ) (d : Device) (talk : Dialogue α) (s : Session)
    (w : σ) :
    ∃ turns, (hold n d talk (s, w)).2.1 = run d s turns
      ∧ turns.filterMap Turn.command? = talk.sent (call n d) (s, w) := by
  induction talk generalizing s w with
  | done result => exact ⟨[], rfl, rfl⟩
  | send command next ih =>
    obtain ⟨stimuli, hturn⟩ := call_eq_turn n d command s w
    obtain ⟨turns, hrun, hsent⟩ := ih (call n d command (s, w)).1 (call n d command (s, w)).2.1
      (call n d command (s, w)).2.2
    refine ⟨.call command stimuli :: turns, ?_, ?_⟩
    · rw [run, List.foldl_cons, ← hturn]
      exact hrun
    · rw [Dialogue.sent_send, ← hsent]
      rfl

/-! ## What the device receives -/

/-- **The device receives nothing but the login and what was called.** -/
theorem received_of_run (d : Device) {turns : List Turn}
    (paths : ∀ c ∈ turns.filterMap Turn.command?, c.path ≠ "") (id : Nat) {words : List String}
    (received : words ∈ Deed.received id (run d {} turns).deeds) :
    words = (Login.command d.credentials).words
      ∨ ∃ c ∈ turns.filterMap Turn.command?, words = c.words := by
  obtain ⟨commands, hcalled, hprefix, hfits, hlogin⟩ := (kept_run d turns).books.order id
  rcases hlogin with hlogin | hnone
  · have hall : ∀ c ∈ Login.command d.credentials :: commands, c.path ≠ "" ∧ c.Fits :=
      List.forall_mem_cons.2 ⟨⟨by simp [Login.command, Command.attr], hlogin⟩,
        fun c hc => ⟨paths c (hcalled.subset hc), hfits c hc⟩⟩
    obtain ⟨missing, hmissing⟩ := hprefix
    have hspells := Framing.spells_frames hall
    rw [← hmissing] at hspells
    -- what was received is received first of all that might have been written
    have hfirst : Deed.received id (run d {} turns).deeds
        <+: (Login.command d.credentials :: commands).map Command.words := by
      have hstart := Framing.drain_sentences_append (Deed.written id (run d {} turns).deeds) missing
      unfold Framing.Spells at hspells
      rwa [hspells] at hstart
    obtain ⟨c, hc, rfl⟩ := List.mem_map.1 (hfirst.subset received)
    rcases List.mem_cons.1 hc with rfl | hc
    · exact .inl rfl
    · exact .inr ⟨c, hcalled.subset hc, rfl⟩
  · rw [Deed.received_of_written_nil hnone] at received
    simp at received

end Session

end RouterMenu
