import RouterMenu.Proofs.Gateway.Turns
import RouterMenu.Gateway.Sharing

/-!
# What a shared session says when nobody uses it

A call changes the status of its session together with the connection (`Moves`): it says that the
session is connected when it gets hold of one, and that it is not when it loses it. Closing a
session does the two apart. The announcement that the session is unconnected comes after the turn
was given back, and by then another call may hold a new connection. Such an announcement is
`Belated`; it is the only way to a session at rest that holds a connection and denies it, and there
is no way to one that says it is connected and is not (`status_at_rest`).
-/

namespace RouterMenu

/-! ## Connections and the status -/

/-- The connection that there is, if any, and how far it has come. -/
inductive Grip where
  | empty
  /-- It is being opened, or its user is being logged in. -/
  | seeking (id : Nat)
  | holding (id : Nat)
deriving DecidableEq, Repr

/-- How the connection and the status of a session change together. -/
inductive Moves (g : Grip) (status : Status) : Grip → Status → Prop where
  | stay : Moves g status g status
  | found {id : Nat} (sought : g = .seeking id) : Moves g status (.holding id) .connected
  | lost {status' : Status} (unconnected : status' ≠ .connected) : Moves g status .empty status'

/-- To keep what was found, or to lose it, is to find it or to lose it. -/
theorem Moves.after_found {id : Nat} {status status' : Status} {g : Grip}
    (h : Moves (.holding id) .connected g status') : Moves (.seeking id) status g status' := by
  cases h with
  | stay => exact .found rfl
  | found sought => simp at sought
  | lost unconnected => exact .lost unconnected

namespace Session

/-- What a session holds by itself. -/
def rest (s : Session) : Grip :=
  match s.slot? with
  | some live => .holding live.id
  | none => .empty

/-- What a session holds together with the call that has the turn. -/
def grip (s : Session) : Call → Grip
  | .dialing id _ => .seeking id
  | .entering live _ _ => .seeking live.id
  | .running live _ => .holding live.id
  | .done _ | .abandoned => s.rest

/-- The outcome of a part of a call: what it did to the connection and the status it did together,
it dialed nothing, and it left the slot empty unless it is over. -/
structure Together (g : Grip) (s : Session) (r : Session × Call) : Prop where
  moves : Moves g s.status (r.1.grip r.2) r.1.status
  dials : r.1.dials = s.dials
  slot : r.2.Over ∨ r.1.slot? = none

variable {s : Session}

/-- A call that ends without a connection, and says so. -/
theorem together_lost {g : Grip} {s' : Session} {c : Call} (ended : c.Over)
    (vacant : s'.slot? = none) (dials : s'.dials = s.dials) (denied : s'.status ≠ .connected) :
    Together g s (s', c) := by
  have hempty : s'.grip c = .empty := by
    cases c <;> simp_all [Call.Over, grip, rest]
  refine ⟨?_, dials, .inl ended⟩
  rw [hempty]
  exact .lost denied

theorem together_settle (hs : s.slot? = none) (live : Live) (x : Exchange) :
    Together (.holding live.id) s (s.settle live x) := by
  cases x with
  | done result =>
    cases ha : isAnswered result with
    | true =>
      rw [settle, if_pos ha]
      exact ⟨.stay, rfl, .inl trivial⟩
    | false =>
      rw [settle, if_neg (by simp [ha])]
      exact together_lost trivial hs rfl (by simp [publish])
  | clearing c => exact ⟨.stay, rfl, .inr hs⟩
  | sending => exact ⟨.stay, rfl, .inr hs⟩
  | receiving a => exact ⟨.stay, rfl, .inr hs⟩

theorem together_enter (hs : s.slot? = none) (live : Live) (command : Wire.Command)
    (x : Exchange) : Together (.seeking live.id) s (s.enter live command x) := by
  cases x with
  | done result =>
    cases ho : Login.outcome result with
    | ok u =>
      -- the command is sent at once, and may even fail at once
      simp only [enter, ho]
      have h := together_settle (s := s.publish .connected) hs
        { live with connection := (Exchange.start live.connection command).1 }
        (Exchange.start live.connection command).2
      exact ⟨h.moves.after_found, h.dials, h.slot⟩
    | error e =>
      simp only [enter, ho]
      exact together_lost trivial hs rfl (by simp [publish])
  | clearing c => exact ⟨.stay, rfl, .inr hs⟩
  | sending => exact ⟨.stay, rfl, .inr hs⟩
  | receiving a => exact ⟨.stay, rfl, .inr hs⟩

/-- What an event lets a session note is noted and nothing else. -/
theorem traffic_deeds (s : Session) (live : Live) (x : Exchange) (event : StreamEvent) :
    ∃ deeds, s.traffic live x event = { s with deeds } := by
  unfold traffic
  split
  · exact ⟨_, rfl⟩
  · exact ⟨_, rfl⟩
  · exact ⟨s.deeds, rfl⟩

/-- **A step of a call** changes the connection and the status together. -/
theorem together_step (d : Device) {c : Call} (h : c.Over ∨ s.slot? = none)
    (stimulus : Stimulus) : Together (s.grip c) s (s.step d c stimulus) := by
  -- a call that is not over has taken the connection out of the slot
  cases c with
  | done result => exact ⟨.stay, rfl, h⟩
  | abandoned => exact ⟨.stay, rfl, h⟩
  | dialing id command =>
    have hs : s.slot? = none := by simpa [Call.Over] using h
    cases stimulus with
    | opened =>
      exact together_enter hs ⟨id, (Exchange.start {} (Login.command d.credentials)).1⟩ command _
    | unopened fault => exact together_lost trivial hs rfl (by simp [publish])
    | stream event => exact ⟨.stay, rfl, h⟩
    | abandoned => exact together_lost trivial hs rfl (by simp [publish])
  | entering live x command =>
    have hs : s.slot? = none := by simpa [Call.Over] using h
    cases stimulus with
    | opened => exact ⟨.stay, rfl, h⟩
    | unopened fault => exact ⟨.stay, rfl, h⟩
    | stream event =>
      obtain ⟨deeds, htraffic⟩ := s.traffic_deeds live x event
      have henter := together_enter (s := { s with deeds }) hs
        { live with connection := (x.step d.seconds live.connection event).1 } command
        (x.step d.seconds live.connection event).2
      simp only [step, htraffic]
      exact ⟨henter.moves, henter.dials, henter.slot⟩
    | abandoned => exact together_lost trivial hs rfl (by simp [publish])
  | running live x =>
    have hs : s.slot? = none := by simpa [Call.Over] using h
    cases stimulus with
    | opened => exact ⟨.stay, rfl, h⟩
    | unopened fault => exact ⟨.stay, rfl, h⟩
    | stream event =>
      obtain ⟨deeds, htraffic⟩ := s.traffic_deeds live x event
      have hsettle := together_settle (s := { s with deeds }) hs
        { live with connection := (x.step d.seconds live.connection event).1 }
        (x.step d.seconds live.connection event).2
      simp only [step, htraffic]
      exact ⟨hsettle.moves, hsettle.dials, hsettle.slot⟩
    | abandoned => exact together_lost trivial hs rfl (by simp [publish])

/-- A call that finds a connection takes it out of the slot. -/
theorem together_begin {live : Live} (held : s.slot? = some live) (command : Wire.Command) :
    Together s.rest s (s.begin command) := by
  have hrest : s.rest = .holding live.id := by simp [rest, held]
  have hsettle := together_settle (s := { s with slot? := none }) rfl
    { live with connection := (Exchange.start live.connection command).1 }
    (Exchange.start live.connection command).2
  simp only [begin, held, hrest]
  exact ⟨hsettle.moves, hsettle.dials, hsettle.slot⟩

end Session

/-! ## Errands -/

namespace Sharing

variable {d : Device} {w w' : Sharing} {i : Nat}

/-- All that can happen to an errand. -/
inductive Happens (d : Device) (w : Sharing) : Nat × Act → Sharing → Prop where
  | begun {i : Nat} {command : Wire.Command}
      (here : w.errands[i]? = some (.calling command)) (free : w.turn? = none) :
      Happens d w (i, .enter)
        ({ w with session := (w.session.begin command).1, turn? := some i }.set i
          (.engaged (w.session.begin command).2))
  | released {i : Nat} (here : w.errands[i]? = some .closing) (free : w.turn? = none) :
      Happens d w (i, .enter) ({ w with session := w.session.release }.set i .unannounced)
  | felt {i : Nat} {call : Call} {stimulus : Stimulus}
      (here : w.errands[i]? = some (.engaged call)) :
      Happens d w (i, .feel stimulus)
        ({ w with session := (w.session.step d call stimulus).1 }.set i
          (.engaged (w.session.step d call stimulus).2))
  | left {i : Nat} {call : Call} {result? : Option (Except GatewayError Wire.Reply)}
      (here : w.errands[i]? = some (.engaged call)) (ended : call.Over) :
      Happens d w (i, .leave) ({ w with turn? := none }.set i (.done result?))
  | announced {i : Nat} (here : w.errands[i]? = some .unannounced) :
      Happens d w (i, .announce)
        ({ w with session := w.session.publish .unconnected }.set i (.done none))
  | withdrawn {i : Nat} {e : Errand} (here : w.errands[i]? = some e)
      (waits : (∃ command, e = .calling command) ∨ e = .closing) :
      Happens d w (i, .withdraw) (w.set i (.done none))
  /-- What cannot happen changes nothing. -/
  | nothing {a : Nat × Act}
      (silent : ∀ i, a = (i, .announce) → w.errands[i]? ≠ some .unannounced) : Happens d w a w

/-- **Every act is one of these.** -/
theorem happens_step (d : Device) (w : Sharing) (i : Nat) (a : Act) :
    Happens d w (i, a) (w.step d i a) := by
  -- an announcement that is due always happens, so one that changes nothing was not due
  have hnothing : (a = .announce → w.errands[i]? ≠ some .unannounced) → Happens d w (i, a) w := by
    intro h
    refine .nothing fun j hj => ?_
    injection hj with h1 h2
    rw [← h1]
    exact h h2
  unfold step
  cases here : w.errands[i]? with
  | none => exact hnothing (by simp [here])
  | some e =>
    cases e with
    | calling command =>
      cases a with
      | enter =>
        cases free : w.turn? with
        | none =>
          simp only [happen]
          rw [if_pos free]
          exact .begun here free
        | some j =>
          simp only [happen, free]
          exact hnothing (by simp)
      | withdraw => exact .withdrawn here (.inl ⟨command, rfl⟩)
      | feel stimulus => exact hnothing (by simp)
      | leave => exact hnothing (by simp)
      | announce => exact hnothing (by simp [here])
    | closing =>
      cases a with
      | enter =>
        cases free : w.turn? with
        | none =>
          simp only [happen]
          rw [if_pos free]
          exact .released here free
        | some j =>
          simp only [happen, free]
          exact hnothing (by simp)
      | withdraw => exact .withdrawn here (.inr rfl)
      | feel stimulus => exact hnothing (by simp)
      | leave => exact hnothing (by simp)
      | announce => exact hnothing (by simp [here])
    | engaged call =>
      cases a with
      | feel stimulus => exact .felt here
      | leave =>
        cases call with
        | done result => exact .left here trivial
        | abandoned => exact .left here trivial
        | dialing id command => exact hnothing (by simp)
        | entering live x command => exact hnothing (by simp)
        | running live x => exact hnothing (by simp)
      | enter => exact hnothing (by simp)
      | withdraw => exact hnothing (by simp)
      | announce => exact hnothing (by simp [here])
    | unannounced =>
      cases a with
      | announce => exact .announced here
      | enter => exact hnothing (by simp)
      | feel stimulus => exact hnothing (by simp)
      | leave => exact hnothing (by simp)
      | withdraw => exact hnothing (by simp)
    | done result? => exact hnothing (by simp [here])

/-- Only the errand that something happened to has changed. -/
theorem errands_set {e : Errand} (here : w.errands[i]? = some e) (e' : Errand) (j : Nat) :
    (w.set i e').errands[j]? = if i = j then some e' else w.errands[j]? := by
  have hi : i < w.errands.length := (List.getElem?_eq_some_iff.1 here).1
  rw [set, List.getElem?_set, if_pos hi]

/-- The errand that has the turn is the only one with a call, and while its call goes on the slot is
empty. -/
structure Coherent (w : Sharing) : Prop where
  engaged : ∀ i call, w.errands[i]? = some (.engaged call) → w.turn? = some i
  taken : ∀ i, w.turn? = some i →
    ∃ call, w.errands[i]? = some (.engaged call) ∧ (call.Over ∨ w.session.slot? = none)

/-- The connection that there is, in the slot or with the errand that has the turn. -/
def grip (w : Sharing) : Grip :=
  match w.turn?.bind (w.errands[·]?) with
  | some (.engaged call) => w.session.grip call
  | _ => w.session.rest

theorem grip_of_free (free : w.turn? = none) : w.grip = w.session.rest := by
  simp [grip, free]

theorem grip_of_engaged {call : Call} (turn : w.turn? = some i)
    (here : w.errands[i]? = some (.engaged call)) : w.grip = w.session.grip call := by
  simp [grip, turn, here]

theorem grip_engage {e : Errand} {s : Session} {call : Call} (here : w.errands[i]? = some e) :
    ({ w with session := s, turn? := some i }.set i (.engaged call)).grip = s.grip call := by
  refine grip_of_engaged rfl ?_
  rw [errands_set (w := { w with session := s, turn? := some i }) here, if_pos rfl]

namespace Coherent

/-- The errand that has the turn gets on with its call, or begins it. -/
theorem engage {e : Errand} {s : Session} {call : Call} (h : Coherent w)
    (here : w.errands[i]? = some e) (turn : w.turn? = none ∨ w.turn? = some i)
    (slot : call.Over ∨ s.slot? = none) :
    Coherent ({ w with session := s, turn? := some i }.set i (.engaged call)) where
  engaged := by
    intro j call' hj
    rw [errands_set (w := { w with session := s, turn? := some i }) here] at hj
    by_cases hij : i = j
    · rw [hij]
      rfl
    · -- no other errand has a call
      rw [if_neg hij] at hj
      have hturn := h.engaged j call' hj
      rcases turn with free | mine
      · rw [free] at hturn
        simp at hturn
      · rw [mine] at hturn
        exact absurd (Option.some.inj hturn) hij
  taken := by
    intro j hj
    have hij : i = j := Option.some.inj hj
    refine ⟨call, ?_, slot⟩
    rw [errands_set (w := { w with session := s, turn? := some i }) here, if_pos hij]

/-- An errand without a call changes, and the slot is not filled. -/
theorem pass {e e' : Errand} {s : Session} (h : Coherent w) (here : w.errands[i]? = some e)
    (idle : ∀ call, e ≠ .engaged call) (idle' : ∀ call, e' ≠ .engaged call)
    (slot : w.session.slot? = none → s.slot? = none) :
    Coherent ({ w with session := s }.set i e') where
  -- the one who passes has no call, before or after, so the turn is with the others
  engaged := by
    intro j call hj
    rw [errands_set (w := { w with session := s }) here] at hj
    by_cases hij : i = j
    · rw [if_pos hij] at hj
      exact absurd (Option.some.inj hj) (idle' call)
    · rw [if_neg hij] at hj
      exact h.engaged j call hj
  taken := by
    intro j hj
    obtain ⟨call, hcall, hslot⟩ := h.taken j hj
    refine ⟨call, ?_, hslot.imp_right slot⟩
    have hij : i ≠ j := by
      intro hij
      rw [hij, hcall] at here
      exact idle call (Option.some.inj here).symm
    rw [errands_set (w := { w with session := s }) here, if_neg hij]
    exact hcall

/-- The connection stays where it is while an errand without a call changes. -/
theorem grip_pass {e e' : Errand} {s : Session} (h : Coherent w) (here : w.errands[i]? = some e)
    (idle : ∀ call, e ≠ .engaged call) (slot : s.slot? = w.session.slot?) :
    ({ w with session := s }.set i e').grip = w.grip := by
  have hgrip : ∀ call, s.grip call = w.session.grip call := by
    intro call
    cases call <;> simp [Session.grip, Session.rest, slot]
  -- the grip is that of the caller whose turn it is, and that is not the one who passes
  rcases Option.eq_none_or_eq_some w.turn? with hturn | ⟨j, hturn⟩
  · have hgrip' : ({ w with session := s }.set i e').grip = s.rest := grip_of_free hturn
    rw [grip_of_free hturn, hgrip']
    exact hgrip .abandoned
  · obtain ⟨call, hcall, -⟩ := h.taken j hturn
    have hij : i ≠ j := by
      intro hij
      rw [hij, hcall] at here
      exact idle call (Option.some.inj here).symm
    have hcall' : ({ w with session := s }.set i e').errands[j]? = some (.engaged call) := by
      rw [errands_set (w := { w with session := s }) here, if_neg hij]
      exact hcall
    have hgrip' : ({ w with session := s }.set i e').grip = s.grip call :=
      grip_of_engaged hturn hcall'
    rw [grip_of_engaged hturn hcall, hgrip']
    exact hgrip call

end Coherent

theorem run_concat (w : Sharing) (acts : List (Nat × Act)) (i : Nat) (a : Act) :
    run d w (acts ++ [(i, a)]) = (run d w acts).step d i a := by
  simp [run]

/-! ## Belated announcements -/

variable {errands : List Errand} {acts : List (Nat × Act)} {a : Nat × Act} {id : Nat}

/-- That the session is unconnected was announced when it already held this connection. -/
def Belated (d : Device) (errands : List Errand) (acts : List (Nat × Act)) (id : Nat) : Prop :=
  ∃ before i after, acts = before ++ (i, .announce) :: after
    ∧ (run d { errands } before).errands[i]? = some .unannounced
    ∧ (run d { errands } before).grip = .holding id

/-- One more act may be a belated announcement. -/
theorem belated_concat : Belated d errands (acts ++ [a]) id ↔ Belated d errands acts id
    ∨ ∃ i, a = (i, .announce) ∧ (run d { errands } acts).errands[i]? = some .unannounced
      ∧ (run d { errands } acts).grip = .holding id := by
  constructor
  · rintro ⟨before, i, after, heq, here, hgrip⟩
    rcases List.eq_nil_or_concat after with rfl | ⟨after, last, rfl⟩
    · obtain ⟨rfl, hlast⟩ := List.append_inj' heq rfl
      exact .inr ⟨i, List.singleton_inj.1 hlast, here, hgrip⟩
    · -- the announcement came before the last act
      rw [List.concat_eq_append, ← List.cons_append, ← List.append_assoc] at heq
      exact .inl ⟨before, i, after, (List.append_inj' heq rfl).1, here, hgrip⟩
  · rintro (⟨before, i, after, rfl, here, hgrip⟩ | ⟨i, rfl, here, hgrip⟩)
    · exact ⟨before, i, after ++ [a], by simp, here, hgrip⟩
    · exact ⟨acts, i, [], rfl, here, hgrip⟩

/-- An act that announces nothing is no belated announcement. -/
theorem belated_silent
    (silent : ∀ i, a = (i, .announce) → (run d { errands } acts).errands[i]? ≠ some .unannounced) :
    Belated d errands (acts ++ [a]) id ↔ Belated d errands acts id := by
  rw [belated_concat]
  constructor
  · rintro (h | ⟨i, ha, here, -⟩)
    · exact h
    · exact absurd here (silent i ha)
  · exact .inl

/-- What the status of a session says, in view of the announcements that were made: it is right
about a connection that is held unless one of them was belated, and where it is wrong about one
that is not held, an announcement is still to come. -/
structure Accounted (d : Device) (errands : List Errand) (acts : List (Nat × Act))
    (w : Sharing) : Prop where
  coherent : Coherent w
  holding : ∀ id, w.grip = .holding id → id < w.session.dials
    ∧ (w.session.status = .connected ↔ ¬ Belated d errands acts id)
  seeking : ∀ id, w.grip = .seeking id → id < w.session.dials ∧ ¬ Belated d errands acts id
  empty : w.grip = .empty → w.session.status = .connected →
    ∃ i : Nat, w.errands[i]? = some .unannounced
  old : ∀ id, Belated d errands acts id → id < w.session.dials

/-- A session without a connection, whose status is yet to be denied if it is wrong. -/
theorem accounted_of_empty {acts' : List (Nat × Act)} (coherent : Coherent w)
    (vacant : w.grip = .empty)
    (unannounced : w.session.status = .connected → ∃ i : Nat, w.errands[i]? = some .unannounced)
    (old : ∀ id, Belated d errands acts' id → id < w.session.dials) :
    Accounted d errands acts' w := by
  refine ⟨coherent, fun id hid => ?_, fun id hid => ?_, fun _ => unannounced, old⟩
  · rw [vacant] at hid
    simp at hid
  · rw [vacant] at hid
    simp at hid

/-- What a call does, it accounts for. -/
theorem Accounted.moves (h : Accounted d errands acts w) {acts' : List (Nat × Act)}
    (coherent : Coherent w') (same : ∀ id, Belated d errands acts' id ↔ Belated d errands acts id)
    (moves : Moves w.grip w.session.status w'.grip w'.session.status)
    (dials : w'.session.dials = w.session.dials)
    (unannounced : ∀ i : Nat,
      w.errands[i]? = some .unannounced → w'.errands[i]? = some .unannounced) :
    Accounted d errands acts' w' := by
  have hold : ∀ id, Belated d errands acts' id → id < w'.session.dials := by
    intro id hid
    rw [dials]
    exact h.old id ((same id).1 hid)
  generalize hg : w'.grip = g at moves
  generalize hst : w'.session.status = status at moves
  cases moves with
  | stay =>
    refine ⟨coherent, fun id hid => ?_, fun id hid => ?_, fun hempty hcon => ?_, hold⟩
    · rw [dials, hst, same]
      exact h.holding id (hg.symm.trans hid)
    · rw [dials, same]
      exact h.seeking id (hg.symm.trans hid)
    · obtain ⟨i, hi⟩ := h.empty (hg.symm.trans hempty) (hst.symm.trans hcon)
      exact ⟨i, unannounced i hi⟩
  | @found k sought =>
    -- no announcement came while the connection was sought
    obtain ⟨hlt, hnot⟩ := h.seeking k sought
    refine ⟨coherent, fun id hid => ?_, fun id hid => ?_, fun hempty => ?_, hold⟩
    · rw [hg] at hid
      injection hid with hid
      rw [dials, hst, same, ← hid]
      exact ⟨hlt, fun _ => hnot, fun _ => rfl⟩
    · rw [hg] at hid
      simp at hid
    · rw [hg] at hempty
      simp at hempty
  | lost unconnected =>
    exact accounted_of_empty coherent hg (fun hcon => absurd (hst.symm.trans hcon) unconnected) hold

/-- An errand with nothing to announce changes; announcements still to come stay so. -/
theorem unannounced_set {e e' : Errand} {s : Session} {turn? : Option Nat}
    (here : w.errands[i]? = some e) (silent : e ≠ .unannounced) {j : Nat}
    (hj : w.errands[j]? = some .unannounced) :
    (Sharing.set ⟨s, w.errands, turn?⟩ i e').errands[j]? = some .unannounced := by
  have hij : i ≠ j := by
    intro hij
    rw [hij, hj] at here
    exact silent (Option.some.inj here).symm
  rw [errands_set (w := ⟨s, w.errands, turn?⟩) here, if_neg hij]
  exact hj

section

variable {acts' : List (Nat × Act)}

/-- A call begins without a connection: the number of the new one has not been used before. -/
theorem Accounted.begun_vacant (h : Accounted d errands acts w) {command : Wire.Command}
    (here : w.errands[i]? = some (.calling command)) (free : w.turn? = none)
    (vacant : w.session.slot? = none)
    (same : ∀ id, Belated d errands acts' id ↔ Belated d errands acts id) :
    Accounted d errands acts'
      ({ w with session := w.session.dialed, turn? := some i }.set i
        (.engaged (.dialing w.session.dials command))) := by
  have hgrip : ({ w with session := w.session.dialed, turn? := some i }.set i
      (.engaged (.dialing w.session.dials command))).grip = .seeking w.session.dials :=
    grip_engage here
  refine ⟨h.coherent.engage here (.inl free) (.inr vacant), ?_, ?_, ?_, ?_⟩
  · intro id hid
    rw [hgrip] at hid
    simp at hid
  · intro id hid
    rw [hgrip] at hid
    injection hid with hid
    -- the number of the connection is new, and no news is belated of one that is not yet there
    rw [← hid, same]
    exact ⟨Nat.lt_succ_self _, fun hb => Nat.lt_irrefl _ (h.old _ hb)⟩
  · intro hempty
    rw [hgrip] at hempty
    simp at hempty
  · intro id hb
    exact Nat.lt_succ_of_lt (h.old id ((same id).1 hb))

/-- A call gets on, or begins with the connection in the slot. -/
theorem Accounted.engaged (h : Accounted d errands acts w) {e : Errand} {r : Session × Call}
    (here : w.errands[i]? = some e) (silent : e ≠ .unannounced)
    (turn : w.turn? = none ∨ w.turn? = some i)
    (together : Session.Together w.grip w.session r)
    (same : ∀ id, Belated d errands acts' id ↔ Belated d errands acts id) :
    Accounted d errands acts'
      ({ w with session := r.1, turn? := some i }.set i (.engaged r.2)) := by
  have hgrip : ({ w with session := r.1, turn? := some i }.set i (.engaged r.2)).grip
      = r.1.grip r.2 := grip_engage here
  refine h.moves (h.coherent.engage here turn together.slot) same ?_ together.dials
    fun j hj => unannounced_set here silent hj
  rw [hgrip]
  exact together.moves

/-- The connection is dropped, which is yet to be announced. -/
theorem Accounted.released (h : Accounted d errands acts w) (here : w.errands[i]? = some .closing)
    (free : w.turn? = none)
    (same : ∀ id, Belated d errands acts' id ↔ Belated d errands acts id) :
    Accounted d errands acts' ({ w with session := w.session.release }.set i .unannounced) := by
  have hslot := Session.release_slot w.session
  have hgrip : ({ w with session := w.session.release }.set i .unannounced).grip = .empty := by
    have hfree : ({ w with session := w.session.release }.set i .unannounced).grip
        = w.session.release.rest := grip_of_free free
    rw [hfree, Session.rest, hslot]
  refine accounted_of_empty (h.coherent.pass here (by simp) (by simp) (fun _ => hslot)) hgrip
    (fun _ => ⟨i, ?_⟩) fun id hb => ?_
  · rw [errands_set (w := { w with session := w.session.release }) here, if_pos rfl]
  · exact Session.release_dials w.session ▸ h.old id ((same id).1 hb)

/-- The turn is given back: what the call left is in the slot. -/
theorem Accounted.left (h : Accounted d errands acts w) {call : Call}
    {result? : Option (Except GatewayError Wire.Reply)}
    (here : w.errands[i]? = some (.engaged call)) (ended : call.Over)
    (same : ∀ id, Belated d errands acts' id ↔ Belated d errands acts id) :
    Accounted d errands acts' ({ w with turn? := none }.set i (.done result?)) := by
  have hturn := h.coherent.engaged i call here
  -- a call that is over holds no more than the session does at rest
  have hgrip : w.grip = ({ w with turn? := none }.set i (.done result?)).grip := by
    have hrest : ({ w with turn? := none }.set i (.done result?)).grip = w.session.rest :=
      grip_of_free rfl
    rw [grip_of_engaged hturn here, hrest]
    cases call <;> simp_all [Call.Over, Session.grip]
  have hcoherent : Coherent ({ w with turn? := none }.set i (.done result?)) := by
    refine ⟨fun j call' hj => ?_, fun j hj => by simp [set] at hj⟩
    rw [errands_set (w := { w with turn? := none }) here] at hj
    by_cases hij : i = j
    · rw [if_pos hij] at hj
      simp at hj
    · rw [if_neg hij] at hj
      rw [h.coherent.engaged j call' hj] at hturn
      exact absurd (Option.some.inj hturn).symm hij
  refine h.moves hcoherent same ?_ rfl fun j hj => unannounced_set here (by simp) hj
  rw [← hgrip]
  exact .stay

/-- An errand is given up before its turn. -/
theorem Accounted.withdrawn (h : Accounted d errands acts w) {e : Errand}
    (here : w.errands[i]? = some e) (waits : (∃ command, e = .calling command) ∨ e = .closing)
    (same : ∀ id, Belated d errands acts' id ↔ Belated d errands acts id) :
    Accounted d errands acts' (w.set i (.done none)) := by
  have hidle : ∀ call, e ≠ .engaged call := by
    rcases waits with ⟨command, rfl⟩ | rfl <;> simp
  have hsilent : e ≠ .unannounced := by
    rcases waits with ⟨command, rfl⟩ | rfl <;> simp
  have hgrip : (w.set i (.done none)).grip = w.grip := h.coherent.grip_pass here hidle rfl
  refine h.moves (h.coherent.pass here hidle (by simp) fun hs => hs) same ?_ rfl
    fun j hj => unannounced_set here hsilent hj
  rw [hgrip]
  exact .stay

/-- An announcement: it is belated if there is a connection by now. -/
theorem Accounted.announced (h : Accounted d errands acts w)
    (here : w.errands[i]? = some .unannounced)
    (belated : ∀ id,
      Belated d errands acts' id ↔ Belated d errands acts id ∨ w.grip = .holding id) :
    Accounted d errands acts'
      ({ w with session := w.session.publish .unconnected }.set i (.done none)) := by
  have hgrip : ({ w with session := w.session.publish .unconnected }.set i (.done none)).grip
      = w.grip := h.coherent.grip_pass here (by simp) rfl
  refine ⟨h.coherent.pass here (by simp) (by simp) (fun hs => hs), ?_, ?_, ?_, ?_⟩
  · intro id hid
    rw [hgrip] at hid
    -- what was held is now belated: it is still there, but said to be gone
    refine ⟨(h.holding id hid).1, fun hcon => ?_, fun hnot => ?_⟩
    · simp [set, Session.publish] at hcon
    · exact absurd ((belated id).2 (.inr hid)) hnot
  · intro id hid
    rw [hgrip] at hid
    obtain ⟨hlt, hnot⟩ := h.seeking id hid
    refine ⟨hlt, fun hb => ?_⟩
    rcases (belated id).1 hb with hb | hb
    · exact hnot hb
    · rw [hid] at hb
      simp at hb
  · intro _ hcon
    simp [set, Session.publish] at hcon
  · intro id hb
    rcases (belated id).1 hb with hb | hb
    · exact h.old id hb
    · exact (h.holding id hb).1

end

/-- **Every act is accounted for.** -/
theorem accounted_happens (h : Accounted d errands acts (run d { errands } acts))
    (ha : Happens d (run d { errands } acts) a w') : Accounted d errands (acts ++ [a]) w' := by
  cases ha with
  | @begun i command here free =>
    have same : ∀ id, Belated d errands (acts ++ [(i, Act.enter)]) id
        ↔ Belated d errands acts id := fun id => belated_silent (by simp)
    rcases Option.eq_none_or_eq_some (run d { errands } acts).session.slot? with
      vacant | ⟨live, held⟩
    · have hbegin : (run d { errands } acts).session.begin command
          = ((run d { errands } acts).session.dialed,
            .dialing (run d { errands } acts).session.dials command) := by
        simp only [Session.begin, vacant]
        rfl
      rw [hbegin]
      exact h.begun_vacant here free vacant same
    · have htogether := Session.together_begin held command
      rw [← grip_of_free free] at htogether
      exact h.engaged here (by simp) (.inl free) htogether same
  | @released i here free =>
    exact h.released here free fun id => belated_silent (by simp)
  | @felt i call stimulus here =>
    -- the errand with a call is the one that has the turn
    have hturn := h.coherent.engaged i call here
    obtain ⟨call', hcall', hslot⟩ := h.coherent.taken i hturn
    obtain rfl : call = call' := by
      rw [hcall'] at here
      exact (Errand.engaged.inj (Option.some.inj here)).symm
    have htogether := Session.together_step d hslot stimulus
    rw [← grip_of_engaged hturn here] at htogether
    have same : ∀ id, Belated d errands (acts ++ [(i, Act.feel stimulus)]) id
        ↔ Belated d errands acts id := fun id => belated_silent (by simp)
    have hengaged := h.engaged here (by simp) (.inr hturn) htogether same
    rw [← hturn] at hengaged
    exact hengaged
  | left here ended => exact h.left here ended fun id => belated_silent (by simp)
  | @announced i here =>
    refine h.announced here fun id => ?_
    rw [belated_concat]
    refine or_congr_right ⟨?_, fun hgrip => ⟨i, rfl, here, hgrip⟩⟩
    rintro ⟨j, -, -, hgrip⟩
    exact hgrip
  | withdrawn here waits => exact h.withdrawn here waits fun id => belated_silent (by simp)
  | nothing silent =>
    exact h.moves h.coherent (fun id => belated_silent silent) .stay rfl fun j hj => hj

/-- A new session is accounted for, and stays so. -/
theorem accounted_run (d : Device) (fresh : AtRest { errands }) (acts : List (Nat × Act)) :
    Accounted d errands acts (run d { errands } acts) := by
  induction acts using List.reverseRecOn with
  | nil =>
    have hold : ∀ id, ¬ Belated d errands [] id := by
      rintro id ⟨before, i, after, heq, -, -⟩
      simp at heq
    have hcoherent : Coherent { errands } := by
      refine ⟨fun i call hi => ?_, fun i hi => by simp at hi⟩
      exact (fresh _ (List.mem_of_getElem? hi)).elim
    exact accounted_of_empty hcoherent rfl (fun hcon => by simp [run] at hcon)
      fun id hb => absurd hb (hold id)
  | append_singleton acts a ih =>
    rw [run_concat]
    exact accounted_happens ih (happens_step d _ a.1 a.2)

/-- Whether a session is at rest can be tested, errand by errand. -/
instance (w : Sharing) : Decidable w.AtRest :=
  @List.decidableBAll _ _ (fun e => match e with
    | .calling _ | .closing | .done _ => .isTrue trivial
    | .engaged _ | .unannounced => .isFalse not_false) w.errands

/-- **When a session is right about itself.** However many errands are run on a session and in
whatever order their acts come: at rest it says that it is connected exactly if it holds a
connection, provided that no errand announced the contrary after this connection had been made; and
if one did, it does not. -/
theorem status_at_rest (d : Device) (fresh : AtRest { errands })
    (rest : (run d { errands } acts).AtRest) :
    ((run d { errands } acts).session.status = .connected
        ↔ (run d { errands } acts).session.slot?.isSome = true)
      ↔ ∀ live, (run d { errands } acts).session.slot? = some live →
        ¬ Belated d errands acts live.id := by
  have h := accounted_run d fresh acts
  have hfree : (run d { errands } acts).turn? = none := by
    rcases Option.eq_none_or_eq_some (run d { errands } acts).turn? with free | ⟨i, hi⟩
    · exact free
    · obtain ⟨call, hcall, -⟩ := h.coherent.taken i hi
      exact (rest _ (List.mem_of_getElem? hcall)).elim
  -- nobody has the turn, so whatever is held is in the slot
  have hgrip := grip_of_free hfree
  unfold Session.rest at hgrip
  rcases Option.eq_none_or_eq_some (run d { errands } acts).session.slot? with vacant | ⟨live, held⟩
  · -- whoever emptied the slot has said so since
    have hnot : (run d { errands } acts).session.status ≠ .connected := by
      intro hcon
      simp only [vacant] at hgrip
      obtain ⟨i, hi⟩ := h.empty hgrip hcon
      exact (rest _ (List.mem_of_getElem? hi)).elim
    simp [vacant, hnot]
  · simp only [held] at hgrip
    rw [(h.holding live.id hgrip).2, held]
    simp

/-- A session is closed while somebody calls. -/
def closeAndCall : List Errand := [.closing, .calling ⟨"/a", []⟩]

/-- The closing finds nothing to drop, and is overtaken by the call before it says so. -/
def overtaken : List (Nat × Act) :=
  let done := (Wire.Framing.write ["!done"]).bytes
  [(0, .enter), (1, .enter), (1, .feel .opened), (1, .feel (.stream (.took 64))),
    (1, .feel (.stream (.delivered done))), (1, .feel (.stream (.took 64))),
    (1, .feel (.stream (.delivered done))), (1, .leave), (0, .announce)]

theorem overtaken_ends : (run {} { errands := closeAndCall } overtaken).AtRest
    ∧ (run {} { errands := closeAndCall } overtaken).session.status = .unconnected
    ∧ (run {} { errands := closeAndCall } overtaken).session.slot?.isSome = true := by
  decide +kernel

/-- The announcement was belated indeed. -/
theorem overtaken_belated : AtRest { errands := closeAndCall }
    ∧ (run {} { errands := closeAndCall } overtaken).AtRest
    ∧ ∃ live, (run {} { errands := closeAndCall } overtaken).session.slot? = some live
      ∧ Belated {} closeAndCall overtaken live.id := by
  have hfresh : AtRest { errands := closeAndCall } := by decide
  obtain ⟨hrest, hdenied, hheld⟩ := overtaken_ends
  refine ⟨hfresh, hrest, ?_⟩
  by_contra hnone
  have hright := (status_at_rest {} hfresh hrest).2 fun live hl hb => hnone ⟨live, hl, hb⟩
  rw [hdenied] at hright
  exact absurd (hright.2 hheld) (by decide)

/-- **A session at rest can hold a connection and deny it.** -/
theorem denied_at_rest :
    ¬ ∀ (d : Device) (errands : List Errand) (acts : List (Nat × Act)), AtRest { errands } →
      (run d { errands } acts).AtRest →
      ((run d { errands } acts).session.status = .connected
        ↔ (run d { errands } acts).session.slot?.isSome = true) := by
  intro h
  obtain ⟨hrest, hdenied, hheld⟩ := overtaken_ends
  have hright := h {} closeAndCall overtaken (by decide) hrest
  rw [hdenied] at hright
  exact absurd (hright.2 hheld) (by decide)

end Sharing

end RouterMenu
