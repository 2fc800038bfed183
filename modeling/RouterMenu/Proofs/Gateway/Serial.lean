import RouterMenu.Proofs.Gateway.Rest

/-!
# Calls that share a session follow one another

However the acts of any number of callers are interleaved, the session does what it would have done
had the calls been made one after another, in the order in which they got the turn. A call that has
got the turn has a `Stay`, in which everything that happens to it is noted; the stays in their order
are the sequential history with which the interleaved run is compared.

`Serial` says how the two stand to each other at every point: the calls whose stays are over have
been executed by turns, and the one that has the turn has got as far on top of that as its stay
tells. Every act keeps this (`serial_goes`), since only the errand that has the turn can reach the
session. An errand without a stay has left no trace, which is a comparison of its own, with the run
in which its acts are left out (`alike_run`).
-/

namespace RouterMenu

open Wire

namespace Sharing

variable {d : Device} {commands : List Command} {w w' : Sharing} {i : Nat}

/-! ## The order of the calls -/

/-- Callers who share a new session; none has had the turn yet. -/
def callers (commands : List Command) : Sharing := { errands := commands.map .calling }

/-- The time during which a call has the turn: whose it is, and what happens to it. -/
structure Stay where
  place : Nat
  command : Command
  stimuli : List Stimulus := []

/-- The stay of a call as a turn of a session that nobody shares. -/
def Stay.turn (s : Stay) : Turn := .call s.command s.stimuli

/-- Notes what happens to the call at a place, if this is its stay. -/
def Stay.feel (i : Nat) (stimulus : Stimulus) (s : Stay) : Stay :=
  if s.place = i then { s with stimuli := s.stimuli ++ [stimulus] } else s

@[simp] theorem Stay.feel_place (i : Nat) (stimulus : Stimulus) (s : Stay) :
    (s.feel i stimulus).place = s.place := by
  unfold feel
  split <;> rfl

/-- The stays after one more act: a call that gets the turn begins its stay. -/
def noted (w : Sharing) (log : List Stay) : Nat × Act → List Stay
  | (i, .enter) =>
    match w.errands[i]?, w.turn? with
    | some (.calling command), none => log ++ [{ place := i, command }]
    | _, _ => log
  | (i, .feel stimulus) =>
    match w.errands[i]? with
    | some (.engaged _) => log.map (Stay.feel i stimulus)
    | _ => log
  | _ => log

/-- The stays in the course of acts, in the order in which the calls got the turn, behind the stays
in `log`. -/
def stays (d : Device) (w : Sharing) (log : List Stay) : List (Nat × Act) → List Stay
  | [] => log
  | a :: acts => stays d (w.step d a.1 a.2) (w.noted log a) acts

theorem stays_concat (d : Device) (w : Sharing) (log : List Stay) (acts : List (Nat × Act))
    (a : Nat × Act) :
    stays d w log (acts ++ [a]) = (run d w acts).noted (stays d w log acts) a := by
  induction acts generalizing w log with
  | nil => rfl
  | cons b acts ih => exact ih (w.step d b.1 b.2) (w.noted log b)

/-- A stay that has begun remains in the order. -/
theorem exists_noted {log : List Stay} {s : Stay} (h : s ∈ log) (w : Sharing) (a : Nat × Act) :
    ∃ s' ∈ w.noted log a, s'.place = s.place := by
  unfold noted
  split
  · split
    · exact ⟨s, List.mem_append_left _ h, rfl⟩
    · exact ⟨s, h, rfl⟩
  · split
    · exact ⟨_, List.mem_map_of_mem h, s.feel_place ..⟩
    · exact ⟨s, h, rfl⟩
  · exact ⟨s, h, rfl⟩

/-- The results of calls that follow one another, each with the place of its call. -/
def outcomes (d : Device) (s : Session) :
    List Stay → List (Nat × Option (Except GatewayError Reply))
  | [] => []
  | stay :: later =>
    (stay.place, (s.through d stay.command stay.stimuli).2.result?)
      :: outcomes d (s.turn d stay.turn) later

theorem outcomes_append (d : Device) (s : Session) (log later : List Stay) :
    outcomes d s (log ++ later)
      = outcomes d s log ++ outcomes d (Session.run d s (log.map Stay.turn)) later := by
  induction log generalizing s with
  | nil => rfl
  | cons stay log ih => simp only [List.cons_append, outcomes, ih]; rfl

/-! ## All that can happen among callers -/

/-- All errands are calls. -/
def OnlyCalls (w : Sharing) : Prop := ∀ e ∈ w.errands, e ≠ .closing ∧ e ≠ .unannounced

/-- All that an act can do to callers, and to the order of their stays. -/
inductive Goes (d : Device) (w : Sharing) (log : List Stay) :
    Nat × Act → Sharing → List Stay → Prop where
  | begun {i : Nat} {command : Command} (here : w.errands[i]? = some (.calling command))
      (free : w.turn? = none) :
      Goes d w log (i, .enter)
        ({ w with session := (w.session.begin command).1, turn? := some i }.set i
          (.engaged (w.session.begin command).2))
        (log ++ [{ place := i, command }])
  | felt {i : Nat} {call : Call} {stimulus : Stimulus}
      (here : w.errands[i]? = some (.engaged call)) :
      Goes d w log (i, .feel stimulus)
        ({ w with session := (w.session.step d call stimulus).1 }.set i
          (.engaged (w.session.step d call stimulus).2))
        (log.map (Stay.feel i stimulus))
  | left {i : Nat} {call : Call} (here : w.errands[i]? = some (.engaged call))
      (ended : call.Over) :
      Goes d w log (i, .leave) ({ w with turn? := none }.set i (.done call.result?)) log
  | withdrawn {i : Nat} {command : Command} (here : w.errands[i]? = some (.calling command)) :
      Goes d w log (i, .withdraw) (w.set i (.done none)) log
  | nothing {a : Nat × Act} : Goes d w log a w log

/-- **Every act of a caller is one of these.** -/
theorem goes_step (only : w.OnlyCalls) (log : List Stay) (a : Nat × Act) :
    Goes d w log a (w.step d a.1 a.2) (w.noted log a) := by
  obtain ⟨i, a⟩ := a
  -- most acts find the caller where they mean nothing
  have hnothing : w.step d i a = w → w.noted log (i, a) = log →
      Goes d w log (i, a) (w.step d i a) (w.noted log (i, a)) := by
    intro hstep hnoted
    rw [hstep, hnoted]
    exact .nothing
  cases here : w.errands[i]? with
  | none =>
    refine hnothing (by simp [step, here]) ?_
    cases a <;> simp [noted, here]
  | some e =>
    cases e with
    -- by `only`, nobody is here but callers
    | closing => exact absurd rfl (only _ (List.mem_of_getElem? here)).1
    | unannounced => exact absurd rfl (only _ (List.mem_of_getElem? here)).2
    | calling command =>
      cases a with
      | enter =>
        cases free : w.turn? with
        | none =>
          simp only [step, happen, noted, here, free, if_true]
          exact .begun here free
        | some j =>
          exact hnothing (by simp [step, happen, here, free]) (by simp [noted, here, free])
      | withdraw =>
        simp only [step, happen, noted, here]
        exact .withdrawn here
      | feel stimulus => exact hnothing (by simp [step, happen, here]) (by simp [noted, here])
      | leave => exact hnothing (by simp [step, happen, here]) rfl
      | announce => exact hnothing (by simp [step, happen, here]) rfl
    | engaged call =>
      cases a with
      | feel stimulus =>
        simp only [step, happen, noted, here]
        exact .felt here
      | leave =>
        cases call with
        | done result =>
          simp only [step, happen, noted, here]
          exact .left here trivial
        | abandoned =>
          simp only [step, happen, noted, here]
          exact .left here trivial
        | dialing id command => exact hnothing (by simp [step, happen, here]) rfl
        | entering live x command => exact hnothing (by simp [step, happen, here]) rfl
        | running live x => exact hnothing (by simp [step, happen, here]) rfl
      | enter => exact hnothing (by simp [step, happen, here]) (by simp [noted, here])
      | withdraw => exact hnothing (by simp [step, happen, here]) rfl
      | announce => exact hnothing (by simp [step, happen, here]) rfl
    | done result? =>
      refine hnothing (by simp [step, happen, here]) ?_
      cases a <;> simp [noted, here]

/-! ## The interleaved run and the sequential one -/

/-- The places of the calls that have had the turn or have it. -/
def seated (past : List Stay) (now? : Option Stay) : List Nat :=
  (past ++ now?.toList).map Stay.place

/-- How an errand stands: it waits with its own command, or has the turn, or is over, either with
the result that its call has in the sequential run or without ever having had the turn. -/
def Stands (d : Device) (commands : List Command) (past : List Stay) (now? : Option Stay)
    (i : Nat) : Errand → Prop
  | .calling command => commands[i]? = some command ∧ i ∉ seated past now?
  | .engaged _ => now?.map Stay.place = some i
  | .done result? =>
    (i, result?) ∈ outcomes d {} past ∨ result? = none ∧ i ∉ seated past now?
  | .closing | .unannounced => False

/-- An errand stands as before if no other call has come to its place and no result was lost. -/
theorem Stands.mono {past past' : List Stay} {now? now' : Option Stay} {e : Errand}
    (h : Stands d commands past now? i e)
    (unseated : i ∉ seated past now? → i ∉ seated past' now')
    (turn : now?.map Stay.place = some i → now'.map Stay.place = some i)
    (results : ∀ result?, (i, result?) ∈ outcomes d {} past → (i, result?) ∈ outcomes d {} past') :
    Stands d commands past' now' i e := by
  cases e with
  | calling command => exact h.imp_right unseated
  | engaged call => exact turn h
  | done result? => exact h.imp (results result?) (And.imp_right unseated)
  | closing => exact h
  | unannounced => exact h

/-- The interleaved run has got as far as the sequential one in which the calls with the stays in
`past` have been executed and the call with the stay `now?`, if there is one, is under way. -/
structure Serial (d : Device) (commands : List Command) (past : List Stay) (now? : Option Stay)
    (w : Sharing) : Prop where
  turn : w.turn? = now?.map Stay.place
  idle : now? = none → w.session = Session.run d {} (past.map Stay.turn)
  busy : ∀ s, now? = some s → ∃ call, w.errands[s.place]? = some (.engaged call)
    ∧ Session.feel d ((Session.run d {} (past.map Stay.turn)).begin s.command) s.stimuli
      = (w.session, call)
  stands : ∀ i e, w.errands[i]? = some e → Stands d commands past now? i e
  places : (seated past now?).Nodup
  own : ∀ s ∈ past ++ now?.toList, commands[s.place]? = some s.command

theorem serial_callers (d : Device) (commands : List Command) :
    Serial d commands [] none (callers commands) where
  turn := rfl
  idle := fun _ => rfl
  busy := by simp
  stands := by
    intro i e hi
    rw [callers, List.getElem?_map] at hi
    obtain ⟨command, hcommand, rfl⟩ := Option.map_eq_some_iff.1 hi
    exact ⟨hcommand, by simp [seated]⟩
  places := by simp [seated]
  own := by simp

namespace Serial

variable {past : List Stay} {now? : Option Stay}

theorem only (h : Serial d commands past now? w) : w.OnlyCalls := by
  intro e he
  obtain ⟨i, hi⟩ := List.getElem?_of_mem he
  have hstands := h.stands i e hi
  cases e <;> simp_all [Stands]

/-- Whoever is engaged has the turn, and the stay of it is under way. -/
theorem engaged (h : Serial d commands past now? w) {call : Call}
    (here : w.errands[i]? = some (.engaged call)) :
    ∃ s, now? = some s ∧ s.place = i
      ∧ Session.feel d ((Session.run d {} (past.map Stay.turn)).begin s.command) s.stimuli
        = (w.session, call) := by
  obtain ⟨s, rfl, hplace⟩ := Option.map_eq_some_iff.1 (h.stands i _ here)
  obtain ⟨call', hcall', hfeel⟩ := h.busy s rfl
  rw [hplace, here, Option.some.injEq, Errand.engaged.injEq] at hcall'
  exact ⟨s, rfl, hplace, hcall' ▸ hfeel⟩

/-- One errand changes, and the others stand as before. -/
theorem stands_set {past' : List Stay} {now' : Option Stay} {e e' : Errand} {s : Session}
    {turn? : Option Nat} (h : Serial d commands past now? w) (here : w.errands[i]? = some e)
    (others : ∀ j e, i ≠ j → Stands d commands past now? j e → Stands d commands past' now' j e)
    (self : Stands d commands past' now' i e') :
    ∀ j e, (Sharing.set ⟨s, w.errands, turn?⟩ i e').errands[j]? = some e →
      Stands d commands past' now' j e := by
  intro j e'' hj
  rw [errands_set (w := ⟨s, w.errands, turn?⟩) here] at hj
  by_cases hij : i = j
  · rw [if_pos hij, Option.some.injEq] at hj
    rw [← hij, ← hj]
    exact self
  · rw [if_neg hij] at hj
    exact others j e'' hij (h.stands j e'' hj)

/-- A call gets the turn, which nobody has. -/
theorem begun (h : Serial d commands past none w) {command : Command}
    (here : w.errands[i]? = some (.calling command)) :
    Serial d commands past (some { place := i, command })
      ({ w with session := (w.session.begin command).1, turn? := some i }.set i
        (.engaged (w.session.begin command).2)) := by
  obtain ⟨hcommand, hnew⟩ := h.stands i _ here
  have hseated : seated past (some { place := i, command }) = seated past none ++ [i] := by
    simp [seated]
  refine ⟨rfl, by simp, ?_, h.stands_set here ?_ rfl, ?_, ?_⟩
  · -- the stay begins with the session as the past turns have left it
    rintro s ⟨⟩
    refine ⟨(w.session.begin command).2, ?_, ?_⟩
    · exact (errands_set (w := ⟨_, w.errands, some i⟩) here _ i).trans (if_pos rfl)
    · rw [← h.idle rfl]
      rfl
  · intro j e hij hj
    refine hj.mono (fun hfree => ?_) (by simp) (fun _ hmem => hmem)
    rw [hseated, List.mem_append, List.mem_singleton, not_or]
    exact ⟨hfree, Ne.symm hij⟩
  · rw [hseated]
    refine List.nodup_append.2 ⟨h.places, by simp, ?_⟩
    -- the caller had not stood in any past stay
    rintro a ha b hb rfl
    exact hnew (List.mem_singleton.1 hb ▸ ha)
  · intro s hs
    rcases List.mem_append.1 hs with hs | hs
    · exact h.own s (List.mem_append_left _ hs)
    · rw [Option.toList_some, List.mem_singleton] at hs
      rw [hs]
      exact hcommand

/-- Something happens to the call that has the turn. -/
theorem felt {s : Stay} (h : Serial d commands past (some s) w) {call : Call}
    (here : w.errands[s.place]? = some (.engaged call))
    (hfeel : Session.feel d ((Session.run d {} (past.map Stay.turn)).begin s.command) s.stimuli
      = (w.session, call)) (stimulus : Stimulus) :
    Serial d commands past (some { s with stimuli := s.stimuli ++ [stimulus] })
      ({ w with session := (w.session.step d call stimulus).1 }.set s.place
        (.engaged (w.session.step d call stimulus).2)) := by
  have hseated : seated past (some { s with stimuli := s.stimuli ++ [stimulus] })
      = seated past (some s) := by
    simp [seated]
  refine ⟨h.turn, by simp, ?_, h.stands_set here ?_ rfl, hseated ▸ h.places, ?_⟩
  · rintro s' ⟨⟩
    refine ⟨(w.session.step d call stimulus).2, ?_, ?_⟩
    · exact (errands_set (w := ⟨_, w.errands, w.turn?⟩) here _ s.place).trans (if_pos rfl)
    · -- one stimulus more is one step more of the same fold
      unfold Session.feel at hfeel ⊢
      rw [List.foldl_append, hfeel]
      rfl
  · exact fun j e _ hj => hj.mono (hseated ▸ id) id fun _ hmem => hmem
  · intro s' hs'
    rcases List.mem_append.1 hs' with hs' | hs'
    · exact h.own s' (List.mem_append_left _ hs')
    · rw [Option.toList_some, List.mem_singleton] at hs'
      rw [hs']
      exact h.own s (by simp)

/-- The call that has the turn is over and gives it back. -/
theorem left {s : Stay} (h : Serial d commands past (some s) w) {call : Call}
    (here : w.errands[s.place]? = some (.engaged call)) (ended : call.Over)
    (hfeel : Session.feel d ((Session.run d {} (past.map Stay.turn)).begin s.command) s.stimuli
      = (w.session, call)) :
    Serial d commands (past ++ [s]) none
      ({ w with turn? := none }.set s.place (.done call.result?)) := by
  -- what happens to a call that is over changes nothing
  have hthrough : (Session.run d {} (past.map Stay.turn)).through d s.command s.stimuli
      = (w.session, call) := by
    have hover := Session.feel_over d (c := (w.session, call)) ended [.abandoned]
    rw [← hover, ← hfeel, Session.through, Session.feel, Session.feel, List.foldl_append]
    rfl
  have hseated : seated (past ++ [s]) none = seated past (some s) := by simp [seated]
  refine ⟨rfl, fun _ => ?_, by simp, h.stands_set here ?_ (.inl ?_), hseated ▸ h.places, ?_⟩
  · rw [List.map_append, List.map_singleton, Session.run_concat]
    exact (congrArg Prod.fst hthrough).symm
  · intro j e hij hj
    refine hj.mono (hseated ▸ id) (fun hturn => absurd (Option.some.inj hturn) hij) ?_
    intro result? hmem
    rw [outcomes_append]
    exact List.mem_append_left _ hmem
  · rw [outcomes_append]
    refine List.mem_append_right _ ?_
    rw [outcomes, hthrough]
    exact List.mem_cons_self ..
  · simpa using h.own

/-- A call is given up before it gets the turn. -/
theorem withdrawn (h : Serial d commands past now? w) {command : Command}
    (here : w.errands[i]? = some (.calling command)) :
    Serial d commands past now? (w.set i (.done none)) := by
  obtain ⟨-, hnew⟩ := h.stands i _ here
  refine ⟨h.turn, h.idle, ?_, h.stands_set here (fun _ _ _ hj => hj) (.inr ⟨rfl, hnew⟩), h.places,
    h.own⟩
  intro s hs
  obtain ⟨call, hcall, hfeel⟩ := h.busy s hs
  have hne : i ≠ s.place := by
    rintro rfl
    rw [hcall] at here
    simp at here
  exact ⟨call, (errands_set (w := w) here _ s.place).trans ((if_neg hne).trans hcall), hfeel⟩

end Serial

/-- What happens to the call that has the turn is noted in the last stay and in no other. -/
theorem map_feel {past : List Stay} {s : Stay} (h : (seated past (some s)).Nodup)
    (stimulus : Stimulus) :
    (past ++ [s]).map (Stay.feel s.place stimulus)
      = past ++ [{ s with stimuli := s.stimuli ++ [stimulus] }] := by
  have hpast : past.map (Stay.feel s.place stimulus) = past := by
    refine (List.map_congr_left fun s' hs' => ?_).trans (List.map_id past)
    refine if_neg fun hplace => ?_
    rw [seated, Option.toList_some, List.map_append] at h
    exact (List.nodup_append.1 h).2.2 _ (List.mem_map_of_mem hs') _ (by simp) hplace
  rw [List.map_append, hpast, List.map_singleton, Stay.feel, if_pos rfl]

/-- **Every act keeps the interleaved run in step with the sequential one.** -/
theorem serial_goes {past : List Stay} {now? : Option Stay} {a : Nat × Act} {log : List Stay}
    (h : Serial d commands past now? w) (ha : Goes d w (past ++ now?.toList) a w' log) :
    ∃ past' now', log = past' ++ now'.toList ∧ Serial d commands past' now' w' := by
  cases ha with
  | @begun i command here free =>
    -- a free turn means that nobody has a stay that is not over
    have hnow : now? = none := by
      have hturn := h.turn
      rw [free] at hturn
      simpa using hturn.symm
    subst hnow
    exact ⟨past, some { place := i, command }, by simp, h.begun here⟩
  | @felt i call stimulus here =>
    obtain ⟨s, rfl, rfl, hfeel⟩ := h.engaged here
    exact ⟨past, some { s with stimuli := s.stimuli ++ [stimulus] },
      map_feel h.places stimulus, h.felt here hfeel stimulus⟩
  | @left i call here ended =>
    obtain ⟨s, rfl, rfl, hfeel⟩ := h.engaged here
    exact ⟨past ++ [s], none, by simp, h.left here ended hfeel⟩
  | withdrawn here => exact ⟨past, now?, rfl, h.withdrawn here⟩
  | nothing => exact ⟨past, now?, rfl, h⟩

theorem serial_run (d : Device) (commands : List Command) (acts : List (Nat × Act)) :
    ∃ past now?, stays d (callers commands) [] acts = past ++ now?.toList
      ∧ Serial d commands past now? (run d (callers commands) acts) := by
  induction acts using List.reverseRecOn with
  | nil => exact ⟨[], none, rfl, serial_callers d commands⟩
  | append_singleton acts a ih =>
    obtain ⟨past, now?, hlog, hserial⟩ := ih
    have hgoes := goes_step (d := d) hserial.only (past ++ now?.toList) a
    obtain ⟨past', now', hlog', hserial'⟩ := serial_goes hserial hgoes
    rw [stays_concat, run_concat, hlog]
    exact ⟨past', now', hlog', hserial'⟩

/-! ## Open connections -/

/-- The connection that an errand uses. -/
def live? : Errand → Option Live
  | .engaged (.entering live ..) | .engaged (.running live _) => some live
  | _ => none

/-- The connections that are open, in the slot or in use. -/
def connections (w : Sharing) : List Live :=
  w.session.slot?.toList ++ w.errands.filterMap live?

/-- Only one place of a list has something to show. -/
theorem filterMap_of_alone {α β : Type} {f : α → Option β} {l : List α} {i : Nat}
    (alone : ∀ j a, l[j]? = some a → j ≠ i → f a = none) :
    l.filterMap f = (l[i]?.bind f).toList := by
  -- along the list and the place at once: either the head is meant, or it has nothing
  induction l generalizing i with
  | nil => rfl
  | cons b l ih =>
    cases i with
    | zero =>
      have hl : l.filterMap f = [] := by
        refine List.filterMap_eq_nil_iff.2 fun a ha => ?_
        obtain ⟨j, hj⟩ := List.getElem?_of_mem ha
        exact alone (j + 1) a hj (by simp)
      cases hb : f b <;> simp [hb, hl]
    | succ i =>
      have hb : f b = none := alone 0 b rfl (by simp)
      rw [List.filterMap_cons_none hb]
      exact ih fun j a hj hji => alone (j + 1) a hj (by simpa using hji)

/-- Whoever uses a connection has found the slot empty, and is alone. -/
theorem Coherent.connections_le (h : Coherent w) : w.connections.length ≤ 1 := by
  have hslot : w.session.slot?.toList.length ≤ 1 := by
    cases w.session.slot? <;> simp
  -- no errand but the one that has the turn has a call
  have hidle : ∀ j e, w.errands[j]? = some e → w.turn? ≠ some j → live? e = none := by
    intro j e hj hturn
    cases e with
    | engaged call => exact absurd (h.engaged j call hj) hturn
    | _ => rfl
  cases hturn : w.turn? with
  | none =>
    have hnone : w.errands.filterMap live? = [] := by
      refine List.filterMap_eq_nil_iff.2 fun e he => ?_
      obtain ⟨j, hj⟩ := List.getElem?_of_mem he
      exact hidle j e hj (by simp [hturn])
    rw [connections, hnone, List.append_nil]
    exact hslot
  | some i =>
    obtain ⟨call, hcall, hover⟩ := h.taken i hturn
    have halone : w.errands.filterMap live? = (live? (.engaged call)).toList := by
      rw [filterMap_of_alone (i := i), hcall]
      · rfl
      · intro j e hj hji
        refine hidle j e hj fun hij => hji ?_
        exact Option.some.inj (hij.symm.trans hturn)
    rw [connections, halone]
    rcases hover with ended | vacant
    · have hover : live? (.engaged call) = none := by cases call <;> simp_all [live?, Call.Over]
      rw [hover, Option.toList_none, List.append_nil]
      exact hslot
    · rw [vacant, Option.toList_none, List.nil_append]
      cases live? (.engaged call) <;> simp

/-! ## Calls without a stay -/

/-- Two runs that differ in one errand only. -/
structure Alike (i : Nat) (w w' : Sharing) : Prop where
  session : w.session = w'.session
  turn : w.turn? = w'.turn?
  others : ∀ j, i ≠ j → w.errands[j]? = w'.errands[j]?

namespace Alike

theorem set (h : Alike i w w') (j : Nat) (e : Errand) : Alike i (w.set j e) (w'.set j e) where
  session := h.session
  turn := h.turn
  others := by
    intro k hik
    have hk := h.others k hik
    simp only [Sharing.set, List.getElem?_set', hk]

/-- What another errand does depends on that errand and on the session. -/
theorem step (h : Alike i w w') {j : Nat} (hij : i ≠ j) (a : Act) :
    Alike i (w.step d j a) (w'.step d j a) := by
  obtain ⟨s, errands, turn?⟩ := w
  obtain ⟨s', errands', turn'⟩ := w'
  obtain ⟨hs, ht, others⟩ := h
  -- both have the same session and turn, so that only the errands of the others are left to
  -- compare
  cases hs
  cases ht
  have hsame (s : Session) (turn? : Option Nat) :
      Alike i ⟨s, errands, turn?⟩ ⟨s, errands', turn?⟩ := ⟨rfl, rfl, others⟩
  have hset (s : Session) (turn? : Option Nat) (e : Errand) :
      Alike i (Sharing.set ⟨s, errands, turn?⟩ j e) (Sharing.set ⟨s, errands', turn?⟩ j e) :=
    (hsame s turn?).set j e
  have hj : errands[j]? = errands'[j]? := others j hij
  unfold Sharing.step
  simp only [hj]
  cases errands'[j]? with
  | none => exact hsame ..
  | some e =>
    dsimp only
    unfold happen
    split
    · split
      · exact hset ..
      · exact hsame ..
    · split
      · exact hset ..
      · exact hsame ..
    · exact hset ..
    · exact hset ..
    · exact hset ..
    · exact hset ..
    · exact hset ..
    · exact hset ..
    · exact hsame ..

/-- An act of a caller who has no stay concerns that caller alone. -/
theorem goes {w'' : Sharing} {past : List Stay} {now? : Option Stay} {log : List Stay} {a : Act}
    (h : Alike i w w') (hserial : Serial d commands past now? w)
    (ha : Goes d w (past ++ now?.toList) (i, a) w'' log)
    (before : ∀ s ∈ past ++ now?.toList, s.place ≠ i) (after : ∀ s ∈ log, s.place ≠ i) :
    Alike i w'' w' := by
  -- whoever is engaged has a stay
  have hidle : ∀ call, w.errands[i]? ≠ some (.engaged call) := by
    intro call here
    obtain ⟨s, rfl, hplace, -⟩ := hserial.engaged here
    exact before s (by simp) hplace
  cases ha with
  | begun here free => exact absurd rfl (after _ (List.mem_append_right _ List.mem_cons_self))
  | felt here => exact absurd here (hidle _)
  | left here ended => exact absurd here (hidle _)
  | withdrawn here =>
    refine ⟨h.session, h.turn, fun j hij => ?_⟩
    rw [errands_set here, if_neg hij]
    exact h.others j hij
  | nothing => exact h

end Alike

/-- **A call without a stay leaves no trace**: the run is the same without its acts. -/
theorem alike_run (d : Device) (commands : List Command) (acts : List (Nat × Act))
    (unseated : ∀ s ∈ stays d (callers commands) [] acts, s.place ≠ i) :
    Alike i (run d (callers commands) acts)
      (run d (callers commands) (acts.filter (·.1 ≠ i))) := by
  induction acts using List.reverseRecOn with
  | nil => exact ⟨rfl, rfl, fun _ _ => rfl⟩
  | append_singleton acts a ih =>
    obtain ⟨past, now?, hlog, hserial⟩ := serial_run d commands acts
    rw [stays_concat, hlog] at unseated
    -- a stay would have remained
    have hbefore : ∀ s ∈ past ++ now?.toList, s.place ≠ i := by
      intro s hs
      obtain ⟨s', hs', hplace⟩ := exists_noted hs (run d (callers commands) acts) a
      exact hplace ▸ unseated s' hs'
    have halike := ih (hlog ▸ hbefore)
    rw [run_concat, List.filter_append]
    by_cases ha : a.1 = i
    · subst ha
      have hdropped : [a].filter (·.1 ≠ a.1) = [] := by simp
      rw [hdropped, List.append_nil]
      exact halike.goes hserial (goes_step hserial.only _ a) hbefore unseated
    · have hkept : [a].filter (·.1 ≠ i) = [a] := by simp [ha]
      rw [hkept, run_concat]
      exact halike.step (Ne.symm ha) a.2

/-- An errand that is over without a stay gets none any more. -/
theorem Goes.unseated {log log' : List Stay} {a : Nat × Act}
    {result? : Option (Except GatewayError Reply)} (h : Goes d w log a w' log')
    (ended : w.errands[i]? = some (.done result?)) (before : ∀ s ∈ log, s.place ≠ i) :
    w'.errands[i]? = some (.done result?) ∧ ∀ s ∈ log', s.place ≠ i := by
  -- so nothing happens to it
  have hset : ∀ {j e} (s : Session) (turn? : Option Nat) (e' : Errand),
      w.errands[j]? = some e → e ≠ .done result? → j ≠ i
        ∧ (Sharing.set ⟨s, w.errands, turn?⟩ j e').errands[i]? = some (.done result?) := by
    intro j e s turn? e' here hne
    have hji : j ≠ i := by
      rintro rfl
      exact hne (Option.some.inj (here.symm.trans ended))
    refine ⟨hji, ?_⟩
    rw [errands_set (w := ⟨s, w.errands, turn?⟩) here, if_neg hji]
    exact ended
  cases h with
  | @begun j command here free =>
    obtain ⟨hji, hover⟩ := hset (w.session.begin command).1 (some j) _ here (by simp)
    refine ⟨hover, fun s hs => ?_⟩
    rcases List.mem_append.1 hs with hs | hs
    · exact before s hs
    · rw [List.mem_singleton.1 hs]
      exact hji
  | felt here =>
    refine ⟨(hset _ _ _ here (by simp)).2, fun s hs => ?_⟩
    obtain ⟨s', hs', rfl⟩ := List.mem_map.1 hs
    rw [Stay.feel_place]
    exact before s' hs'
  | left here ended => exact ⟨(hset _ _ _ here (by simp)).2, before⟩
  | withdrawn here => exact ⟨(hset _ _ _ here (by simp)).2, before⟩
  | nothing => exact ⟨ended, before⟩

/-- A call that is given up while it waits for its turn never gets a stay. -/
theorem unseated_of_withdrawn (d : Device) (commands : List Command)
    (before after : List (Nat × Act)) {command : Command}
    (waits : (run d (callers commands) before).errands[i]? = some (.calling command)) :
    (run d (callers commands) (before ++ (i, .withdraw) :: after)).errands[i]? = some (.done none)
      ∧ ∀ s ∈ stays d (callers commands) [] (before ++ (i, .withdraw) :: after), s.place ≠ i := by
  -- what comes later cannot seat a caller whose errand is done
  induction after using List.reverseRecOn with
  | nil =>
    obtain ⟨past, now?, hlog, hserial⟩ := serial_run d commands before
    obtain ⟨-, hnew⟩ := hserial.stands i _ waits
    rw [run_concat, stays_concat, hlog]
    refine ⟨?_, fun s hs hplace => hnew (hplace ▸ List.mem_map_of_mem hs)⟩
    simp only [step, waits, happen]
    rw [errands_set waits, if_pos rfl]
  | append_singleton after a ih =>
    obtain ⟨past, now?, hlog, hserial⟩ :=
      serial_run d commands (before ++ (i, .withdraw) :: after)
    rw [← List.cons_append, ← List.append_assoc, run_concat, stays_concat]
    exact (goes_step hserial.only _ a).unseated ih.1 ih.2

/-! ## The run as a whole -/

/-- Acts of callers amount to calls that follow one another: those with the stays in `past`, and
then the one with the stay `now?`, if there is one, as far as it has come. -/
structure Serialised (d : Device) (commands : List Command) (acts : List (Nat × Act))
    (past : List Stay) (now? : Option Stay) : Prop where
  /-- The order is that in which the calls got the turn. -/
  order : stays d (callers commands) [] acts = past ++ now?.toList
  /-- Connections, bytes and results are those of the calls in that order. -/
  serial : Serial d commands past now? (run d (callers commands) acts)
  /-- No two calls are under way. -/
  alone : ∀ (i j : Nat) (call call' : Call),
    (run d (callers commands) acts).errands[i]? = some (.engaged call) →
    (run d (callers commands) acts).errands[j]? = some (.engaged call') → i = j
  /-- No two connections are open. -/
  live : (run d (callers commands) acts).connections.length ≤ 1
  /-- A call that has not had the turn has done nothing. -/
  waiting : ∀ i, i ∉ seated past now? →
    Alike i (run d (callers commands) acts) (run d (callers commands) (acts.filter (·.1 ≠ i)))
  /-- A call that was given up while it waited has not had the turn, and has no result. -/
  withdrawn : ∀ (i : Nat) (command : Command) (before after : List (Nat × Act)),
    acts = before ++ (i, .withdraw) :: after →
    (run d (callers commands) before).errands[i]? = some (.calling command) →
    i ∉ seated past now? ∧ (run d (callers commands) acts).errands[i]? = some (.done none)

/-- **Calls on one session follow one another.** In whatever order the acts of any number of callers
come, and wherever one of them gives up: each point of the run is one of the run in which the same
calls are made one after another, in the order in which they got the turn. -/
theorem serialised_run (d : Device) (commands : List Command) (acts : List (Nat × Act)) :
    ∃ past now?, Serialised d commands acts past now? := by
  obtain ⟨past, now?, hlog, hserial⟩ := serial_run d commands acts
  have hfresh : AtRest (callers commands) := by
    intro e he
    obtain ⟨command, -, rfl⟩ := List.mem_map.1 he
    trivial
  have hcoherent := (accounted_run d hfresh acts).coherent
  -- who has a stay in the log, past or present
  have hplaces : ∀ i, i ∉ seated past now?
      ↔ ∀ s ∈ stays d (callers commands) [] acts, s.place ≠ i := by
    intro i
    rw [hlog, seated]
    simp only [List.mem_map, not_exists, not_and, ne_eq]
  refine ⟨past, now?, hlog, hserial, ?_, hcoherent.connections_le, ?_, ?_⟩
  · -- two that are engaged both have the turn
    intro i j call call' hi hj
    have hturn := hcoherent.engaged i call hi
    rw [hcoherent.engaged j call' hj] at hturn
    exact (Option.some.inj hturn).symm
  · intro i hi
    exact alike_run d commands acts ((hplaces i).1 hi)
  · rintro i command before after rfl waits
    obtain ⟨hover, hnone⟩ := unseated_of_withdrawn d commands before after waits
    exact ⟨(hplaces i).2 hnone, hover⟩

end Sharing

end RouterMenu
