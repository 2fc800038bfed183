import RouterMenu.Proofs.Gateway.Status

/-!
# The life of a connection as a session tells it

Whoever follows what a session publishes sees a walk through a small state machine (`Status.Edge`),
and can tell from a step of it what happened: only a call that was abandoned while it connected
leads from connecting to unconnected, and only closing makes a session unconnected that was not
connected. The walk is read off the deeds of the session, as `Session.history`, together with what
each publication came from.

What one act publishes is a walk on its own (`Session.Tells`), and walks are joined end to end. It
is the stage of a call that says from where its next step sets out (`Call.Shown`).
-/

namespace RouterMenu

/-! ## The state machine -/

/-- What a publication comes from. -/
inductive Occasion where
  /-- A call begins, or goes on. -/
  | call
  /-- A call is abandoned. -/
  | abandonment
  | closing
deriving DecidableEq, Repr

namespace Status

/-- How one status follows another. -/
inductive Edge : Occasion → Status → Status → Prop where
  | begun {s : Status} (vacant : s = .unconnected ∨ s = .failed) : Edge .call s .connecting
  | opened : Edge .call .connecting .connected
  | refused : Edge .call .connecting .failed
  | left : Edge .abandonment .connecting .unconnected
  | lost {o : Occasion} : Edge o .connected .unconnected
  | closed {s : Status} (vacant : s = .unconnected ∨ s = .failed) : Edge .closing s .unconnected

/-- A walk along edges: from a status, through those that are published, to the last of them. -/
inductive Walk : Status → List (Occasion × Status) → Status → Prop where
  | nil {s : Status} : Walk s [] s
  | cons {o : Occasion} {s t u : Status} {later : List (Occasion × Status)} (edge : Edge o s t)
      (rest : Walk t later u) : Walk s ((o, t) :: later) u

theorem Walk.append {s t u : Status} {first later : List (Occasion × Status)}
    (h : Walk s first t) (hl : Walk t later u) : Walk s (first ++ later) u := by
  induction h with
  | nil => exact hl
  | cons edge rest ih => exact .cons edge (ih hl)

theorem Walk.single {o : Occasion} {s t : Status} (edge : Edge o s t) : Walk s [(o, t)] t :=
  .cons edge .nil

/-- A walk that was joined can be taken apart. -/
theorem Walk.split {s u : Status} {first later : List (Occasion × Status)}
    (h : Walk s (first ++ later) u) : ∃ t, Walk s first t ∧ Walk t later u := by
  induction first generalizing s with
  | nil => exact ⟨s, .nil, h⟩
  | cons e first ih =>
    cases h with
    | cons edge rest =>
      obtain ⟨t, h1, h2⟩ := ih rest
      exact ⟨t, .cons edge h1, h2⟩

/-- A walk ends with what was published last. -/
theorem Walk.end_eq {s t : Status} {published : List (Occasion × Status)}
    (h : Walk s published t) : t = (published.getLast?.map Prod.snd).getD s := by
  induction h with
  | nil => rfl
  | @cons o s t u later edge rest ih =>
    rw [ih]
    cases later with
    | nil => rfl
    | cons e later => rw [List.getLast?_cons_cons, List.getLast?_eq_some_getLast (by simp)]; rfl

/-- A session is connected only directly after it was connecting, and by a call that goes on. -/
theorem Walk.before_connected {s u : Status} {first later : List (Occasion × Status)} {o : Occasion}
    (h : Walk s (first ++ (o, .connected) :: later) u) (hs : s ≠ .connecting) :
    o = .call ∧ first.getLast?.map Prod.snd = some .connecting := by
  obtain ⟨t, hfirst, hlater⟩ := h.split
  cases hlater with
  | cons edge rest =>
    -- one edge leads to `connected`, and it comes from `connecting`
    cases edge with
    | opened =>
      refine ⟨rfl, ?_⟩
      have hend := hfirst.end_eq
      cases hlast : first.getLast?.map Prod.snd with
      | none =>
        rw [hlast] at hend
        exact absurd hend.symm hs
      | some t =>
        rw [hlast] at hend
        rw [hend]
        rfl

end Status

/-! ## What deeds publish -/

namespace Deed

/-- The status that a deed makes known. -/
def status? : Deed → Option Status
  | .published status => some status
  | _ => none

/-- All statuses made known, in their order. Deeds are listed latest first. -/
def statuses (deeds : List Deed) : List Status := deeds.reverse.filterMap status?

theorem statuses_append (later earlier : List Deed) :
    statuses (later ++ earlier) = statuses earlier ++ statuses later := by
  simp [statuses]

theorem Over.statuses {id : Nat} {talk : List Deed} (h : Over id talk) :
    Deed.statuses talk = [] := by
  unfold Deed.statuses
  rw [List.filterMap_eq_nil_iff]
  intro e he
  obtain ⟨bytes, rfl | rfl⟩ := h e (List.mem_reverse.1 he) <;> rfl

end Deed

namespace Session

/-- The statuses that were published since a session was as it was. -/
def since (s s' : Session) : List Status :=
  (Deed.statuses s'.deeds).drop (Deed.statuses s.deeds).length

theorem since_of_deeds {s s' : Session} (fresh : List Deed) (h : s'.deeds = fresh ++ s.deeds) :
    s.since s' = Deed.statuses fresh := by
  rw [since, h, Deed.statuses_append, List.drop_left]

/-- The session has gone on from where it was. -/
def Extends (s s' : Session) : Prop := ∃ fresh, s'.deeds = fresh ++ s.deeds

theorem Extends.trans {s s' s'' : Session} (h : s.Extends s') (h' : s'.Extends s'') :
    s.Extends s'' := by
  obtain ⟨fresh, h⟩ := h
  obtain ⟨later, h'⟩ := h'
  exact ⟨later ++ fresh, by rw [h', h, List.append_assoc]⟩

theorem since_trans {s s' s'' : Session} (h : s.Extends s') (h' : s'.Extends s'') :
    s.since s'' = s.since s' ++ s'.since s'' := by
  obtain ⟨fresh, h⟩ := h
  obtain ⟨later, h'⟩ := h'
  have hboth : s''.deeds = (later ++ fresh) ++ s.deeds := by rw [h', h, List.append_assoc]
  rw [since_of_deeds _ h, since_of_deeds _ h', since_of_deeds _ hboth, Deed.statuses_append]

/-! ## What one act publishes -/

variable {o : Occasion} {s s' s'' : Session}

/-- What was published since, on one occasion, is a walk. -/
structure Tells (o : Occasion) (s s' : Session) : Prop where
  deeds : s.Extends s'
  walk : Status.Walk s.status ((s.since s').map fun t => (o, t)) s'.status

theorem Tells.trans (h : Tells o s s') (h' : Tells o s' s'') : Tells o s s'' where
  deeds := h.deeds.trans h'.deeds
  walk := by
    rw [since_trans h.deeds h'.deeds, List.map_append]
    exact h.walk.append h'.walk

/-- Deeds that publish nothing. -/
theorem tells_quiet (fresh : List Deed) (o : Occasion) (deeds : s'.deeds = fresh ++ s.deeds)
    (quiet : Deed.statuses fresh = []) (status : s'.status = s.status) : Tells o s s' where
  deeds := ⟨fresh, deeds⟩
  walk := by
    rw [since_of_deeds _ deeds, quiet, status]
    exact .nil

theorem tells_publish {t : Status} (edge : Status.Edge o s.status t) : Tells o s (s.publish t) where
  deeds := ⟨[.published t], rfl⟩
  walk := by
    have hdeeds : (s.publish t).deeds = [.published t] ++ s.deeds := rfl
    rw [since_of_deeds _ hdeeds]
    exact .single edge

/-- A connection is dropped, and a status published. -/
theorem tells_drop {t : Status} (id : Nat) (edge : Status.Edge o s.status t) :
    Tells o s ((s.note (.dropped id)).publish t) := by
  have hnote : Tells o s (s.note (.dropped id)) := tells_quiet [.dropped id] o rfl rfl rfl
  exact hnote.trans (tells_publish edge)

/-- Bytes that are moved are no news. -/
theorem exists_traffic (s : Session) (live : Live) (x : Exchange) (event : StreamEvent) :
    ∃ talk, s.traffic live x event = s.noteAll talk ∧ Deed.statuses talk = [] := by
  obtain ⟨talk, htalk, hover, -⟩ :=
    traffic_noteAll s (Deed.over_nil live.id) live.connection x event
  exact ⟨talk, htalk, hover.statuses⟩

theorem tells_traffic (o : Occasion) (s : Session) (live : Live) (x : Exchange)
    (event : StreamEvent) :
    Tells o s (s.traffic live x event) ∧ (s.traffic live x event).status = s.status := by
  obtain ⟨talk, htalk, hquiet⟩ := exists_traffic s live x event
  rw [htalk]
  exact ⟨tells_quiet talk o rfl hquiet rfl, rfl⟩

theorem tells_close (h : s.slot? = none → s.status = .unconnected ∨ s.status = .failed)
    (held : s.slot? ≠ none → s.status = .connected) : Tells .closing s s.close := by
  unfold close release
  cases hs : s.slot? with
  | none => exact tells_publish (.closed (h hs))
  | some live =>
    have hstatus : s.status = .connected := held (by simp [hs])
    have hrelease : Tells .closing s
        { s with slot? := none, deeds := .dropped live.id :: s.deeds } :=
      tells_quiet [.dropped live.id] _ rfl rfl rfl
    refine hrelease.trans (tells_publish ?_)
    rw [hstatus]
    exact .lost

end Session

/-! ## What a call publishes -/

/-- A call that connects has said so, and so has one that is connected. -/
def Call.Shown : Call → Status → Prop
  | .dialing .., status | .entering .., status => status = .connecting
  | .running .., status => status = .connected
  | .done _, _ | .abandoned, _ => True

/-- What a stimulus is to those who follow what the session publishes. -/
def Stimulus.occasion : Stimulus → Occasion
  | .abandoned => .abandonment
  | _ => .call

namespace Session

variable {d : Device} {s s' : Session}

/-- What has become of a session and a call since, on one occasion. -/
structure Goes (o : Occasion) (s : Session) (r : Session × Call) : Prop where
  tells : Tells o s r.1
  shown : r.2.Shown r.1.status

theorem Goes.after {o : Occasion} {r : Session × Call} (h : Tells o s s') (hr : Goes o s' r) :
    Goes o s r :=
  ⟨h.trans hr.tells, hr.shown⟩

theorem goes_stay {c : Call} (o : Occasion) (h : c.Shown s.status) : Goes o s (s, c) :=
  ⟨tells_quiet [] o rfl rfl rfl, h⟩

theorem goes_settle (h : s.status = .connected) (live : Live) (x : Exchange) :
    Goes .call s (s.settle live x) := by
  cases x with
  | clearing command => exact goes_stay _ h
  | sending => exact goes_stay _ h
  | receiving a => exact goes_stay _ h
  | done result =>
    by_cases ha : isAnswered result = true
    · rw [settle, if_pos ha]
      exact ⟨tells_quiet [] _ rfl rfl rfl, trivial⟩
    · rw [settle, if_neg ha]
      exact ⟨tells_drop _ (by rw [h]; exact .lost), trivial⟩

theorem goes_enter (h : s.status = .connecting) (live : Live) (command : Wire.Command)
    (x : Exchange) : Goes .call s (s.enter live command x) := by
  cases x with
  | clearing command' => exact goes_stay _ h
  | sending => exact goes_stay _ h
  | receiving a => exact goes_stay _ h
  | done result =>
    simp only [enter]
    cases Login.outcome result with
    | error e => exact ⟨tells_drop _ (by rw [h]; exact .refused), trivial⟩
    | ok u =>
      have hopened : Tells .call s (s.publish .connected) :=
        tells_publish (by rw [h]; exact .opened)
      exact .after hopened (goes_settle rfl _ _)

theorem goes_begin (vacant : s.slot? = none → s.status = .unconnected ∨ s.status = .failed)
    (held : s.slot? ≠ none → s.status = .connected) (command : Wire.Command) :
    Goes .call s (s.begin command) := by
  unfold begin
  cases hs : s.slot? with
  | none =>
    have hbegun : Tells .call s (s.publish .connecting) := tells_publish (.begun (vacant hs))
    exact .after hbegun
      ⟨tells_quiet [.dialed s.dials] _ rfl rfl rfl, rfl⟩
  | some live =>
    have hstatus : s.status = .connected := held (by simp [hs])
    have htaken : Tells .call s { s with slot? := none } :=
      tells_quiet [] _ rfl rfl rfl
    exact .after htaken (goes_settle (s := { s with slot? := none }) hstatus _ _)

/-- **Every stimulus lets a call tell a walk.** -/
theorem goes_step (d : Device) {c : Call} (h : c.Shown s.status) (stimulus : Stimulus) :
    Goes stimulus.occasion s (s.step d c stimulus) := by
  -- what is published depends on how far the call has come, and is an edge from its status
  cases c with
  | done result => exact goes_stay _ h
  | abandoned => exact goes_stay _ h
  | dialing id command =>
    have hs : s.status = .connecting := h
    cases stimulus with
    | opened => exact goes_enter hs ..
    | unopened fault => exact ⟨tells_publish (by rw [hs]; exact .refused), trivial⟩
    | stream event => exact goes_stay _ h
    | abandoned => exact ⟨tells_publish (by rw [hs]; exact .left), trivial⟩
  | entering live x command =>
    have hs : s.status = .connecting := h
    cases stimulus with
    | opened => exact goes_stay _ h
    | unopened fault => exact goes_stay _ h
    | stream event =>
      obtain ⟨htraffic, hstatus⟩ := tells_traffic .call s live x event
      exact .after htraffic (goes_enter (hstatus.trans hs) ..)
    | abandoned => exact ⟨tells_drop _ (by rw [hs]; exact .left), trivial⟩
  | running live x =>
    have hs : s.status = .connected := h
    cases stimulus with
    | opened => exact goes_stay _ h
    | unopened fault => exact goes_stay _ h
    | stream event =>
      obtain ⟨htraffic, hstatus⟩ := tells_traffic .call s live x event
      exact .after htraffic (goes_settle (hstatus.trans hs) ..)
    | abandoned => exact ⟨tells_drop _ (by rw [hs]; exact .lost), trivial⟩

/-! ## What runs publish -/

variable (d : Device)

/-- What is published while stimuli act on a call one after another. -/
def felt (c : Session × Call) : List Stimulus → List (Occasion × Status)
  | [] => []
  | stimulus :: stimuli =>
    let c' := c.1.step d c.2 stimulus
    ((c.1.since c'.1).map fun t => (stimulus.occasion, t)) ++ felt c' stimuli

/-- What is published in a turn. -/
def turnHistory (s : Session) : Turn → List (Occasion × Status)
  | .call command stimuli =>
    ((s.since (s.begin command).1).map fun t => (.call, t)) ++
      felt d (s.begin command) (stimuli ++ [.abandoned])
  | .close => (s.since s.close).map fun t => (.closing, t)
  | .forgone => []

/-- What is published in turns taken one after another. -/
def history (s : Session) : List Turn → List (Occasion × Status)
  | [] => []
  | t :: turns => s.turnHistory d t ++ history (s.turn d t) turns

theorem history_concat (s : Session) (turns : List Turn) (t : Turn) :
    history d s (turns ++ [t]) = history d s turns ++ (run d s turns).turnHistory d t := by
  induction turns generalizing s with
  | nil => simp [history, run]
  | cons u turns ih =>
    rw [List.cons_append, history, ih, history, List.append_assoc]
    rfl

/-- What was published since is a walk, and these are its publications. -/
structure Recounts (s s' : Session) (told : List (Occasion × Status)) : Prop where
  deeds : s.Extends s'
  since : told.map Prod.snd = s.since s'
  walk : Status.Walk s.status told s'.status

theorem Tells.recounts {o : Occasion} {s s' : Session} (h : Tells o s s') :
    Recounts s s' ((s.since s').map fun t => (o, t)) where
  deeds := h.deeds
  since := by simp [Function.comp_def]
  walk := h.walk

theorem recounts_nil (s : Session) : Recounts s s [] where
  deeds := ⟨[], rfl⟩
  since := (since_of_deeds [] rfl).symm
  walk := .nil

theorem Recounts.append {s s' s'' : Session} {told more : List (Occasion × Status)}
    (h : Recounts s s' told) (h' : Recounts s' s'' more) : Recounts s s'' (told ++ more) where
  deeds := h.deeds.trans h'.deeds
  since := by rw [List.map_append, h.since, h'.since, since_trans h.deeds h'.deeds]
  walk := h.walk.append h'.walk

variable {d : Device}

theorem recounts_felt {c : Session × Call} (h : c.2.Shown c.1.status) (stimuli : List Stimulus) :
    Recounts c.1 (feel d c stimuli).1 (felt d c stimuli) := by
  induction stimuli generalizing c with
  | nil => exact recounts_nil _
  | cons stimulus stimuli ih =>
    have hgoes := goes_step d h stimulus
    exact hgoes.tells.recounts.append (ih hgoes.shown)

/-- A session between turns says that it is connected if it is, and that it connects never. -/
theorem settled_cases {turns : List Turn} {s : Session} (h : Settled d turns s) :
    (s.slot? = none → s.status = .unconnected ∨ s.status = .failed)
      ∧ (s.slot? ≠ none → s.status = .connected) := by
  refine ⟨fun hs => ?_, fun hs => ?_⟩
  · rcases h.vacant hs with ⟨h1, -⟩ | ⟨h1, -⟩
    · exact .inr h1
    · exact .inl h1
  · obtain ⟨live, hlive⟩ := Option.ne_none_iff_exists'.1 hs
    exact h.held live hlive

/-- **Every turn tells a walk**, if it is taken between turns. -/
theorem recounts_turn {turns : List Turn} {s : Session} (h : Settled d turns s) (t : Turn) :
    Recounts s (s.turn d t) (s.turnHistory d t) := by
  obtain ⟨hvacant, hheld⟩ := settled_cases h
  cases t with
  | forgone => exact recounts_nil s
  | close => exact (tells_close hvacant hheld).recounts
  | call command stimuli =>
    have hbegin := goes_begin hvacant hheld command
    exact hbegin.tells.recounts.append (recounts_felt hbegin.shown _)

theorem recounts_run (d : Device) (turns : List Turn) :
    Recounts {} (run d {} turns) (history d {} turns) := by
  refine run_induction (P := fun turns s => Recounts {} s (history d {} turns)) (recounts_nil _)
    ?_ turns
  intro turns t ih
  rw [history_concat]
  exact ih.append (recounts_turn (settled_run d turns) t)

/-! ## Which calls publish what -/

/-- A call that makes an attempt to connect has said that it is connected if the attempt came to
its end and the user was let in, and not before. -/
structure Connects (s₀ : Session) (a : Attempt) (r : Session × Call) : Prop where
  follows : a.Follows r.1 r.2
  shown : r.2.Shown r.1.status
  deeds : s₀.Extends r.1
  opened : .connected ∈ s₀.since r.1 ↔ a = .ended (.ok ())

theorem mem_since_trans {s s' s'' : Session} (h : s.Extends s') (h' : s'.Extends s'')
    (t : Status) : t ∈ s.since s'' ↔ t ∈ s.since s' ∨ t ∈ s'.since s'' := by
  rw [since_trans h h', List.mem_append]

/-- What a login comes to is published, if it has come to anything. -/
theorem opened_enter (s : Session) (id : Nat) (c : Connection) (command : Wire.Command)
    (x : Exchange) :
    .connected ∈ s.since (s.enter ⟨id, c⟩ command x).1 ↔
      Attempt.ofLogin (c, x) = .ended (.ok ()) := by
  have hstay : s.since s = [] := since_of_deeds [] rfl
  cases x with
  | clearing command' => simp [enter, Attempt.ofLogin, hstay]
  | sending => simp [enter, Attempt.ofLogin, hstay]
  | receiving a => simp [enter, Attempt.ofLogin, hstay]
  | done result =>
    simp only [enter, Attempt.ofLogin]
    -- the login decides, and nothing that is published later can take it back
    cases Login.outcome result with
    | error e =>
      have hsince : s.since ((s.note (.dropped id)).publish .failed) = [.failed] :=
        since_of_deeds [.published .failed, .dropped id] rfl
      simp [hsince]
    | ok u =>
      have hpublish : s.Extends (s.publish .connected) := ⟨[.published .connected], rfl⟩
      have hmem : Status.connected ∈ s.since (s.publish .connected) := by
        rw [since_of_deeds [.published .connected] rfl]
        exact List.mem_singleton_self _
      have huse : Goes .call (s.publish .connected)
        ((s.publish .connected).use ⟨id, c⟩ command) := goes_settle rfl _ _
      rw [mem_since_trans hpublish huse.tells.deeds]
      exact ⟨fun _ => rfl, fun _ => .inl hmem⟩

theorem connects_step {s₀ : Session} {a : Attempt} {r : Session × Call} (h : Connects s₀ a r)
    (stimulus : Stimulus) : Connects s₀ (a.step d stimulus) (r.1.step d r.2 stimulus) := by
  obtain ⟨s, c⟩ := r
  have hgoes := goes_step d h.shown stimulus
  refine ⟨Attempt.follows_step h.follows stimulus, hgoes.shown, h.deeds.trans hgoes.tells.deeds, ?_⟩
  rw [mem_since_trans h.deeds hgoes.tells.deeds, h.opened]
  have hfollows := h.follows
  have hstay : s.since s = [] := since_of_deeds [] rfl
  -- the attempt and the call are at the same stage, and take the same stimulus
  cases a with
  | ended result =>
    cases result with
    | ok u => simp [Attempt.step]
    | error e =>
      obtain ⟨rfl, -⟩ := hfollows
      simp [Attempt.step, step, hstay]
  | left =>
    obtain ⟨rfl, -⟩ := hfollows
    simp [Attempt.step, step, hstay]
  | dialing =>
    obtain ⟨id, command, rfl⟩ := hfollows
    rw [or_iff_right (by simp)]
    cases stimulus with
    | opened => exact opened_enter ..
    | unopened fault =>
      have hsince : s.since (s.publish .failed) = [.failed] :=
        since_of_deeds [.published .failed] rfl
      simp [Attempt.step, step, hsince]
    | stream event => simp [Attempt.step, step, hstay]
    | abandoned =>
      have hsince : s.since (s.publish .unconnected) = [.unconnected] :=
        since_of_deeds [.published .unconnected] rfl
      simp [Attempt.step, step, hsince]
  | entering connection login =>
    obtain ⟨id, command, rfl⟩ := hfollows
    rw [or_iff_right (by simp)]
    cases stimulus with
    | opened => simp [Attempt.step, step, hstay]
    | unopened fault => simp [Attempt.step, step, hstay]
    | stream event =>
      obtain ⟨talk, htalk, hquiet⟩ := exists_traffic s ⟨id, connection⟩ login event
      have hnoted : s.Extends (s.noteAll talk) := ⟨talk, rfl⟩
      have hnews : Status.connected ∉ s.since (s.noteAll talk) := by
        rw [since_of_deeds talk rfl, hquiet]
        exact List.not_mem_nil
      have hstatus : (s.noteAll talk).status = .connecting := h.shown
      simp only [step, Attempt.step, htalk]
      rw [mem_since_trans hnoted (goes_enter hstatus ..).tells.deeds, or_iff_right hnews]
      exact opened_enter ..
    | abandoned =>
      have hsince : s.since ((s.note (.dropped id)).publish .unconnected) = [.unconnected] :=
        since_of_deeds [.published .unconnected, .dropped id] rfl
      simp [Attempt.step, step, hsince]

theorem connects_feel {s₀ : Session} {a : Attempt} {r : Session × Call} (h : Connects s₀ a r)
    (stimuli : List Stimulus) :
    Connects s₀ (stimuli.foldl (Attempt.step d) a) (feel d r stimuli) := by
  induction stimuli generalizing a r with
  | nil => exact h
  | cons stimulus stimuli ih => exact ih (connects_step h stimulus)

/-- A call that finds no connection has one if its attempt to connect succeeds. -/
theorem connected_mem_since {turns : List Turn} {s : Session} (h : Settled d turns s)
    (vacant : s.slot? = none) (command : Wire.Command) (stimuli : List Stimulus) :
    .connected ∈ s.since (s.through d command stimuli).1 ↔
      Attempt.run d stimuli = .ended (.ok ()) := by
  obtain ⟨hvacant, hheld⟩ := settled_cases h
  have hgoes := goes_begin hvacant hheld command
  have hbegin : Connects s .dialing (s.begin command) := by
    refine ⟨?_, hgoes.shown, hgoes.tells.deeds, ?_⟩
    · unfold begin
      rw [vacant]
      exact ⟨s.dials, command, rfl⟩
    · unfold begin
      rw [vacant, since_of_deeds [.dialed s.dials, .published .connecting] rfl]
      simp [Deed.statuses, Deed.status?]
  have hthrough := (connects_feel (d := d) hbegin (stimuli ++ [.abandoned])).opened
  rw [List.foldl_append] at hthrough
  refine hthrough.trans ?_
  -- to be abandoned changes nothing for an attempt that is over
  show (Attempt.run d stimuli).step d .abandoned = _ ↔ _
  cases Attempt.run d stimuli <;> simp [Attempt.step]

/-- What is published about a connection that is dropped after some traffic. -/
theorem since_of_drop {s : Session} {id : Nat} {talk : List Deed} (along : Deed.Over id talk)
    (dropped : Nat) :
    s.since (((({ s with slot? := none } : Session).noteAll talk).note (.dropped dropped)).publish
      .unconnected) = [.unconnected] := by
  rw [since_of_deeds ([.published .unconnected, .dropped dropped] ++ talk) rfl,
    Deed.statuses_append, along.statuses]
  rfl

/-- A call that finds a connection has nothing to tell, unless it is that the connection is lost. -/
theorem since_of_held {s s' : Session} {live : Live} {command : Wire.Command} {c : Call}
    (held : s.slot? = some live) (h : Reached d s command s' c) (ended : c.Over) :
    (∃ connection, s'.slot? = some ⟨live.id, connection⟩) ∧ s.since s' = []
      ∨ s'.slot? = none ∧ s.since s' = [.unconnected] := by
  have hheld : s.slot? ≠ none := by simp [held]
  -- with a connection in the slot there is nothing to dial, so only its use is left
  cases h with
  | dialing vacant | entering vacant along reached | unopened vacant fault | leftDialing vacant
  | rejected vacant along reached refused | leftEntering vacant along reached =>
    exact absurd vacant hheld
  | running ready along reached => simp [Call.Over] at ended
  | @answered b live' talk c result ready along reached answered =>
    cases ready with
    | opened vacant along reached accepted => exact absurd vacant hheld
    | kept held' =>
      obtain rfl := Option.some.inj (held.symm.trans held')
      exact .inl ⟨⟨c, rfl⟩, (since_of_deeds talk rfl).trans along.statuses⟩
  | @lost b live' talk c result ready along reached unanswered =>
    cases ready with
    | opened vacant along reached accepted => exact absurd vacant hheld
    | kept held' => exact .inr ⟨rfl, since_of_drop along live'.id⟩
  | @leftRunning b live' talk c x ready along reached =>
    cases ready with
    | opened vacant along reached accepted => exact absurd vacant hheld
    | kept held' => exact .inr ⟨rfl, since_of_drop along live'.id⟩

/-! ## All that is published -/

/-- What those can rely on who follow the statuses that a session publishes. -/
structure Candid (d : Device) (turns : List Turn) : Prop where
  /-- The history holds all statuses that were published. -/
  published : (history d {} turns).map Prod.snd = Deed.statuses (run d {} turns).deeds
  /-- Each follows its predecessor by an edge. -/
  walk : Status.Walk .unconnected (history d {} turns) (run d {} turns).status
  /-- A session is connected directly after it was connecting, and by a call that went on. -/
  connected : ∀ first o later, history d {} turns = first ++ (o, .connected) :: later →
    o = .call ∧ first.getLast?.map Prod.snd = some .connecting
  /-- The next call will say that it is connected if it finds no connection, dials and logs in. -/
  admitted : ∀ command stimuli,
    .connected ∈ (run d {} turns).since ((run d {} turns).turn d (.call command stimuli)) ↔
      (run d {} turns).slot? = none ∧ Attempt.run d stimuli = .ended (.ok ())
  /-- If it finds a connection it will put it back and say nothing, or lose it and say so. -/
  kept : ∀ command stimuli live, (run d {} turns).slot? = some live →
    let s := (run d {} turns).turn d (.call command stimuli)
    (∃ connection, s.slot? = some ⟨live.id, connection⟩) ∧ (run d {} turns).since s = []
      ∨ s.slot? = none ∧ (run d {} turns).since s = [.unconnected]

/-- **Every session is candid.** -/
theorem candid_run (d : Device) (turns : List Turn) : Candid d turns where
  published := by
    have hdeeds : (run d {} turns).deeds = (run d {} turns).deeds ++ ({} : Session).deeds := by simp
    rw [(recounts_run d turns).since, since_of_deeds _ hdeeds]
  walk := (recounts_run d turns).walk
  connected := by
    intro first o later h
    have hwalk := (recounts_run d turns).walk
    rw [h] at hwalk
    exact hwalk.before_connected (by decide)
  admitted := by
    intro command stimuli
    -- with a connection in the slot the attempt that `admitted` speaks of is never made, and
    -- nothing is said but that the connection is lost
    cases hs : (run d {} turns).slot? with
    | none =>
      rw [turn, connected_mem_since (settled_run d turns) hs]
      simp
    | some live =>
      obtain ⟨hr, hover⟩ := reached_run d turns command stimuli
      rcases since_of_held hs hr hover with ⟨-, h⟩ | ⟨-, h⟩
      · simp [turn, h]
      · simp [turn, h]
  kept := by
    intro command stimuli live hs
    obtain ⟨hr, hover⟩ := reached_run d turns command stimuli
    exact since_of_held hs hr hover

/-- A device that cannot be reached, and then a session that is closed. -/
example : history {} {} [.call ⟨"/a", []⟩ [.unopened .elapsed], .close] =
    [(.call, .connecting), (.call, .failed), (.closing, .unconnected)] := by decide

end Session

end RouterMenu
