import RouterMenu.Proofs.Gateway.Order
import RouterMenu.Proofs.Gateway.Status
import RouterMenu.Proofs.Text.Utf8
import RouterMenu.Proofs.Wire.RoundTrip

/-!
# Commands that fit into no frame

A word that is too long is met while its command is framed, when the words before it are in the
outbox already. None of them gets out: the exchange is over before anything is written, and the
outbox is dropped with its connection. What is lost is a connection on which all was well, and the
next call opens another.

What a call does with a connection does not depend on where it has it from. From the moment at which
the user is let in on a connection that was opened for it, a call goes on like one that has taken
this connection out of the slot (`exists_ready`), and is then either over at once (`use_of_fault`)
or about to write its frame (`use_of_fits`).
-/

namespace RouterMenu

open Wire

/-! ## Framing a command -/

/-- What is wrong with words one of which is too long is the first such word. -/
theorem Wire.Framing.exists_write_fault {words : List String}
    (long : ∃ word ∈ words, maxWordLength < (Text.Utf8.encode word).length) :
    ∃ before word after, words = before ++ word :: after
      ∧ (∀ w ∈ before, (Text.Utf8.encode w).length ≤ maxWordLength)
      ∧ maxWordLength < (Text.Utf8.encode word).length
      ∧ (write words).fault = some (.oversized (Text.Utf8.encode word).length) := by
  obtain ⟨word, hword⟩ : ∃ word, tooLong? words = some word := by
    rw [← Option.isSome_iff_exists, tooLong?, List.find?_isSome]
    simpa using long
  have hfault : (write words).fault = some (.oversized (Text.Utf8.encode word).length) := by
    rw [write_fault, hword]
    rfl
  obtain ⟨hlong, before, after, hsplit, hbefore⟩ := List.find?_eq_some_iff_append.1 hword
  exact ⟨before, word, after, hsplit, by simpa using hbefore, by simpa using hlong, hfault⟩

namespace Exchange

variable {c : Connection} {command : Command}

theorem start_of_silent (silent : c.outbox = []) (command : Command) :
    start c command = frame c command := by
  have hfull : ¬ fullOutbox ≤ c.outbox.length := by rw [silent]; decide
  rw [start, if_neg hfull]

/-- A command that does not fit ends its exchange, and leaves the words before the long one in the
outbox. -/
theorem start_of_fault (silent : c.outbox = []) {e : FrameError}
    (fault : (Framing.write command.words).fault = some e) :
    start c command =
      ({ c with outbox := command.frame }, .done (.error (.protocol (.frame e)))) := by
  simp only [start_of_silent silent, frame, silent, List.nil_append, fault, Command.frame]

theorem start_of_fits (silent : c.outbox = []) (fits : command.Fits) :
    start c command = ({ c with outbox := command.frame }, .sending) := by
  have hfault : (Framing.write command.words).fault = none := fits
  simp only [start_of_silent silent, frame, silent, List.nil_append, hfault, Command.frame]

end Exchange

/-! ## The moment at which a connection is there -/

namespace Session

variable {d : Device} {s b s' : Session} {live : Live} {command : Command} {c : Call}

theorem use_of_fault (silent : live.connection.outbox = []) {e : FrameError}
    (fault : (Framing.write command.words).fault = some e) :
    b.use live command = ((b.note (.dropped live.id)).publish .unconnected,
      .done (.error (.protocol (.frame e)))) := by
  simp only [use, Exchange.start_of_fault silent fault]
  rfl

theorem use_of_fits (silent : live.connection.outbox = []) (fits : command.Fits) :
    b.use live command =
      (b, .running ⟨live.id, { live.connection with outbox := command.frame }⟩ .sending) := by
  simp only [use, Exchange.start_of_fits silent fits]
  rfl

/-- Who is let in has a connection that is ready. -/
theorem exists_ready_of_enter {talk : List Deed} {c : Connection} {x : Exchange}
    (vacant : s.slot? = none) (along : Deed.Over s.dials talk)
    (reached : Exchange.Reached {} (Login.command d.credentials) (Deed.written s.dials talk)
      (Deed.heard s.dials talk) c x) (accepted : Attempt.ofLogin (c, x) = .ended (.ok ()))
    (command : Command) :
    ∃ b live, Ready d s b live
      ∧ (s.dialed.noteAll talk).enter ⟨s.dials, c⟩ command x = b.use live command := by
  -- a login is accepted only when its exchange is done
  cases x with
  | clearing command' => simp [Attempt.ofLogin] at accepted
  | sending => simp [Attempt.ofLogin] at accepted
  | receiving a => simp [Attempt.ofLogin] at accepted
  | done result =>
    simp only [Attempt.ofLogin, Attempt.ended.injEq] at accepted
    obtain ⟨reply, rfl, hret⟩ := Login.accepted_of_outcome accepted
    simp only [enter, accepted]
    exact ⟨_, _, .opened vacant along reached hret, rfl⟩

/-- **The moment at which an attempt to connect succeeds** is that at which the call begins to use
its connection. -/
theorem exists_ready_of_admitted (vacant : s.slot? = none) {stimuli : List Stimulus}
    {stimulus : Stimulus} (before : Attempt.run d stimuli ≠ .ended (.ok ()))
    (admitted : Attempt.run d (stimuli ++ [stimulus]) = .ended (.ok ())) (command : Command) :
    ∃ b live, Ready d s b live
      ∧ feel d (s.begin command) (stimuli ++ [stimulus]) = b.use live command := by
  have hsilent : ∀ live, s.slot? = some live → live.connection.outbox = [] := by simp [vacant]
  have hreached : Reached d s command _ _ := reached_feel hsilent stimuli
  have hfollows := Attempt.follows_run (d := d) vacant command stimuli
  rw [Attempt.run_concat] at admitted
  rw [feel_append]
  generalize feel d (s.begin command) stimuli = r at hreached hfollows ⊢
  obtain ⟨s₁, c⟩ := r
  -- only dialing and the exchange of the login lead to success
  cases ha : Attempt.run d stimuli with
  | left => simp [ha, Attempt.step] at admitted
  | ended result =>
    rw [ha] at admitted before
    exact absurd admitted before
  | dialing =>
    rw [ha] at admitted hfollows
    obtain ⟨id, command', rfl⟩ := hfollows
    cases hreached
    cases stimulus with
    | unopened fault => simp [Attempt.step] at admitted
    | stream event => simp [Attempt.step] at admitted
    | abandoned => simp [Attempt.step] at admitted
    | opened =>
      have hstart : Exchange.Reached {} (Login.command d.credentials) [] [] _ _ :=
        Exchange.reached_start rfl
      exact exists_ready_of_enter vacant (Deed.over_nil s.dials) hstart admitted command
  | entering connection login =>
    rw [ha] at admitted hfollows
    obtain ⟨id, command', rfl⟩ := hfollows
    cases hreached with
    | @entering talk _ _ _ along reached =>
    cases stimulus with
    | opened => simp [Attempt.step] at admitted
    | unopened fault => simp [Attempt.step] at admitted
    | abandoned => simp [Attempt.step] at admitted
    | stream event =>
      obtain ⟨talk', htraffic, halong, hwritten, hheard⟩ :=
        traffic_noteAll s.dialed along connection login event
      have hnext := Exchange.reached_step reached d.seconds event
      rw [← hwritten, ← hheard] at hnext
      have henter := exists_ready_of_enter vacant halong hnext admitted command
      rw [← htraffic] at henter
      exact henter

/-- **A call to which a connection is there** uses one that is ready. -/
theorem exists_ready {stimuli : List Stimulus}
    (there : s.slot? ≠ none ∨ Attempt.run d stimuli = .ended (.ok ())) (command : Command) :
    ∃ b live later, Ready d s b live
      ∧ feel d (s.begin command) stimuli = feel d (b.use live command) later := by
  cases hs : s.slot? with
  | some live =>
    refine ⟨{ s with slot? := none }, live, stimuli, .kept hs, ?_⟩
    rw [begin, hs]
  | none =>
    have hended := there.resolve_left (absurd hs)
    -- the stimulus that ended the attempt is the first one to leave it ended
    induction stimuli using List.reverseRecOn with
    | nil => cases hended
    | append_singleton stimuli stimulus ih =>
      by_cases hbefore : Attempt.run d stimuli = .ended (.ok ())
      · obtain ⟨b, live, later, hready, hfeel⟩ := ih (.inr hbefore) hbefore
        refine ⟨b, live, later ++ [stimulus], hready, ?_⟩
        rw [feel_append, hfeel, feel_append]
      · obtain ⟨b, live, hready, hfeel⟩ := exists_ready_of_admitted hs hbefore hended command
        exact ⟨b, live, [], hready, hfeel⟩

/-! ## What gets out of a frame -/

/-- Of a frame that a call writes on a connection this part is out, and the call waits to write the
rest, or to read if there is none. A call that ended with a fault of the transport, or was left,
waits for nothing. -/
structure Sends (id : Nat) (frame part : List UInt8) (c : Call) : Prop where
  cut : part <+: frame
  writes : ∀ k rest, c.want = .write k rest → k = id ∧ part ++ rest = frame
  reads : ∀ k, c.want = .read k → k = id ∧ part = frame
  answered : ∀ result, c = .done result → isAnswered result = true → part = frame

theorem Ready.of_held {live' : Live} (h : Ready d s b live') (held : s.slot? = some live) :
    live' = live ∧ b.deeds = s.deeds := by
  cases h with
  | opened vacant along reached accepted =>
    rw [held] at vacant
    cases vacant
  | kept held' => exact ⟨Option.some.inj (held'.symm.trans held), rfl⟩

/-- Nothing is written by dropping a connection. -/
theorem written_dropped (b : Session) (talk : List Deed) (status : Status) (id dropped : Nat) :
    Deed.written id (((b.noteAll talk).note (.dropped dropped)).publish status).deeds
      = Deed.written id b.deeds ++ Deed.written id talk := by
  simp [publish, note, noteAll, Deed.written_cons, Deed.sent, Deed.written_append]

/-- A call that has found a connection in the slot writes its frame on it. -/
theorem Reached.sends (h : Reached d s command s' c) (held : s.slot? = some live) :
    ∃ part, Deed.written live.id s'.deeds = Deed.written live.id s.deeds ++ part
      ∧ Sends live.id command.frame part c := by
  have hheld : s.slot? ≠ none := by simp [held]
  cases h with
  | dialing vacant | unopened vacant fault | leftDialing vacant => exact absurd vacant hheld
  | entering vacant along reached | rejected vacant along reached refused
  | leftEntering vacant along reached => exact absurd vacant hheld
  | @running b live' talk c x ready along reached =>
    obtain ⟨rfl, hdeeds⟩ := ready.of_held held
    rw [← hdeeds]
    refine ⟨_, Deed.written_append .., reached.sent_le.1, ?_, ?_, by simp⟩
    · -- it waits to write only while the frame is not all out
      intro k rest hwant
      cases reached with
      | sending fits out quiet unread =>
        obtain ⟨rfl, rfl⟩ := Want.write.inj hwant
        exact ⟨rfl, out⟩
      | _ => cases hwant
    · -- and to read only when it is
      intro k hwant
      cases reached with
      | receiving fits out empty taken spelled gathered => exact ⟨(Want.read.inj hwant).symm, out⟩
      | _ => cases hwant
  | @answered b live' talk c result ready along reached answered =>
    obtain ⟨rfl, hdeeds⟩ := ready.of_held held
    rw [← hdeeds]
    refine ⟨_, Deed.written_append .., reached.sent_le.1, by simp [Call.want], by simp [Call.want],
      fun _ _ _ => ?_⟩
    cases reached with
    | ended fits out empty taken spelled gathered closed => exact out
    | broken fault out unfit => simp [isAnswered, fault] at answered
  | @lost b live' talk c result ready along reached unanswered =>
    obtain ⟨rfl, hdeeds⟩ := ready.of_held held
    rw [← hdeeds]
    refine ⟨_, written_dropped .., reached.sent_le.1, by simp [Call.want], by simp [Call.want],
      fun result' hresult hanswered => ?_⟩
    cases hresult
    simp [hanswered] at unanswered
  | @leftRunning b live' talk c x ready along reached =>
    obtain ⟨rfl, hdeeds⟩ := ready.of_held held
    rw [← hdeeds]
    exact ⟨_, written_dropped .., reached.sent_le.1, by simp [Call.want], by simp [Call.want],
      by simp⟩

/-- So does a call on a connection that is ready. -/
theorem sends_of_ready (ready : Ready d s b live) (silent : live.connection.outbox = [])
    (command : Command) (later : List Stimulus) :
    ∃ part, Deed.written live.id (feel d (b.use live command) later).1.deeds
        = Deed.written live.id b.deeds ++ part
      ∧ Sends live.id command.frame part (feel d (b.use live command) later).2 := by
  -- it goes on as if the connection had been in the slot
  have hbegin : ({ b with slot? := some live } : Session).begin command = b.use live command := by
    have hslot := ready.slot
    cases b
    cases hslot
    rfl
  have hsilent : ∀ live', ({ b with slot? := some live } : Session).slot? = some live' →
      live'.connection.outbox = [] := by
    rintro live' ⟨⟩
    exact silent
  rw [← hbegin]
  exact (reached_feel hsilent later).sends rfl

/-! ## A command of which nothing gets out -/

/-- A session after a call that wrote nothing of its command: no more than the login, and not even
this if there was a connection. It has none any more. -/
structure Withheld (d : Device) (s s' : Session) : Prop where
  spent : ∃ fresh out, s'.deeds = fresh ++ s.deeds ∧ Spent s out fresh
    ∧ out <+: if s.slot? = none then (Login.command d.credentials).frame else []
  vacant : s'.slot? = none

namespace Withheld

theorem note (h : Withheld d s s') {e : Deed} (hc : e.connection? = none)
    (hd : e.dialed? = none) : Withheld d s (s'.note e) := by
  obtain ⟨fresh, out, hdeeds, hspent, hout⟩ := h.spent
  refine ⟨⟨e :: fresh, out, ?_, hspent.quiet hc hd, hout⟩, h.vacant⟩
  rw [List.cons_append, ← hdeeds]
  rfl

theorem publish (h : Withheld d s s') (status : Status) : Withheld d s (s'.publish status) :=
  ⟨(h.note (e := .published status) rfl rfl).spent, h.vacant⟩

theorem dialing (vacant : s.slot? = none) : Withheld d s s.dialed where
  spent := ⟨_, _, rfl, Spent.dial vacant, List.nil_prefix ..⟩
  vacant := vacant

theorem entering (vacant : s.slot? = none) {talk : List Deed} (along : Deed.Over s.dials talk)
    {c : Connection} {x : Exchange}
    (reached : Exchange.Reached {} (Login.command d.credentials) (Deed.written s.dials talk)
      (Deed.heard s.dials talk) c x) : Withheld d s (s.dialed.noteAll talk) := by
  rw [← line_of_vacant vacant] at along reached
  refine ⟨⟨_, _, ?_, (Spent.dial vacant).talk along, ?_⟩, vacant⟩
  · simp [dialed, noteAll]
  · rw [if_pos vacant]
    exact reached.sent_le.1

theorem running (ready : Ready d s b live) {talk : List Deed} (along : Deed.Over live.id talk)
    {c : Connection} {x : Exchange}
    (reached : Exchange.Reached live.connection command (Deed.written live.id talk)
      (Deed.heard live.id talk) c x) (unfit : ¬ command.Fits) :
    Withheld d s (b.noteAll talk) := by
  obtain ⟨hline, -, fresh, hdeeds, hspent⟩ := ready.spent
  have hnone := reached.sent_le.2.resolve_left unfit
  rw [hline] at along hnone
  have htalk := hspent.talk along
  rw [hnone, List.append_nil] at htalk
  refine ⟨⟨_, _, ?_, htalk, List.prefix_rfl⟩, ready.slot⟩
  rw [noteAll, hdeeds, List.append_assoc]

end Withheld

/-- **Of a command that does not fit nothing is ever written.** -/
theorem Reached.withheld (h : Reached d s command s' c) (unfit : ¬ command.Fits) :
    Withheld d s s' := by
  cases h with
  | dialing vacant => exact .dialing vacant
  | unopened vacant fault => exact (Withheld.dialing vacant).publish _
  | leftDialing vacant => exact (Withheld.dialing vacant).publish _
  | entering vacant along reached => exact .entering vacant along reached
  | rejected vacant along reached refused =>
    exact ((Withheld.entering vacant along reached).note rfl rfl).publish _
  | leftEntering vacant along reached =>
    exact ((Withheld.entering vacant along reached).note rfl rfl).publish _
  | running ready along reached => exact .running ready along reached unfit
  | answered ready along reached answered =>
    cases reached with
    -- an answer comes only to a command that was sent
    | ended fits out empty taken spelled gathered closed => exact absurd fits unfit
    | broken fault out unfit => simp [isAnswered, fault] at answered
  | lost ready along reached unanswered =>
    exact ((Withheld.running ready along reached unfit).note rfl rfl).publish _
  | leftRunning ready along reached =>
    exact ((Withheld.running ready along reached unfit).note rfl rfl).publish _

/-- What becomes of a call of a command that fits into no frame, for which the error is `e`. -/
structure Spurned (d : Device) (s : Session) (stimuli : List Stimulus) (e : GatewayError)
    (r : Session × Call) : Prop where
  withheld : Withheld d s r.1
  /-- With a connection, found or opened, the call fails, and the connection is lost. -/
  refused : s.slot? ≠ none ∨ Attempt.run d stimuli = .ended (.ok ()) →
    r.2 = .done (.error e) ∧ r.1.status = .unconnected
  /-- If none can be made this is the failure. -/
  unreached : s.slot? = none → ∀ e', Attempt.run d stimuli = .ended (.error e') →
    r.2 = .done (.error e') ∧ r.1.status = .failed
  left : s.slot? = none → (∀ result, Attempt.run d stimuli ≠ .ended result) →
    r.2 = .abandoned ∧ r.1.status = .unconnected

theorem spurned_of_fault (silent : ∀ live, s.slot? = some live → live.connection.outbox = [])
    {e : FrameError} (fault : (Framing.write command.words).fault = some e)
    (stimuli : List Stimulus) :
    Spurned d s stimuli (.protocol (.frame e)) (s.through d command stimuli) where
  withheld := by
    refine (reached_feel silent _).withheld fun fits => ?_
    rw [Command.Fits, fault] at fits
    cases fits
  refused := by
    intro there
    obtain ⟨b, live, later, ready, hfeel⟩ := exists_ready there command
    -- on a connection that is ready the call is over before it begins, and stays over
    have hover : (b.use live command).2.Over := by
      rw [use_of_fault (ready.outbox silent) fault]
      trivial
    rw [through, feel_append, hfeel, feel_over d hover, feel_over d hover,
      use_of_fault (ready.outbox silent) fault]
    exact ⟨rfl, rfl⟩
  unreached := by
    intro vacant e' hended
    have hfollows := Attempt.follows_through (d := d) vacant command stimuli
    rw [hended] at hfollows
    exact hfollows
  left := by
    intro vacant hnone
    have hfollows := Attempt.follows_through (d := d) vacant command stimuli
    cases ha : Attempt.run d stimuli with
    | ended result => exact absurd ha (hnone result)
    | _ =>
      rw [ha] at hfollows
      exact hfollows

/-! ## The call after it -/

/-- What a call of a command does in a session that has no connection. -/
structure Afresh (d : Device) (s : Session) (command : Command) : Prop where
  /-- The connection that it opens is a new one. -/
  unused : Deed.written s.dials s.deeds = [] ∧ Deed.heard s.dials s.deeds = []
  /-- It opens this one and no other, and writes to no other. -/
  once : ∀ stimuli, After d s command (s.through d command stimuli).1
  /-- When the user has been let in it waits to write its frame. -/
  admitted : ∀ stimuli stimulus, Attempt.run d stimuli ≠ .ended (.ok ()) →
    Attempt.run d (stimuli ++ [stimulus]) = .ended (.ok ()) →
      (feel d (s.begin command) (stimuli ++ [stimulus])).2.want = .write s.dials command.frame
  /-- Behind the whole login it writes this frame and nothing else. -/
  sends : ∀ stimuli, Attempt.run d stimuli = .ended (.ok ()) →
    ∃ part, Deed.written s.dials (feel d (s.begin command) stimuli).1.deeds
        = (Login.command d.credentials).frame ++ part
      ∧ Sends s.dials command.frame part (feel d (s.begin command) stimuli).2

/-- **A session without a connection starts afresh.** -/
theorem afresh_of_vacant {calls : List Command} (kept : Kept d calls s) (vacant : s.slot? = none)
    (fits : command.Fits) : Afresh d s command := by
  have hsilent : ∀ live, s.slot? = some live → live.connection.outbox = [] := by simp [vacant]
  have hunused := kept.books.fresh s.dials (Nat.le_refl _)
  refine ⟨hunused, fun stimuli => (reached_feel hsilent _).after, ?_, ?_⟩
  · intro stimuli stimulus before admitted
    obtain ⟨b, live, ready, hfeel⟩ := exists_ready_of_admitted vacant before admitted command
    rw [hfeel, use_of_fits (ready.outbox hsilent) fits, ← line_of_vacant vacant, ← ready.spent.1]
    rfl
  · intro stimuli admitted
    obtain ⟨b, live, later, ready, hfeel⟩ := exists_ready (.inr admitted) command
    -- what the new connection has written is the login and then its part of the frame
    obtain ⟨hline, -, fresh, hdeeds, hspent⟩ := ready.spent
    obtain ⟨part, hwritten, hsends⟩ :=
      sends_of_ready ready (ready.outbox hsilent) command later
    rw [if_pos vacant] at hspent
    rw [hline, hdeeds, Deed.written_append, hspent.wrote] at hwritten
    rw [hline] at hsends
    rw [line_of_vacant vacant] at hwritten hsends
    rw [hunused.1, List.nil_append] at hwritten
    exact ⟨part, hfeel ▸ hwritten, hfeel ▸ hsends⟩

theorem slot_of_between {turns between : List Turn} (vacant : (run d {} turns).slot? = none)
    (uncalled : ∀ t ∈ between, t.command? = none) :
    (run d {} (turns ++ between)).slot? = none := by
  induction between using List.reverseRecOn with
  | nil => rwa [List.append_nil]
  | append_singleton between t ih =>
    have hprev := ih fun t' ht' => uncalled t' (List.mem_append_left _ ht')
    rw [← List.append_assoc, run_concat]
    cases t with
    | forgone => exact hprev
    | close => exact close_slot _
    | call command stimuli => cases uncalled (.call command stimuli) (by simp)

/-- **A command that is too long does no damage**, wherever the long word stands in it and whatever
happens to its call. After any turns, nothing of it is written and the slot is empty; with a
connection the call fails because of the first word that is too long, and without one it fails as
the attempt to connect has failed. The next call of a command that fits, even if the session was
closed in between, opens a new connection and writes its own frame behind the login. -/
theorem oversized_spurned (d : Device) (turns : List Turn) {command : Command}
    (long : ∃ word ∈ command.words, maxWordLength < (Text.Utf8.encode word).length)
    (stimuli : List Stimulus) :
    (∃ before word after, command.words = before ++ word :: after
      ∧ (∀ w ∈ before, (Text.Utf8.encode w).length ≤ maxWordLength)
      ∧ maxWordLength < (Text.Utf8.encode word).length
      ∧ Spurned d (run d {} turns) stimuli
        (.protocol (.frame (.oversized (Text.Utf8.encode word).length)))
        ((run d {} turns).through d command stimuli))
    ∧ ∀ between next, (∀ t ∈ between, Turn.command? t = none) →
      (∀ word ∈ next.words, (Text.Utf8.encode word).length ≤ maxWordLength) →
        Afresh d (run d {} (turns ++ .call command stimuli :: between)) next := by
  obtain ⟨before, word, after, hsplit, hbefore, hword, hfault⟩ := Framing.exists_write_fault long
  have hspurned := spurned_of_fault (d := d) (run_outbox d turns) hfault stimuli
  refine ⟨⟨before, word, after, hsplit, hbefore, hword, hspurned⟩, ?_⟩
  intro between next uncalled short
  -- the call has left no connection, and what calls nothing brings none
  have hvacant : (run d {} (turns ++ [.call command stimuli])).slot? = none := by
    rw [run_concat]
    exact hspurned.withheld.vacant
  have hbetween := slot_of_between hvacant uncalled
  rw [← List.append_cons] at hbetween
  exact afresh_of_vacant (kept_run d _) hbetween (Framing.write_fault_eq_none.2 short)

/-- A comment of one byte more than a word may have, behind a word that is short. -/
def longComment : Command :=
  ⟨"/ip/route/add", [.attr "comment" (String.ofList (List.replicate (maxWordLength + 1) 'x'))]⟩

theorem longComment_long :
    ∃ word ∈ longComment.words, maxWordLength < (Text.Utf8.encode word).length := by
  refine ⟨_, List.mem_cons_of_mem _ (List.mem_singleton_self _), ?_⟩
  have hone : String.utf8EncodeChar 'x' = [120] := rfl
  simp only [Clause.word, Text.Utf8.encode_eq_flatMap, String.toList_append, String.toList_ofList,
    List.flatMap_append, List.flatMap_replicate, hone, List.length_append, List.length_flatten,
    List.map_replicate, List.sum_replicate_nat, List.length_singleton]
  omega

/-- A call that was answered, on a connection that was opened for it. -/
def answeredOnce : List Turn :=
  let done := (Framing.write ["!done"]).bytes
  let answered := [.stream (.took 64), .stream (.delivered done)]
  [.call ⟨"/a", []⟩ ([.opened] ++ answered ++ answered)]

/-- Its connection is lost to a comment that is too long, and the next command gets another. -/
theorem oversized_spurned_comment :
    (run {} {} answeredOnce).slot? ≠ none
      ∧ (∃ word ∈ longComment.words, maxWordLength < (Text.Utf8.encode word).length)
      ∧ (∃ n, maxWordLength < n ∧ ((run {} {} answeredOnce).through {} longComment []).2
        = .done (.error (.protocol (.frame (.oversized n)))))
      ∧ Afresh {} (run {} {} (answeredOnce ++ [.call longComment []])) ⟨"/a", []⟩ := by
  have hheld : (run {} {} answeredOnce).slot? ≠ none := by decide +kernel
  obtain ⟨⟨before, word, after, -, -, hword, hspurned⟩, hnext⟩ :=
    oversized_spurned {} answeredOnce longComment_long []
  have hshort : ∀ word ∈ (⟨"/a", []⟩ : Command).words,
      (Text.Utf8.encode word).length ≤ maxWordLength := by decide +kernel
  exact ⟨hheld, longComment_long, ⟨_, hword, (hspurned.refused (.inl hheld)).1⟩,
    hnext [] ⟨"/a", []⟩ (by simp) hshort⟩

end Session

end RouterMenu
