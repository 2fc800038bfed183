import RouterMenu.Proofs.Gateway.Ledger

/-!
# The order of things on a connection

Three kinds of facts make up the order that a session keeps. What has been written on a connection
is the login and then commands in the order of their calls, cut off somewhere, and nothing goes
beyond the login before the user was let in: this is in the books. What one call does is done over
one connection, the one it found in the slot or the one it opened because there was none
(`Spent`). And a connection that is in the slot no more is never touched again, since a later call
uses what it finds in the slot or a connection with a new number (`Idle`).
-/

namespace RouterMenu

open Wire

/-! ## The first sentence -/

/-- What is sent of a frame before its last byte is no sentence yet. -/
theorem Wire.Framing.drain_of_cut {frame bytes : List UInt8} {words : List String}
    (h : Framing.decode frame = .ok (some (words, []))) (cut : bytes <+: frame)
    (short : bytes.length < frame.length) : (Framing.drain bytes).sentences = [] := by
  obtain ⟨missing, rfl⟩ := cut
  cases hd : Framing.decode bytes with
  | error e => rw [Framing.drain_of_error hd]
  | ok found =>
    cases found with
    | none => rw [Framing.drain_of_none hd]
    | some found =>
      -- else the frame would have been read before its end
      obtain ⟨found, rest⟩ := found
      rw [Framing.decode_append hd, Except.ok.injEq, Option.some.injEq, Prod.mk.injEq,
        List.append_eq_nil_iff] at h
      rw [h.2.2, List.append_nil] at short
      exact absurd short (Nat.lt_irrefl _)

theorem Login.decode_frame {c : Credentials} (h : (Login.command c).Fits) :
    Framing.decode (Login.command c).frame = .ok (some ((Login.command c).words, [])) :=
  Command.decode_frame (by simp [Login.command, Command.attr]) h

/-- **The first sentence on a connection** is the login. -/
theorem Books.first {d : Device} {calls : List Command} {dials : Nat} {deeds : List Deed}
    (h : Books d calls dials deeds) (id : Nat) :
    (Deed.received id deeds).head? ∈ [none, some (Login.command d.credentials).words] := by
  obtain ⟨commands, -, hw, -, hf⟩ := h.order id
  rw [List.flatMap_cons] at hw
  rcases hf with hf | hnone
  · unfold Deed.received
    have hlogin := Login.decode_frame hf
    have hstart := List.prefix_append (Login.command d.credentials).frame
      (commands.flatMap Command.frame)
    -- either not all of the login is written, and nothing is received yet, or it comes first
    rcases Nat.lt_or_ge (Deed.written id deeds).length (Login.command d.credentials).frame.length
      with hlt | hle
    · have hcut := List.prefix_of_prefix_length_le hw hstart (Nat.le_of_lt hlt)
      rw [Framing.drain_of_cut hlogin hcut hlt]
      simp
    · obtain ⟨more, hmore⟩ := List.prefix_of_prefix_length_le hstart hw hle
      rw [← hmore, Framing.drain_of_some (Framing.decode_append hlogin more)]
      simp
  · rw [Deed.received_of_written_nil hnone]
    simp

/-! ## What one call does -/

/-- The number of the connection that a deed opened, or tried to open. -/
def Deed.dialed? : Deed → Option Nat
  | .dialed id => some id
  | _ => none

namespace Session

/-- The connection over which the next call is carried. -/
def line (s : Session) : Nat := (s.slot?.map Live.id).getD s.dials

/-- What a call that began in a session has done since, `out` being all that it has written: it
dialed once if the slot was empty, and not at all if not, and moved bytes over one connection. -/
structure Spent (s : Session) (out : List UInt8) (fresh : List Deed) : Prop where
  dialed : fresh.filterMap Deed.dialed? = if s.slot? = none then [s.dials] else []
  only : ∀ e ∈ fresh, ∀ id, e.connection? = some id → id = s.line
  wrote : Deed.written s.line fresh = out

namespace Spent

variable {s : Session} {out : List UInt8} {fresh : List Deed}

theorem kept {live : Live} (held : s.slot? = some live) : Spent s [] [] where
  dialed := by simp [held]
  only := by simp
  wrote := rfl

theorem dial (vacant : s.slot? = none) :
    Spent s [] [.dialed s.dials, .published .connecting] where
  dialed := by simp [vacant, Deed.dialed?]
  only := by simp [Deed.connection?]
  wrote := rfl

/-- Deeds that neither dial nor move bytes. -/
theorem quiet (h : Spent s out fresh) {e : Deed} (hc : e.connection? = none)
    (hd : e.dialed? = none) : Spent s out (e :: fresh) where
  dialed := by rw [List.filterMap_cons_none hd, h.dialed]
  only := by
    intro e' he' id hid
    rcases List.mem_cons.1 he' with rfl | he'
    · rw [hc] at hid
      simp at hid
    · exact h.only e' he' id hid
  wrote := by
    have hne : e.connection? ≠ some s.line := by
      rw [hc]
      simp
    rw [Deed.written_cons, Deed.sent_of_connection_ne hne, List.append_nil, h.wrote]

theorem talk (h : Spent s out fresh) {talk : List Deed} (along : Deed.Over s.line talk) :
    Spent s (out ++ Deed.written s.line talk) (talk ++ fresh) where
  dialed := by
    have hnone : talk.filterMap Deed.dialed? = [] := by
      rw [List.filterMap_eq_nil_iff]
      intro e he
      obtain ⟨bytes, rfl | rfl⟩ := along e he <;> rfl
    rw [List.filterMap_append, hnone, List.nil_append, h.dialed]
  only := by
    intro e he id hid
    rcases List.mem_append.1 he with he | he
    · rw [along.connection he] at hid
      exact (Option.some.inj hid).symm
    · exact h.only e he id hid
  wrote := by rw [Deed.written_append, h.wrote]

end Spent

variable {d : Device} {s b s' : Session} {live : Live} {command : Command}

/-- What a call may write: its command, behind the login if it opens the connection. -/
def allowance (d : Device) (s : Session) (command : Command) : List UInt8 :=
  (if s.slot? = none then (Login.command d.credentials).frame else []) ++ command.frame

theorem line_of_vacant (h : s.slot? = none) : s.line = s.dials := by simp [line, h]

theorem line_of_held (h : s.slot? = some live) : s.line = live.id := by simp [line, h]

/-- A session after a call: the deeds done meanwhile, and the connection that it may have left in
the slot. -/
structure After (d : Device) (s : Session) (command : Command) (s' : Session) : Prop where
  spent : ∃ fresh out, s'.deeds = fresh ++ s.deeds ∧ Spent s out fresh
    ∧ out <+: allowance d s command
  dials : s'.dials = s.dials + if s.slot? = none then 1 else 0
  slot : ∀ live, s'.slot? = some live → live.id = s.line

/-- A connection that is ready: the login is out, if there was to be one. -/
theorem Ready.spent (h : Ready d s b live) :
    live.id = s.line ∧ b.dials = s.dials + (if s.slot? = none then 1 else 0)
      ∧ ∃ fresh, b.deeds = fresh ++ s.deeds
        ∧ Spent s (if s.slot? = none then (Login.command d.credentials).frame else []) fresh := by
  cases h with
  | kept held =>
    refine ⟨(line_of_held held).symm, by simp [held], [], rfl, ?_⟩
    rw [held]
    exact Spent.kept held
  | @opened talk c reply vacant along reached accepted =>
    have hline := line_of_vacant vacant
    refine ⟨hline.symm, by simp [vacant, dialed, noteAll, publish],
      .published .connected :: (talk ++ [.dialed s.dials, .published .connecting]), ?_, ?_⟩
    · simp [publish, noteAll, dialed]
    · cases reached with
      | ended fits out empty taken spelled gathered closed =>
        rw [← hline] at along out
        -- the login was answered, so all of its frame has been written
        have htalk := ((Spent.dial vacant).talk along).quiet (e := .published .connected) rfl rfl
        rw [List.nil_append, out] at htalk
        rw [if_pos vacant]
        exact htalk

namespace After

theorem note (h : After d s command s') {e : Deed} (hc : e.connection? = none)
    (hd : e.dialed? = none) : After d s command (s'.note e) := by
  obtain ⟨fresh, out, hdeeds, hspent, hout⟩ := h.spent
  refine ⟨⟨e :: fresh, out, ?_, hspent.quiet hc hd, hout⟩, h.dials, h.slot⟩
  rw [List.cons_append, ← hdeeds]
  rfl

theorem publish (h : After d s command s') (status : Status) :
    After d s command (s'.publish status) :=
  ⟨(h.note (e := .published status) rfl rfl).spent, h.dials, h.slot⟩

theorem dialing (vacant : s.slot? = none) : After d s command s.dialed where
  spent := ⟨_, _, rfl, Spent.dial vacant, List.nil_prefix ..⟩
  dials := by simp [dialed, vacant]
  slot := by simp [dialed, vacant]

/-- A call that logs in on the connection that it opened. -/
theorem entering (vacant : s.slot? = none) {talk : List Deed} (along : Deed.Over s.dials talk)
    {c : Connection} {x : Exchange}
    (reached : Exchange.Reached {} (Login.command d.credentials) (Deed.written s.dials talk)
      (Deed.heard s.dials talk) c x) : After d s command (s.dialed.noteAll talk) := by
  have hdialing : After d s command s.dialed := dialing vacant
  rw [← line_of_vacant vacant] at along reached
  refine ⟨⟨_, _, ?_, (Spent.dial vacant).talk along, ?_⟩, hdialing.dials, hdialing.slot⟩
  · simp [dialed, noteAll]
  · rw [List.nil_append, allowance, if_pos vacant]
    exact reached.sent_le.1.trans (List.prefix_append ..)

/-- A call that sends its command. -/
theorem running (ready : Ready d s b live) {talk : List Deed} (along : Deed.Over live.id talk)
    {c : Connection} {x : Exchange}
    (reached : Exchange.Reached live.connection command (Deed.written live.id talk)
      (Deed.heard live.id talk) c x) : After d s command (b.noteAll talk) := by
  obtain ⟨hline, hdials, fresh, hdeeds, hspent⟩ := ready.spent
  rw [hline] at along reached
  refine ⟨⟨talk ++ fresh, _, ?_, hspent.talk along, ?_⟩, hdials, fun live' hlive' => ?_⟩
  · rw [noteAll, hdeeds, List.append_assoc]
  · exact (List.prefix_append_right_inj _).2 reached.sent_le.1
  · rw [noteAll, ready.slot] at hlive'
    simp at hlive'

/-- Its connection may be put back. -/
theorem put (h : After d s command s') {live : Live} (hid : live.id = s.line) :
    After d s command { s' with slot? := some live } where
  spent := h.spent
  dials := h.dials
  slot := by
    intro live' hlive'
    rw [← Option.some.inj hlive', hid]

end After

/-- **What a call has done** wherever it stands. -/
theorem Reached.after {c : Call} (h : Reached d s command s' c) : After d s command s' := by
  -- up to where a call has come it is one of three kinds; what it does to leave adds deeds that
  -- no connection takes part in
  cases h with
  | dialing vacant => exact After.dialing vacant
  | unopened vacant fault => exact (After.dialing vacant).publish _
  | leftDialing vacant => exact (After.dialing vacant).publish _
  | entering vacant along reached => exact After.entering vacant along reached
  | rejected vacant along reached refused =>
    exact ((After.entering vacant along reached).note rfl rfl).publish _
  | leftEntering vacant along reached =>
    exact ((After.entering vacant along reached).note rfl rfl).publish _
  | running ready along reached => exact After.running ready along reached
  | answered ready along reached answered =>
    exact (After.running ready along reached).put ready.spent.1
  | lost ready along reached unanswered =>
    exact ((After.running ready along reached).note rfl rfl).publish _
  | leftRunning ready along reached =>
    exact ((After.running ready along reached).note rfl rfl).publish _

/-! ## Connections that are in use no more -/

/-- The connection was opened once, and is not in the slot. -/
def Retired (id : Nat) (s : Session) : Prop :=
  id < s.dials ∧ ∀ live, s.slot? = some live → live.id ≠ id

/-- Nothing was written to a connection or read from it in the meantime. -/
def Idle (id : Nat) (s s' : Session) : Prop :=
  ∃ more, s'.deeds = more ++ s.deeds ∧ ∀ e ∈ more, e.connection? ≠ some id

variable {id : Nat}

theorem retired_of_vacant (h : s.slot? = none) (hid : id < s.dials) : Retired id s :=
  ⟨hid, by simp [h]⟩

theorem Idle.trans {s₁ s₂ s₃ : Session} (h₁ : Idle id s₁ s₂) (h₂ : Idle id s₂ s₃) :
    Idle id s₁ s₃ := by
  obtain ⟨more₁, hd₁, hq₁⟩ := h₁
  obtain ⟨more₂, hd₂, hq₂⟩ := h₂
  refine ⟨more₂ ++ more₁, by rw [hd₂, hd₁, List.append_assoc], fun e he => ?_⟩
  rcases List.mem_append.1 he with he | he
  · exact hq₂ e he
  · exact hq₁ e he

theorem idle_refl (id : Nat) (s : Session) : Idle id s s := ⟨[], rfl, by simp⟩

/-- To close a session moves no bytes. -/
theorem idle_close (id : Nat) (s : Session) : Idle id s s.close := by
  unfold close release
  cases hs : s.slot? with
  | none => exact ⟨[.published .unconnected], rfl, by simp [Deed.connection?]⟩
  | some live =>
    exact ⟨[.published .unconnected, .dropped live.id], rfl, by simp [Deed.connection?]⟩

/-- A call uses what it finds in the slot, or a new connection. -/
theorem Retired.line_ne (h : Retired id s) : s.line ≠ id := by
  obtain ⟨hid, hslot⟩ := h
  cases hs : s.slot? with
  | none =>
    rw [line_of_vacant hs]
    omega
  | some live =>
    rw [line_of_held hs]
    exact hslot live hs

theorem Retired.after (h : Retired id s) (ha : After d s command s') :
    Retired id s' ∧ Idle id s s' := by
  have hne := h.line_ne
  refine ⟨⟨?_, fun live hlive => by rw [ha.slot live hlive]; exact hne⟩, ?_⟩
  · rw [ha.dials]
    exact Nat.lt_of_lt_of_le h.1 (Nat.le_add_right ..)
  · obtain ⟨fresh, out, hdeeds, hspent, -⟩ := ha.spent
    exact ⟨fresh, hdeeds, fun e he hc => hne (hspent.only e he id hc).symm⟩

/-- **A retired connection is left alone** for good. -/
theorem retired_run {turns : List Turn} (h : Retired id (run d {} turns)) (later : List Turn) :
    Retired id (run d {} (turns ++ later))
      ∧ Idle id (run d {} turns) (run d {} (turns ++ later)) := by
  rw [run_append]
  -- turn by turn, both what is retired and what lies idle since
  refine run_induction (P := fun _ s' => Retired id s' ∧ Idle id (run d {} turns) s')
    ⟨h, idle_refl ..⟩ ?_ later
  intro more t ⟨hretired, hidle⟩
  cases t with
  | forgone => exact ⟨hretired, hidle⟩
  | close =>
    have hid : id < (run d (run d {} turns) more).close.dials :=
      Nat.lt_of_lt_of_eq hretired.1 (release_dials _).symm
    exact ⟨retired_of_vacant (close_slot _) hid, hidle.trans (idle_close ..)⟩
  | call command stimuli =>
    rw [← run_append] at hretired hidle ⊢
    obtain ⟨hretired', hidle'⟩ :=
      hretired.after (reached_run d (turns ++ more) command stimuli).1.after
    exact ⟨hretired', hidle.trans hidle'⟩

/-- A call that was lost has left the slot empty. -/
theorem Reached.vacant_of_lost {c : Call} (h : Reached d s command s' c) (lost : c.Lost) :
    s'.slot? = none := by
  cases h with
  | dialing vacant => simp [Call.Lost] at lost
  | entering vacant along reached => simp [Call.Lost] at lost
  | running ready along reached => simp [Call.Lost] at lost
  | unopened vacant fault | leftDialing vacant => exact vacant
  | rejected vacant along reached refused | leftEntering vacant along reached => exact vacant
  | lost ready along reached unanswered => exact ready.slot
  | leftRunning ready along reached => exact ready.slot
  -- an answer keeps the connection, but then the call is not lost
  | @answered b live talk c result ready along reached answered =>
    cases result with
    | ok reply => simp [Call.Lost] at lost
    | error e =>
      have he : e.isTransport = true := lost
      simp [isAnswered, he] at answered

/-! ## The order that is kept -/

/-- What a session keeps to, in all that it has done in some turns and in all that it may do in
the next ones. -/
structure Orderly (d : Device) (turns : List Turn) : Prop where
  /-- The first sentence that is received on a connection is the login. -/
  first : ∀ id, (Deed.received id (run d {} turns).deeds).head?
    ∈ [none, some (Login.command d.credentials).words]
  /-- The login is written once, and then commands, each as often as it was called and no more
  often; the last frame may be cut off. -/
  once : ∀ id, ∃ commands : List Command, commands.Sublist (turns.filterMap Turn.command?)
    ∧ Deed.written id (run d {} turns).deeds
      <+: (Login.command d.credentials :: commands).flatMap Command.frame
  /-- What is written behind the login is written after the user was let in. -/
  guarded : Guarded d (run d {} turns).deeds
  /-- A call opens one connection if the slot is empty, and none if it is not; it writes its command
  once at most, and to no other connection. -/
  calls : ∀ command stimuli,
    After d (run d {} turns) command ((run d {} turns).through d command stimuli).1
  /-- After a call was lost, nothing passes over any connection that was opened by then. -/
  lost : ∀ command stimuli s' c, feel d ((run d {} turns).begin command) stimuli = (s', c) →
    c.Lost → ∀ id < s'.dials, ∀ more later,
      Idle id s' (run d {} (turns ++ .call command (stimuli ++ more) :: later))
  /-- Nor does it after the session was closed. -/
  closed : ∀ id < (run d {} turns).dials, ∀ later,
    Idle id (run d {} turns) (run d {} (turns ++ .close :: later))

/-- **Every session is orderly**, whatever is called and whatever happens to the calls. -/
theorem orderly_run (d : Device) (turns : List Turn) : Orderly d turns where
  first := (kept_run d turns).books.first
  once := by
    intro id
    obtain ⟨commands, h1, h2, -⟩ := (kept_run d turns).books.order id
    exact ⟨commands, h1, h2⟩
  guarded := (kept_run d turns).books.guarded
  calls := fun command stimuli => (reached_run d turns command stimuli).1.after
  lost := by
    intro command stimuli s' c hfeel hlost id hid more later
    have hr : Reached d (run d {} turns) command _ _ := reached_feel (run_outbox d turns) stimuli
    rw [hfeel] at hr
    -- what happens to the call afterwards changes nothing
    have hturn : run d {} (turns ++ [.call command (stimuli ++ more)]) = s' := by
      rw [run_concat, turn, through, List.append_assoc, feel, List.foldl_append]
      have hover := feel_over d (c := (s', c)) hlost.ended (more ++ [.abandoned])
      rw [← hfeel] at hover
      exact (congrArg Prod.fst hover).trans (congrArg Prod.fst hfeel)
    have hretired := retired_of_vacant (hr.vacant_of_lost hlost) hid
    rw [List.append_cons turns _ later]
    rw [← hturn] at hretired ⊢
    exact (retired_run hretired later).2
  closed := by
    intro id hid later
    have hturn : run d {} (turns ++ [.close]) = (run d {} turns).close := run_concat ..
    have hretired : Retired id (run d {} (turns ++ [.close])) := by
      rw [hturn]
      exact retired_of_vacant (close_slot _) (Nat.lt_of_lt_of_eq hid (release_dials _).symm)
    have hidle := idle_close id (run d {} turns)
    rw [← hturn] at hidle
    rw [List.append_cons]
    exact hidle.trans (retired_run hretired later).2

end Session

end RouterMenu
