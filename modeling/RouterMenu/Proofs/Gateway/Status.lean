import RouterMenu.Proofs.Gateway.Turns

/-!
# What a session says of its connection between turns

Between turns a session never says that it is connecting, and it says that it is connected exactly
when its slot holds a connection. When the slot is empty it says more: it says that connecting has
failed exactly when the last turn that was taken was a call whose attempt to connect came to
nothing.

An attempt to connect is described here on its own, by `Attempt`, as dialing followed by the
exchange of the login. That a call follows it as long as it is connecting, and publishes the
failure it ends in, is `follows_step`.
-/

namespace RouterMenu

/-- An attempt to connect: the device is dialed, and then the user logs in. -/
inductive Attempt where
  | dialing
  | entering (connection : Connection) (login : Exchange)
  /-- The attempt came to an end. -/
  | ended (result : Except GatewayError Unit)
  /-- Nobody waited for its end. -/
  | left

namespace Attempt

/-- An attempt whose login stands somewhere. -/
def ofLogin : Connection × Exchange → Attempt
  | (_, .done result) => .ended (Login.outcome result)
  | (c, x) => .entering c x

/-- What a stimulus does to an attempt. -/
def step (d : Device) : Attempt → Stimulus → Attempt
  | .dialing, .opened => ofLogin (Exchange.start {} (Login.command d.credentials))
  | .dialing, .unopened fault => .ended (.error (fault.error d))
  | .dialing, .abandoned | .entering .., .abandoned => .left
  | .entering c x, .stream event => ofLogin (x.step d.seconds c event)
  | a, _ => a

/-- What becomes of an attempt to which these things happen. -/
def run (d : Device) (stimuli : List Stimulus) : Attempt := stimuli.foldl (step d) .dialing

/-- How a call and the status of its session stand to the attempt to connect that it makes. -/
def Follows : Attempt → Session → Call → Prop
  | .dialing, _, c => ∃ id command, c = .dialing id command
  | .entering connection login, _, c =>
    ∃ id command, c = .entering ⟨id, connection⟩ login command
  | .ended (.error e), s, c => c = .done (.error e) ∧ s.status = .failed
  | .ended (.ok ()), s, c =>
    (s.status = .connected ∨ s.status = .unconnected)
      ∧ ∀ id command live login, c ≠ .dialing id command ∧ c ≠ .entering live login command
  | .left, s, c => c = .abandoned ∧ s.status = .unconnected

/-- A session that goes on with a connection stays connected or becomes unconnected. -/
theorem follows_settle {s : Session} (hs : s.status = .connected ∨ s.status = .unconnected)
    (live : Live) (x : Exchange) :
    Follows (.ended (.ok ())) (s.settle live x).1 (s.settle live x).2 := by
  cases x with
  | done result =>
    by_cases ha : Session.isAnswered result = true
    · rw [Session.settle, if_pos ha]
      exact ⟨hs, by simp⟩
    · rw [Session.settle, if_neg ha]
      exact ⟨.inr rfl, by simp⟩
  | clearing command => exact ⟨hs, by simp [Session.settle]⟩
  | sending => exact ⟨hs, by simp [Session.settle]⟩
  | receiving a => exact ⟨hs, by simp [Session.settle]⟩

theorem follows_enter (s : Session) (id : Nat) (c : Connection) (command : Wire.Command)
    (x : Exchange) :
    Follows (ofLogin (c, x)) (s.enter ⟨id, c⟩ command x).1 (s.enter ⟨id, c⟩ command x).2 := by
  cases x with
  | done result =>
    simp only [ofLogin, Session.enter]
    cases Login.outcome result with
    | error e => exact ⟨rfl, rfl⟩
    | ok u => exact follows_settle (.inl rfl) _ _
  | clearing command' => exact ⟨id, command, rfl⟩
  | sending => exact ⟨id, command, rfl⟩
  | receiving a => exact ⟨id, command, rfl⟩

/-- **A call follows its attempt to connect**, and publishes how it ended. -/
theorem follows_step {d : Device} {a : Attempt} {s : Session} {c : Call} (h : Follows a s c)
    (stimulus : Stimulus) :
    Follows (a.step d stimulus) (s.step d c stimulus).1 (s.step d c stimulus).2 := by
  cases a with
  | dialing =>
    obtain ⟨id, command, rfl⟩ := h
    cases stimulus with
    | opened => exact follows_enter ..
    | unopened fault => exact ⟨rfl, rfl⟩
    | stream event => exact ⟨id, command, rfl⟩
    | abandoned => exact ⟨rfl, rfl⟩
  | entering connection login =>
    obtain ⟨id, command, rfl⟩ := h
    cases stimulus with
    | opened => exact ⟨id, command, rfl⟩
    | unopened fault => exact ⟨id, command, rfl⟩
    | stream event => exact follows_enter ..
    | abandoned => exact ⟨rfl, rfl⟩
  | ended result =>
    cases result with
    | error e =>
      obtain ⟨rfl, hs⟩ := h
      exact ⟨rfl, hs⟩
    | ok u =>
      obtain ⟨hs, hc⟩ := h
      cases c with
      | dialing id command => exact absurd rfl (hc id command ⟨0, {}⟩ .sending).1
      | entering live login command => exact absurd rfl (hc 0 command live login).2
      | done result => exact ⟨hs, hc⟩
      | abandoned => exact ⟨hs, hc⟩
      | running live x =>
        cases stimulus with
        | opened => exact ⟨hs, hc⟩
        | unopened fault => exact ⟨hs, hc⟩
        | abandoned => exact ⟨.inr rfl, by simp [Session.step]⟩
        | stream event =>
          refine follows_settle ?_ _ _
          -- traffic leaves the status alone
          have : (s.traffic live x event).status = s.status := by
            unfold Session.traffic
            split <;> rfl
          rw [this]
          exact hs
  | left =>
    obtain ⟨rfl, hs⟩ := h
    exact ⟨rfl, hs⟩

theorem follows_feel {d : Device} {a : Attempt} {c : Session × Call} (h : Follows a c.1 c.2)
    (stimuli : List Stimulus) :
    Follows (stimuli.foldl (step d) a) (Session.feel d c stimuli).1
      (Session.feel d c stimuli).2 := by
  induction stimuli generalizing a c with
  | nil => exact h
  | cons stimulus stimuli ih => exact ih (follows_step h stimulus)

theorem run_concat (d : Device) (stimuli : List Stimulus) (stimulus : Stimulus) :
    run d (stimuli ++ [stimulus]) = (run d stimuli).step d stimulus := by
  simp [run]

/-- A call that finds no connection makes an attempt. -/
theorem follows_run {d : Device} {s : Session} (h : s.slot? = none) (command : Wire.Command)
    (stimuli : List Stimulus) :
    Follows (run d stimuli) (Session.feel d (s.begin command) stimuli).1
      (Session.feel d (s.begin command) stimuli).2 := by
  refine follows_feel ?_ stimuli
  unfold Session.begin
  rw [h]
  exact ⟨s.dials, command, rfl⟩

/-- The attempt is over or left when the call is. -/
theorem follows_through {d : Device} {s : Session} (h : s.slot? = none) (command : Wire.Command)
    (stimuli : List Stimulus) :
    Follows ((run d stimuli).step d .abandoned) (s.through d command stimuli).1
      (s.through d command stimuli).2 := by
  rw [← run_concat]
  exact follows_run h command (stimuli ++ [.abandoned])

end Attempt

namespace Session

/-- The turn is a call that finds no connection, and its attempt to connect comes to nothing. -/
def FailsToConnect (d : Device) (s : Session) : Turn → Prop
  | .call _ stimuli => s.slot? = none ∧ ∃ e, Attempt.run d stimuli = .ended (.error e)
  | _ => False

/-- The last turn that was taken failed to connect; whoever gave up before had no turn. -/
def FailedLast (d : Device) (turns : List Turn) : Prop :=
  ∃ earlier t rest, turns = earlier ++ t :: rest ∧ (∀ u ∈ rest, u = .forgone)
    ∧ FailsToConnect d (run d {} earlier) t

theorem failedLast_concat {d : Device} {turns : List Turn} {t : Turn} :
    FailedLast d (turns ++ [t]) ↔
      t = .forgone ∧ FailedLast d turns ∨ FailsToConnect d (run d {} turns) t := by
  constructor
  · rintro ⟨earlier, u, rest, h1, h2, h3⟩
    rcases List.eq_nil_or_concat rest with rfl | ⟨rest, r, rfl⟩
    · -- the last turn of all is the one that failed
      obtain ⟨rfl, h⟩ := List.append_inj' h1 rfl
      injection h with h
      exact .inr (h ▸ h3)
    · rw [List.concat_eq_append] at h1 h2
      rw [show earlier ++ u :: (rest ++ [r]) = (earlier ++ u :: rest) ++ [r] by simp] at h1
      obtain ⟨h, hr⟩ := List.append_inj' h1 rfl
      injection hr with hr
      refine .inl ⟨hr.trans (h2 r (by simp)), earlier, u, rest, h, ?_, h3⟩
      exact fun v hv => h2 v (List.mem_append_left _ hv)
  · rintro (⟨rfl, earlier, u, rest, rfl, h2, h3⟩ | h)
    · refine ⟨earlier, u, rest ++ [.forgone], by simp, ?_, h3⟩
      intro v hv
      rcases List.mem_append.1 hv with hv | hv
      · exact h2 v hv
      · exact List.mem_singleton.1 hv
    · exact ⟨turns, t, [], rfl, by simp, h⟩

/-- What a session says between turns. -/
structure Settled (d : Device) (turns : List Turn) (s : Session) : Prop where
  held : ∀ live, s.slot? = some live → s.status = .connected
  vacant : s.slot? = none →
    s.status = .failed ∧ FailedLast d turns ∨ s.status = .unconnected ∧ ¬ FailedLast d turns

/-- A call that finds the slot empty and leaves it empty says how its attempt to connect ended. -/
theorem status_of_vacant {d : Device} {s : Session} (h : s.slot? = none) (command : Wire.Command)
    (stimuli : List Stimulus)
    (hs : (s.through d command stimuli).1.status = .unconnected
      ∨ (s.through d command stimuli).1.status = .failed) :
    (s.through d command stimuli).1.status = .failed
        ∧ FailsToConnect d s (.call command stimuli)
      ∨ (s.through d command stimuli).1.status = .unconnected
        ∧ ¬ FailsToConnect d s (.call command stimuli) := by
  have hf := Attempt.follows_through (d := d) h command stimuli
  have hover := through_over d s command stimuli
  -- an attempt that was over stays as it was, and any other is left
  cases ha : Attempt.run d stimuli with
  | dialing =>
    rw [ha] at hf
    exact .inr ⟨hf.2, by simp [FailsToConnect, ha]⟩
  | entering connection login =>
    rw [ha] at hf
    exact .inr ⟨hf.2, by simp [FailsToConnect, ha]⟩
  | left =>
    rw [ha] at hf
    exact .inr ⟨hf.2, by simp [FailsToConnect, ha]⟩
  | ended result =>
    rw [ha] at hf
    cases result with
    | error e => exact .inl ⟨hf.2, h, e, ha⟩
    | ok u =>
      refine .inr ⟨?_, by simp [FailsToConnect, ha]⟩
      rcases hs with hs | hs
      · exact hs
      · rcases hf.1 with hf | hf <;> rw [hs] at hf <;> simp at hf

theorem settled_run (d : Device) (turns : List Turn) : Settled d turns (run d {} turns) := by
  refine run_induction ?_ ?_ turns
  · refine ⟨by simp, fun _ => .inr ⟨rfl, ?_⟩⟩
    rintro ⟨earlier, t, rest, h, -⟩
    simp at h
  · intro turns t ih
    cases t with
    | forgone =>
      have hlast : FailedLast d (turns ++ [.forgone]) ↔ FailedLast d turns := by
        simp [failedLast_concat, FailsToConnect]
      refine ⟨ih.held, fun h => ?_⟩
      rw [hlast]
      exact ih.vacant h
    | close =>
      have hslot : ((run d {} turns).turn d .close).slot? = none := close_slot _
      refine ⟨fun live h => ?_, fun _ => .inr ⟨rfl, ?_⟩⟩
      · rw [hslot] at h
        simp at h
      · simp [failedLast_concat, FailsToConnect]
    | call command stimuli =>
      obtain ⟨hr, hover⟩ := reached_run d turns command stimuli
      have hlast : FailedLast d (turns ++ [.call command stimuli]) ↔
          FailsToConnect d (run d {} turns) (.call command stimuli) := by
        simp [failedLast_concat]
      rw [show (run d {} turns).turn d (.call command stimuli)
        = ((run d {} turns).through d command stimuli).1 from rfl]
      rcases hr.ends hover with ⟨live, h1, -, h2⟩ | ⟨h1, h2⟩
      · refine ⟨fun _ _ => ?_, fun h => ?_⟩
        · rcases h2 with h2 | ⟨h2, h3⟩
          · exact h2
          · obtain ⟨live', hlive'⟩ := Option.ne_none_iff_exists'.1 h2
            rw [h3]
            exact ih.held live' hlive'
        · rw [h1] at h
          simp at h
      · refine ⟨fun live h => ?_, fun _ => ?_⟩
        · rw [h1] at h
          simp at h
        · rw [hlast]
          cases hslot : (run d {} turns).slot? with
          | none => exact status_of_vacant hslot command stimuli (h2.imp id And.right)
          | some live =>
            -- a connection was there, so nothing was dialed
            rcases h2 with h2 | ⟨h2, -⟩
            · exact .inr ⟨h2, by simp [FailsToConnect, hslot]⟩
            · rw [hslot] at h2
              simp at h2

/--
**Between turns a session says what is so.**

After every run it is connected exactly when the slot holds a connection, and it is never
connecting. When the slot is empty it has failed exactly when the last turn that was taken was a
call whose attempt to connect came to nothing, and it is unconnected otherwise.
-/
theorem status_run (d : Device) (turns : List Turn) :
    ((run d {} turns).status = .connected ↔ (run d {} turns).slot? ≠ none)
      ∧ (run d {} turns).status ≠ .connecting
      ∧ ((run d {} turns).slot? = none →
        ((run d {} turns).status = .failed ↔ FailedLast d turns)
          ∧ ((run d {} turns).status = .unconnected ↔ ¬ FailedLast d turns)) := by
  have h := settled_run d turns
  cases hslot : (run d {} turns).slot? with
  | some live => simp [h.held live hslot]
  | none =>
    rcases h.vacant hslot with ⟨h1, h2⟩ | ⟨h1, h2⟩
    · simp [h1, h2]
    · simp [h1, h2]

end Session

end RouterMenu
