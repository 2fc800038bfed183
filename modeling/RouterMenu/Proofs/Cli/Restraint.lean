import RouterMenu.Cli.Plan
import RouterMenu.Proofs.Client.Attempt
import RouterMenu.Proofs.Gateway.Network
import RouterMenu.Proofs.Gateway.Order

/-!
# What a command leaves alone

A command that was not used as it should be is refused before its device is dialed: there is no
device, or none that could be reached, the object is not described as it should be, it has no key,
or nobody has confirmed that it is to be deleted. Every verb is settled at once or is an operation,
and an operation that has begun fails for no such reason (`MenuCommand.talk_cases`). So wrong use
leaves the device alone, and nothing is ever removed that nobody has confirmed (`restrained`).
-/

namespace RouterMenu

open Wire (Command)

/-- A sentence that removes something. -/
def Removes (words : List String) : Prop := ∃ path, words.head? = some (path ++ "/remove")

/-- No other verb ends like it. -/
theorem not_removes_of_verb {m : Menu} {verb : String} (other : verb ∈ ["add", "set", "print"])
    {command : Command} (h : command.path = m.verb verb) : ¬ Removes command.words := by
  rintro ⟨path, hpath⟩
  rw [Wire.Command.words, List.head?_cons, Option.some.injEq, h, Menu.verb] at hpath
  have hlast := congrArg (fun s : String => s.toList.getLast?) hpath
  simp only [List.mem_cons, List.not_mem_nil, or_false] at other
  rcases other with rfl | rfl | rfl <;> simp [List.getLast?_append] at hlast

theorem not_removes_login (credentials : Credentials) :
    ¬ Removes (Login.command credentials).words := by
  rintro ⟨path, hpath⟩
  have hlast := congrArg (fun s : Option String => s.map fun s => s.toList.getLast?) hpath
  simp [Login.command, Wire.Command.attr, Wire.Command.words, List.getLast?_append] at hlast

namespace Cli

/-! ## What a command line comes to -/

/-- The command was not used as it should be, or was given what is no object. -/
def Report.Misused (r : Report) : Prop :=
  r.exitCode = 2 ∨ ∃ fault, r.failure? = some (.json fault)

theorem Report.not_misused_of_succeeded {r : Report} (h : r.failure? = none) : ¬ r.Misused := by
  rintro (hcode | ⟨fault, hfault⟩)
  · simp [exitCode, h] at hcode
  · rw [h] at hfault
    cases hfault

/-- Of all that can come of an operation, only a refusal is reported as a wrong use. -/
theorem Report.not_misused_ofClient {e : ClientError} (h : e.isRefusal = false) :
    ¬ (Report.failed (.ofClient e)).Misused := by
  cases e with
  | connectionFailed address reason =>
    rintro (hcode | ⟨fault, hfault⟩)
    · simp only [exitCode, failed, Failure.ofClient] at hcode
      split at hcode <;> simp [Failure.exitCode] at hcode
    · simp only [failed, Failure.ofClient, Option.some.injEq] at hfault
      split at hfault <;> cases hfault
  | validationFailed message => cases h
  | config message => cases h
  | _ =>
    rintro (hcode | ⟨fault, hfault⟩)
    · simp [exitCode, failed, Failure.ofClient, Failure.exitCode] at hcode
    · cases hfault

/-- Somebody has confirmed that an object is to be deleted. -/
def Confirmed (c : Console) (o : Options) : Prop := o.yes = true ∨ c.answer? = some (.ok true)

namespace MenuCommand

variable (mc : MenuCommand) (c : Console) (o : Options)

theorem not_misused_shown (hint : Bool) {outcome : Menu.Outcome (Record mc.menu)}
    (tried : Menu.Tried outcome) : ¬ (mc.shown c o hint outcome).Misused := by
  cases outcome with
  | ok r => exact Report.not_misused_of_succeeded (Report.failure?_show ..)
  | error e =>
    have he := Report.not_misused_ofClient (tried e rfl)
    cases hint with
    | false => exact he
    | true =>
      cases e with
      | notFound kind key =>
        rintro (hcode | ⟨fault, hfault⟩)
        · cases hcode
        · cases hfault
      | _ => exact he

/-- What is not confirmed is settled without the device: nobody could be asked, asking has failed,
or the answer was no. -/
theorem talk_delete_of_not_confirmed (h : ¬ Confirmed c o) (key : String) :
    ∃ report, mc.talk c o (.delete key) = .error report := by
  have hyes : o.yes = false := Bool.eq_false_iff.2 fun hyes => h (.inl hyes)
  have hrefused {f : Failure} (hf : mc.confirmed c o = .error f) :
      mc.talk c o (.delete key) = .error (.failed f) := by
    simp only [talk, hf]
  -- no answer, a prompt that failed, or a no
  cases hanswer : c.answer? with
  | none => exact ⟨_, hrefused (by simp [confirmed, hyes, hanswer]; rfl)⟩
  | some answer =>
    cases answer with
    | error reason => exact ⟨_, hrefused (by simp [confirmed, hyes, hanswer]; rfl)⟩
    | ok answer =>
      cases answer with
      | true => exact absurd (.inr hanswer) h
      | false =>
        have hno : mc.confirmed c o = .ok false := by simp [confirmed, hyes, hanswer]
        exact ⟨{}, by simp only [talk, hno]⟩

/-- **A verb is settled at once, or it is an operation on the menu**; it reports wrong use only of
what was refused, and deletes only what is confirmed. -/
theorem talk_cases (verb : Verb) :
    (∃ report, mc.talk c o verb = .error report)
      ∨ ∃ (op : Menu.Operation mc.menu) (report : Menu.Outcome op.Result → Report),
        mc.talk c o verb = .ok (op.dialogue.map report)
          ∧ (∀ outcome, Menu.Tried outcome → ¬ (report outcome).Misused)
          ∧ ("remove" ∈ op.verbs → ∃ key, verb = .delete key)
          ∧ ∀ key, verb = .delete key → Confirmed c o := by
  cases verb with
  | list =>
    refine .inr ⟨.list, _, rfl, fun outcome tried => ?_, by simp [Menu.Operation.verbs], by simp⟩
    cases outcome with
    | ok records => exact Report.not_misused_of_succeeded (Report.failure?_show ..)
    | error e => exact Report.not_misused_ofClient (tried e rfl)
  | get key =>
    exact .inr ⟨.find key, _, rfl, fun _ tried => not_misused_shown mc c o true tried,
      by simp [Menu.Operation.verbs], by simp⟩
  | add file? =>
    cases hobject : mc.object c with
    | error f => exact .inl ⟨.failed f, by simp only [talk, withObject, hobject]⟩
    | ok r =>
      exact .inr ⟨.add r, _, by simp only [talk, withObject, hobject]; rfl,
        fun _ tried => not_misused_shown mc c o false tried, by simp [Menu.Operation.verbs],
        by simp⟩
  | update file? =>
    cases hobject : mc.object c with
    | error f => exact .inl ⟨.failed f, by simp only [talk, withObject, hobject]⟩
    | ok r =>
      exact .inr ⟨.update r, _, by simp only [talk, withObject, hobject]; rfl,
        fun _ tried => not_misused_shown mc c o true tried, by simp [Menu.Operation.verbs], by simp⟩
  | delete key =>
    by_cases hconfirmed : Confirmed c o
    · -- confirmed by the option before the answer is looked at
      have hyes : mc.confirmed c o = .ok true := by
        unfold confirmed
        rcases hconfirmed with hyes | hanswer
        · rw [if_pos hyes]
        · rw [hanswer]
          split <;> rfl
      refine .inr ⟨.delete key, mc.deleted o key, by simp only [talk, hyes]; rfl,
        fun outcome tried => ?_, fun _ => ⟨key, rfl⟩, fun _ _ => hconfirmed⟩
      cases outcome with
      | ok u => exact Report.not_misused_of_succeeded (Report.failure?_remark ..)
      | error e => exact Report.not_misused_ofClient (tried e rfl)
    · exact .inl (talk_delete_of_not_confirmed mc c o hconfirmed key)

end MenuCommand

/-! ## What becomes of the device -/

variable {σ : Type} {n : Network σ} {w : σ} {c : Console} {i : Invocation}

/-- The session of a command has gone through some turns, the calls of which are what the command
sent. -/
theorem run_talk (d : Device) (t : Dialogue Report) :
    ∃ turns, ((Plan.talk d t).run n w).2.1 = Session.run d {} turns
      ∧ turns.filterMap Turn.command? = t.sent (Session.call n d) ({}, w) := by
  obtain ⟨turns, hrun, hsent⟩ := Session.hold_eq_run n d t {} w
  have hend : ((Plan.talk d t).run n w).2.1
      = if ((Session.hold n d t ({}, w)).1).failure?.isSome then Session.run d {} turns
        else (Session.run d {} turns).close := by
    rw [← hrun]
    rfl
  -- a session that failed is left as it is; any other is closed by one more turn
  split at hend
  · exact ⟨turns, hend, hsent⟩
  · refine ⟨turns ++ [.close], ?_, ?_⟩
    · rw [hend, Session.run_concat]
      rfl
    · rw [List.filterMap_append, hsent]
      exact List.append_nil _

/-- What a command leaves alone, in all that comes of it: its report, its session and the
network. -/
structure Restrained (i : Invocation) (c : Console) (w : σ) (r : Report × Session × σ) : Prop where
  /-- Wrong use is noticed before anything is dialed or sent. -/
  misused : r.1.Misused → r.2 = ({}, w)
  /-- Nothing is removed but by a command that deletes, and only if that is confirmed. -/
  removed : ∀ id, ∀ words ∈ Deed.received id r.2.1.deeds, Removes words →
    (∃ mc key, i.action = .menu mc (.delete key)) ∧ Confirmed c i.options
  /-- A deletion that is not confirmed has no session, and does not come near the network. -/
  unconfirmed : ∀ mc key, i.action = .menu mc (.delete key) → ¬ Confirmed c i.options →
    r.2 = ({}, w)

/-- Nothing is received in a session that no connection takes part in. -/
theorem received_of_quiet {s : Session} (quiet : ∀ e ∈ s.deeds, e.connection? = none) (id : Nat) :
    Deed.received id s.deeds = [] := by
  have hquiet : ∀ e ∈ s.deeds, e.connection? ≠ some id := fun e he => by
    rw [quiet e he]
    simp
  have hwritten : Deed.written id s.deeds = [] := by
    have hnone := (Deed.quiet_append hquiet []).1
    rwa [List.append_nil] at hnone
  exact Deed.received_of_written_nil hwritten

/-- A report that needs no session. -/
theorem restrained_of_report (r : Report) : Restrained i c w ((Plan.report r).run n w) where
  misused _ := rfl
  removed id words received _ := by
    have hnone : Deed.received id ({} : Session).deeds = [] := received_of_quiet (by simp) id
    rw [show ((Plan.report r).run n w).2.1 = {} from rfl, hnone] at received
    simp at received
  unconfirmed _ _ _ _ := rfl

/-- A dialogue that is over before it began. -/
theorem restrained_of_done (d : Device) (report : Report)
    (delete : ∀ mc key, i.action = .menu mc (.delete key) → Confirmed c i.options) :
    Restrained i c w ((Plan.talk d (.done report)).run n w) := by
  have hrun : (Plan.talk d (.done report)).run n w
      = (report, if report.failure?.isSome then {} else ({} : Session).close, w) := rfl
  rw [hrun]
  constructor
  · intro misused
    -- wrong use is a failure, and after a failure the session is left as it is
    have hfailure : report.failure?.isSome = true := by
      rw [Option.isSome_iff_ne_none]
      exact fun hnone => Report.not_misused_of_succeeded hnone misused
    rw [if_pos hfailure]
  · intro id words received _
    rw [received_of_quiet ?_ id] at received
    · simp at received
    · -- at most it is closed, and then it is said to be
      split
      · simp
      · simp [Session.close, Session.release, Session.publish, Deed.connection?]
  · intro mc key haction hunconfirmed
    exact absurd (delete mc key haction) hunconfirmed

/-- An operation that has something to send. -/
theorem restrained_of_ends {mc : MenuCommand} {verb : Verb} (haction : i.action = .menu mc verb)
    (d : Device) {op : Menu.Operation mc.menu} {report : Menu.Outcome op.Result → Report}
    (tried : ∀ outcome, Menu.Tried outcome → ¬ (report outcome).Misused)
    (remove : "remove" ∈ op.verbs → ∃ key, verb = .delete key)
    (delete : ∀ key, verb = .delete key → Confirmed c i.options)
    (ends : op.dialogue.Ends Menu.Tried) :
    Restrained i c w ((Plan.talk d (op.dialogue.map report)).run n w) where
  misused h := by
    have hresult : (op.dialogue.map report).Ends fun r => ¬ r.Misused :=
      Dialogue.Ends.map (P := fun r => ¬ Report.Misused r) (ends.imp tried)
    exact absurd h (hresult.run (Session.call n d) ({}, w))
  removed id words received removes := by
    obtain ⟨turns, hrun, hsent⟩ := run_talk (n := n) (w := w) d (op.dialogue.map report)
    rw [Dialogue.sent_map] at hsent
    have hpath : ∀ command ∈ turns.filterMap Turn.command?,
        ∃ verb ∈ op.verbs, command.path = mc.menu.verb verb :=
      fun command hc => Menu.Operation.path_of_sent (hsent ▸ hc)
    have hpaths : ∀ command ∈ turns.filterMap Turn.command?, command.path ≠ "" := by
      intro command hc
      obtain ⟨verb, -, hverb⟩ := hpath command hc
      rw [hverb]
      exact Menu.verb_ne_empty _ _
    rw [hrun] at received
    -- what was received is told apart by its verb
    obtain rfl | ⟨command, hc, rfl⟩ := Session.received_of_run d hpaths id received
    · exact absurd removes (not_removes_login d.credentials)
    · obtain ⟨verb', hmem, hverb⟩ := hpath command hc
      obtain hother | rfl := Menu.Operation.mem_verbs hmem
      · exact absurd removes (not_removes_of_verb hother hverb)
      · obtain ⟨key, rfl⟩ := remove hmem
        exact ⟨⟨mc, key, haction⟩, delete key rfl⟩
  unconfirmed mc' key haction' hunconfirmed := by
    rw [haction] at haction'
    cases haction'
    exact absurd (delete key rfl) hunconfirmed

/-- **Wrong use and unconfirmed deletions leave the device alone.** Whatever the command line, the
console and its host are, and whatever the network does: a command that ends with a failure of usage
or with an object that is none has neither dialed its device nor sent anything to it. A sentence
that removes something is received only of a command that deletes, and only if that was confirmed,
by an option or by an answer. And a deletion that is not confirmed leaves the network as it was,
with no session at all. -/
theorem restrained (n : Network σ) (w : σ) (c : Console) (i : Invocation) :
    Restrained i c w ((i.plan c).run n w) := by
  unfold Invocation.plan
  split
  · exact restrained_of_report _
  · exact restrained_of_report _
  · next mc verb haction =>
    split
    · next d hd =>
      obtain ⟨report, htalk⟩ | ⟨op, report, htalk, htried, hremove, hdelete⟩ :=
        mc.talk_cases c i.options verb
      · rw [htalk]
        exact restrained_of_report report
      · rw [htalk]
        obtain ⟨result, hop⟩ | hends := op.settled_or_ends
        · -- a change without a key
          rw [hop]
          refine restrained_of_done d (report result) fun mc' key haction' => ?_
          rw [haction] at haction'
          cases haction'
          exact hdelete key rfl
        · exact restrained_of_ends haction d htried hremove hdelete hends
    · exact restrained_of_report _

end Cli

end RouterMenu
