import RouterMenu.Proofs.Client.Traffic

/-!
# Refused at once or not at all

An operation is refused if its record has no key, and then nothing is sent. Once something has been
sent, whatever goes wrong is the fault of something else, however the gateway answers
(`Operation.settled_or_ends`): the stream, the device, or an object that is not there. Which
commands an operation may send is told by their verbs (`Operation.path_of_sent`).
-/

namespace RouterMenu

open Wire (Command Reply)

/-! ## What goes wrong once something was sent -/

namespace Dialogue

variable {α β σ : Type}

/-- Whatever the gateway answers, the result is one of these. -/
def Ends (P : α → Prop) : Dialogue α → Prop
  | .done result => P result
  | .send _ next => ∀ outcome, (next outcome).Ends P

theorem Ends.run {P : α → Prop} {d : Dialogue α} (h : d.Ends P) (call : Gateway σ) (s : σ) :
    P (d.run call s).1 := by
  induction d generalizing s with
  | done result => exact h
  | send command next ih => exact ih _ (h _) _

theorem Ends.imp {P Q : α → Prop} {d : Dialogue α} (h : d.Ends P) (himp : ∀ x, P x → Q x) :
    d.Ends Q := by
  induction d with
  | done result => exact himp _ h
  | send command next ih => exact fun outcome => ih outcome (h outcome)

theorem Ends.map {P : β → Prop} {f : α → β} {d : Dialogue α} (h : d.Ends fun x => P (f x)) :
    (d.map f).Ends P := by
  induction d with
  | done result => exact h
  | send command next ih => exact fun outcome => ih outcome (h outcome)

theorem sent_map (f : α → β) (d : Dialogue α) (call : Gateway σ) (s : σ) :
    (d.map f).sent call s = d.sent call s := by
  rw [sent, sent, rounds_map]

end Dialogue

/-- The failure is that of a request that was not even tried. -/
def ClientError.isRefusal : ClientError → Bool
  | .validationFailed _ | .config _ => true
  | _ => false

theorem ClientError.isRefusal_ofGateway (e : GatewayError) : (ofGateway e).isRefusal = false := by
  cases e <;> rfl

namespace Menu

variable {m : Menu} {α σ : Type}

/-- If it came to nothing, then not because it was refused. -/
def Tried (outcome : Outcome α) : Prop := ∀ e, outcome = .error e → e.isRefusal = false

theorem tried_ofGateway (e : GatewayError) : Tried (.error (.ofGateway e) : Outcome α) := by
  rintro _ ⟨⟩
  exact ClientError.isRefusal_ofGateway e

theorem tried_found (key : String) (reply : Reply) : Tried (m.found key reply) := by
  intro e he
  unfold found at he
  split at he
  · cases he
    rfl
  · split at he
    · cases he
      rfl
    · cases he

theorem ends_find (key : String) : (m.find key).Ends Tried := by
  intro outcome
  cases outcome with
  | error e => exact tried_ofGateway e
  | ok reply => exact tried_found key reply

theorem ends_add (r : Record m) : (m.add r).Ends Tried := by
  intro outcome
  cases outcome with
  | error e => exact tried_ofGateway e
  | ok reply =>
    simp only
    split
    · rintro _ ⟨⟩
      rfl
    · exact ends_find _

theorem ends_list : m.list.Ends Tried := by
  intro outcome
  cases outcome with
  | error e => exact tried_ofGateway e
  | ok reply =>
    simp only
    split
    · rintro _ ⟨⟩
      rfl
    · rintro _ ⟨⟩

theorem ends_delete (key : String) : (m.delete key).Ends Tried := by
  intro outcome
  cases outcome with
  | error e => exact tried_ofGateway e
  | ok reply => rintro _ ⟨⟩

theorem tried_absentAsNone {outcome : Outcome α} (h : Tried outcome) :
    Tried (absentAsNone outcome) := by
  intro e he
  cases outcome with
  | ok r => cases he
  | error e' =>
    simp only [absentAsNone] at he
    split at he
    · cases he
    · cases he
      exact h _ rfl

theorem ends_get (key : String) : (m.get key).Ends Tried :=
  ((ends_find key).imp fun _ => tried_absentAsNone).map

/-- **An operation is refused at once or not at all.** -/
theorem Operation.settled_or_ends (op : Operation m) :
    (∃ result, op.dialogue = .done result) ∨ op.dialogue.Ends Tried := by
  cases op with
  | add r => exact .inr (ends_add r)
  | list => exact .inr ends_list
  | find key => exact .inr (ends_find key)
  | get key => exact .inr (ends_get key)
  | delete key => exact .inr (ends_delete key)
  | update r =>
    rw [dialogue, Menu.update]
    split
    · -- a record without a key is refused before anything is sent
      exact .inl ⟨_, rfl⟩
    · refine .inr fun outcome => ?_
      cases outcome with
      | error e => exact tried_ofGateway e
      | ok reply => exact ends_find _

/-! ## What is sent at all -/

/-- The verbs of what an operation may send. -/
def Operation.verbs : Operation m → List String
  | .add _ => ["add", "print"]
  | .list | .find _ | .get _ => ["print"]
  | .update _ => ["set", "print"]
  | .delete _ => ["remove"]

/-- There are four verbs, and one that removes. -/
theorem Operation.mem_verbs {op : Operation m} {verb : String} (h : verb ∈ op.verbs) :
    verb ∈ ["add", "set", "print"] ∨ verb = "remove" := by
  cases op with
  | _ =>
    simp only [verbs, List.mem_cons, List.not_mem_nil, or_false] at h ⊢
    tauto

theorem verb_ne_empty (m : Menu) (verb : String) : m.verb verb ≠ "" := by
  intro h
  have hlist := congrArg String.toList h
  simp [Menu.verb] at hlist

theorem Operation.path_of_sent {op : Operation m} {call : Gateway σ} {s : σ} {command : Command}
    (sent : command ∈ op.dialogue.sent call s) : ∃ verb ∈ op.verbs, command.path = m.verb verb := by
  cases maySend_of_sent sent with
  | add r => exact ⟨"add", by simp [verbs], rfl⟩
  | update r => exact ⟨"set", by simp [verbs], path_setCommand r⟩
  | delete key => exact ⟨"remove", by simp [verbs], rfl⟩
  -- all others ask for objects
  | _ => exact ⟨"print", by simp [verbs], rfl⟩

end Menu

end RouterMenu
