import Mathlib.Data.List.Nodup
import RouterMenu.Client.Operations

/-!
# What the operations on a menu send

An operation is a dialogue with a gateway, and a gateway may answer each command as it likes: with
any reply or any failure, depending on all it was sent before. The `rounds` of a dialogue are its
commands with what became of them; a gateway that takes notes sees these and no others
(`run_noting`). Every operation is `Heedful`: the first failure ends it, and is what it results in.
What is sent when is `Traffic`: one command for each operation, and a second one only to read back
what was written. So there are few commands that an operation may send at all
(`Operation.maySend_of_sent`).
-/

namespace RouterMenu

open Wire (Command Reply)

/-- Whatever answers commands: what becomes of a command may depend on a state, and changes it. -/
abbrev Gateway (σ : Type) : Type := Command → σ → Except GatewayError Reply × σ

/-- A command and what became of it. -/
abbrev Round : Type := Command × Except GatewayError Reply

namespace Dialogue

variable {α β σ : Type}

/-! ## Rounds -/

/-- The commands of a dialogue with a gateway, each with what became of it. -/
def rounds (call : Gateway σ) : Dialogue α → σ → List Round
  | .done _, _ => []
  | .send command next, s =>
    let (outcome, s) := call command s
    (command, outcome) :: (next outcome).rounds call s

/-- The commands that a dialogue sends to a gateway. -/
def sent (call : Gateway σ) (d : Dialogue α) (s : σ) : List Command :=
  (d.rounds call s).map Prod.fst

/-- The gateway that does the same and notes every round beside its own state. -/
def noting (call : Gateway σ) : Gateway (σ × List Round)
  | command, (s, notes) =>
    let (outcome, s) := call command s
    (outcome, s, notes ++ [(command, outcome)])

variable {call : Gateway σ}

/-- **A gateway sees the rounds of a dialogue and no others.** -/
theorem run_noting (d : Dialogue α) (s : σ) (notes : List Round) :
    d.run (noting call) (s, notes)
      = ((d.run call s).1, (d.run call s).2, notes ++ d.rounds call s) := by
  induction d generalizing s notes with
  | done result => simp [run, rounds]
  | send command next ih =>
    simp only [run, rounds, noting]
    rw [ih, List.append_assoc, List.singleton_append]

theorem rounds_map (f : α → β) (d : Dialogue α) (s : σ) :
    (d.map f).rounds call s = d.rounds call s := by
  induction d generalizing s with
  | done result => rfl
  | send command next ih => simp only [map, rounds, ih]

/-- What is sent after a command depends on what became of it. -/
theorem sent_send (command : Command) (next : Except GatewayError Reply → Dialogue α) (s : σ) :
    (Dialogue.send command next).sent call s
      = command :: (next (call command s).1).sent call (call command s).2 := rfl

/-! ## The first failure is the last round -/

/-- Whenever a call fails, the dialogue is over, and the class of the failure is its result. -/
inductive Heedful : Dialogue (Except ClientError α) → Prop where
  | done (result : Except ClientError α) : Heedful (.done result)
  | send {command : Command} {next : Except GatewayError Reply → Dialogue (Except ClientError α)}
      (failed : ∀ e, next (.error e) = .done (.error (.ofGateway e)))
      (answered : ∀ reply, Heedful (next (.ok reply))) : Heedful (.send command next)

/-- **Nothing is sent after a failure**, and the failure is reported. -/
theorem Heedful.failed_last {d : Dialogue (Except ClientError α)} (h : d.Heedful) {s : σ}
    {before after : List Round} {command : Command} {e : GatewayError}
    (split : d.rounds call s = before ++ (command, .error e) :: after) :
    after = [] ∧ (d.run call s).1 = .error (.ofGateway e) := by
  induction h generalizing s before with
  | done result => simp [rounds] at split
  | @send first next failed answered ih =>
    simp only [rounds] at split
    simp only [run]
    cases hcall : (call first s).1 with
    | error e' =>
      -- the dialogue is over, so the failure in question is this one
      rw [hcall, failed, rounds] at split
      rw [failed, run]
      cases before with
      | nil =>
        simp only [List.nil_append, List.cons.injEq, Prod.mk.injEq, Except.error.injEq] at split
        obtain ⟨⟨-, rfl⟩, hnil⟩ := split
        exact ⟨hnil.symm, rfl⟩
      | cons round before => simp at split
    | ok reply =>
      rw [hcall] at split
      cases before with
      | nil => simp at split
      | cons round before =>
        rw [List.cons_append, List.cons.injEq] at split
        exact ih reply split.2

theorem Heedful.map {f : Except ClientError α → Except ClientError β}
    (keeps : ∀ e, f (.error (.ofGateway e)) = .error (.ofGateway e))
    {d : Dialogue (Except ClientError α)} (h : d.Heedful) : (d.map f).Heedful := by
  induction h with
  | done result => exact .done _
  | send failed answered ih =>
    refine .send (fun e => ?_) ih
    rw [failed, Dialogue.map, keeps]

end Dialogue

/-- A failed call never says that an object does not exist. -/
theorem ClientError.isNotFound_ofGateway (e : GatewayError) : (ofGateway e).isNotFound = false := by
  cases e <;> rfl

namespace Menu

variable {m : Menu} {σ : Type} {call : Gateway σ} {s : σ}

/-! ## The operations -/

/-- The operations on a menu, with what each of them is about. -/
inductive Operation (m : Menu) where
  | add (r : Record m)
  | list
  | find (key : String)
  | get (key : String)
  | update (r : Record m)
  | delete (key : String)

/-- What an operation gives if it succeeds. -/
abbrev Operation.Result : Operation m → Type
  | .add _ | .find _ | .update _ => Record m
  | .list => List (Record m)
  | .get _ => Option (Record m)
  | .delete _ => Unit

/-- The dialogue of an operation. -/
def Operation.dialogue : (op : Operation m) → Dialogue (Outcome op.Result)
  | .add r => m.add r
  | .list => m.list
  | .find key => m.find key
  | .get key => m.get key
  | .update r => m.update r
  | .delete key => m.delete key

theorem heedful_find (key : String) : (m.find key).Heedful :=
  .send (fun _ => rfl) fun _ => .done _

theorem heedful_add (r : Record m) : (m.add r).Heedful := by
  refine .send (fun _ => rfl) fun reply => ?_
  simp only
  split
  · exact .done _
  · exact heedful_find _

theorem heedful_update (r : Record m) : (m.update r).Heedful := by
  unfold update
  split
  · exact .done _
  · exact .send (fun _ => rfl) fun _ => heedful_find _

theorem heedful_get (key : String) : (m.get key).Heedful := by
  refine Dialogue.Heedful.map (fun e => ?_) (heedful_find key)
  -- only a missing object is made into something else, and no failed call reports one
  rw [absentAsNone, ClientError.isNotFound_ofGateway]
  rfl

theorem heedful_list : m.list.Heedful := by
  refine .send (fun _ => rfl) fun reply => ?_
  simp only
  split <;> exact .done _

theorem heedful_delete (key : String) : (m.delete key).Heedful :=
  .send (fun _ => rfl) fun _ => .done _

/-- **The first failure ends every operation.** -/
theorem Operation.heedful (op : Operation m) : op.dialogue.Heedful := by
  cases op with
  | add r => exact heedful_add r
  | list => exact heedful_list
  | find key => exact heedful_find key
  | get key => exact heedful_get key
  | update r => exact heedful_update r
  | delete key => exact heedful_delete key

/-! ## What is sent -/

/-- The command that asks for the object with a key. -/
def printWhere (m : Menu) (key : String) : Command := ⟨m.verb "print", [.query m.key key]⟩

theorem sent_find (key : String) : (m.find key).sent call s = [m.printWhere key] := by
  rw [find, Dialogue.sent_send]
  cases (call ((Command.mk (m.verb "print") []).query m.key key) s).1 <;> rfl

theorem sent_get (key : String) : (m.get key).sent call s = [m.printWhere key] := by
  rw [get, Dialogue.sent, Dialogue.rounds_map]
  exact sent_find key

theorem sent_list : m.list.sent call s = [⟨m.verb "print", []⟩] := by
  rw [list, Dialogue.sent_send]
  cases (call ⟨m.verb "print", []⟩ s).1 with
  | error e => rfl
  | ok reply =>
    simp only
    split <;> rfl

theorem sent_delete (key : String) :
    (m.delete key).sent call s = [⟨m.verb "remove", [.attr "numbers" key]⟩] := by
  rw [delete, Dialogue.sent_send]
  cases (call ((Command.mk (m.verb "remove") []).numbers key) s).1 <;> rfl

/-- A record is read back if its change was accepted. -/
theorem sent_update (r : Record m) :
    (m.update r).sent call s =
      if m.keyOf r = "" then []
      else m.setCommand r :: match (call (m.setCommand r) s).1 with
        | .error _ => []
        | .ok _ => [m.printWhere (m.keyOf r)] := by
  unfold update
  by_cases hkey : m.keyOf r = ""
  · rw [if_pos (String.isEmpty_iff.2 hkey), if_pos hkey]
    rfl
  · rw [if_neg (fun h => hkey (String.isEmpty_iff.1 h)), if_neg hkey, Dialogue.sent_send]
    cases (call (m.setCommand r) s).1 with
    | error e => rfl
    | ok reply => exact congrArg _ (sent_find _)

/-- A record is read back if it was created and has a key. -/
theorem sent_add (r : Record m) :
    (m.add r).sent call s =
      r.marshal (m.verb "add") :: match (call (r.marshal (m.verb "add")) s).1 with
        | .error _ => []
        | .ok reply => (m.newKey? r reply).toList.map m.printWhere := by
  rw [add, Dialogue.sent_send]
  cases (call (r.marshal (m.verb "add")) s).1 with
  | error e => rfl
  | ok reply =>
    simp only
    cases m.newKey? r reply with
    | none => rfl
    | some key => exact congrArg _ (sent_find _)

theorem verb_injective {a b : String} (h : m.verb a = m.verb b) : a = b := by
  rw [verb, verb] at h
  exact (String.append_right_inj _).1 h

theorem path_setCommand (r : Record m) : (m.setCommand r).path = m.verb "set" := by
  unfold setCommand
  simp only
  split <;> rfl

theorem setCommand_ne_printWhere (r : Record m) (key : String) :
    m.setCommand r ≠ m.printWhere key := by
  intro h
  have hpath := congrArg Command.path h
  rw [path_setCommand] at hpath
  exact absurd (verb_injective hpath) (by decide)

theorem marshal_ne_printWhere (r : Record m) (key : String) :
    r.marshal (m.verb "add") ≠ m.printWhere key := by
  intro h
  exact absurd (verb_injective (congrArg Command.path h)) (by decide)

/-- **No command is sent twice.** -/
theorem Operation.nodup_sent (op : Operation m) : (op.dialogue.sent call s).Nodup := by
  cases op with
  | add r =>
    rw [dialogue, sent_add]
    split
    · exact List.nodup_singleton _
    · next reply _ =>
      cases m.newKey? r reply with
      | none => exact List.nodup_singleton _
      | some key =>
        -- what changes something and what asks for it differ in their verbs
        simp [marshal_ne_printWhere]
  | list => rw [dialogue, sent_list]; exact List.nodup_singleton _
  | find key => rw [dialogue, sent_find]; exact List.nodup_singleton _
  | get key => rw [dialogue, sent_get]; exact List.nodup_singleton _
  | update r =>
    rw [dialogue, sent_update]
    split
    · exact List.nodup_nil
    · split
      · exact List.nodup_singleton _
      · simp [setCommand_ne_printWhere]
  | delete key => rw [dialogue, sent_delete]; exact List.nodup_singleton _

/-- What an operation may send, whatever it is answered. -/
inductive Operation.MaySend : Operation m → Command → Prop where
  | add (r : Record m) : MaySend (.add r) (r.marshal (m.verb "add"))
  /-- A new record is read back by the key it has by then. -/
  | added (r : Record m) (key : String) : MaySend (.add r) (m.printWhere key)
  | list : MaySend .list ⟨m.verb "print", []⟩
  | find (key : String) : MaySend (.find key) (m.printWhere key)
  | get (key : String) : MaySend (.get key) (m.printWhere key)
  | update (r : Record m) : MaySend (.update r) (m.setCommand r)
  /-- A changed record is read back by its key. -/
  | updated (r : Record m) : MaySend (.update r) (m.printWhere (m.keyOf r))
  | delete (key : String) : MaySend (.delete key) ⟨m.verb "remove", [.attr "numbers" key]⟩

/-- Nothing else is sent. -/
theorem Operation.maySend_of_sent {op : Operation m} {command : Command}
    (sent : command ∈ op.dialogue.sent call s) : op.MaySend command := by
  cases op with
  | add r =>
    rw [dialogue, sent_add, List.mem_cons] at sent
    rcases sent with rfl | sent
    · exact .add r
    · -- it is read back only if the device has taken it in, and under a key that is known
      split at sent
      · simp at sent
      · obtain ⟨key, -, rfl⟩ := List.mem_map.1 sent
        exact .added r key
  | list =>
    rw [dialogue, sent_list, List.mem_singleton] at sent
    exact sent ▸ .list
  | find key =>
    rw [dialogue, sent_find, List.mem_singleton] at sent
    exact sent ▸ .find key
  | get key =>
    rw [dialogue, sent_get, List.mem_singleton] at sent
    exact sent ▸ .get key
  | update r =>
    rw [dialogue, sent_update] at sent
    split at sent
    · simp at sent
    · rcases List.mem_cons.1 sent with rfl | sent
      · exact .update r
      · split at sent
        · simp at sent
        · rw [List.mem_singleton] at sent
          exact sent ▸ .updated r
  | delete key =>
    rw [dialogue, sent_delete, List.mem_singleton] at sent
    exact sent ▸ .delete key

/-- The traffic between the operations on a menu and a gateway in some state. -/
structure Traffic (m : Menu) (call : Gateway σ) (s : σ) : Prop where
  /-- The rounds of an operation are all that the gateway sees of it. -/
  seen (op : Operation m) :
    (op.dialogue.run (Dialogue.noting call) (s, [])).2.2 = op.dialogue.rounds call s
  list : m.list.sent call s = [⟨m.verb "print", []⟩]
  find (key : String) : (m.find key).sent call s = [m.printWhere key]
  get (key : String) : (m.get key).sent call s = [m.printWhere key]
  delete (key : String) :
    (m.delete key).sent call s = [⟨m.verb "remove", [.attr "numbers" key]⟩]
  /-- A record with a key is changed, and read back if that succeeded. -/
  update (r : Record m) :
    (m.update r).sent call s =
      if m.keyOf r = "" then []
      else m.setCommand r :: match (call (m.setCommand r) s).1 with
        | .error _ => []
        | .ok _ => [m.printWhere (m.keyOf r)]
  /-- A record without a key is refused. -/
  keyless (r : Record m) :
    m.keyOf r = "" → ((m.update r).run call s).1
      = .error (.validationFailed (m.kind ++ " update needs \x60" ++ m.key ++ "\x60"))
  /-- A new record is read back if it was created and its key is known: the id that the device
  assigned, or the name that the record has. -/
  add (r : Record m) :
    (m.add r).sent call s =
      r.marshal (m.verb "add") :: match (call (r.marshal (m.verb "add")) s).1 with
        | .error _ => []
        | .ok reply =>
          (if m.key = idWire then reply.ret? else some (m.keyOf r)).toList.map m.printWhere
  /-- A new record that should have been assigned an id, and was not, is reported. -/
  unassigned (r : Record m) (reply : Reply) :
    m.key = idWire → reply.ret? = none → (call (r.marshal (m.verb "add")) s).1 = .ok reply →
      ((m.add r).run call s).1
        = .error (.internal ("device assigned no id to the new " ++ m.kind))
  /-- No command is repeated. -/
  nodup (op : Operation m) : (op.dialogue.sent call s).Nodup
  /-- The first failure is the end of an operation, and its result. -/
  failed_last (op : Operation m) {before after : List Round} {command : Command}
    {e : GatewayError} :
    op.dialogue.rounds call s = before ++ (command, .error e) :: after →
      after = [] ∧ (op.dialogue.run call s).1 = .error (.ofGateway e)

/-- **Every operation sends what it is for, once, and stops at the first failure**, whatever the
menu, the records and the keys are, and whatever the gateway answers. -/
theorem traffic (m : Menu) (call : Gateway σ) (s : σ) : m.Traffic call s where
  seen op := by rw [Dialogue.run_noting, List.nil_append]
  list := sent_list
  find key := sent_find key
  get key := sent_get key
  delete key := sent_delete key
  update r := sent_update r
  keyless r hkey := by
    rw [Menu.update, if_pos (String.isEmpty_iff.2 hkey)]
    rfl
  add r := sent_add r
  unassigned r reply hid hret hcall := by
    have hkey : m.newKey? r reply = none := by rw [newKey?, if_pos hid, hret]
    simp only [Menu.add, Dialogue.run, hcall, hkey]
  nodup op := op.nodup_sent
  failed_last op _ _ _ _ split := op.heedful.failed_last split

end Menu

end RouterMenu
