import RouterMenu.Cli.Completion
import RouterMenu.Cli.MenuVerb
import RouterMenu.Cli.SettingsVerb
import RouterMenu.Gateway.Network

/-!
# Plans

What a command line comes to is settled before anything happens: a report right away, or a
dialogue with a device. The device is dialed only when the dialogue sends something.
-/

namespace RouterMenu.Cli

/-- What a command line comes to. -/
inductive Plan where
  | report (r : Report)
  | talk (d : Device) (t : Dialogue Report)

/-- The device of a command line, if there is one that could be reached. -/
def Options.reachable (o : Options) (h : Host) : Except Failure Device := do
  let d ← o.device h
  match d.problem? with
  | some problem => .error (.ofClient (.config problem))
  | none => .ok d

/-- Settles what an invocation comes to. -/
def Invocation.plan (i : Invocation) (c : Console) : Plan :=
  match i.action with
  | .settings verb => .report (verb.report c i.options)
  | .completions shell => .report { output := completions shell }
  | .menu command verb =>
    match i.options.reachable c.toHost with
    | .ok d =>
      match command.talk c i.options verb with
      | .ok t => .talk d t
      | .error r => .report r
    | .error f => .report (.failed f)

namespace Plan

variable {σ : Type}

/-- Carries a plan out. The session ends with a command that succeeds; one that fails leaves it as
it is, to end with the process. -/
def run (n : Network σ) (w : σ) : Plan → Report × Session × σ
  | .report r => (r, {}, w)
  | .talk d t =>
    let (r, s, w) := Session.hold n d t ({}, w)
    (r, if r.failure?.isSome then s else s.close, w)

end Plan

end RouterMenu.Cli
