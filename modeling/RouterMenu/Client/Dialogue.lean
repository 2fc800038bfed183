import RouterMenu.Gateway.Error
import RouterMenu.Wire.Command
import RouterMenu.Wire.Sentence

/-!
# Dialogues with a device

An operation is a dialogue: it sends a command, sees what became of it, and goes on or is over.
A dialogue is a value, so what it sends, in which order and under which circumstances can be
told without any device.
-/

namespace RouterMenu

/-- A course of commands, each chosen by what became of those before it. -/
inductive Dialogue (α : Type) where
  | done (result : α)
  | send (command : Wire.Command) (next : Except GatewayError Wire.Reply → Dialogue α)

namespace Dialogue

variable {α β : Type}

/-- Changes the result. -/
def map (f : α → β) : Dialogue α → Dialogue β
  | .done result => .done (f result)
  | .send command next => .send command fun outcome => (next outcome).map f

/-- Holds the dialogue with a gateway that has a state. -/
def run {σ : Type} (call : Wire.Command → σ → Except GatewayError Wire.Reply × σ) :
    Dialogue α → σ → α × σ
  | .done result, s => (result, s)
  | .send command next, s =>
    let (outcome, s) := call command s
    (next outcome).run call s

end Dialogue

end RouterMenu
