import RouterMenu.Client.Dialogue
import RouterMenu.Gateway.Session

/-!
# Networks

A network answers what calls wait for: it dials, takes bytes and delivers bytes. With one at hand
a call can be followed to its end, and a dialogue can be held over a session. A network that goes
on and on delivering what ends no answer exhausts the patience of the call, as does one that falls
silent.
-/

namespace RouterMenu

/-- A network whose state is of type `σ`. -/
structure Network (σ : Type) where
  /-- What becomes of what a call to a device waits for. -/
  answer : Device → Want → σ → Stimulus × σ
  /-- After how many answers a call has taken too long. -/
  patience : Nat := 1000000

namespace Network

/-- What dialing comes to where there is no route to anywhere. -/
def noRoute : String := "Network is unreachable (os error 101)"

/-- The network of a host that is connected to none. -/
def unrouted : Network Unit where
  answer _ want _ :=
    match want with
    | .dial _ => (.unopened (.unreachable noRoute), ())
    | _ => (.stream .elapsed, ())

/-- The network as it is to a caller who leaves as soon as it falls silent. -/
def leaving {σ : Type} (n : Network σ) : Network σ where
  answer d want w :=
    match n.answer d want w with
    | (.stream .elapsed, w) | (.unopened .elapsed, w) => (.abandoned, w)
    | r => r
  patience := n.patience

end Network

namespace Session

variable {σ : Type} (n : Network σ) (d : Device)

/-- Follows a call until it waits for nothing, or for too long. -/
def follow : Nat → Session → Call → σ → (Session × Call) × σ
  | 0, s, c, w => (s.step d c c.deadline, w)
  | fuel + 1, s, c, w =>
    if c.want = .nothing then ((s, c), w)
    else
      let (stimulus, w) := n.answer d c.want w
      let (s, c) := s.step d c stimulus
      follow fuel s c w

/-- Sends a command and waits for the answer; there is none if the caller left. -/
def attempt (command : Wire.Command) (s : Session × σ) :
    Option (Except GatewayError Wire.Reply) × (Session × σ) :=
  let (s, w) := s
  let (s, c) := s.begin command
  let ((s, c), w) := follow n d n.patience s c w
  (c.result?, s, w)

/-- Sends a command and waits for the answer. -/
def call (command : Wire.Command) (s : Session × σ) :
    Except GatewayError Wire.Reply × (Session × σ) :=
  let (result?, s) := attempt n d command s
  (result?.getD (.error (.timeout d.seconds)), s)

/-- Holds a dialogue over a session. -/
def hold {α : Type} (talk : Dialogue α) (s : Session × σ) : α × (Session × σ) :=
  talk.run (call n d) s

end Session

end RouterMenu
