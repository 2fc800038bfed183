import RouterMenu.Gateway.Network

/-!
# Sharing a session

Several errands may be run on one session at the same time. A call has the turn from its beginning
until it is over, so that calls follow each other; the others wait, and any of those that wait may
be next. To close a session takes the turn only for as long as it takes to drop the connection:
that the session is unconnected is made known after the turn has been given back, whatever has
become of the session by then.
-/

namespace RouterMenu

/-- What somebody wants of a session, and how far it has come. -/
inductive Errand where
  /-- Waits for its turn to call. -/
  | calling (command : Wire.Command)
  /-- Has the turn; its call is under way, or over. -/
  | engaged (call : Call)
  /-- Waits for its turn to close the session. -/
  | closing
  /-- Has dropped the connection and given the turn back, and has yet to make that known. -/
  | unannounced
  /-- Is over, with a result if it was a call that had one. -/
  | done (result? : Option (Except GatewayError Wire.Reply))

/-- What may happen to an errand. -/
inductive Act where
  /-- Its turn comes. -/
  | enter
  /-- Something happens to its call from outside. -/
  | feel (stimulus : Stimulus)
  /-- Its call is over, and it gives the turn back. -/
  | leave
  /-- It makes known that the session is unconnected. -/
  | announce
  /-- It is given up before its turn came. -/
  | withdraw
deriving DecidableEq, Repr

/-- A session with all errands that are run on it. -/
structure Sharing where
  session : Session := {}
  errands : List Errand
  /-- The place of the errand that has the turn. -/
  turn? : Option Nat := none

namespace Sharing

/-- The state of an errand after what happened to it. -/
def set (w : Sharing) (i : Nat) (e : Errand) : Sharing := { w with errands := w.errands.set i e }

/-- Lets something happen to an errand in a given state, run on a session with a device. What
cannot happen to it leaves everything as it is. -/
def happen (d : Device) (w : Sharing) (i : Nat) : Errand → Act → Sharing
  | .calling command, .enter =>
    if w.turn? = none then
      let (session, call) := w.session.begin command
      { w with session, turn? := some i }.set i (.engaged call)
    else w
  | .closing, .enter =>
    if w.turn? = none then { w with session := w.session.release }.set i .unannounced else w
  | .engaged call, .feel stimulus =>
    let (session, call) := w.session.step d call stimulus
    { w with session }.set i (.engaged call)
  | .engaged (.done result), .leave => { w with turn? := none }.set i (.done (some result))
  | .engaged .abandoned, .leave => { w with turn? := none }.set i (.done none)
  | .unannounced, .announce =>
    { w with session := w.session.publish .unconnected }.set i (.done none)
  | .calling _, .withdraw | .closing, .withdraw => w.set i (.done none)
  | _, _ => w

/-- Lets something happen to the errand at a place. -/
def step (d : Device) (w : Sharing) (i : Nat) (a : Act) : Sharing :=
  match w.errands[i]? with
  | some e => w.happen d i e a
  | none => w

/-- Lets things happen one after another. -/
def run (d : Device) (w : Sharing) (acts : List (Nat × Act)) : Sharing :=
  acts.foldl (fun w (i, a) => w.step d i a) w

/-- No errand is on its way between its first act and its last. -/
def AtRest (w : Sharing) : Prop :=
  ∀ e ∈ w.errands, match e with
    | .calling _ | .closing | .done _ => True
    | .engaged _ | .unannounced => False

/-- The results of all errands; one that has none yet, or never will, has nothing to show. -/
def results (w : Sharing) : List (Option (Except GatewayError Wire.Reply)) :=
  w.errands.map fun
    | .done result? => result?
    | _ => none

variable {σ : Type} (n : Network σ) (d : Device)

/-- Runs the errand at a place over a network, from its turn to its end. -/
def serve (i : Nat) (w : Sharing × σ) : Sharing × σ :=
  let (s, w) := w
  let s := s.step d i .enter
  match s.errands[i]? with
  | some (.engaged call) =>
    let ((session, call), w) := Session.follow n d n.patience s.session call w
    (({ s with session }.set i (.engaged call)).step d i .leave, w)
  | _ => (s.step d i .announce, w)

/-- Runs all errands over a network, each as its turn comes. -/
def serveAll (w : Sharing × σ) : Sharing × σ :=
  (List.range w.1.errands.length).foldl (fun w i => serve n d i w) w

end Sharing

end RouterMenu
