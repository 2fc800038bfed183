import RouterMenu.Cli.Console
import RouterMenu.Client.Operations
import RouterMenu.Json.Record

/-!
# The verbs of a menu

Each verb is a dialogue with the device that ends in a report, or there is something to report
before it has begun: what a verb is given to read is read before anything is sent, and what cannot
be undone is confirmed before.
-/

namespace RouterMenu.Cli

namespace MenuCommand

variable (mc : MenuCommand)

/-- The command that lists the objects there are. -/
def listCommand : String := mc.name ++ " list"

/-- The failure of an operation; where an object is missing, the command is named that lists those
there are. -/
def failure : ClientError → Failure
  | .notFound kind key => .notFound kind key mc.listCommand
  | e => .ofClient e

/-- The report about an object, if the operation came to one. -/
def shown (c : Console) (o : Options) (hint : Bool) :
    Except ClientError (Record mc.menu) → Report
  | .ok r => .show o (Render.one o.output mc.menu r (c.isColored o.color))
  | .error e => .failed (if hint then mc.failure e else .ofClient e)

/-- The object that a command is given to read. -/
def object (c : Console) : Except Failure (Record mc.menu) :=
  match c.input with
  | .error reason => .error (.io reason)
  | .ok text =>
    match mc.menu.ofJson text with
    | .ok r => .ok r
    | .error fault => .error (.json fault)

/-- Goes on with the object that a command is given to read. -/
def withObject (c : Console) (next : Record mc.menu → Dialogue Report) :
    Except Report (Dialogue Report) :=
  match mc.object c with
  | .ok r => .ok (next r)
  | .error f => .error (.failed f)

/-- What the user is asked before an object is deleted. -/
def question (key : String) : String := "Delete " ++ mc.menu.kind ++ " '" ++ key ++ "'?"

/-- Whether an object may be deleted. -/
def confirmed (c : Console) (o : Options) : Except Failure Bool :=
  if o.yes then .ok true
  else match c.answer? with
    | some (.ok b) => .ok b
    | some (.error reason) => .error (.io reason)
    | none => .error (.unconfirmed (mc.name ++ " delete"))

/-- The report about an object that was to be deleted. -/
def deleted (o : Options) (key : String) : Except ClientError Unit → Report
  | .ok () => .remark o ("Deleted " ++ mc.menu.kind ++ " " ++ key)
  | .error e => .failed (.ofClient e)

/-- The dialogue of a verb, or what is reported instead. -/
def talk (c : Console) (o : Options) : Verb → Except Report (Dialogue Report)
  | .list => .ok <| mc.menu.list.map fun
    | .ok records => .show o (Render.list o.output mc.menu records)
    | .error e => .failed (.ofClient e)
  | .get key => .ok <| (mc.menu.find key).map (mc.shown c o true)
  | .add _ => mc.withObject c fun r => (mc.menu.add r).map (mc.shown c o false)
  | .update _ => mc.withObject c fun r => (mc.menu.update r).map (mc.shown c o true)
  | .delete key =>
    match mc.confirmed c o with
    | .ok true => .ok <| (mc.menu.delete key).map (mc.deleted o key)
    | .ok false => .error {}
    | .error f => .error (.failed f)

end MenuCommand

end RouterMenu.Cli
