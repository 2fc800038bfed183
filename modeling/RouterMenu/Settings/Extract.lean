import RouterMenu.Settings.Basic
import RouterMenu.Settings.Node

/-!
# Settings from a tree

Every node must be of the kind that its place asks for. Entries nobody asks for do not matter, and
a list may stand for a table of which it gives the values in order.
-/

namespace RouterMenu.Settings

/-- What is wrong with a node. -/
inductive Complaint where
  /-- It is of another kind than expected. -/
  | kind (found expected : String)
  /-- It is of the right kind, but out of bounds. -/
  | value (found expected : String)
  /-- It is a table that lacks an entry. -/
  | missing (field : String)
  /-- It is a list that ends too soon. -/
  | length (count : Nat) (expected : String)
deriving DecidableEq, Repr

/-- What is reported about it. -/
def Complaint.message : Complaint → String
  | .kind found expected => "invalid type: found " ++ found ++ ", expected " ++ expected
  | .value found expected => "invalid value " ++ found ++ ", expected " ++ expected
  | .missing field => "missing field `" ++ field ++ "`"
  | .length count expected =>
    "invalid length " ++ String.ofList (Text.ofNat count) ++ ", expected " ++ expected

/-- A complaint about the node at the end of a path. -/
structure Misfit where
  complaint : Complaint
  path : List String := []
  layer : Layer
deriving DecidableEq, Repr

/-- The path as the layer spells it. -/
def Layer.spell (path : List String) : Layer → String
  | .builtin | .file _ => ".".intercalate ("default" :: path)
  | .environment _ =>
    ".".intercalate (path.map fun k => String.ofList (k.toList.map Text.upper))

/-- How a message names the layer. -/
def Layer.describe : Layer → String
  | .builtin => "defaults"
  | .file path => path ++ " TOML file"
  | .environment start => "`" ++ start ++ "` environment variable(s)"

/-- What is reported about a misfit. -/
def Misfit.message (m : Misfit) : String :=
  let key := if m.path.isEmpty then "" else " for key " ++ Text.quoted (m.layer.spell m.path)
  m.complaint.message ++ key ++ " in " ++ m.layer.describe

namespace Node

/-- The complaint that a node is of the wrong kind. -/
def mismatch (n : Node) (expected : String) : Misfit :=
  { complaint := .kind n.describe expected, layer := n.layer }

/-- Text, where `expected` says what text is wanted for. -/
def textFor (expected : String) : Node → Except Misfit String
  | .text _ s => .ok s
  | .letter _ c => .ok (String.singleton c)
  | n => .error (n.mismatch expected)

/-- Text. -/
def asText : Node → Except Misfit String := textFor "a string"

/-- The path of a file. -/
def asPath : Node → Except Misfit String := textFor "path string"

/-- A truth value. -/
def asFlag : Node → Except Misfit Bool
  | .flag _ b => .ok b
  | n => .error (n.mismatch "a boolean")

/-- A number of 64 bits without a sign. -/
def asNat : Node → Except Misfit Nat
  | .unsigned _ n => .ok n
  | .signed l n =>
    if n < 0 then
      .error { complaint := .value (Node.signed l n).describe "u64", layer := l }
    else .ok n.toNat
  | n => .error (n.mismatch "u64")

end Node

/-- Names the entry in which a node was found. -/
def «at» {α : Type} (key : String) : Except Misfit α → Except Misfit α
  | .ok a => .ok a
  | .error m => .error { m with path := key :: m.path }

/-- A structure read entry by entry: `step` takes in the entry of one key. -/
def foldEntries {α : Type} (step : α → String → Node → Except Misfit α) :
    α → List (String × Node) → Except Misfit α
  | a, [] => .ok a
  | a, (k, n) :: rest => do
    let a ← «at» k (step a k n)
    foldEntries step a rest

/-- The same, from the values of the given keys in order; messages count them. -/
def foldItems {α : Type} (step : α → String → Node → Except Misfit α) :
    α → Nat → List String → List Node → Except Misfit α
  | a, i, k :: keys, n :: rest => do
    let a ← «at» (String.ofList (Text.ofNat i)) (step a k n)
    foldItems step a (i + 1) keys rest
  | a, _, _, _ => .ok a

namespace Defaults

/-- Takes in an entry. -/
def step (d : Defaults) (k : String) (n : Node) : Except Misfit Defaults :=
  if k = "output" then n.asText.map fun output => { d with output }
  else if k = "color" then n.asText.map fun color => { d with color }
  else if k = "timeout" then n.asNat.map fun timeout => { d with timeout }
  else .ok d

/-- The keys in order. -/
def keys : List String := ["output", "color", "timeout"]

/-- The defaults in a tree; what it does not say is built in. -/
def ofNode : Node → Except Misfit Defaults
  | .table _ entries => foldEntries step {} entries
  | .list _ items => foldItems step {} 0 keys items
  | n => .error (n.mismatch "struct Defaults")

end Defaults

namespace Profile

/-- A profile of which the host may still be missing. -/
structure Draft where
  host? : Option String := none
  profile : Profile := {}

/-- Takes in an entry. -/
def step (d : Draft) (k : String) (n : Node) : Except Misfit Draft :=
  let p := d.profile
  if k = "host" then n.asText.map fun host => { d with host? := some host }
  else if k = "username" then
    n.asText.map fun s => { d with profile := { p with username? := some s } }
  else if k = "password" then
    n.asText.map fun s => { d with profile := { p with password? := some s } }
  else if k = "password_env" then
    n.asText.map fun s => { d with profile := { p with passwordVariable? := some s } }
  else if k = "tls" then n.asFlag.map fun tls => { d with profile := { p with tls } }
  else if k = "ca_cert" then
    n.asPath.map fun s => { d with profile := { p with authorities? := some s } }
  else if k = "insecure" then
    n.asFlag.map fun b => { d with profile := { p with insecure? := some b } }
  else if k = "timeout" then
    n.asNat.map fun t => { d with profile := { p with timeout? := some t } }
  else .ok d

/-- The keys in order. -/
def keys : List String :=
  ["host", "username", "password", "password_env", "tls", "ca_cert", "insecure", "timeout"]

/-- The profile of a draft; without a host it is none. -/
def Draft.finish (layer : Layer) (d : Draft) : Except Misfit Profile :=
  match d.host? with
  | some host => .ok { d.profile with host }
  | none => .error { complaint := .missing "host", layer }

/-- The profile in a tree. Of a list only the value of `tls` may be left out, so that one of four
values ends where that of `ca_cert` is missed. -/
def ofNode : Node → Except Misfit Profile
  | .table l entries => do (← foldEntries step {} entries).finish l
  | .list l items => do
    let d ← foldItems step {} 0 keys items
    let count := items.length
    if count < keys.length then
      let missed := if count = 4 then 5 else count
      .error { complaint := .length missed "struct Profile with 8 elements", layer := l }
    else d.finish l
  | n => .error (n.mismatch "struct Profile")

end Profile

/-- The profiles in a table. -/
def profilesOf : List (String × Node) → Except Misfit (List (String × Profile))
  | [] => .ok []
  | (k, n) :: rest => do
    let p ← «at» k (Profile.ofNode n)
    let ps ← profilesOf rest
    .ok ((k, p) :: ps)

/-- Takes in an entry. -/
def step (s : Settings) (k : String) (n : Node) : Except Misfit Settings :=
  if k = "default_profile" then n.asText.map fun name => { s with defaultProfile? := some name }
  else if k = "defaults" then (Defaults.ofNode n).map fun defaults => { s with defaults }
  else if k = "profiles" then
    match n with
    | .table _ entries => (profilesOf entries).map fun profiles => { s with profiles }
    | n => .error (n.mismatch "a map")
  else .ok s

/-- The settings in a tree. -/
def ofNode : Node → Except Misfit Settings
  | .table _ entries => foldEntries step { defaultProfile? := none } entries
  | n => .error (n.mismatch "struct Config")

/-- The device that environment variables describe. -/
structure EnvironmentDevice where
  host? : Option String := none
  user? : Option String := none
  password? : Option String := none
  tls : Bool := false
  authorities? : Option String := none
  insecure : Bool := false
deriving DecidableEq, Repr

namespace EnvironmentDevice

/-- Takes in an entry. -/
def step (d : EnvironmentDevice) (k : String) (n : Node) : Except Misfit EnvironmentDevice :=
  if k = "host" then n.asText.map fun s => { d with host? := some s }
  else if k = "user" then n.asText.map fun s => { d with user? := some s }
  else if k = "password" then n.asText.map fun s => { d with password? := some s }
  else if k = "tls" then n.asFlag.map fun tls => { d with tls }
  else if k = "ca_certificate" then n.asPath.map fun s => { d with authorities? := some s }
  else if k = "insecure" then n.asFlag.map fun insecure => { d with insecure }
  else .ok d

/-- The device in a tree. -/
def ofNode : Node → Except Misfit EnvironmentDevice
  | .table _ entries => foldEntries step {} entries
  | n => .error (n.mismatch "struct EnvDevice")

end EnvironmentDevice

end RouterMenu.Settings
