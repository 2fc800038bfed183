import RouterMenu.Cli.Level
import RouterMenu.Menu.Catalog

/-!
# Commands

Every menu has a command of its own with the same five verbs. Two more commands look after the
settings and write completions for shells. The options that tell the device and the form of the
output may stand on every level.
-/

namespace RouterMenu.Cli

/-- The options that may stand on every level. -/
structure Options where
  profile? : Option String := none
  host? : Option String := none
  user? : Option String := none
  password? : Option String := none
  tls : Bool := false
  authorities? : Option String := none
  insecure : Bool := false
  /-- In seconds. -/
  timeout? : Option Nat := none
  output : OutputFormat := .table
  color : ColorMode := .auto
  verbosity : Nat := 0
  quiet : Bool := false
  yes : Bool := false
deriving DecidableEq, Repr

/-- What is done with a menu. A file that is not named is the standard input. -/
inductive Verb where
  | list
  | get (key : String)
  | add (file? : Option String)
  | update (file? : Option String)
  | delete (key : String)
deriving DecidableEq, Repr

/-- What is done with the settings. -/
inductive SettingsVerb where
  | «show»
  | path
  | profiles
  /-- Makes a profile the default. -/
  | use (name : String)
  | setPassword (profile? : Option String)
deriving DecidableEq, Repr

/-- The command of a menu. -/
structure MenuCommand where
  name : String
  alias? : Option String := none
  menu : Menu

/-- What a command line asks for. -/
inductive Action where
  | menu (command : MenuCommand) (verb : Verb)
  | settings (verb : SettingsVerb)
  | completions (shell : Shell)

/-- A command line that makes sense. -/
structure Invocation where
  options : Options
  action : Action

open Menu in
/-- The commands of the menus. -/
def menuCommands : List MenuCommand :=
  [⟨"firewall-filter", some "filter", firewallFilter⟩, ⟨"firewall-nat", some "nat", firewallNat⟩,
    ⟨"firewall-mangle", some "mangle", firewallMangle⟩, ⟨"firewall-raw", some "raw", firewallRaw⟩,
    ⟨"ip-address", some "address", ipAddress⟩, ⟨"tftp", none, tftp⟩,
    ⟨"dhcp-network", none, dhcpNetwork⟩, ⟨"bridge", none, bridge⟩,
    ⟨"bridge-port", none, bridgePort⟩, ⟨"vlan", none, vlan⟩, ⟨"ipsec-peer", none, ipsecPeer⟩,
    ⟨"ipsec-proposal", none, ipsecProposal⟩, ⟨"ipsec-profile", none, ipsecProfile⟩,
    ⟨"ipsec-policy", none, ipsecPolicy⟩, ⟨"ipsec-policy-group", none, ipsecPolicyGroup⟩,
    ⟨"ipsec-identity", none, ipsecIdentity⟩, ⟨"scheduler", none, scheduler⟩,
    ⟨"script", none, script⟩]

/-- What asks for help and for the version. -/
def questions : List Parameter :=
  [{ name := "help", kind := .help, long? := some "help", short? := some 'h' },
    { name := "version", kind := .version, long? := some "version", short? := some 'V' }]

/-- The profile that is asked for. -/
def profileParameter : Parameter :=
  { name := "profile", kind := .text, long? := some "profile", short? := some 'p',
    environment? := some "TIKLY_PROFILE" }

/-- The options of every level, apart from the profile. -/
def sharedParameters : List Parameter :=
  [{ name := "host", kind := .text, long? := some "host", short? := some 'H' },
    { name := "user", kind := .text, long? := some "user", short? := some 'u' },
    { name := "password", kind := .text, long? := some "password" },
    { name := "tls", kind := .flag, long? := some "tls" },
    { name := "ca_cert", kind := .path, long? := some "ca-cert" },
    { name := "insecure", kind := .flag, long? := some "insecure", short? := some 'k' },
    { name := "timeout", kind := .nat, long? := some "timeout" },
    { name := "output", kind := .format, long? := some "output", short? := some 'o',
      environment? := some "TIKLY_OUTPUT" },
    { name := "color", kind := .color, long? := some "color" },
    { name := "verbose", kind := .count, long? := some "verbose", short? := some 'v' },
    { name := "quiet", kind := .flag, long? := some "quiet", short? := some 'q' },
    { name := "yes", kind := .flag, long? := some "yes", short? := some 'y' }] ++ questions

/-- The parameters of most levels. -/
def globals : List Parameter := profileParameter :: sharedParameters

/-- The key of an object. -/
def keyParameter : Parameter := { name := "key", kind := .text }

/-- The file that holds an object. -/
def fileParameter : Parameter :=
  { name := "from", kind := .path, long? := some "from", short? := some 'f' }

/-- The level of a verb without operands. -/
def bare (names : List String) : Level := .mk names globals none []

/-- The level of a verb about an object. -/
def keyed (names : List String) : Level := .mk names globals (some keyParameter) []

/-- The level of a verb that reads an object. -/
def reading (names : List String) : Level := .mk names (fileParameter :: globals) none []

/-- The verbs of a menu. -/
def verbLevels : List Level :=
  [bare ["list", "ls"], keyed ["get"], reading ["add", "create"], reading ["update", "set"],
    keyed ["delete", "rm", "remove"]]

/-- The profile whose password is set. It is asked for like the profile of every other command, but
by its long name only. -/
def passwordParameter : Parameter :=
  { name := "profile", kind := .text, long? := some "profile" }

/-- The verbs of the settings. -/
def settingsLevels : List Level :=
  [bare ["show"], bare ["path"], bare ["profiles"],
    .mk ["use"] globals (some { name := "name", kind := .text }) [],
    .mk ["set-password"] (passwordParameter :: sharedParameters) none []]

/-- The level of the whole command line. -/
def root : Level :=
  .mk ["tikly"] globals none
    (menuCommands.map (fun c => .mk (c.name :: c.alias?.toList) globals none verbLevels) ++
      [.mk ["config"] globals none settingsLevels,
        .mk ["completions"] globals (some { name := "shell", kind := .shell }) []])

/-- The options of a command line. -/
def Options.ofReading (r : Reading) : Options where
  profile? := r.text? "profile"
  host? := r.text? "host"
  user? := r.text? "user"
  password? := r.text? "password"
  tls := r.flag "tls"
  authorities? := r.text? "ca_cert"
  insecure := r.flag "insecure"
  timeout? := r.nat? "timeout"
  output :=
    match r.value? "output" with
    | some (.format f) => f
    | _ => .table
  color :=
    match r.value? "color" with
    | some (.color c) => c
    | _ => .auto
  verbosity := (r.nat? "verbose").getD 0
  quiet := r.flag "quiet"
  yes := r.flag "yes"

/-- The verb of a menu. -/
def Verb.ofReading? (r : Reading) : String → Option Verb
  | "list" => some .list
  | "get" => (r.text? "key").map .get
  | "add" => some (.add (r.text? "from"))
  | "update" => some (.update (r.text? "from"))
  | "delete" => (r.text? "key").map .delete
  | _ => none

/-- The verb of the settings. -/
def SettingsVerb.ofReading? (r : Reading) : String → Option SettingsVerb
  | "show" => some .show
  | "path" => some .path
  | "profiles" => some .profiles
  | "use" => (r.text? "name").map .use
  | "set-password" => some (.setPassword (r.text? "profile"))
  | _ => none

/-- What a command line asks for. -/
def Action.ofReading? (r : Reading) : Option Action :=
  match r.commands with
  | ["completions"] =>
    match r.value? "shell" with
    | some (.shell s) => some (.completions s)
    | _ => none
  | ["config", verb] => (SettingsVerb.ofReading? r verb).map .settings
  | [name, verb] => do
    let command ← menuCommands.find? fun c => c.name == name
    let verb ← Verb.ofReading? r verb
    some (.menu command verb)
  | _ => none

/-- Reads a command line, without the name of the program. -/
def Invocation.read (env : List (String × String)) (words : List String) :
    Except UsageError Invocation := do
  let r ← Cli.read env root words
  match Action.ofReading? r with
  | some action => .ok { options := .ofReading r, action }
  | none => .error .missingSubcommand

end RouterMenu.Cli
