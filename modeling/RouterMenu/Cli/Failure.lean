import RouterMenu.Client.Error
import RouterMenu.Settings.Error
import RouterMenu.Json.Cursor
import RouterMenu.Text.Cut

/-!
# How a command ends badly

What a user is told: the message, a code to search for, help on what to do about it, and the
exit code that scripts branch on.
-/

namespace RouterMenu

/-- The reason a command did not succeed. -/
inductive Failure where
  | connectionFailed (address source : String)
  | tlsError (reason : String)
  | disconnected (reason : String)
  | authFailed (message : String)
  | noCredentials (profile : String)
  /-- There is no such object; `listCommand` shows those there are. -/
  | notFound (kind key listCommand : String)
  | rejected (message : String)
  | decode (message : String)
  | internal (message : String)
  | validation (field reason : String)
  | profileNotFound (name available : String)
  /-- No device is known; `path` is where one could be described. -/
  | noConfig (path : String)
  | config (e : SettingsError)
  /-- An action that must be confirmed where nobody can be asked. -/
  | unconfirmed (action : String)
  | timeout (seconds : Nat)
  | io (reason : String)
  | json (fault : Json.Fault)

namespace Failure

/-- What is reported about it. -/
def message : Failure → String
  | .connectionFailed address _ => "Could not connect to device at " ++ address
  | .tlsError reason => "TLS handshake with the device failed: " ++ reason
  | .disconnected reason => "Device closed the session: " ++ reason
  | .authFailed message => "Authentication failed: " ++ message
  | .noCredentials profile => "No credentials configured for profile '" ++ profile ++ "'"
  | .notFound kind key _ => kind ++ " '" ++ key ++ "' not found"
  | .rejected message => "Device rejected the command: " ++ message
  | .decode message => "Cannot decode device reply: " ++ message
  | .internal message => "Internal error: " ++ message
  | .validation field reason => "Invalid value for " ++ field ++ ": " ++ reason
  | .profileNotFound name _ => "Profile '" ++ name ++ "' not found in configuration"
  | .noConfig _ => "No device configured"
  | .config e => e.message
  | .unconfirmed action => "Destructive operation '" ++ action ++ "' requires confirmation"
  | .timeout seconds =>
    "Device did not answer within " ++ String.ofList (Text.ofNat seconds) ++ "s"
  | .io reason => reason
  | .json fault => "Invalid JSON payload: " ++ fault.message

/-- The exit code of the process. -/
def exitCode : Failure → Nat
  | .connectionFailed .. | .tlsError _ | .disconnected _ => 7
  | .authFailed _ | .noCredentials _ => 3
  | .notFound .. => 4
  | .rejected _ => 6
  | .timeout _ => 8
  | .validation .. | .unconfirmed _ | .profileNotFound .. | .noConfig _ => 2
  | .decode _ | .internal _ | .config _ | .io _ | .json _ => 1

/-- The code of the diagnostic. -/
def code? : Failure → Option String
  | .connectionFailed .. => some "tikly::connection_failed"
  | .tlsError _ => some "tikly::tls_error"
  | .disconnected _ => some "tikly::disconnected"
  | .authFailed _ => some "tikly::auth_failed"
  | .noCredentials _ => some "tikly::no_credentials"
  | .notFound .. => some "tikly::not_found"
  | .rejected _ => some "tikly::rejected"
  | .decode _ => some "tikly::decode"
  | .internal _ => some "tikly::internal"
  | .validation .. => some "tikly::validation"
  | .profileNotFound .. => some "tikly::profile_not_found"
  | .noConfig _ => some "tikly::no_config"
  | .config _ => some "tikly::config"
  | .unconfirmed _ => some "tikly::confirmation_required"
  | .timeout _ => some "tikly::timeout"
  | .io _ => none
  | .json _ => some "tikly::json"

/-- What to do about it. -/
def help? : Failure → Option String
  | .connectionFailed .. => some
      ("Check that the API service is enabled (/ip service) and reachable.\n"
        ++ "Plaintext listens on 8728, API-SSL on 8729.")
  | .tlsError _ => some
      ("RouterOS usually presents a self-signed certificate.\n"
        ++ "Use --insecure (-k) to accept it, or configure ca_cert in your profile.")
  | .authFailed _ => some
      ("Verify the username and password, and that the user's group has the api policy.\n"
        ++ "Run: tikly config set-password --profile <name>")
  | .noCredentials _ => some
      ("Set username in the profile and store a password with: tikly config set-password\n"
        ++ "Or set MIKROTIK_USER and MIKROTIK_PASSWORD.")
  | .notFound _ _ listCommand => some ("Run: tikly " ++ listCommand ++ " to see what exists")
  | .profileNotFound _ available => some ("Available profiles: " ++ available)
  | .noConfig path => some
      ("Add a profile to " ++ path ++ "\nOr pass --host, or set MIKROTIK_HOST.")
  | .unconfirmed _ => some "Use --yes (-y) to skip confirmation in non-interactive contexts."
  | .timeout _ => some "Increase timeout with --timeout or check device load."
  | .json _ => some "Check the JSON input and try again."
  | .disconnected _ | .rejected _ | .decode _ | .internal _ | .validation .. | .config _
  | .io _ => none

/-- How the reason of a failed connection begins that could not be made secure. -/
def tlsStart : String := "TLS error"

/-- The failure of an operation on a menu. -/
def ofClient : ClientError → Failure
  | .connectionFailed address reason =>
    if tlsStart.toList.isPrefixOf reason.toList then .tlsError reason
    else .connectionFailed address reason
  | .authenticationFailed message => .authFailed message
  | .disconnected reason => .disconnected reason
  | .timeout seconds => .timeout seconds
  | .notFound kind key => .notFound kind key ("<" ++ kind ++ "> list")
  | .decode message => .decode message
  | .rejected trap => .rejected trap.message
  | .validationFailed message => .validation "input" message
  | .config message => .validation "config" message
  | .internal message => .internal message

/-- The failure of settings that are kept in the file at `path`. -/
def ofSettings (path : String) : SettingsError → Failure
  | .validation field reason => .validation field reason
  | .unknownProfile name => .profileNotFound name "(none)"
  | .noDevice => .noConfig path
  | .noCredentials profile => .noCredentials profile
  | e => .config e

end Failure

end RouterMenu
