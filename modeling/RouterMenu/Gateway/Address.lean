import RouterMenu.Text.Cut
import RouterMenu.Text.Numeral

/-!
# Addresses of devices

A device is addressed as `host`, `host:port` or `[host]:port`. A host in brackets may contain
colons, and an address with two colons and no brackets is a bare host of the sixth version of
the internet protocol; where no port is written, or none that makes sense, a default takes its
place.
-/

namespace RouterMenu

/-- A host and a port to dial. -/
structure Endpoint where
  host : String
  port : Nat
deriving DecidableEq, Repr

/-- The endpoint as one text. -/
def Endpoint.text (e : Endpoint) : String := e.host ++ ":" ++ String.ofList (Text.ofNat e.port)

namespace Address

open Text

/-- The greatest port. -/
def maxPort : Nat := 65535

/-- A port that is written out. -/
def port? (s : List Char) : Option Nat := natUpTo? maxPort s

/-- Splits an address without brackets. -/
def splitPlain (address : List Char) (default : Nat) : List Char × Nat :=
  match cutLast ':' address with
  | some (host, port) =>
    if host.contains ':' then (address, default)
    else match port? port with
      | some port => (host, port)
      | none => (address, default)
  | none => (address, default)

/-- Splits an address into its host and its port. -/
def splitChars (address : List Char) (default : Nat) : List Char × Nat :=
  match address with
  | '[' :: rest =>
    match cut ']' rest with
    | some (host, ':' :: port) => (host, (port? port).getD default)
    | some (host, _) => (host, default)
    | none => splitPlain address default
  | _ => splitPlain address default

/-- The endpoint of an address. -/
def split (address : String) (default : Nat) : Endpoint :=
  let (host, port) := splitChars address.toList default
  ⟨String.ofList host, port⟩

end Address

end RouterMenu
