import RouterMenu.Menu.Firewall
import RouterMenu.Menu.Links
import RouterMenu.Menu.Addressing
import RouterMenu.Menu.Tunnels
import RouterMenu.Menu.Automation

/-!
# The menus there are

The catalogue lists every menu that can be managed. The samples are none of them, for no device
keeps such objects: they are made up to try records out where the catalogue does not reach. One
has a field of every type, signed and unsigned, of every width; the other has one of each kind and
nothing more. Both have a field that is unknown to the protocol, as no menu of the catalogue has.
-/

namespace RouterMenu.Menu

/-- Every menu that can be managed. -/
def catalog : List Menu :=
  [firewallFilter, firewallNat, firewallMangle, firewallRaw, ipAddress,
    tftp, dhcpNetwork, bridge, bridgePort, vlan,
    ipsecPeer, ipsecProposal, ipsecProfile, ipsecPolicy, ipsecPolicyGroup,
    ipsecIdentity, scheduler, script]

/-- Made-up objects with fields of every type, one of them unknown to the protocol. -/
def sample : Menu where
  title := "Sample"
  path := "/sample"
  kind := "sample"
  key := "name"
  fields := [
    .text "id" ".id",
    .text "name" "name",
    .text "type" "type",
    .int .i8 "a_i8" "i8-field",
    .int .i16 "a_i16" "i16-field",
    .int .i32 "a_i32" "i32-field",
    .int .i64 "a_i64" "i64-field",
    .int .u8 "a_u8" "u8-field",
    .int .u16 "a_u16" "u16-field",
    .int .u32 "a_u32" "u32-field",
    .int .u64 "a_u64" "u64-field",
    .duration .u32 "time_to_live" "ttl",
    .duration .i64 "age" "age",
    .flag "enabled" "enabled",
    .note "local_note"]

/-- Made-up objects with one field of each kind. -/
def briefSample : Menu where
  title := "Sample"
  path := "/sample"
  kind := "sample"
  key := ".id"
  fields := [
    .text "id" ".id",
    .int .u16 "mtu" "mtu",
    .duration .i64 "keepalive" "keepalive",
    .flag "disabled" "disabled",
    .note "local_note"]

/-- The menus made up to try records out. -/
def samples : List Menu := [sample, briefSample]

end RouterMenu.Menu
