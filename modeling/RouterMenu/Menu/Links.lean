import RouterMenu.Menu.Basic

/-!
# Bridges, their ports, and VLANs

Bridges and VLANs are named by their user, and known by that name; a port is known by its id.
-/

namespace RouterMenu.Menu

/-- Bridges. -/
def bridge : Menu where
  title := "BridgeInterface"
  path := "/interface/bridge"
  kind := "bridge"
  key := "name"
  fields := [
    .text "id" ".id",
    .text "name" "name",
    .int .u16 "mtu" "mtu",
    .flag "disabled" "disabled",
    .flag "auto_mac" "auto-mac",
    .text "admin_mac" "admin-mac",
    .text "comment" "comment"]

/-- Interfaces that belong to a bridge. -/
def bridgePort : Menu where
  title := "BridgePort"
  path := "/interface/bridge/port"
  kind := "bridge port"
  key := ".id"
  fields := [
    .text "id" ".id",
    .text "bridge" "bridge",
    .text "interface" "interface",
    .text "horizon" "horizon",
    .text "learn" "learn",
    .flag "unknown_multicast_flood" "unknown-multicast-flood",
    .flag "unknown_unicast_flood" "unknown-unicast-flood",
    .flag "broadcast_flood" "broadcast-flood",
    .flag "trusted" "trusted",
    .flag "hardware_offload" "hw",
    .flag "auto_isolate" "auto-isolate",
    .flag "restricted_role" "restricted-role",
    .flag "restricted_tcn" "restricted-tcn",
    .flag "bpdu_guard" "bpdu-guard",
    .int .u32 "priority" "priority",
    .int .u32 "path_cost" "path-cost",
    .int .u32 "internal_path_cost" "internal-path-cost",
    .text "edge" "edge",
    .text "point_to_point" "point-to-point",
    .flag "disabled" "disabled",
    .text "comment" "comment"]

/-- VLANs on top of another interface. -/
def vlan : Menu where
  title := "VlanInterface"
  path := "/interface/vlan"
  kind := "VLAN interface"
  key := "name"
  fields := [
    .text "id" ".id",
    .text "name" "name",
    .text "interface" "interface",
    .int .u16 "mtu" "mtu",
    .int .u16 "vlan_id" "vlan-id",
    .flag "use_service_tag" "use-service-tag",
    .flag "disabled" "disabled",
    .text "comment" "comment"]

end RouterMenu.Menu
