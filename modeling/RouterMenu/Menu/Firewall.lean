import RouterMenu.Menu.Basic

/-!
# Firewall menus

Filter, NAT, mangle and raw rules share most of their matchers. Ports are single numbers:
a range such as `80-443` does not fit one and reads as zero.
-/

namespace RouterMenu.Menu

/-- Rules that accept or drop traffic. -/
def firewallFilter : Menu where
  title := "FirewallRule"
  path := "/ip/firewall/filter"
  kind := "firewall rule"
  key := ".id"
  fields := [
    .text "id" ".id",
    .text "chain" "chain",
    .text "src_address" "src-address",
    .text "dst_address" "dst-address",
    .int .u16 "src_port" "src-port",
    .int .u16 "dst_port" "dst-port",
    .int .u16 "any_port" "port",
    .text "protocol" "protocol",
    .text "in_interface" "in-interface",
    .text "out_interface" "out-interface",
    .text "in_interface_list" "in-interface-list",
    .text "out_interface_list" "out-interface-list",
    .text "packet_mark" "packet-mark",
    .text "connection_mark" "connection-mark",
    .text "routing_mark" "routing-mark",
    .text "routing_table" "routing-table",
    .text "connection_type" "connection-type",
    .text "src_address_list" "src-address-list",
    .text "dst_address_list" "dst-address-list",
    .text "layer7_protocol" "layer7-protocol",
    .text "src_mac_address" "src-mac-address",
    .text "ipsec_policy" "ipsec-policy",
    .text "in_bridge_port" "in-bridge-port",
    .text "out_bridge_port" "out-bridge-port",
    .text "in_bridge_port_list" "in-bridge-port-list",
    .text "out_bridge_port_list" "out-bridge-port-list",
    .text "action" "action",
    .flag "log" "log",
    .text "log_prefix" "log-prefix",
    .text "comment" "comment",
    .flag "disabled" "disabled"]

/-- Rules that replace addresses. -/
def firewallNat : Menu where
  title := "FirewallNat"
  path := "/ip/firewall/nat"
  kind := "NAT rule"
  key := ".id"
  fields := [
    .text "id" ".id",
    .text "chain" "chain",
    .text "src_address" "src-address",
    .text "dst_address" "dst-address",
    .int .u16 "src_port" "src-port",
    .int .u16 "dst_port" "dst-port",
    .int .u16 "any_port" "port",
    .text "protocol" "protocol",
    .text "in_interface" "in-interface",
    .text "out_interface" "out-interface",
    .text "in_interface_list" "in-interface-list",
    .text "out_interface_list" "out-interface-list",
    .text "packet_mark" "packet-mark",
    .text "connection_mark" "connection-mark",
    .text "routing_mark" "routing-mark",
    .text "connection_type" "connection-type",
    .text "src_address_list" "src-address-list",
    .text "dst_address_list" "dst-address-list",
    .text "src_mac_address" "src-mac-address",
    .text "ipsec_policy" "ipsec-policy",
    .text "action" "action",
    .text "to_addresses" "to-addresses",
    .int .u16 "to_ports" "to-ports",
    .flag "log" "log",
    .text "log_prefix" "log-prefix",
    .text "comment" "comment",
    .flag "disabled" "disabled"]

/-- Rules that mark traffic. -/
def firewallMangle : Menu where
  title := "FirewallMangle"
  path := "/ip/firewall/mangle"
  kind := "mangle rule"
  key := ".id"
  fields := [
    .text "id" ".id",
    .text "chain" "chain",
    .text "src_address" "src-address",
    .text "dst_address" "dst-address",
    .int .u16 "src_port" "src-port",
    .int .u16 "dst_port" "dst-port",
    .int .u16 "any_port" "port",
    .text "protocol" "protocol",
    .text "in_interface" "in-interface",
    .text "out_interface" "out-interface",
    .text "in_interface_list" "in-interface-list",
    .text "out_interface_list" "out-interface-list",
    .text "packet_mark" "packet-mark",
    .text "connection_mark" "connection-mark",
    .text "routing_mark" "routing-mark",
    .text "connection_type" "connection-type",
    .text "connection_state" "connection-state",
    .text "connection_nat_state" "connection-nat-state",
    .text "tcp_flags" "tcp-flags",
    .text "src_address_list" "src-address-list",
    .text "dst_address_list" "dst-address-list",
    .text "action" "action",
    .text "new_packet_mark" "new-packet-mark",
    .text "new_connection_mark" "new-connection-mark",
    .text "new_routing_mark" "new-routing-mark",
    .flag "passthrough" "passthrough",
    .flag "log" "log",
    .text "log_prefix" "log-prefix",
    .text "comment" "comment",
    .flag "disabled" "disabled"]

/-- Rules applied before connections are tracked. -/
def firewallRaw : Menu where
  title := "FirewallRaw"
  path := "/ip/firewall/raw"
  kind := "raw rule"
  key := ".id"
  fields := [
    .text "id" ".id",
    .text "chain" "chain",
    .text "src_address" "src-address",
    .text "dst_address" "dst-address",
    .int .u16 "src_port" "src-port",
    .int .u16 "dst_port" "dst-port",
    .int .u16 "any_port" "port",
    .text "protocol" "protocol",
    .text "in_interface" "in-interface",
    .text "out_interface" "out-interface",
    .text "in_interface_list" "in-interface-list",
    .text "out_interface_list" "out-interface-list",
    .text "src_address_list" "src-address-list",
    .text "dst_address_list" "dst-address-list",
    .text "src_mac_address" "src-mac-address",
    .text "ipsec_policy" "ipsec-policy",
    .text "action" "action",
    .flag "log" "log",
    .text "log_prefix" "log-prefix",
    .text "comment" "comment",
    .flag "disabled" "disabled"]

end RouterMenu.Menu
