import RouterMenu.Menu.Basic

/-!
# Addresses and what is served to clients

Interface addresses, the options of a DHCP network, and the files TFTP may serve.
-/

namespace RouterMenu.Menu

/-- Addresses of interfaces, in the notation `10.0.0.1/24`. -/
def ipAddress : Menu where
  title := "IpAddress"
  path := "/ip/address"
  kind := "IP address"
  key := ".id"
  fields := [
    .text "id" ".id",
    .text "address" "address",
    .text "comment" "comment",
    .flag "disabled" "disabled",
    .text "interface" "interface",
    .text "network" "network"]

/-- Files that may be fetched. -/
def tftp : Menu where
  title := "Tftp"
  path := "/ip/tftp"
  kind := "TFTP rule"
  key := ".id"
  fields := [
    .text "id" ".id",
    .text "ip_addresses" "ip-addresses",
    .text "req_filename" "req-filename",
    .text "real_filename" "real-filename",
    .flag "allow" "allow",
    .flag "read_only" "read-only",
    .flag "disabled" "disabled",
    .text "comment" "comment"]

/-- Options handed to the clients of a network. -/
def dhcpNetwork : Menu where
  title := "DhcpServerNetwork"
  path := "/ip/dhcp-server/network"
  kind := "DHCP network"
  key := ".id"
  fields := [
    .text "id" ".id",
    .text "address" "address",
    .text "comment" "comment",
    .text "dns_server" "dns-server",
    .text "gateway" "gateway",
    .text "netmask" "netmask",
    .text "next_server" "next-server",
    .text "ntp_server" "ntp-server",
    .text "wins_server" "wins-server",
    .text "boot_file_name" "boot-file-name",
    .text "domain" "domain",
    .text "dhcp_option_set" "dhcp-option-set"]

end RouterMenu.Menu
