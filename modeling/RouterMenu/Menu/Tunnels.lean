import RouterMenu.Menu.Basic

/-!
# IPsec menus

Peers, the algorithms of both phases, the traffic to protect, and how peers identify themselves.
-/

namespace RouterMenu.Menu

/-- Remote peers. -/
def ipsecPeer : Menu where
  title := "IpSecPeer"
  path := "/ip/ipsec/peer"
  kind := "IPsec peer"
  key := ".id"
  fields := [
    .text "id" ".id",
    .text "name" "name",
    .text "address" "address",
    .text "profile" "profile",
    .text "exchange_mode" "exchange-mode",
    .flag "send_initial_contact" "send-initial-contact",
    .flag "passive" "passive",
    .text "local_address" "local-address",
    .int .u16 "port" "port"]

/-- Algorithms of the second phase. -/
def ipsecProposal : Menu where
  title := "IpSecProposal"
  path := "/ip/ipsec/proposal"
  kind := "IPsec proposal"
  key := ".id"
  fields := [
    .text "id" ".id",
    .text "name" "name",
    .text "auth_algorithms" "auth-algorithms",
    .text "enc_algorithms" "enc-algorithms",
    .text "lifetime" "lifetime",
    .text "pfs_group" "pfs-group",
    .flag "disabled" "disabled"]

/-- Parameters of the first phase. -/
def ipsecProfile : Menu where
  title := "IpSecProfile"
  path := "/ip/ipsec/profile"
  kind := "IPsec profile"
  key := ".id"
  fields := [
    .text "id" ".id",
    .text "name" "name",
    .text "dh_group" "dh-group",
    .text "dpd_interval" "dpd-interval",
    .int .u32 "dpd_maximum_failures" "dpd-maximum-failures",
    .text "enc_algorithm" "enc-algorithm",
    .text "hash_algorithm" "hash-algorithm",
    .text "lifetime" "lifetime",
    .flag "nat_traversal" "nat-traversal",
    .text "proposal_check" "proposal-check"]

/-- Traffic to protect. -/
def ipsecPolicy : Menu where
  title := "IpSecPolicy"
  path := "/ip/ipsec/policy"
  kind := "IPsec policy"
  key := ".id"
  fields := [
    .text "id" ".id",
    .text "peer" "peer",
    .flag "tunnel" "tunnel",
    .text "src_address" "src-address",
    .int .u16 "src_port" "src-port",
    .text "dst_address" "dst-address",
    .int .u16 "dst_port" "dst-port",
    .text "protocol" "protocol",
    .flag "template" "template",
    .text "action" "action",
    .text "level" "level",
    .text "ipsec_protocols" "ipsec-protocols",
    .text "proposal" "proposal"]

/-- Groups of policy templates. -/
def ipsecPolicyGroup : Menu where
  title := "IpSecPolicyGroup"
  path := "/ip/ipsec/policy/group"
  kind := "IPsec policy group"
  key := ".id"
  fields := [
    .text "id" ".id",
    .text "name" "name"]

/-- How peers identify themselves. -/
def ipsecIdentity : Menu where
  title := "IpSecIdentity"
  path := "/ip/ipsec/identity"
  kind := "IPsec identity"
  key := ".id"
  fields := [
    .text "id" ".id",
    .text "peer" "peer",
    .text "auth_method" "auth-method",
    .text "secret" "secret",
    .text "username" "username",
    .text "password" "password",
    .text "eap_methods" "eap-methods",
    .text "certificate" "certificate",
    .text "remote_certificate" "remote-certificate",
    .text "key" "key",
    .text "remote_key" "remote-key",
    .text "policy_template_group" "policy-template-group",
    .text "notrack_chain" "notrack-chain",
    .text "my_id" "my-id",
    .text "remote_id" "remote-id",
    .text "mode_config" "mode-config",
    .text "generate_policy" "generate-policy",
    .text "comment" "comment",
    .flag "disabled" "disabled"]

end RouterMenu.Menu
