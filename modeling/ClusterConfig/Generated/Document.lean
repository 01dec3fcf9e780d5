import ClusterConfig.Json
import ClusterConfig.Setup.Lookup

set_option autoImplicit false

/-!
# Setups as documents

A setup as a JSON document, with the key server along with the nodes.
-/

namespace ClusterConfig

def Node.document (node : Node) : Json :=
  .object [("hostname", .text node.hostname), ("ip", .text node.address.text),
    ("kind", .text node.kind.text)]

def Setup.document (setup : Setup) : Json :=
  let cluster := setup.cluster
  let addressing := setup.addressing
  .object [("external_domain", .text cluster.externalDomain),
    ("internal_domain", .text cluster.internalDomain),
    ("etcd_token", .text cluster.etcdToken),
    ("realm", .text cluster.kerberosRealm),
    ("mirror", .text cluster.softwareSource),
    ("user_grant_domain", .text cluster.userGrantDomain),
    ("user_grant_email_domain", .text cluster.userGrantEmailDomain),
    ("cidr_nodes", .text addressing.nodes.text),
    ("cidr_pods", .text addressing.pods.text),
    ("cidr_services", .text addressing.services.text),
    ("service_api", .text addressing.api.text),
    ("service_dns", .text addressing.dns.text),
    ("dns_upstreams", .list (setup.nameServers.map fun address => .text address.text)),
    ("dns_bootstrap", .object (setup.dnsBootstrap.entries.map fun (name, address) =>
      (name, .text address.text))),
    ("root_admins", .list (setup.rootAdmins.map .text)),
    ("nodes", .list (setup.nodes.map Node.document)),
    ("keyserver", (setup.keyserver?.map Node.document).getD .null)]

end ClusterConfig
