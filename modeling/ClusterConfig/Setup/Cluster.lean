import ClusterConfig.Setup.Fault

set_option autoImplicit false

/-!
# The cluster block

The names that a cluster goes by: its domains, the token of its store, and the realms and domains of its
users. All of them are strings of the document, taken as they are.
-/

namespace ClusterConfig

structure Cluster where
  externalDomain : String
  internalDomain : String
  etcdToken : String
  kerberosRealm : String
  softwareSource : String
  userGrantDomain : String
  userGrantEmailDomain : String
deriving DecidableEq, Repr

namespace Cluster

def shape : Shape String where
  name := "cluster"
  keys := ["external-domain", "internal-domain", "etcd-token", "kerberos-realm", "mirror",
    "user-grant-domain", "user-grant-email-domain"]
  accept := Yaml.Value.string?

def read (block : Yaml.Value) : Except Setup.Fault Cluster := do
  let record ← Setup.readRecord shape block
  pure {
    externalDomain := record.value "external-domain"
    internalDomain := record.value "internal-domain"
    etcdToken := record.value "etcd-token"
    kerberosRealm := record.value "kerberos-realm"
    softwareSource := record.value "mirror"
    userGrantDomain := record.value "user-grant-domain"
    userGrantEmailDomain := record.value "user-grant-email-domain" }

end Cluster

end ClusterConfig
