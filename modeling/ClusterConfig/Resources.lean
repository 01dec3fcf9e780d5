import ClusterConfig.Failure

set_option autoImplicit false

/-!
# Resources

Named files that come with the program or are kept by its user: the first setup document of a project,
and templates.
-/

namespace ClusterConfig

/-- A source of resources: the content of the resource of each name. -/
abbrev Resources := String → Except Failure ByteArray

namespace Resources

namespace Bundled

def setup : List String :=
  ["cluster:",
    "  external-domain: mit.edu",
    "  internal-domain: hyades.local",
    "  etcd-token: hyades-etcd-0",
    "  kerberos-realm: ATHENA.MIT.EDU",
    "  mirror: homeworld.private",
    "  user-grant-domain: mit.edu",
    "  user-grant-email-domain: mit.edu",
    "",
    "addresses:",
    "  cidr-nodes: 18.4.60.0/23",
    "  cidr-pods: 172.18.0.0/16",
    "  cidr-services: 172.28.0.0/16",
    "  service-api: 172.28.0.1",
    "  service-dns: 172.28.0.2",
    "",
    "dns-upstreams:",
    "  - 18.70.0.160",
    "  - 18.71.0.151",
    "  - 18.72.0.3",
    "",
    "dns-bootstrap:",
    "  homeworld.private: 18.4.60.150",
    "",
    "root-admins:",
    "  - metacluster",
    "",
    "nodes:",
    "  - hostname: eggs-benedict",
    "    ip: 18.4.60.150",
    "    kind: supervisor",
    "  - hostname: huevos-rancheros",
    "    ip: 18.4.60.148",
    "    kind: master",
    "  - hostname: ole-miss",
    "    ip: 18.4.60.149",
    "    kind: worker"]

def kubeconfig : List String :=
  ["current-context: hyades",
    "apiVersion: v1",
    "clusters:",
    "- cluster:",
    "    certificate-authority: \x7b\x7bAUTHORITY-PATH\x7d\x7d",
    "    server: \x7b\x7bAPISERVER\x7d\x7d",
    "  name: hyades-cluster",
    "contexts:",
    "- context:",
    "    cluster: hyades-cluster",
    "    user: hyades-auth",
    "  name: hyades",
    "kind: Config",
    "preferences: \x7b\x7d",
    "users:",
    "- name: hyades-auth",
    "  user:",
    "    client-certificate: \x7b\x7bCERT-PATH\x7d\x7d",
    "    client-key: \x7b\x7bKEY-PATH\x7d\x7d"]

def prometheus : List String :=
  ["global:",
    "  scrape_interval: 15s",
    "  evaluation_interval: 15s",
    "",
    "scrape_configs:",
    "  - job_name: 'node-resources'",
    "    static_configs:",
    "      - targets: \x7b\x7bNODE-TARGETS\x7d\x7d",
    "",
    "  - job_name: 'pull-monitor'",
    "    static_configs:",
    "      - targets: \x7b\x7bPULL-TARGETS\x7d\x7d",
    "",
    "  - job_name: 'etcd-metrics'",
    "    static_configs:",
    "      - targets: \x7b\x7bETCD-TARGETS\x7d\x7d",
    "",
    "  - job_name: 'kubernetes-apiserver'",
    "    scheme: https",
    "    static_configs:",
    "      - targets: ['\x7b\x7bAPISERVER\x7d\x7d:443']"]

def dnsService : List String :=
  ["apiVersion: v1",
    "kind: Service",
    "metadata:",
    "  name: kube-dns",
    "  namespace: kube-system",
    "spec:",
    "  selector:",
    "    k8s-app: kube-dns",
    "  clusterIP: \x7b\x7bSERVIP_DNS\x7d\x7d",
    "  ports:",
    "  - name: dns",
    "    port: 53",
    "    protocol: UDP",
    "  - name: dns-tcp",
    "    port: 53",
    "    protocol: TCP"]

def content (lines : List String) : ByteArray :=
  (String.join (lines.map (· ++ "\n"))).toUTF8

def all : List (String × ByteArray) :=
  [("setup.yaml", setup), ("kubeconfig-local.yaml", kubeconfig), ("prometheus.yaml", prometheus),
    ("clustered/dns-service.yaml", dnsService)].map fun (name, lines) => (name, content lines)

def names : List String := all.map (·.1)

end Bundled

def listed (contents : List (String × ByteArray)) : Resources := fun name =>
  match contents.lookup name with
  | some content => .ok content
  | none => .error (.noResource name)

def bundled : Resources := listed Bundled.all

def inDirectory (tree : FileTree) (directory : String) : Resources := fun name =>
  let path := Path.join directory name
  match tree.read path with
  | .ok content => .ok content
  | .error .notFound => .error (.noResource name)
  | .error fault => .error (.file path fault)

def render (resources : Resources) (name : String) (values : Dictionary String) :
    Except Failure String := do
  let bytes ← resources name
  (Template.renderBytes values bytes).mapError (.template name)

end Resources

end ClusterConfig
