import ClusterConfig.Setup.ControlPlane
import ClusterConfig.Resources

set_option autoImplicit false

/-!
# Specifications of clustered services

Files that describe services to the control plane, from templates that are kept apart from the other
resources. Values given along with the request count more than those of the cluster.
-/

namespace ClusterConfig.Setup

def kubeSpecBase (setup : Setup) : Except Failure (Dictionary String) := do
  let node ← setup.defaultMaster
  pure (.ofList [("INTERNAL_DOMAIN", setup.cluster.internalDomain),
    ("NETWORK", setup.addressing.pods.text),
    ("SERVIP_API", setup.addressing.api.text),
    ("SERVIP_DNS", setup.addressing.dns.text),
    ("SOME_APISERVER", node.address.text)])

def kubeSpecVariables (setup : Setup) (extra : Dictionary String) :
    Except Failure (Dictionary String) := do
  pure ((← setup.kubeSpecBase).override extra)

def kubeSpecTemplate (name : String) : String := "clustered/" ++ name

/-- A specification, from the template among the resources. The template is read before the control plane
is asked for. -/
def kubeSpec (setup : Setup) (name : String) (extra : Dictionary String) (resources : Resources) :
    Except Failure String := do
  let template := kubeSpecTemplate name
  let bytes ← resources template
  let text ← (Utf8.decode bytes).mapError fun fault => .template template (.encoding fault)
  let values ← setup.kubeSpecVariables extra
  (Template.render values text).mapError (.template template)

end ClusterConfig.Setup
