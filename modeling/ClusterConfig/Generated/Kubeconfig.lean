import ClusterConfig.Setup.ControlPlane
import ClusterConfig.Project

set_option autoImplicit false

/-!
# Access to the control plane

The file by which a client reaches the control plane of a cluster, with credentials from its project.
-/

namespace ClusterConfig.Setup

def kubeconfigTemplate : String := "kubeconfig-local.yaml"

def kubeconfigVariables (setup : Setup) (project : Project) :
    Except Failure (Dictionary String) := do
  let endpoint ← setup.defaultEndpoint
  let credentials := project.credentials
  pure (.ofList [("APISERVER", endpoint), ("AUTHORITY-PATH", credentials.authority),
    ("CERT-PATH", credentials.certificate), ("KEY-PATH", credentials.key)])

def kubeconfig (setup : Setup) (project : Project) (resources : Resources) :
    Except Failure String := do
  resources.render kubeconfigTemplate (← setup.kubeconfigVariables project)

end ClusterConfig.Setup
