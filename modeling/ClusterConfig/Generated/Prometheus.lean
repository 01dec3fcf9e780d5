import ClusterConfig.Setup.ControlPlane
import ClusterConfig.Resources

set_option autoImplicit false

/-!
# Monitoring

The file that tells the monitoring which nodes to watch, as lists of quoted targets.
-/

namespace ClusterConfig.Setup

/-- A list of texts between quotes. The texts are taken as they are. -/
def quotedList (items : List String) : String :=
  "[" ++ Text.join "," (items.map fun item => "'" ++ item ++ "'") ++ "]"

def targets (setup : Setup) (nodes : List Node) (service : Service) : String :=
  quotedList (nodes.map fun node => setup.qualify node.hostname ++ ":" ++ service.number.repr)

def prometheusTemplate : String := "prometheus.yaml"

def prometheusVariables (setup : Setup) : Except Failure (Dictionary String) := do
  let node ← setup.defaultMaster
  let pulling := setup.nodes.filter fun node => !node.isSupervisor
  pure (.ofList [("APISERVER", node.address.text),
    ("NODE-TARGETS", setup.targets setup.nodes .nodeMetrics),
    ("PULL-TARGETS", setup.targets pulling .pullMetrics),
    ("ETCD-TARGETS", setup.targets setup.masters .storeMetrics)])

def prometheus (setup : Setup) (resources : Resources) : Except Failure String := do
  resources.render prometheusTemplate (← setup.prometheusVariables)

end ClusterConfig.Setup
