import ClusterConfig.Editor
import ClusterConfig.Setup.Node
import ClusterConfig.Template
import ClusterConfig.Yaml.Fault

set_option autoImplicit false

/-!
# Failures

Everything that can keep a request from being answered, by cause, and the one text that reports each
cause.
-/

namespace ClusterConfig

inductive Failure where
  | yaml (fault : Yaml.Fault)
  | setup (fault : Setup.Fault)
  | noSuchNode (name : String)
  | noNodeOfKind (kind : Node.Kind)
  | noMaster
  | noSupervisor
  | file (path : String) (fault : FileTree.Fault)
  | noProject
  | projectNotDirectory (directory : String)
  | setupPresent
  | setupAbsent
  | noResource (name : String)
  | template (name : String) (fault : Template.Fault)
  | editor (name : String) (fault : Editor.Fault)
deriving DecidableEq

namespace Failure

def message : Failure → String
  | .yaml fault => "could not parse setup.yaml: " ++ fault.message
  | .setup fault => fault.message
  | .noSuchNode name => "no such node: " ++ name
  | .noNodeOfKind kind => "cannot find any nodes of kind " ++ kind.text
  | .noMaster => "no apiserver to select, because no master nodes were configured"
  | .noSupervisor => "no keyserver available, because no supervisor node was configured"
  | .file path fault => "io error on " ++ path ++ ": " ++ fault.message
  | .noProject => "no HOMEWORLD_DIR environment variable declared"
  | .projectNotDirectory directory =>
      "HOMEWORLD_DIR (" ++ directory ++ ") is not a directory that exists"
  | .setupPresent => "setup.yaml already exists"
  | .setupAbsent => "setup.yaml does not exist (run spire config populate first?)"
  | .noResource name => "resource not found: " ++ name
  | .template name fault => "template " ++ name ++ ": " ++ fault.message
  | .editor name fault => "editor " ++ name ++ " failed: " ++ fault.message

def causes : Failure → List String
  | .file _ fault => [fault.message]
  | .yaml fault => [fault.message]
  | _ => []

end Failure

end ClusterConfig
