import ClusterConfig.Resources
import ClusterConfig.Setup.Document
import ClusterConfig.Yaml.Value.Document

set_option autoImplicit false

/-!
# Projects

A project is a directory that holds the setup document of a cluster. Opening a project may make its
directory; populating it writes the first setup document and never replaces one; editing it runs a
program on the document. Operations on files are computations on a file tree, and what they have done
stays done when a later one fails.
-/

namespace ClusterConfig

abbrev Filing (α : Type) : Type := ExceptT Failure (StateM FileTree) α

namespace Filing

def inspect {α : Type} (answer : FileTree → α) : Filing α := return answer (← get)

def query {α : Type} (path : String) (answer : FileTree → Except FileTree.Fault α) : Filing α := do
  match answer (← get) with
  | .ok value => pure value
  | .error fault => throw (.file path fault)

def change (path : String) (next : FileTree → Except FileTree.Fault FileTree) : Filing Unit := do
  set (← query path next)

def read (path : String) : Filing ByteArray := query path (·.read path)

def write (path : String) (content : ByteArray) : Filing Unit := change path (·.write path content)

end Filing

namespace Setup

def ofBytes (bytes : ByteArray) : Except Failure Setup := do
  let document ← (Yaml.readValue? bytes).mapError .yaml
  (read document).mapError .setup

def ofFile (path : String) : Filing Setup := do
  let bytes ← Filing.read path
  (ofBytes bytes : Except Failure Setup)

end Setup

structure Project where
  directory : String
deriving DecidableEq, Repr

/-- The files that give access to the control plane. -/
structure Project.Credentials where
  key : String
  certificate : String
  authority : String
deriving DecidableEq, Repr

namespace Project

def setupName : String := "setup.yaml"

def setupPath (project : Project) : String := Path.join project.directory setupName

def credentials (project : Project) : Credentials where
  key := Path.join project.directory "kube-access.key"
  certificate := Path.join project.directory "kube-access.pem"
  authority := Path.join project.directory "kube-ca.pem"

/-- Use a directory as a project. If it does not exist, it is made or it is refused. -/
def enter (directory : String) (create : Bool) : Filing Project := do
  if !(← Filing.inspect (·.isDirectory directory)) then
    if create then Filing.change directory (·.createDirectory directory)
    else throw (.projectNotDirectory directory)
  pure ⟨directory⟩

/-- Write the first setup document, which is a resource, and answer its path. -/
def populate (project : Project) (resources : FileTree → Resources) : Filing String := do
  let path := project.setupPath
  if ← Filing.inspect (·.exists? path) then throw .setupPresent
  let tree ← get
  let content ← resources tree setupName
  Filing.write path content
  pure path

def edit (project : Project) (searchPath editor : String) : Filing Unit := do
  let path := project.setupPath
  if !(← Filing.inspect (·.exists? path)) then throw .setupAbsent
  match Editor.run searchPath editor path (← get) with
  | .ok edited => set edited
  | .error fault => throw (.editor editor fault)

def load (project : Project) : Filing Setup := Setup.ofFile project.setupPath

end Project

end ClusterConfig
