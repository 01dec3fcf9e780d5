import ClusterConfig.Generated.ClusterConf
import ClusterConfig.Generated.Document
import ClusterConfig.Generated.KubeSpec
import ClusterConfig.Generated.Kubeconfig
import ClusterConfig.Generated.Prometheus
import ClusterConfig.Command.Arguments
import ClusterConfig.Command.Report
import ClusterConfig.Environment

set_option autoImplicit false

/-!
# Commands

What a command line does: it finds its project, reads the setup if it shows something of it, and prints.
Nothing is printed before everything that can fail has been done, apart from the list of nodes, which is
printed node by node.
-/

namespace ClusterConfig.Command

/-- What remains when a command has ended. The code is zero for success, one for a failure, and two for
arguments that ask for nothing. -/
structure Outcome where
  code : Nat
  output : String
  errors : String
  tree : FileTree

abbrev Step (α : Type) : Type := ExceptT Report (StateM FileTree) α

def filing {α : Type} (computation : Filing α) : Step α := fun tree =>
  let (result, after) := computation tree
  (result.mapError Report.ofFailure, after)

def projectDirectory (options : Options) (environment : Environment) : Except Failure String :=
  match options.projectDirectory <|> environment.get? "HOMEWORLD_DIR" with
  | some directory => .ok directory
  | none => .error .noProject

/-- The resources, by the options or else by the environment, or else those that come with the
program. -/
def resources (options : Options) (environment : Environment) (tree : FileTree) : Resources :=
  match options.resourceDirectory <|> environment.get? "SPIRE_RESOURCES" with
  | some directory => .inDirectory tree directory
  | none => .bundled

def editor (environment : Environment) : String := (environment.get? "EDITOR").getD "nano"

def searchPath (environment : Environment) : String :=
  (environment.get? "PATH").getD Editor.searchPath

def isColored (environment : Environment) : Bool :=
  (environment.get? "CLICOLOR_FORCE").any (· != "0")

/-- The settings in arguments, each of which is a key and a value around its first equals sign. The last
one with a key counts. -/
def settings (arguments : List String) : Except Report (Dictionary String) := do
  let entries ← arguments.mapM fun argument =>
    match Text.splitAtFirst? '=' argument with
    | some entry => .ok entry
    | none => .error { message := "expected KEY=VALUE, got: " ++ argument }
  pure (.ofList entries)

def column (width : Nat) (text : String) : String :=
  text ++ String.ofList (List.replicate (width - text.length) ' ')

def kindText (colored : Bool) (kind : Node.Kind) : String :=
  let color :=
    match kind with
    | .master => some "32"
    | .worker => none
    | .supervisor => some "33"
  match color with
  | some color => if colored then "\x1b[" ++ color ++ "m" ++ kind.text ++ "\x1b[0m" else kind.text
  | none => kind.text

def nodeLine (setup : Setup) (colored : Bool) (node : Node) : Except Failure String := do
  let name ← setup.qualifiedName node.hostname
  pure (column 30 name ++ " " ++ column 15 node.address.text ++ " " ++ kindText colored node.kind)

structure Scene where
  project : Project
  setup : Setup
  resources : Resources
  colored : Bool

def reported {α : Type} (text : Except Failure α) : Except Report α := text.mapError .ofFailure

/-- The pieces that a view prints one after another. What comes after a piece that fails is not
printed. -/
def View.pieces (scene : Scene) : View → List (Except Report String)
  | .clusterConf => [reported scene.setup.clusterConfText]
  | .kubeconfig => [reported (scene.setup.kubeconfig scene.project scene.resources)]
  | .prometheus => [reported (scene.setup.prometheus scene.resources)]
  | .nodes => scene.setup.nodes.map fun node => reported (nodeLine scene.setup scene.colored node)
  | .document => [.ok scene.setup.document.pretty]
  | .qualifiedName name => [reported (scene.setup.qualifiedName name)]
  | .keyserver => [reported scene.setup.keyserverName]
  | .storeEndpoints => [.ok scene.setup.storeEndpoints]
  | .apiserver => [reported scene.setup.defaultEndpoint]
  | .kubeSpec name arguments =>
      [do
        let extra ← settings arguments
        (reported (scene.setup.kubeSpec name extra scene.resources)).mapError
          (.within ("Unable to render kube spec: " ++ name))]

def perform (options : Options) (environment : Environment) (action : Action) :
    Step (List (Except Report String)) := do
  let directory ← filing (projectDirectory options environment : Except Failure String)
  let project ← filing (Project.enter directory (action = .populate))
  match action with
  | .populate =>
      let _ ← filing (project.populate (resources options environment))
      pure [.ok "filled out setup.yaml"]
  | .edit =>
      filing (project.edit (searchPath environment) (editor environment))
      pure []
  | .view view =>
      let setup ← filing project.load
      let resources := resources options environment (← get)
      pure (view.pieces { project, setup, resources, colored := isColored environment })

/-- Print pieces, each on a line, up to the first one that fails. -/
def print : List (Except Report String) → String × Option Report
  | [] => ("", none)
  | .error report :: _ => ("", some report)
  | .ok piece :: rest =>
      let (output, failed) := print rest
      (piece ++ "\n" ++ output, failed)

def paths (options : Options) (environment : Environment) (action : Action) : List String :=
  let directory := (options.projectDirectory <|> environment.get? "HOMEWORLD_DIR").getD ""
  let names :=
    match action with
    | .view (.kubeSpec name _) => [Setup.kubeSpecTemplate name]
    | _ => [Project.setupName, Setup.kubeconfigTemplate, Setup.prometheusTemplate]
  let found :=
    match options.resourceDirectory <|> environment.get? "SPIRE_RESOURCES" with
    | some resources => names.map (Path.join resources)
    | none => []
  directory :: (Project.mk directory).setupPath :: found

def version : String := "spire 0.3.0"

/-- Run a command line. The file of settings is read first of all. -/
def run (arguments : List String) (environment : Environment) (tree : FileTree) : Outcome :=
  match request? arguments with
  | none => ⟨2, "", "usage: spire [OPTIONS] config COMMAND\n", tree⟩
  | some .version => ⟨0, version ++ "\n", "", tree⟩
  | some (.act options action) =>
      let environment := environment.withSettings tree
      match perform options environment action tree with
      | (.error report, after) => ⟨1, "", report.text, after⟩
      | (.ok pieces, after) =>
          match print pieces with
          | (output, none) => ⟨0, output, "", after⟩
          | (output, some report) => ⟨1, output, report.text, after⟩

end ClusterConfig.Command
