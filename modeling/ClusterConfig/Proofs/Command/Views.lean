import ClusterConfig.Proofs.Command.Printing
import ClusterConfig.Proofs.Command.Settings
import ClusterConfig.Proofs.Environment
import ClusterConfig.Proofs.FileTree

set_option autoImplicit false

/-!
# Views

All views but the list of nodes are printed whole or not at all. What such a view is made of is computed before
anything is printed, and no step on the way to it changes a file.
-/

namespace ClusterConfig.Command

variable {arguments : List String} {options : Options} {environment : Environment} {tree : FileTree}
  {view : View} {scene : Scene} {directory argument : String} {setup : Setup} {answer : Except Report String}
  {outcome : Outcome}

/-!
## Where the project and the resources are
-/

/-- The value of an option, or else of a variable, or else of the first setting of its name in the file of
settings. -/
def chosen? (option : Option String) (environment : Environment) (tree : FileTree) (name : String) :
    Option String :=
  option.or ((environment.get? name).or ((environment.fileSettings tree).lookup name))

def chosenDirectory? (options : Options) (environment : Environment) (tree : FileTree) : Option String :=
  chosen? options.projectDirectory environment tree "HOMEWORLD_DIR"

def chosenResources (options : Options) (environment : Environment) (tree : FileTree) : Resources :=
  match chosen? options.resourceDirectory environment tree "SPIRE_RESOURCES" with
  | some directory => .inDirectory tree directory
  | none => .bundled

theorem orElse_withSettings (option : Option String) (environment : Environment) (tree : FileTree)
    (name : String) :
    (option <|> (environment.withSettings tree).get? name) = chosen? option environment tree name := by
  rw [Environment.get?_withSettings, chosen?]
  cases option with
  | none => rfl
  | some _ => rfl

theorem projectDirectory_withSettings (options : Options) (environment : Environment) (tree : FileTree) :
    projectDirectory options (environment.withSettings tree) =
      match chosenDirectory? options environment tree with
      | some directory => .ok directory
      | none => .error .noProject := by
  rw [projectDirectory, orElse_withSettings]
  rfl

theorem projectDirectory_of_chosen (chosen : chosenDirectory? options environment tree = some directory) :
    projectDirectory options (environment.withSettings tree) = .ok directory := by
  rw [projectDirectory_withSettings, chosen]

theorem resources_withSettings (options : Options) (environment : Environment) (tree : FileTree) :
    resources options (environment.withSettings tree) tree = chosenResources options environment tree := by
  rw [resources, orElse_withSettings]
  rfl

/-!
## What is shown
-/

/-- What stands behind a view: one function of the library, after the arguments of a specification have been
read as settings. -/
inductive Derives (project : Project) (setup : Setup) (resources : Resources) :
    View → Except Report String → Prop where
  | clusterConf : Derives project setup resources .clusterConf (reported setup.clusterConfText)
  | kubeconfig : Derives project setup resources .kubeconfig (reported (setup.kubeconfig project resources))
  | prometheus : Derives project setup resources .prometheus (reported (setup.prometheus resources))
  | document : Derives project setup resources .document (.ok setup.document.pretty)
  | qualifiedName {name} :
      Derives project setup resources (.qualifiedName name) (reported (setup.qualifiedName name))
  | keyserver : Derives project setup resources .keyserver (reported setup.keyserverName)
  | storeEndpoints : Derives project setup resources .storeEndpoints (.ok setup.storeEndpoints)
  | apiserver : Derives project setup resources .apiserver (reported setup.defaultEndpoint)
  | kubeSpec {name arguments extra} : settings arguments = .ok extra →
      Derives project setup resources (.kubeSpec name arguments)
        ((reported (setup.kubeSpec name extra resources)).mapError
          (.within ("Unable to render kube spec: " ++ name)))

/-- Of some arguments, the first one that is not a setting. -/
inductive FirstMalformed : List String → String → Prop where
  | here {argument rest} : '=' ∉ argument.toList → FirstMalformed (argument :: rest) argument
  | later {argument head rest} : '=' ∈ head.toList → FirstMalformed rest argument →
      FirstMalformed (head :: rest) argument

theorem pieces_of_derives (derives : Derives scene.project scene.setup scene.resources view answer) :
    view.pieces scene = [answer] := by
  cases derives with
  | kubeSpec areSettings =>
      rw [View.pieces, areSettings]
      rfl
  | _ => rfl

theorem FirstMalformed.exists_split (first : FirstMalformed arguments argument) :
    ∃ before after, arguments = before ++ argument :: after ∧
      (∀ earlier ∈ before, '=' ∈ earlier.toList) ∧ '=' ∉ argument.toList := by
  induction first with
  | here plain => exact ⟨[], _, rfl, fun _ member => absurd member List.not_mem_nil, plain⟩
  | @later _ head _ wellFormed _ ih =>
      obtain ⟨before, after, rfl, others, plain⟩ := ih
      exact ⟨head :: before, after, rfl, List.forall_mem_cons.mpr ⟨wellFormed, others⟩, plain⟩

theorem pieces_of_firstMalformed (first : FirstMalformed arguments argument) (name : String) :
    (View.kubeSpec name arguments).pieces scene = [.error (malformed argument)] := by
  obtain ⟨_, _, order, wellFormed, plain⟩ := first.exists_split
  rw [View.pieces, settings_eq_error order wellFormed plain]
  rfl

theorem exists_firstMalformed_or (arguments : List String) :
    (∃ argument, FirstMalformed arguments argument) ∨ ∀ argument ∈ arguments, '=' ∈ argument.toList := by
  induction arguments with
  | nil => exact .inr fun _ member => absurd member List.not_mem_nil
  | cons head rest ih =>
      by_cases wellFormed : '=' ∈ head.toList
      · cases ih with
        | inl found =>
            obtain ⟨argument, first⟩ := found
            exact .inl ⟨argument, .later wellFormed first⟩
        | inr all => exact .inr (List.forall_mem_cons.mpr ⟨wellFormed, all⟩)
      · exact .inl ⟨head, .here wellFormed⟩

theorem exists_derives_or (single : view ≠ .nodes) (project : Project) (setup : Setup) (resources : Resources) :
    (∃ answer, Derives project setup resources view answer) ∨
      ∃ name arguments argument, view = .kubeSpec name arguments ∧ FirstMalformed arguments argument := by
  cases view with
  | nodes => exact absurd rfl single
  | clusterConf => exact .inl ⟨_, .clusterConf⟩
  | kubeconfig => exact .inl ⟨_, .kubeconfig⟩
  | prometheus => exact .inl ⟨_, .prometheus⟩
  | document => exact .inl ⟨_, .document⟩
  | qualifiedName name => exact .inl ⟨_, .qualifiedName⟩
  | keyserver => exact .inl ⟨_, .keyserver⟩
  | storeEndpoints => exact .inl ⟨_, .storeEndpoints⟩
  | apiserver => exact .inl ⟨_, .apiserver⟩
  | kubeSpec name arguments =>
      cases exists_firstMalformed_or arguments with
      | inl found =>
          obtain ⟨argument, first⟩ := found
          exact .inr ⟨name, arguments, argument, rfl, first⟩
      | inr wellFormed =>
          obtain ⟨extra, areSettings, _⟩ := exists_settings wellFormed
          exact .inl ⟨_, .kubeSpec areSettings⟩

/-!
## How a command line ends
-/

def stopped (report : Report) (tree : FileTree) : Outcome := ⟨1, "", report.text, tree⟩

def shown (text : String) (tree : FileTree) : Outcome := ⟨0, text ++ "\n", "", tree⟩

/-- The directory is that of the project, and the setup in it was read. -/
structure Loads (options : Options) (environment : Environment) (tree : FileTree) (directory : String)
    (setup : Setup) : Prop where
  chosen : chosenDirectory? options environment tree = some directory
  present : tree.isDirectory directory = true
  loaded : (Project.load ⟨directory⟩ tree).1 = .ok setup

/-- All the ways in which a command line that shows a view can end. -/
inductive View.Ends (options : Options) (environment : Environment) (tree : FileTree) (view : View) :
    Outcome → Prop where
  | unnamed : chosenDirectory? options environment tree = none →
      View.Ends options environment tree view (stopped (.ofFailure .noProject) tree)
  | absent {directory : String} : chosenDirectory? options environment tree = some directory →
      tree.isDirectory directory = false →
      View.Ends options environment tree view (stopped (.ofFailure (.projectNotDirectory directory)) tree)
  | unloaded {directory : String} {failure : Failure} :
      chosenDirectory? options environment tree = some directory → tree.isDirectory directory = true →
      (Project.load ⟨directory⟩ tree).1 = .error failure →
      View.Ends options environment tree view (stopped (.ofFailure failure) tree)
  | malformed {directory name argument : String} {setup : Setup} {arguments : List String} :
      Loads options environment tree directory setup → view = .kubeSpec name arguments →
      FirstMalformed arguments argument →
      View.Ends options environment tree view (stopped (malformed argument) tree)
  | underived {directory : String} {setup : Setup} {report : Report} :
      Loads options environment tree directory setup →
      Derives ⟨directory⟩ setup (chosenResources options environment tree) view (.error report) →
      View.Ends options environment tree view (stopped report tree)
  | shown {directory text : String} {setup : Setup} : Loads options environment tree directory setup →
      Derives ⟨directory⟩ setup (chosenResources options environment tree) view (.ok text) →
      View.Ends options environment tree view (shown text tree)

section Run

variable (asked : request? arguments = some (.act options (.view view)))

include asked

theorem run_of_piece (loads : Loads options environment tree directory setup)
    (isPiece : ∀ colored,
      view.pieces ⟨⟨directory⟩, setup, chosenResources options environment tree, colored⟩ = [answer]) :
    run arguments environment tree = match answer with
      | .ok text => shown text tree
      | .error report => stopped report tree := by
  have named := projectDirectory_of_chosen loads.chosen
  have isRun := run_of_loaded asked named loads.present (Project.load_eq loads.loaded)
  rw [resources_withSettings, isPiece] at isRun
  rw [isRun]
  cases answer with
  | ok text =>
      have isLine : (print [.ok text]).1 = text ++ "\n" := String.append_empty
      simp only [shown, ← isLine]
      rfl
  | error report => rfl

theorem View.Ends.run_eq (ends : view.Ends options environment tree outcome) :
    run arguments environment tree = outcome := by
  cases ends with
  | unnamed nothing =>
      have unnamed : projectDirectory options (environment.withSettings tree) = .error .noProject := by
        rw [projectDirectory_withSettings, nothing]
      exact run_of_failed asked (perform_of_unnamed unnamed)
  | absent chosen missing =>
      have named := projectDirectory_of_chosen chosen
      exact run_of_failed asked (perform_of_unentered named (Project.enter_of_absent missing))
  | unloaded chosen present failed =>
      have named := projectDirectory_of_chosen chosen
      exact run_of_failed asked (perform_of_unloaded named present (Project.load_eq failed))
  | malformed loads isSpec first =>
      subst isSpec
      exact run_of_piece asked loads fun _ => pieces_of_firstMalformed first _
  | underived loads derives => exact run_of_piece asked loads fun _ => pieces_of_derives derives
  | shown loads derives => exact run_of_piece asked loads fun _ => pieces_of_derives derives

end Run

theorem View.exists_ends (single : view ≠ .nodes) (options : Options) (environment : Environment)
    (tree : FileTree) : ∃ outcome, view.Ends options environment tree outcome := by
  cases chosen : chosenDirectory? options environment tree with
  | none => exact ⟨_, .unnamed chosen⟩
  | some directory =>
      cases present : tree.isDirectory directory with
      | false => exact ⟨_, .absent chosen present⟩
      | true =>
          cases loaded : (Project.load ⟨directory⟩ tree).1 with
          | error failure => exact ⟨_, .unloaded chosen present loaded⟩
          | ok setup =>
              have loads : Loads options environment tree directory setup := ⟨chosen, present, loaded⟩
              cases exists_derives_or single ⟨directory⟩ setup (chosenResources options environment tree) with
              | inl derived =>
                  obtain ⟨answer, derives⟩ := derived
                  cases answer with
                  | error report => exact ⟨_, .underived loads derives⟩
                  | ok text => exact ⟨_, .shown loads derives⟩
              | inr malformed =>
                  obtain ⟨_, _, _, isSpec, first⟩ := malformed
                  exact ⟨_, .malformed loads isSpec first⟩

theorem View.Ends.stopped_or_shown (ends : view.Ends options environment tree outcome) :
    (∃ report, outcome = stopped report tree) ∨ ∃ text, outcome = Command.shown text tree := by
  cases ends with
  | shown _ _ => exact .inr ⟨_, rfl⟩
  | _ => exact .inl ⟨_, rfl⟩

/-- **Views are printed whole or not at all.** A command line that shows one ends in the one way that its options, the
environment, the files and the library decide: it stops at the first thing that fails and prints nothing, or it
prints what the library answers, on a line. Either way all files stay as they are. -/
theorem views_shown_whole (asked : request? arguments = some (.act options (.view view)))
    (single : view ≠ .nodes) (environment : Environment) (tree : FileTree) :
    (∀ outcome, run arguments environment tree = outcome ↔ view.Ends options environment tree outcome) ∧
      ((∃ report, run arguments environment tree = stopped report tree) ∨
        ∃ text, run arguments environment tree = shown text tree) := by
  obtain ⟨outcome, ends⟩ := View.exists_ends single options environment tree
  have isRun := ends.run_eq asked
  refine ⟨fun other => ?_, isRun ▸ ends.stopped_or_shown⟩
  constructor
  · intro isOther
    exact isOther ▸ isRun ▸ ends
  · exact View.Ends.run_eq asked

/-- A file of settings that names a directory, in which there is no setup. -/
def settingsTree : FileTree :=
  (FileTree.empty.insert ["work", "project"] .directory).insert ["work", ".env"]
    (.file "# where it is\nHOMEWORLD_DIR=project\n".toUTF8)

/-- The lines of a setup document with one node. -/
def documentLines : List String :=
  ["cluster:", "  external-domain: x", "  internal-domain: y", "  etcd-token: t", "  kerberos-realm: r",
    "  mirror: m", "  user-grant-domain: g", "  user-grant-email-domain: e",
    "addresses:", "  cidr-nodes: 10.0.0.0/8", "  cidr-pods: 11.0.0.0/8", "  cidr-services: 12.0.0.0/8",
    "  service-api: 12.0.0.1", "  service-dns: 12.0.0.2", "dns-upstreams: []", "dns-bootstrap:",
    "  m: 10.0.0.9", "root-admins: []", "nodes:", "- hostname: a", "  ip: 10.0.0.1", "  kind: master"]

def documentText : String := Text.join "\n" documentLines

/-- The same files with this document in the directory. -/
def documentTree : FileTree :=
  settingsTree.insert ["work", "project", "setup.yaml"] (.file documentText.toUTF8)

theorem read_documentTree :
    documentTree.read (Project.mk "project").setupPath = .ok documentText.toUTF8 :=
  FileTree.read_of_written rfl

theorem exists_document :
    ∃ setup, Setup.ofBytes documentText.toUTF8 = .ok setup ∧
      (setup.storeEndpoints == "https://10.0.0.1:2379") = true := by
  -- The characters are taken from the lines: it takes far longer to decode a long text than short ones.
  have characters : documentText.toList = "\n".toList.intercalate (documentLines.map String.toList) :=
    Text.toList_join "\n" documentLines
  have allowed : documentText.toList.all Yaml.isAllowed = true := by
    rw [characters]
    decide +kernel
  refine Reading.exists_ok_of_any ?_
  rw [Setup.ofBytes, Yaml.readValue?, Yaml.readTree_toUTF8 allowed, characters]
  decide +kernel

/-- The setting counts where the variable is not set. -/
theorem views_shown_whole_sample :
    run ["config", "etcd-endpoints"] .empty documentTree = shown "https://10.0.0.1:2379" documentTree ∧
      run ["config", "kube-spec", "a.yaml", "X"] .empty documentTree = stopped (malformed "X") documentTree ∧
      run ["config", "keyserver"] .empty settingsTree =
        stopped (.ofFailure (.file "project/setup.yaml" .notFound)) settingsTree ∧
      run ["config", "kube-spec", "a.yaml", "X"] (.ofList [("HOMEWORLD_DIR", "other")]) settingsTree =
        stopped (.ofFailure (.projectNotDirectory "other")) settingsTree ∧
      run ["config", "fqdn", "a"] .empty FileTree.empty = stopped (.ofFailure .noProject) FileTree.empty := by
  have endpointsAsked : request? ["config", "etcd-endpoints"] =
      some (.act ⟨none, none⟩ (.view .storeEndpoints)) := by
    decide +kernel
  have keyserverAsked : request? ["config", "keyserver"] = some (.act ⟨none, none⟩ (.view .keyserver)) := by
    decide +kernel
  have specAsked : request? ["config", "kube-spec", "a.yaml", "X"] =
      some (.act ⟨none, none⟩ (.view (.kubeSpec "a.yaml" ["X"]))) := by
    decide +kernel
  have nameAsked : request? ["config", "fqdn", "a"] =
      some (.act ⟨none, none⟩ (.view (.qualifiedName "a"))) := by
    decide +kernel
  have isSetting : chosenDirectory? ⟨none, none⟩ .empty settingsTree = some "project" := by decide +kernel
  have unread : settingsTree.read (Project.mk "project").setupPath = .error .notFound := by decide +kernel
  obtain ⟨setup, isSetup, isText⟩ := exists_document
  have loads : Loads ⟨none, none⟩ .empty documentTree "project" setup :=
    ⟨by decide +kernel, by decide +kernel, by rw [Project.load_of_read read_documentTree, isSetup]⟩
  refine ⟨?_, ?_, ?_, ?_, ?_⟩
  · rw [← beq_iff_eq.mp isText]
    exact ((views_shown_whole endpointsAsked (by decide) _ _).1 _).mpr (.shown loads .storeEndpoints)
  · refine ((views_shown_whole specAsked (by decide) _ _).1 _).mpr ?_
    exact .malformed loads rfl (.here (by decide))
  · refine ((views_shown_whole keyserverAsked (by decide) _ _).1 _).mpr ?_
    exact .unloaded isSetting (by decide +kernel) (congrArg Prod.fst (Project.load_of_unread unread))
  · refine ((views_shown_whole specAsked (by decide) _ _).1 _).mpr ?_
    exact .absent (by decide +kernel) (by decide +kernel)
  · refine ((views_shown_whole nameAsked (by decide) _ _).1 _).mpr ?_
    exact .unnamed (by decide +kernel)

end ClusterConfig.Command
