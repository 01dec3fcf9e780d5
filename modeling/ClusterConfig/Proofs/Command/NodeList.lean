import ClusterConfig.Proofs.Command.Printing
import ClusterConfig.Proofs.Setup.Loading
import ClusterConfig.Proofs.Setup.Names

set_option autoImplicit false

/-!
# The list of nodes

Nodes are listed under the names that their host names stand for, while other files put every host name in
the external domain as it is. The two agree, and the list is complete, unless a host name itself ends in a
domain of the cluster.
-/

namespace ClusterConfig.Command

variable {setup : Setup} {colored : Bool} {node : Node} {nodes : List Node} {line : String}
  {lines : List String}

def lineOf (colored : Bool) (name : String) (node : Node) : String :=
  column 30 name ++ " " ++ column 15 node.address.text ++ " " ++ kindText colored node.kind

/-- A line shows a node under the name of the node that its host name stands for. -/
def Shows (setup : Setup) (colored : Bool) (node : Node) (line : String) : Prop :=
  ∃ hostname, setup.StandsFor node.hostname hostname ∧
    line = lineOf colored (setup.qualify hostname) node

theorem nodeLine_eq_ok_iff : nodeLine setup colored node = .ok line ↔ Shows setup colored node line := by
  rw [nodeLine, Reading.bind_eq_ok_iff]
  constructor
  · intro facts
    obtain ⟨name, isName, isLine⟩ := facts
    obtain ⟨hostname, standsFor, rfl⟩ := Setup.qualifiedName_eq_ok_iff.mp isName
    exact ⟨hostname, standsFor, (Reading.pure_eq_ok_iff.mp isLine).symm⟩
  · intro facts
    obtain ⟨hostname, standsFor, rfl⟩ := facts
    exact ⟨_, Setup.qualifiedName_eq_ok_iff.mpr ⟨hostname, standsFor, rfl⟩, rfl⟩

theorem nodeLine_eq_error (nobody : ∀ hostname, ¬ setup.StandsFor node.hostname hostname) :
    nodeLine setup colored node = .error (.noSuchNode node.hostname) := by
  rw [nodeLine, Setup.qualifiedName_eq_error nobody]
  rfl

theorem pieces_of_shows (shown : List.Forall₂ (Shows setup colored) nodes lines) :
    (nodes.map fun node => reported (nodeLine setup colored node)) = lines.map .ok := by
  induction shown with
  | nil => rfl
  | cons first _ ih =>
      rw [List.map_cons, List.map_cons, ih, nodeLine_eq_ok_iff.mpr first]
      rfl

theorem print_nodes_append (shown : List.Forall₂ (Shows setup colored) nodes lines)
    (rest : List (Except Report String)) :
    print ((nodes.map fun node => reported (nodeLine setup colored node)) ++ rest) =
      (linesText lines ++ (print rest).1, (print rest).2) := by
  rw [pieces_of_shows shown, print_append]

/-- What is printed as the list of the nodes of a setup. It is complete exactly if every host name stands for
a node, as one that ends in no domain does; otherwise it ends before the first one that stands for none. -/
structure ListsNodes (setup : Setup) (colored : Bool) (output : String) (failed : Option Report) :
    Prop where
  ofPlain : (∀ node ∈ setup.nodes, ¬ setup.InDomain node.hostname) →
    failed = none ∧ output = linesText (setup.nodes.map fun node =>
      lineOf colored (node.hostname ++ "." ++ setup.cluster.externalDomain) node)
  complete_iff : failed = none ↔ ∀ node ∈ setup.nodes, ∃ hostname, setup.StandsFor node.hostname hostname
  complete : failed = none →
    ∃ lines, List.Forall₂ (Shows setup colored) setup.nodes lines ∧ output = linesText lines
  incomplete : ∀ before node after, setup.nodes = before ++ node :: after →
    (∀ earlier ∈ before, ∃ hostname, setup.StandsFor earlier.hostname hostname) →
    (∀ hostname, ¬ setup.StandsFor node.hostname hostname) →
    failed = some (.ofFailure (.noSuchNode node.hostname)) ∧
      ∃ lines, List.Forall₂ (Shows setup colored) before lines ∧ output = linesText lines

theorem shows_of_plain (listed : node ∈ setup.nodes) (plain : ¬ setup.InDomain node.hostname) :
    Shows setup colored node
      (lineOf colored (node.hostname ++ "." ++ setup.cluster.externalDomain) node) :=
  ⟨node.hostname, .bare (Setup.hasNode_of_mem listed) plain, rfl⟩

theorem exists_lines (named : ∀ node ∈ nodes, ∃ hostname, setup.StandsFor node.hostname hostname) :
    ∃ lines, List.Forall₂ (Shows setup colored) nodes lines := by
  refine Reading.exists_forall₂_iff.mpr fun node member => ?_
  obtain ⟨hostname, standsFor⟩ := named node member
  exact ⟨_, hostname, standsFor, rfl⟩

theorem print_nodes_of_shows (shown : List.Forall₂ (Shows setup colored) nodes lines) :
    print (nodes.map fun node => reported (nodeLine setup colored node)) = (linesText lines, none) := by
  rw [pieces_of_shows shown, print_texts]

theorem print_nodes_none_iff :
    (print (nodes.map fun node => reported (nodeLine setup colored node))).2 = none ↔
      ∀ node ∈ nodes, ∃ hostname, setup.StandsFor node.hostname hostname := by
  rw [print_none_iff, List.forall_mem_map]
  refine forall₂_congr fun node _ => ?_
  simp only [reported, Reading.mapError_eq_ok_iff, nodeLine_eq_ok_iff]
  constructor
  · intro facts
    obtain ⟨_, hostname, standsFor, _⟩ := facts
    exact ⟨hostname, standsFor⟩
  · intro facts
    obtain ⟨hostname, standsFor⟩ := facts
    exact ⟨_, hostname, standsFor, rfl⟩

theorem listsNodes (scene : Scene) :
    ListsNodes scene.setup scene.colored (print (View.nodes.pieces scene)).1
      (print (View.nodes.pieces scene)).2 := by
  rw [View.pieces]
  constructor
  · intro plain
    have shown : List.Forall₂ (Shows scene.setup scene.colored) scene.setup.nodes
        (scene.setup.nodes.map fun node => lineOf scene.colored
          (node.hostname ++ "." ++ scene.setup.cluster.externalDomain) node) := by
      refine List.forall₂_map_right_iff.mpr (List.forall₂_same.mpr fun node listed => ?_)
      exact shows_of_plain listed (plain node listed)
    rw [print_nodes_of_shows shown]
    exact ⟨rfl, rfl⟩
  · exact print_nodes_none_iff
  · intro isComplete
    obtain ⟨lines, shown⟩ := exists_lines (print_nodes_none_iff.mp isComplete)
    refine ⟨lines, shown, ?_⟩
    rw [print_nodes_of_shows shown]
  · intro before node after areNodes named nobody
    obtain ⟨lines, shown⟩ := exists_lines named
    rw [areNodes, List.map_append, print_nodes_append shown, List.map_cons, nodeLine_eq_error nobody]
    refine ⟨rfl, lines, shown, ?_⟩
    exact String.append_empty

/-- The other files put host names in the external domain as they are. -/
structure UsesHostnames (setup : Setup) : Prop where
  targets : ∀ nodes service, setup.targets nodes service = Setup.quotedList (nodes.map fun node =>
    node.hostname ++ "." ++ setup.cluster.externalDomain ++ ":" ++ service.number.repr)
  keyserverName : ∀ node, setup.keyserver? = some node →
    setup.keyserverName = .ok (node.hostname ++ "." ++ setup.cluster.externalDomain)

theorem usesHostnames (setup : Setup) : UsesHostnames setup := by
  constructor
  · intro nodes service
    rfl
  · intro node found
    rw [Setup.keyserverName, found]
    rfl

/-- **The list of nodes.** A node goes by the name that other files use for it exactly if its host name does
not end in a domain of the cluster. The list of nodes is printed by these names, and goes as far as host
names stand for nodes; a command line that asks for it prints it and nothing else. -/
theorem nodes_listed (setup : Setup) :
    (∀ node ∈ setup.nodes, setup.qualifiedName node.hostname =
        .ok (node.hostname ++ "." ++ setup.cluster.externalDomain) ↔
      ¬ setup.InDomain node.hostname) ∧
    UsesHostnames setup ∧
    (∀ project resources colored,
      let (output, failed) := print (View.nodes.pieces ⟨project, setup, resources, colored⟩)
      ListsNodes setup colored output failed) ∧
    ∀ arguments environment tree options directory bytes,
      request? arguments = some (.act options (.view .nodes)) →
      projectDirectory options (environment.withSettings tree) = .ok directory →
      tree.isDirectory directory = true →
      tree.read (Project.mk directory).setupPath = .ok bytes → Setup.ofBytes bytes = .ok setup →
      ∃ output failed, ListsNodes setup (isColored (environment.withSettings tree)) output failed ∧
        run arguments environment tree =
          ⟨if failed.isSome then 1 else 0, output, (failed.map Report.text).getD "", tree⟩ := by
  refine ⟨fun node listed => ?_, usesHostnames setup, ?_, ?_⟩
  · exact Setup.qualifiedName_of_node_iff listed
  · intro project resources colored
    exact listsNodes ⟨project, setup, resources, colored⟩
  · intro arguments environment tree options directory bytes asked isDirectory present isRead isSetup
    have listed := listsNodes ⟨⟨directory⟩, setup, resources options (environment.withSettings tree) tree,
      isColored (environment.withSettings tree)⟩
    exact ⟨_, _, listed, run_view asked isDirectory present isRead isSetup⟩

theorem nodes_listed_sample :
    ∃ setup, Setup.read (Setup.sample [] [Setup.sampleEntry "a" "10.0.0.1" "master",
        Setup.sampleEntry "b" "10.0.0.12" "worker"]) = .ok setup ∧
      ∀ project resources, print (View.nodes.pieces ⟨project, setup, resources, false⟩) =
        (linesText ["a.example.org                  10.0.0.1        master",
          "b.example.org                  10.0.0.12       worker"], none) := by
  obtain ⟨setup, isRead, both⟩ := Reading.exists_ok_of_any
    (show (Setup.read (Setup.sample [] [Setup.sampleEntry "a" "10.0.0.1" "master",
        Setup.sampleEntry "b" "10.0.0.12" "worker"])).toOption.any (fun setup =>
          setup.nodes.all (fun node =>
            (Setup.withoutDomain? setup.cluster.externalDomain node.hostname).isNone &&
              (Setup.withoutDomain? setup.cluster.internalDomain node.hostname).isNone) &&
          (setup.nodes.map fun node =>
            lineOf false (node.hostname ++ "." ++ setup.cluster.externalDomain) node) ==
              ["a.example.org                  10.0.0.1        master",
                "b.example.org                  10.0.0.12       worker"]) = true by
      decide +kernel)
  simp only [Bool.and_eq_true, List.all_eq_true, Option.isNone_iff_eq_none, beq_iff_eq] at both
  obtain ⟨plain, areLines⟩ := both
  refine ⟨setup, isRead, fun project resources => ?_⟩
  obtain ⟨isComplete, isOutput⟩ := ((nodes_listed setup).2.2.1 project resources false).ofPlain
    fun node listed => Setup.not_inDomain_iff.mpr (plain node listed)
  rw [areLines] at isOutput
  exact Prod.ext isOutput isComplete

/-- A node that is named like a qualified name is not found by this name, and spoils the list. -/
theorem node_in_domain_not_listed :
    ∃ setup node, Setup.read (Setup.sample [] [Setup.sampleEntry "node.example.org" "10.0.0.1" "worker"]) =
        .ok setup ∧
      node ∈ setup.nodes ∧ node.hostname = "node.example.org" ∧
      setup.qualifiedName node.hostname = .error (.noSuchNode "node.example.org") ∧
      ∀ project resources colored,
        print (View.nodes.pieces ⟨project, setup, resources, colored⟩) =
          ("", some (.ofFailure (.noSuchNode "node.example.org"))) := by
  obtain ⟨setup, isRead, both⟩ := Reading.exists_ok_of_any
    (show (Setup.read (Setup.sample [] [Setup.sampleEntry "node.example.org" "10.0.0.1" "worker"])
        ).toOption.any (fun setup => setup.nodes.map Node.hostname == ["node.example.org"] &&
          setup.cluster.externalDomain == "example.org") = true by
      decide +kernel)
  simp only [Bool.and_eq_true, beq_iff_eq] at both
  obtain ⟨areNames, isDomain⟩ := both
  obtain ⟨node, alone, isName⟩ := List.map_eq_singleton_iff.mp areNames
  have inDomain : setup.InDomain node.hostname := by
    refine ⟨"node", .inl ?_⟩
    rw [isName, isDomain]
    rfl
  have nobody := Setup.not_standsFor_of_alone alone inDomain
  refine ⟨setup, node, isRead, by simp [alone], isName, ?_, fun project resources colored => ?_⟩
  · rw [Setup.qualifiedName_eq_error nobody, isName]
  · obtain ⟨isReport, lines, shown, isOutput⟩ :=
      (listsNodes ⟨project, setup, resources, colored⟩).incomplete [] node [] alone
        (fun _ earlier => absurd earlier List.not_mem_nil) nobody
    cases shown
    rw [isName] at isReport
    exact Prod.ext isOutput isReport

end ClusterConfig.Command
