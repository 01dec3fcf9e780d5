import ClusterConfig.Proofs.Generated.BundledTemplates
import ClusterConfig.Proofs.Resources.Directory

set_option autoImplicit false

/-!
# The resources that come with the program, in a directory

The program compares a name with those of its resources, and a directory that holds the same resources follows
the name as a path. The two agree on the names of the resources, but not on every other name.
-/

namespace ClusterConfig.Resources

open FileTree

variable {tree : FileTree} {directory name : String} {content : ByteArray}

theorem distinct_bundled : Bundled.names.Nodup := by decide +kernel

theorem bundled_eq_ok_iff : bundled name = .ok content ↔ (name, content) ∈ Bundled.all :=
  listed_eq_ok_iff distinct_bundled

theorem exists_content_iff : (∃ content, (name, content) ∈ Bundled.all) ↔ name ∈ Bundled.names := by
  simp [Bundled.names]

theorem named_bundled : Named Bundled.all := by
  have areNames : ∀ name ∈ Bundled.names, ∀ component ∈ Path.components name, IsName component := by
    decide +kernel
  intro name content member
  exact areNames name (exists_content_iff.mp ⟨content, member⟩)

theorem components_kubeSpecTemplate (name : String) :
    Path.components (Setup.kubeSpecTemplate name) = "clustered" :: Path.components name := by
  have isPath : Setup.kubeSpecTemplate name = "clustered" ++ "/" ++ name := rfl
  rw [isPath, Path.components_slash, Path.components_of_single (by decide +kernel)]
  rfl

theorem eq_dnsService_of_clustered : ∀ name ∈ Bundled.names,
    (Path.components name).head? = some "clustered" → name = Setup.kubeSpecTemplate "dns-service.yaml" := by
  decide +kernel

theorem kubeSpecTemplate_injective {other : String}
    (same : Setup.kubeSpecTemplate name = Setup.kubeSpecTemplate other) : name = other := by
  have areComponents := components_kubeSpecTemplate name
  rw [same, components_kubeSpecTemplate] at areComponents
  exact (Path.components_injective (List.cons.inj areComponents).2).symm

theorem relative_kubeSpecTemplate (name : String) : Path.isAbsolute (Setup.kubeSpecTemplate name) = false :=
  Path.isAbsolute_append (by decide)

/-- What the lookups in the program and in a directory have in common, and where they part. -/
structure Compares (tree : FileTree) (directory : String) : Prop where
  known : ∀ name content, bundled name = .ok content → inDirectory tree directory name = .ok content
  above : ∀ name later, name ++ "/" ++ later ∈ Bundled.names →
    inDirectory tree directory name = .error (.file (Path.join directory name) .isDirectory)
  below : ∀ name ∈ Bundled.names, ∀ later, inDirectory tree directory (name ++ "/" ++ later) =
    .error (.file (Path.join directory (name ++ "/" ++ later)) .notDirectory)
  named : ∀ name, (∀ component ∈ Path.components name, IsName component) →
    (∀ later, name ++ "/" ++ later ∉ Bundled.names) →
    (∀ known ∈ Bundled.names, ∀ later, name ≠ known ++ "/" ++ later) →
    inDirectory tree directory name = bundled name
  answers : ∀ name, Inside Bundled.all name → ∀ result, inDirectory tree directory name = result ↔
    Answers Bundled.all (Path.join directory name) name (Path.components name) result
  agree : ∀ name, Inside Bundled.all name → (inDirectory tree directory name = bundled name ↔
    name ∈ Bundled.names ∨
      Answers Bundled.all (Path.join directory name) name (Path.components name) (.error (.noResource name)))
  read : ∀ name content, Inside Bundled.all name → inDirectory tree directory name = .ok content →
    ∃ known, bundled known = .ok content
  level : ∀ name content, Path.isAbsolute name = false → ".." ∉ Path.components name →
    inDirectory tree directory name = .ok content →
    ∃ known, bundled known = .ok content ∧ Path.components known = (Path.components name).filter IsName

/-- Which templates a specification can be made from with either lookup. -/
structure ComparesSpecs (tree : FileTree) (directory : String) (setup : Setup) (name : String)
    (extra : Dictionary String) (text : String) : Prop where
  bundled : setup.kubeSpec name extra bundled = .ok text → name = "dns-service.yaml"
  level : ".." ∉ Path.components name → setup.kubeSpec name extra (inDirectory tree directory) = .ok text →
    setup.kubeSpec "dns-service.yaml" extra Resources.bundled = .ok text
  inside : Inside Bundled.all (Setup.kubeSpecTemplate name) →
    setup.kubeSpec name extra (inDirectory tree directory) = .ok text →
    ∃ known source values, Resources.bundled known = .ok source.toUTF8 ∧
      setup.kubeSpecVariables extra = .ok values ∧ Template.render values source = .ok text

theorem compares (holds : Holds tree directory Bundled.all) : Compares tree directory := by
  constructor
  case known =>
    intro name content supplied
    exact holds.inDirectory_of_mem named_bundled (bundled_eq_ok_iff.mp supplied)
  case above =>
    intro name later member
    obtain ⟨content, member⟩ := exists_content_iff.mpr member
    exact holds.inDirectory_above named_bundled member
  case below =>
    intro name member later
    obtain ⟨content, member⟩ := exists_content_iff.mpr member
    exact holds.inDirectory_below named_bundled member later
  case named =>
    intro name areNames notAbove notBelow
    refine holds.inDirectory_of_named named_bundled distinct_bundled areNames ?_ ?_
    · intro later content member
      exact notAbove later (exists_content_iff.mp ⟨content, member⟩)
    · intro known content later member
      exact notBelow known (exists_content_iff.mp ⟨content, member⟩) later
  case answers =>
    intro name inside result
    exact holds.inDirectory_eq_iff inside
  case agree =>
    intro name inside
    -- To a name that it does not know the program says that it is missing, whatever stands in the directory.
    rw [← holds.inDirectory_eq_iff inside]
    by_cases known : name ∈ Bundled.names
    · obtain ⟨content, member⟩ := exists_content_iff.mpr known
      rw [holds.inDirectory_of_mem named_bundled member, bundled_eq_ok_iff.mpr member]
      exact iff_of_true rfl (.inl known)
    · have unknown : ∀ content, (name, content) ∉ Bundled.all := fun content member =>
        known (exists_content_iff.mp ⟨content, member⟩)
      rw [Resources.bundled, listed_eq_error unknown, or_iff_right known]
  case read =>
    intro name content inside isRead
    obtain ⟨known, member⟩ := holds.exists_of_inside inside isRead
    exact ⟨known, bundled_eq_ok_iff.mpr member⟩
  case level =>
    intro name content relative level isRead
    obtain ⟨known, member, same⟩ := holds.exists_of_level relative level isRead
    exact ⟨known, bundled_eq_ok_iff.mpr member, same⟩

theorem comparesSpecs (holds : Holds tree directory Bundled.all) (setup : Setup) (name : String)
    (extra : Dictionary String) (text : String) : ComparesSpecs tree directory setup name extra text := by
  constructor
  case bundled =>
    intro isSpec
    obtain ⟨source, values, supplied, _, _⟩ := Setup.kubeSpec_eq_ok_iff.mp isSpec
    have member := exists_content_iff.mp ⟨_, bundled_eq_ok_iff.mp supplied⟩
    refine kubeSpecTemplate_injective (eq_dnsService_of_clustered _ member ?_)
    rw [components_kubeSpecTemplate, List.head?_cons]
  case level =>
    intro level isSpec
    obtain ⟨source, values, supplied, areValues, isText⟩ := Setup.kubeSpec_eq_ok_iff.mp isSpec
    have level : ".." ∉ Path.components (Setup.kubeSpecTemplate name) := by
      rw [components_kubeSpecTemplate]
      simpa using level
    obtain ⟨known, member, same⟩ := holds.exists_of_level (relative_kubeSpecTemplate name) level supplied
    have isDns : known = Setup.kubeSpecTemplate "dns-service.yaml" := by
      refine eq_dnsService_of_clustered known (exists_content_iff.mp ⟨_, member⟩) ?_
      rw [same, components_kubeSpecTemplate, List.filter_cons_of_pos (by decide), List.head?_cons]
    subst isDns
    exact Setup.kubeSpec_eq_ok_iff.mpr ⟨source, values, bundled_eq_ok_iff.mpr member, areValues, isText⟩
  case inside =>
    intro inside isSpec
    obtain ⟨source, values, supplied, areValues, isText⟩ := Setup.kubeSpec_eq_ok_iff.mp isSpec
    obtain ⟨known, member⟩ := holds.exists_of_inside inside supplied
    exact ⟨known, source, values, bundled_eq_ok_iff.mpr member, areValues, isText⟩

/-!
## A directory with the resources
-/

/-- What stands in a directory with the resources. -/
def stock : List (List String × Entry) :=
  (["clustered"], .directory) :: Bundled.all.map fun (name, content) => (Path.components name, .file content)

theorem take_components_bundled : ∀ name ∈ Bundled.names, ∀ count < (Path.components name).length, 0 < count →
    (Path.components name).take count = ["clustered"] := by
  decide +kernel

theorem shelves_iff_mem_stock {inner : List String} {entry : Entry} :
    Shelves Bundled.all inner entry ↔ (inner, entry) ∈ stock := by
  constructor
  · intro shelved
    cases shelved with
    | file member => exact List.mem_cons_of_mem _ (List.mem_map.mpr ⟨_, member, rfl⟩)
    | directory member areComponents present more =>
        have isTake := take_components_bundled _ (exists_content_iff.mp ⟨_, member⟩) inner.length
          (by simp [areComponents, List.length_pos_iff.mpr more]) (List.length_pos_iff.mpr present)
        rw [areComponents, List.take_left] at isTake
        rw [isTake]
        exact List.mem_cons_self
  · intro stocked
    rcases List.mem_cons.mp stocked with isDirectory | isFile
    · obtain ⟨rfl, rfl⟩ := Prod.mk.inj isDirectory
      have member : ("clustered/dns-service.yaml", Bundled.content Bundled.dnsService) ∈ Bundled.all := by
        simp [Bundled.all]
      have areComponents : Path.components "clustered/dns-service.yaml" =
          ["clustered"] ++ ["dns-service.yaml"] := by decide +kernel
      exact .directory member areComponents (by decide) (by decide)
    · obtain ⟨⟨name, content⟩, member, same⟩ := List.mem_map.mp isFile
      obtain ⟨rfl, rfl⟩ := Prod.mk.inj same
      exact .file member

/-- A tree with the resources in a directory and with nothing else. -/
def sampleTree : FileTree where
  workingDirectory := ["work"]
  entries := (["work"], .directory) :: (["work", "res"], .directory) ::
    stock.map fun (inner, entry) => (["work", "res"] ++ inner, entry)

theorem holds_sampleTree : Holds sampleTree "res" Bundled.all := by
  have areComponents : Path.components "res" = ["res"] := Path.components_of_single (by decide)
  refine ⟨by decide, ["work", "res"], ?_, fun inner present entry => ?_⟩
  · rw [areComponents]
    exact .down (by decide) rfl .here
  · have distinct : (sampleTree.entries.map (·.1)).Nodup := by decide +kernel
    rw [shelves_iff_mem_stock, FileTree.entry?, if_neg (by simp), lookup_eq_some_iff_mem distinct, sampleTree]
    simp [present]

theorem keys_setup : Bundled.keys Bundled.setup = [] := by
  decide +kernel

theorem inDirectory_throughClustered : inDirectory sampleTree "res" "clustered/../setup.yaml" =
    .ok (Bundled.content Bundled.setup) := by
  have areComponents : Path.components "clustered/../setup.yaml" = ["clustered", ".."] ++ ["setup.yaml"] := by
    decide +kernel
  have isDirectory : Shelves Bundled.all ["clustered"] .directory :=
    shelves_iff_mem_stock.mpr List.mem_cons_self
  have isFile : Shelves Bundled.all (Path.components "setup.yaml") (.file (Bundled.content Bundled.setup)) :=
    .file (bundled_eq_ok_iff.mp rfl)
  rw [Path.components_of_single (by decide)] at isFile
  refine holds_sampleTree.inDirectory_of_answers (by decide) ?_
  rw [areComponents]
  exact .resource (.down (by decide) isDirectory (.up .here)) (by decide) isFile

/-!
## Both lookups
-/

/-- **Two lookups.** A directory that holds the resources which come with the program, under their names and
nothing else, answers to each of these names with the same bytes. Other names it follows as paths: it knows
further spellings of them, and refuses the name of a directory and names below a file for reasons of their own.
As long as a name does not lead out of the directory nothing else is read. -/
theorem lookups_compared (holds : Holds tree directory Bundled.all) :
    Compares tree directory ∧
      ∀ setup name extra text, ComparesSpecs tree directory setup name extra text :=
  ⟨compares holds, comparesSpecs holds⟩

/-- The name of a resource, a missing one, that of a directory and one below a file. -/
theorem lookups_compared_sample :
    Holds sampleTree "res" Bundled.all ∧
      inDirectory sampleTree "res" "setup.yaml" = .ok (Bundled.content Bundled.setup) ∧
      inDirectory sampleTree "res" "missing.yaml" = .error (.noResource "missing.yaml") ∧
      inDirectory sampleTree "res" "clustered" = .error (.file "res/clustered" .isDirectory) ∧
      inDirectory sampleTree "res" "setup.yaml/x" = .error (.file "res/setup.yaml/x" .notDirectory) := by
  obtain ⟨compares, _⟩ := lookups_compared holds_sampleTree
  refine ⟨holds_sampleTree, compares.known _ _ rfl, ?_, ?_, ?_⟩
  · have areComponents : Path.components "missing.yaml" = ["missing.yaml"] :=
      Path.components_of_single (by decide)
    have unstocked : ["missing.yaml"] ∉ stock.map (·.1) := by decide +kernel
    refine (compares.answers _ (inside_of_level (by decide) (by simp [areComponents])) _).mpr ?_
    rw [areComponents, ← List.nil_append ["missing.yaml"]]
    refine .missing .here (by decide) fun entry shelved => ?_
    exact unstocked (List.mem_map_of_mem (shelves_iff_mem_stock.mp shelved))
  · have isPath : Path.join "res" "clustered" = "res/clustered" := by decide +kernel
    rw [← isPath]
    exact compares.above "clustered" "dns-service.yaml" (by decide +kernel)
  · have isPath : Path.join "res" "setup.yaml/x" = "res/setup.yaml/x" := by decide +kernel
    rw [← isPath]
    exact compares.below "setup.yaml" (by decide +kernel) "x"

/-- A name that leads to a resource through a directory and back is read in a directory alone, and even the
setup document is taken for the template of a specification. -/
theorem lookups_not_interchangeable :
    Holds sampleTree "res" Bundled.all ∧
      inDirectory sampleTree "res" "clustered/../setup.yaml" = .ok (Bundled.content Bundled.setup) ∧
      bundled "clustered/../setup.yaml" = .error (.noResource "clustered/../setup.yaml") ∧
      ∃ setup, Setup.read (Setup.sample [] [Setup.sampleEntry "a" "10.0.0.1" "master"]) = .ok setup ∧
        setup.kubeSpec "../setup.yaml" (.ofList []) (inDirectory sampleTree "res") =
          .ok (Bundled.text Bundled.setup) := by
  refine ⟨holds_sampleTree, inDirectory_throughClustered, rfl, ?_⟩
  obtain ⟨setup, isRead, present⟩ := Setup.exists_sample_master
  obtain ⟨first, others, areMasters⟩ := List.exists_cons_of_ne_nil present
  obtain ⟨base, _, _, areValues⟩ := (Setup.showsControlPlane areMasters).kubeSpecVariables
  have divides := Template.Division.divides_iff.mpr
    (rfl : Template.Division.ofSegments (Template.segments (Bundled.text Bundled.setup).toList) = _)
  have plain : (Template.Division.ofSegments
      (Template.segments (Bundled.text Bundled.setup).toList)).keys = [] := by
    rw [Bundled.toList_text]
    exact keys_setup
  exact ⟨setup, isRead, Setup.kubeSpec_eq_ok_iff.mpr
    ⟨_, _, inDirectory_throughClustered, areValues _, Template.render_of_plain divides plain⟩⟩

end ClusterConfig.Resources
