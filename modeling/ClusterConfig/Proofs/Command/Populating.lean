import ClusterConfig.Proofs.Command.Printing
import ClusterConfig.Proofs.Project.Outcomes

set_option autoImplicit false

/-!
# Populating by a command line

A command line that populates a project makes its directory, reads the resource and writes the setup
document, in this order, and undoes nothing. So a failure leaves no trace, except where the directory was made
and the resource cannot be read.
-/

namespace ClusterConfig.Command

variable {arguments : List String} {environment : Environment} {tree : FileTree} {options : Options}
  {directory : String} {place : List String} {closed : Bool} {content : ByteArray}

def filled (tree : FileTree) : Outcome := ⟨0, "filled out setup.yaml\n", "", tree⟩

/-- All the ways in which a command line that populates a project can end. -/
inductive Ends (options : Options) (environment : Environment) (tree : FileTree) : Outcome → Prop where
  | unnamed {failure} : projectDirectory options environment = .error failure →
      Ends options environment tree (failing failure tree)
  | unentered {directory failure} : projectDirectory options environment = .ok directory →
      Project.enter directory true tree = (.error failure, tree) →
      Ends options environment tree (failing failure tree)
  | unfilled {directory entered failure} : projectDirectory options environment = .ok directory →
      Project.enter directory true tree = (.ok ⟨directory⟩, entered) →
      Project.populate ⟨directory⟩ (resources options environment) entered = (.error failure, entered) →
      Ends options environment tree (failing failure entered)
  | filled {directory entered place content} : projectDirectory options environment = .ok directory →
      Project.enter directory true tree = (.ok ⟨directory⟩, entered) →
      entered.resolve (Project.mk directory).setupPath = .ok (.vacant place false) →
      resources options environment entered Project.setupName = .ok content →
      Ends options environment tree (filled (entered.insert place (.file content)))

section Performed

variable {failure : Failure} {entered after : FileTree}

theorem perform_of_named (named : projectDirectory options environment = .ok directory) (tree : FileTree) :
    perform options environment .populate tree =
      (do
        let project ← filing (Project.enter directory true)
        let _ ← filing (project.populate (resources options environment))
        pure [.ok "filled out setup.yaml"] : Step (List (Except Report String))) tree :=
  Filing.bind_of_ok (filing_projectDirectory named)

theorem run_of_performed (asked : request? arguments = some (.act options .populate))
    (performed : perform options (environment.withSettings tree) .populate tree =
      (.ok [.ok "filled out setup.yaml"], after)) :
    run arguments environment tree = filled after := by
  rw [run, asked]
  dsimp only
  rw [performed]
  rfl

theorem run_of_unnamed (asked : request? arguments = some (.act options .populate))
    (unnamed : projectDirectory options (environment.withSettings tree) = .error failure) :
    run arguments environment tree = failing failure tree :=
  run_of_failed asked (perform_of_unnamed unnamed)

section Named

variable (asked : request? arguments = some (.act options .populate))
  (named : projectDirectory options (environment.withSettings tree) = .ok directory)

include asked named

theorem run_of_unentered (unentered : Project.enter directory true tree = (.error failure, after)) :
    run arguments environment tree = failing failure after :=
  run_of_failed asked (perform_of_unentered named unentered)

theorem run_of_unfilled (enteredAs : Project.enter directory true tree = (.ok ⟨directory⟩, entered))
    (unfilled : Project.populate ⟨directory⟩ (resources options (environment.withSettings tree)) entered =
      (.error failure, after)) :
    run arguments environment tree = failing failure after := by
  have performed := perform_of_named named tree
  rw [Filing.bind_of_ok (filing_of_ok enteredAs), Filing.bind_of_error (filing_of_error unfilled)] at performed
  exact run_of_failed asked performed

theorem run_of_filled (enteredAs : Project.enter directory true tree = (.ok ⟨directory⟩, entered)) {path : String}
    (isFilled : Project.populate ⟨directory⟩ (resources options (environment.withSettings tree)) entered =
      (.ok path, after)) :
    run arguments environment tree = filled after := by
  have performed := perform_of_named named tree
  rw [Filing.bind_of_ok (filing_of_ok enteredAs), Filing.bind_of_ok (filing_of_ok isFilled)] at performed
  exact run_of_performed asked performed

end Named

end Performed

theorem ends_run (asked : request? arguments = some (.act options .populate)) (environment : Environment)
    (tree : FileTree) :
    Ends options (environment.withSettings tree) tree (run arguments environment tree) := by
  cases named : projectDirectory options (environment.withSettings tree) with
  | error failure =>
      rw [run_of_unnamed asked named]
      exact .unnamed named
  | ok directory =>
      rcases enteredAs : Project.enter directory true tree with ⟨failure | project, entered⟩
      · rw [run_of_unentered asked named enteredAs]
        obtain rfl := Project.eq_of_enter_error enteredAs
        exact .unentered named enteredAs
      · obtain rfl := Project.eq_of_enter_ok enteredAs
        rcases populatedAs : Project.populate ⟨directory⟩ (resources options (environment.withSettings tree))
          entered with ⟨failure | path, after⟩
        · rw [run_of_unfilled asked named enteredAs populatedAs]
          obtain rfl := Project.eq_of_populate_error populatedAs
          exact .unfilled named enteredAs populatedAs
        · rw [run_of_filled asked named enteredAs populatedAs]
          obtain ⟨place, content, isVacant, supplied, -, rfl⟩ := Project.written_of_populate_ok populatedAs
          exact .filled named enteredAs isVacant supplied

/-- The directory of the project was made, and there the project could not be populated. -/
inductive MadeInVain (options : Options) (environment : Environment) (tree : FileTree) :
    FileTree → Failure → Prop where
  | intro {directory place closed failure} : projectDirectory options environment = .ok directory →
      tree.resolve directory = .ok (.vacant place closed) →
      Project.populate ⟨directory⟩ (resources options environment) (tree.insert place .directory) =
        (.error failure, tree.insert place .directory) →
      MadeInVain options environment tree (tree.insert place .directory) failure

/-- The setup document of the project is now the resource. Nothing else is new, except that the directory
of the project may have been made. -/
structure Filled (options : Options) (environment : Environment) (tree later : FileTree) (directory : String)
    (content : ByteArray) : Prop where
  named : projectDirectory options environment = .ok directory
  absent : tree.exists? (Project.mk directory).setupPath = false
  read : later.read (Project.mk directory).setupPath = .ok content
  supplied : resources options environment later Project.setupName = .ok content
  supplied_before : ∀ before, resources options environment tree Project.setupName = .ok before →
    before = content
  kept : tree.Extends later
  added : ∀ place entry, FileTree.entry? later place = some entry → tree.entry? place = none →
    (entry = .directory ∧ ∃ closed, tree.resolve directory = .ok (.vacant place closed)) ∨
      (entry = .file content ∧
        later.resolve (Project.mk directory).setupPath = .ok (.file place content false))

/-- What a command line that populates a project leaves behind. -/
structure Populates (options : Options) (environment : Environment) (tree : FileTree) (outcome : Outcome) :
    Prop where
  code : outcome.code = 0 ∨ outcome.code = 1
  failed : outcome.code = 1 →
    outcome.tree = tree ∨ ∃ failure, MadeInVain options environment tree outcome.tree failure
  madeInVain : ∀ later failure, MadeInVain options environment tree later failure →
    later ≠ tree ∧ outcome = failing failure later
  unsupplied : ∀ later failure, tree.Rooted → MadeInVain options environment tree later failure →
    resources options environment later Project.setupName = .error failure
  filled : outcome.code = 0 →
    ∃ directory content, Filled options environment tree outcome.tree directory content

theorem inDirectory_eq_ok_iff {name : String} :
    Resources.inDirectory tree directory name = .ok content ↔
      tree.read (Path.join directory name) = .ok content := by
  rw [Resources.inDirectory]
  split
  · rename_i isRead
    rw [isRead, Except.ok.injEq, Except.ok.injEq]
  · rename_i unread
    simp [unread]
  · rename_i unread
    simp [unread]

/-- A resource that can be read stays the same as long as the file tree only grows. -/
theorem resources_of_extends {name : String} {later : FileTree} (grown : tree.Extends later)
    (supplied : resources options environment tree name = .ok content) :
    resources options environment later name = .ok content := by
  rw [resources] at supplied ⊢
  cases named : options.resourceDirectory <|> environment.get? "SPIRE_RESOURCES" with
  | none =>
      rw [named] at supplied
      exact supplied
  | some directory =>
      rw [named] at supplied
      exact inDirectory_eq_ok_iff.mpr (grown.read (inDirectory_eq_ok_iff.mp supplied))

theorem filled_of_populated {entered : FileTree}
    (named : projectDirectory options environment = .ok directory)
    (enteredAs : Project.enter directory true tree = (.ok ⟨directory⟩, entered))
    (isVacant : entered.resolve (Project.mk directory).setupPath = .ok (.vacant place false))
    (supplied : resources options environment entered Project.setupName = .ok content) :
    Filled options environment tree (entered.insert place (.file content)) directory content := by
  have outcome := Project.present_or_made enteredAs
  have nothing := FileTree.entry?_of_vacant isVacant
  have written : entered.Extends (entered.insert place (.file content)) := FileTree.extends_insert nothing
  have made : tree.Extends entered := by
    rcases outcome with rfl | ⟨_, _, hadPlace, rfl⟩
    · exact .refl entered
    · exact FileTree.extends_insert (FileTree.entry?_of_vacant hadPlace)
  have whole := made.trans written
  have isSupplied := resources_of_extends written supplied
  constructor
  case named => exact named
  case absent =>
    cases present : tree.exists? (Project.mk directory).setupPath with
    | false => rfl
    | true =>
        have stays := made.exists? present
        rw [FileTree.exists?_eq_false_of_vacant isVacant] at stays
        cases stays
  case read => exact FileTree.read_of_written isVacant
  case supplied => exact isSupplied
  case supplied_before =>
    intro before suppliedBefore
    have same := (resources_of_extends whole suppliedBefore).symm.trans isSupplied
    exact Except.ok.inj same
  case kept => exact whole
  case added =>
    intro other entry found vacant
    -- The entry is new when the setup document is written, or was new when the directory was made.
    cases next : entered.entry? other with
    | none =>
        right
        obtain ⟨rfl, rfl⟩ := FileTree.eq_of_entry?_insert next found
        exact ⟨rfl, FileTree.resolve_insert_file isVacant⟩
    | some present =>
        left
        rw [written.kept next] at found
        rcases outcome with rfl | ⟨_, _, hadPlace, rfl⟩
        · rw [vacant] at next
          cases next
        · obtain ⟨rfl, rfl⟩ := FileTree.eq_of_entry?_insert vacant next
          exact ⟨(Option.some.inj found).symm, _, hadPlace⟩

theorem unsupplied_of_madeInVain {later : FileTree} {failure : Failure} (rooted : tree.Rooted)
    (inVain : MadeInVain options environment tree later failure) :
    resources options environment later Project.setupName = .error failure := by
  cases inVain with
  | @intro directory place closed _ named isVacant failed =>
      have hasPlace := Project.vacant_in_made rooted isVacant
      cases supplied : resources options environment (tree.insert place .directory) Project.setupName with
      | ok content =>
          rw [Project.populate_of_vacant hasPlace supplied] at failed
          cases failed
      | error unsupplied =>
          have absent := FileTree.exists?_eq_false_of_vacant hasPlace
          rw [Project.populate_of_unsupplied absent supplied] at failed
          cases failed
          rfl

theorem run_of_madeInVain {later : FileTree} {failure : Failure}
    (asked : request? arguments = some (.act options .populate))
    (inVain : MadeInVain options (environment.withSettings tree) tree later failure) :
    later ≠ tree ∧ run arguments environment tree = failing failure later := by
  cases inVain with
  | @intro directory place closed _ named isVacant failed =>
      have nothing := FileTree.entry?_of_vacant isVacant
      constructor
      · intro same
        have found : FileTree.entry? (tree.insert place .directory) place = some .directory :=
          FileTree.entry?_insert_self (FileTree.ne_nil_of_vacant nothing)
        rw [same, nothing] at found
        cases found
      · exact run_of_unfilled asked named (Project.enter_of_vacant isVacant) failed

section Ended

variable {outcome : Outcome}

theorem Ends.failed (ends : Ends options environment tree outcome) (isOne : outcome.code = 1) :
    outcome.tree = tree ∨ ∃ failure, MadeInVain options environment tree outcome.tree failure := by
  cases ends with
  | unnamed _ => exact .inl rfl
  | unentered _ _ => exact .inl rfl
  | @unfilled directory entered failure named enteredAs failed =>
      rcases Project.present_or_made enteredAs with rfl | ⟨place, closed, isVacant, rfl⟩
      · exact .inl rfl
      · exact .inr ⟨failure, .intro named isVacant failed⟩
  | filled => cases isOne

theorem Ends.filled_of_zero (ends : Ends options environment tree outcome) (isZero : outcome.code = 0) :
    ∃ directory content, Filled options environment tree outcome.tree directory content := by
  cases ends with
  | unnamed => cases isZero
  | unentered => cases isZero
  | unfilled => cases isZero
  | filled named enteredAs isVacant supplied =>
      exact ⟨_, _, filled_of_populated named enteredAs isVacant supplied⟩

theorem Ends.code (ends : Ends options environment tree outcome) : outcome.code = 0 ∨ outcome.code = 1 := by
  cases ends with
  | unnamed => exact .inr rfl
  | unentered => exact .inr rfl
  | unfilled => exact .inr rfl
  | filled => exact .inl rfl

end Ended

/-- **Populating a project by a command line.** If it succeeds, the setup document of the project is the
resource, and nothing else is new but perhaps the directory of the project. If it fails, the file tree is as
before, except that the directory of the project is left where it was made and the resource cannot be read. -/
theorem populate_keeps_tree (asked : request? arguments = some (.act options .populate))
    (environment : Environment) (tree : FileTree) :
    Populates options (environment.withSettings tree) tree (run arguments environment tree) := by
  have ends := ends_run asked environment tree
  constructor
  case code => exact ends.code
  case failed => exact ends.failed
  case madeInVain =>
    intro later failure inVain
    exact run_of_madeInVain asked inVain
  case unsupplied =>
    intro later failure rooted inVain
    exact unsupplied_of_madeInVain rooted inVain
  case filled => exact ends.filled_of_zero

theorem populate_keeps_tree_sample :
    let filled := run ["-d", "new", "config", "populate"] .empty FileTree.empty
    let unfilled := run ["-d", "new", "-r", "res", "config", "populate"] .empty FileTree.empty
    (filled.code = 0 ∧ ∃ content, filled.tree.read "new/setup.yaml" = .ok content ∧
        Resources.bundled Project.setupName = .ok content) ∧
      unfilled.code = 1 ∧ unfilled.tree ≠ FileTree.empty ∧ ∃ failure,
        resources ⟨some "new", some "res"⟩ .empty unfilled.tree Project.setupName = .error failure := by
  have asked : request? ["-d", "new", "config", "populate"] =
      some (.act ⟨some "new", none⟩ .populate) := by decide +kernel
  have asked' : request? ["-d", "new", "-r", "res", "config", "populate"] =
      some (.act ⟨some "new", some "res"⟩ .populate) := by decide +kernel
  have isZero : (run ["-d", "new", "config", "populate"] .empty FileTree.empty).code = 0 := by decide +kernel
  have isOne : (run ["-d", "new", "-r", "res", "config", "populate"] .empty FileTree.empty).code = 1 := by
    decide +kernel
  have left : (run ["-d", "new", "-r", "res", "config", "populate"] .empty FileTree.empty).tree ≠
      FileTree.empty := by decide +kernel
  constructor
  · obtain ⟨directory, content, filled⟩ :=
      (populate_keeps_tree asked .empty FileTree.empty).filled isZero
    cases filled.named
    exact ⟨isZero, content, filled.read, filled.supplied⟩
  · have populates := populate_keeps_tree asked' .empty FileTree.empty
    obtain ⟨failure, inVain⟩ := (populates.failed isOne).resolve_left left
    exact ⟨isOne, left, failure, populates.unsupplied _ _ (FileTree.rooted_startingIn _) inVain⟩

/-- Nothing is undone when the resource is not found after the directory was made. -/
theorem populate_leaves_directory :
    ¬ ∀ arguments environment tree options, request? arguments = some (.act options .populate) →
      (run arguments environment tree).code = 1 → (run arguments environment tree).tree = tree := by
  intro keeps
  have same := keeps ["-d", "new", "-r", "res", "config", "populate"] .empty FileTree.empty
    ⟨some "new", some "res"⟩ (by decide +kernel) (by decide +kernel)
  revert same
  decide +kernel

end ClusterConfig.Command
