import ClusterConfig.Proofs.Project.Outcomes

set_option autoImplicit false

/-!
# Runs of projects

Any number of projects that are entered, populated and loaded one after another, in any order and in any
directories. What is in the file tree at the beginning stays; what is added is a project directory or the
first setup document of a project, and a project that has one keeps it.
-/

namespace ClusterConfig.Project

/-- Something that is done with a project, or with a directory that may become one. -/
inductive Step where
  | enter (directory : String) (create : Bool)
  | populate (project : Project) (resources : FileTree → Resources)
  | load (project : Project)

def Step.after : Step → FileTree → FileTree
  | .enter directory create, tree => (Project.enter directory create tree).2
  | .populate project resources, tree => (project.populate resources tree).2
  | .load project, tree => (project.load tree).2

def run : List Step → FileTree → FileTree
  | [], tree => tree
  | step :: rest, tree => run rest (step.after tree)

/-- A step succeeds, and by this puts an entry where nothing was. -/
inductive Step.Adds (tree : FileTree) : Step → List String → Entry → Prop where
  | directory {directory place closed} : tree.resolve directory = .ok (.vacant place closed) →
      (Project.enter directory true tree).1 = .ok ⟨directory⟩ →
      Adds tree (.enter directory true) place .directory
  | setup {project resources place content} :
      tree.resolve project.setupPath = .ok (.vacant place false) →
      (project.populate resources tree).1 = .ok project.setupPath →
      resources tree setupName = .ok content →
      Adds tree (.populate project resources) place (.file content)

variable {tree after : FileTree} {steps before between rest : List Step} {step : Step} {place : List String}
  {entry : Entry} {project : Project} {resources : FileTree → Resources} {path : String} {content : ByteArray}

/-!
## One step
-/

theorem Step.Adds.vacant (adds : step.Adds tree place entry) : tree.entry? place = none := by
  cases adds with
  | directory isVacant _ => exact FileTree.entry?_of_vacant isVacant
  | setup isVacant _ _ => exact FileTree.entry?_of_vacant isVacant

/-- A step leaves the file tree as it is, or adds a single entry to it. -/
theorem Step.after_eq (step : Step) (tree : FileTree) :
    step.after tree = tree ∨
      ∃ place entry, step.Adds tree place entry ∧ step.after tree = tree.insert place entry := by
  cases step with
  | load project =>
      left
      cases read : tree.read project.setupPath with
      | ok bytes => rw [Step.after, load_of_read read]
      | error fault => rw [Step.after, load_of_unread read]
  | enter directory create =>
      rw [Step.after]
      have outcome := entered tree directory create
      generalize enteredAs : Project.enter directory create tree = answer at outcome
      obtain ⟨result, next⟩ := answer
      cases outcome with
      | present _ => exact .inl rfl
      | unmakeable _ _ => exact .inl rfl
      | refused _ => exact .inl rfl
      | made isVacant => exact .inr ⟨_, _, .directory isVacant (by rw [enteredAs]), rfl⟩
  | populate project resources =>
      rw [Step.after]
      have outcome := populated tree project resources
      generalize populatedAs : project.populate resources tree = answer at outcome
      obtain ⟨result, next⟩ := answer
      cases outcome with
      | present _ => exact .inl rfl
      | unsupplied _ _ => exact .inl rfl
      | unwritable _ _ _ => exact .inl rfl
      | written isVacant supplied => exact .inr ⟨_, _, .setup isVacant (by rw [populatedAs]) supplied, rfl⟩

theorem Step.extends_after (step : Step) (tree : FileTree) : tree.Extends (step.after tree) := by
  rcases step.after_eq tree with same | ⟨place, entry, adds, isInsert⟩
  · rw [same]
    exact .refl tree
  · rw [isInsert]
    exact FileTree.extends_insert adds.vacant

theorem Step.rooted_after (rooted : tree.Rooted) (step : Step) : (step.after tree).Rooted := by
  rcases step.after_eq tree with same | ⟨place, entry, adds, isInsert⟩
  · rw [same]
    exact rooted
  · rw [isInsert]
    cases adds with
    | directory isVacant _ => exact rooted.insert isVacant _
    | setup isVacant _ _ => exact rooted.insert isVacant _

theorem Step.adds_of_new (found : FileTree.entry? (step.after tree) place = some entry)
    (vacant : tree.entry? place = none) : step.Adds tree place entry := by
  rcases step.after_eq tree with same | ⟨other, added, adds, isInsert⟩
  · rw [same, vacant] at found
    cases found
  · rw [isInsert] at found
    obtain ⟨rfl, rfl⟩ := FileTree.eq_of_entry?_insert vacant found
    exact adds

/-!
## Runs of steps
-/

theorem extends_run (steps : List Step) (tree : FileTree) : tree.Extends (run steps tree) := by
  induction steps generalizing tree with
  | nil => exact .refl tree
  | cons step rest ih => exact (step.extends_after tree).trans (ih (step.after tree))

theorem rooted_run (rooted : tree.Rooted) (steps : List Step) : (run steps tree).Rooted := by
  induction steps generalizing tree with
  | nil => exact rooted
  | cons step rest ih => exact ih (step.rooted_after rooted)

/-- Every new entry at the end of a run comes from one of its steps. -/
theorem exists_adds_of_new (found : FileTree.entry? (run steps tree) place = some entry)
    (vacant : tree.entry? place = none) :
    ∃ before step rest, steps = before ++ step :: rest ∧ step.Adds (run before tree) place entry := by
  induction steps generalizing tree with
  | nil =>
      rw [run, vacant] at found
      cases found
  | cons step rest ih =>
      -- The entry is there after the first step, or it comes with one of the later steps.
      cases next : FileTree.entry? (step.after tree) place with
      | none =>
          obtain ⟨before, later, last, rfl, adds⟩ := ih found next
          exact ⟨step :: before, later, last, rfl, adds⟩
      | some present =>
          have same := (extends_run rest (step.after tree)).kept next
          rw [show run rest (step.after tree) = run (step :: rest) tree from rfl, found] at same
          cases same
          exact ⟨[], step, rest, rfl, step.adds_of_new next vacant⟩

/-- What a run does to the files and directories that are there before it, and to others. -/
structure KeepsFiles (steps : List Step) (tree : FileTree) : Prop where
  rooted : tree.Rooted → (run steps tree).Rooted
  kept : tree.Extends (run steps tree)
  read : ∀ path content, tree.read path = .ok content → (run steps tree).read path = .ok content
  added : ∀ place entry, FileTree.entry? (run steps tree) place = some entry → tree.entry? place = none →
    ∃ before step rest, steps = before ++ step :: rest ∧ step.Adds (run before tree) place entry

theorem keepsFiles (steps : List Step) (tree : FileTree) : KeepsFiles steps tree := by
  have kept := extends_run steps tree
  refine ⟨fun rooted => rooted_run rooted steps, kept, fun path content isRead => kept.read isRead, ?_⟩
  intro place entry found vacant
  exact exists_adds_of_new found vacant

/-!
## Populating
-/

/-- What populating a project does in a file tree, and what it means for the steps that come next. -/
structure PopulatesOnce (project : Project) (resources : FileTree → Resources) (tree : FileTree)
    (rest : List Step) : Prop where
  present : tree.exists? project.setupPath = true →
    project.populate resources tree = (.error .setupPresent, tree)
  unsupplied : ∀ failure, tree.exists? project.setupPath = false → resources tree setupName = .error failure →
    project.populate resources tree = (.error failure, tree)
  missing : project.directory ≠ "" → tree.isDirectory project.directory = false →
    tree.exists? project.setupPath = false ∧ ∃ fault, ∀ content, resources tree setupName = .ok content →
      project.populate resources tree = (.error (.file project.setupPath fault), tree)
  supplied : ∀ content, tree.isDirectory project.directory = true → tree.exists? project.setupPath = false →
    resources tree setupName = .ok content →
    ∃ after, project.populate resources tree = (.ok project.setupPath, after)
  failed : ∀ failure after, project.populate resources tree = (.error failure, after) → after = tree
  succeeded : ∀ path after, project.populate resources tree = (.ok path, after) →
    path = project.setupPath ∧ tree.exists? path = false ∧
    ∃ content, resources tree setupName = .ok content ∧ ∀ between, between <+: rest →
      let later := run between after
      (∀ others, project.populate others later = (.error .setupPresent, later)) ∧
        project.load later = (Setup.ofBytes content, later)

theorem populate_of_missing (named : project.directory ≠ "")
    (missing : tree.isDirectory project.directory = false) :
    tree.exists? project.setupPath = false ∧ ∃ fault, ∀ content, resources tree setupName = .ok content →
      project.populate resources tree = (.error (.file project.setupPath fault), tree) := by
  obtain ⟨fault, unresolved⟩ := unresolved_of_missing named missing
  have absent : tree.exists? project.setupPath = false := by rw [FileTree.exists?, unresolved]
  refine ⟨absent, fault, fun content supplied => ?_⟩
  exact populate_of_unresolved absent supplied unresolved

/-- A setup document that was written stays as it was written. -/
theorem succeeds_once (succeeded : project.populate resources tree = (.ok path, after)) :
    path = project.setupPath ∧ tree.exists? path = false ∧
    ∃ content, resources tree setupName = .ok content ∧ ∀ steps,
      let later := run steps after
      (∀ others, project.populate others later = (.error .setupPresent, later)) ∧
        project.load later = (Setup.ofBytes content, later) := by
  obtain ⟨place, content, isVacant, supplied, rfl, rfl⟩ := written_of_populate_ok succeeded
  refine ⟨rfl, FileTree.exists?_eq_false_of_vacant isVacant, content, supplied, fun steps => ?_⟩
  have written : (tree.insert place (.file content)).read project.setupPath = .ok content :=
    FileTree.read_of_written isVacant
  have isRead := (extends_run steps _).read written
  exact ⟨fun others => populate_of_present (FileTree.exists?_of_read isRead), load_of_read isRead⟩

theorem populatesOnce (project : Project) (resources : FileTree → Resources) (tree : FileTree)
    (rest : List Step) : PopulatesOnce project resources tree rest := by
  constructor
  case present => exact populate_of_present
  case unsupplied => exact fun failure absent unsupplied => populate_of_unsupplied absent unsupplied
  case missing => exact populate_of_missing
  case supplied =>
    intro content isDirectory absent supplied
    obtain ⟨place, isVacant⟩ := vacant_of_isDirectory isDirectory absent
    exact ⟨_, populate_of_vacant isVacant supplied⟩
  case failed => exact fun failure after failed => eq_of_populate_error failed
  case succeeded =>
    intro path after succeeded
    obtain ⟨isPath, absent, content, supplied, stays⟩ := succeeds_once succeeded
    exact ⟨isPath, absent, content, supplied, fun between _ => stays between⟩

/-- **Setup documents are never replaced.** Over a run of any length, files and directories stay as they are,
and new ones are only the directories that were made as projects and the setup documents of projects that
were populated, which hold what the resource held at that step. At every step a project is populated if it
is there and has no setup document yet, and then never again. -/
theorem setup_written_once (steps : List Step) (tree : FileTree) :
    KeepsFiles steps tree ∧
    ∀ before project resources rest, steps = before ++ .populate project resources :: rest →
      PopulatesOnce project resources (run before tree) rest := by
  refine ⟨keepsFiles steps tree, ?_⟩
  intro before project resources rest _
  exact populatesOnce project resources (run before tree) rest

theorem setup_written_once_sample :
    let project : Project := ⟨"new"⟩
    let tree := run [.enter "new" true] FileTree.empty
    tree.isDirectory "new" = true ∧ ∃ after,
      project.populate (fun _ => .bundled) tree = (.ok project.setupPath, after) ∧
      project.populate (fun _ => .bundled) after = (.error .setupPresent, after) ∧
      project.load after = (Setup.ofBytes (Resources.Bundled.content Resources.Bundled.setup), after) := by
  have isDirectory : (run [.enter "new" true] FileTree.empty).isDirectory "new" = true := by decide +kernel
  have bundled : Resources.bundled setupName = .ok (Resources.Bundled.content Resources.Bundled.setup) := by
    simp [Resources.bundled, Resources.listed, Resources.Bundled.all, setupName]
  have once := (setup_written_once [.enter "new" true, .populate ⟨"new"⟩ fun _ => .bundled,
    .populate ⟨"new"⟩ fun _ => .bundled, .load ⟨"new"⟩] FileTree.empty).2 [.enter "new" true] ⟨"new"⟩
    (fun _ => .bundled) [.populate ⟨"new"⟩ fun _ => .bundled, .load ⟨"new"⟩] rfl
  obtain ⟨after, succeeded⟩ := once.supplied _ isDirectory (by decide +kernel) bundled
  obtain ⟨-, -, content, supplied, stays⟩ := once.succeeded _ _ succeeded
  obtain ⟨refused, loaded⟩ := stays [] List.nil_prefix
  rw [Except.ok.inj (supplied.symm.trans bundled)] at loaded
  exact ⟨isDirectory, after, succeeded, refused _, loaded⟩

end ClusterConfig.Project
