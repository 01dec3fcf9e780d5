import ClusterConfig.Proofs.FileTree
import ClusterConfig.Proofs.Project

set_option autoImplicit false

/-!
# Outcomes of projects

All that entering and populating a project can come to. Each of the two puts at most one new entry into the
file tree, at a place that was vacant, and when it fails the file tree is as before.
-/

namespace ClusterConfig.Project

/-- All that entering a directory as a project can come to. -/
inductive Entered (tree : FileTree) (directory : String) :
    Bool → Except Failure Project → FileTree → Prop where
  | present {create} : tree.isDirectory directory = true →
      Entered tree directory create (.ok ⟨directory⟩) tree
  | made {place closed} : tree.resolve directory = .ok (.vacant place closed) →
      Entered tree directory true (.ok ⟨directory⟩) (tree.insert place .directory)
  | unmakeable {fault} : tree.isDirectory directory = false → tree.createDirectory directory = .error fault →
      Entered tree directory true (.error (.file directory fault)) tree
  | refused : tree.isDirectory directory = false →
      Entered tree directory false (.error (.projectNotDirectory directory)) tree

/-- All that populating a project can come to. -/
inductive Populated (tree : FileTree) (project : Project) (resources : FileTree → Resources) :
    Except Failure String → FileTree → Prop where
  | present : tree.exists? project.setupPath = true →
      Populated tree project resources (.error .setupPresent) tree
  | unsupplied {failure} : tree.exists? project.setupPath = false →
      resources tree setupName = .error failure → Populated tree project resources (.error failure) tree
  | unwritable {content fault} : tree.exists? project.setupPath = false →
      resources tree setupName = .ok content → tree.resolve project.setupPath = .error fault →
      Populated tree project resources (.error (.file project.setupPath fault)) tree
  | written {content place} : tree.resolve project.setupPath = .ok (.vacant place false) →
      resources tree setupName = .ok content →
      Populated tree project resources (.ok project.setupPath) (tree.insert place (.file content))

variable {tree after : FileTree} {project : Project} {resources : FileTree → Resources} {directory : String}
  {create : Bool} {content : ByteArray} {place stop : List String} {result : Except Failure String}

theorem enter_of_missing (missing : tree.isDirectory directory = false) :
    enter directory true tree =
      (Filing.change directory (·.createDirectory directory) >>= fun _ => pure ⟨directory⟩ :
        Filing Project) tree := by
  rw [enter, Filing.bind_of_ok (Filing.inspect_eq missing)]
  rfl

theorem enter_of_unmakeable {fault : FileTree.Fault} (missing : tree.isDirectory directory = false)
    (unmakeable : tree.createDirectory directory = .error fault) :
    enter directory true tree = (.error (.file directory fault), tree) := by
  have failed : Filing.change directory (·.createDirectory directory) tree = _ :=
    Filing.change_of_error unmakeable
  rw [enter_of_missing missing, Filing.bind_of_error failed]

theorem enter_of_vacant {closed : Bool} (isVacant : tree.resolve directory = .ok (.vacant place closed)) :
    enter directory true tree = (.ok ⟨directory⟩, tree.insert place .directory) := by
  have made : Filing.change directory (·.createDirectory directory) tree = _ :=
    Filing.change_of_ok (FileTree.createDirectory_eq_ok_iff.mpr ⟨place, closed, isVacant, rfl⟩)
  have missing : tree.isDirectory directory = false := by rw [FileTree.isDirectory, isVacant]
  rw [enter_of_missing missing, Filing.bind_of_ok made]
  rfl

theorem entered (tree : FileTree) (directory : String) (create : Bool) :
    Entered tree directory create (enter directory create tree).1 (enter directory create tree).2 := by
  cases present : tree.isDirectory directory with
  | true =>
      rw [enter_of_isDirectory present]
      exact .present present
  | false =>
      cases create with
      | false =>
          rw [enter_of_absent present]
          exact .refused present
      | true =>
          cases isMade : tree.createDirectory directory with
          | error fault =>
              rw [enter_of_unmakeable present isMade]
              exact .unmakeable present isMade
          | ok after =>
              obtain ⟨place, closed, isVacant, rfl⟩ := FileTree.createDirectory_eq_ok_iff.mp isMade
              rw [enter_of_vacant isVacant]
              exact .made isVacant

theorem eq_of_enter_error {failure : Failure}
    (failed : enter directory create tree = (.error failure, after)) : after = tree := by
  have outcome := entered tree directory create
  rw [failed] at outcome
  cases outcome <;> rfl

theorem eq_of_enter_ok (succeeded : enter directory create tree = (.ok project, after)) :
    project = ⟨directory⟩ := by
  have outcome := entered tree directory create
  rw [succeeded] at outcome
  cases outcome <;> rfl

/-- A directory that can be entered is there, or it was made. -/
theorem present_or_made (succeeded : enter directory true tree = (.ok project, after)) :
    after = tree ∨
      ∃ place closed, tree.resolve directory = .ok (.vacant place closed) ∧
        after = tree.insert place .directory := by
  have outcome := entered tree directory true
  rw [succeeded] at outcome
  generalize isTree : after = last at outcome
  cases outcome with
  | present _ => exact .inl rfl
  | made isVacant => exact .inr ⟨_, _, isVacant, rfl⟩

/-!
## The place of the setup document
-/

theorem resolve_setupPath_of_reaches
    (reaches : tree.Reaches (tree.origin directory) (Path.components directory) stop) :
    tree.resolve (Project.mk directory).setupPath = tree.follow stop [setupName] :=
  FileTree.resolve_join_of_reaches (by decide +kernel) (by decide +kernel) (by decide +kernel) reaches

theorem resolve_setupPath_of_not_reaches
    (missing : ∀ stop, ¬ tree.Reaches (tree.origin directory) (Path.components directory) stop) :
    ∃ fault, tree.resolve (Project.mk directory).setupPath = .error fault :=
  FileTree.resolve_join_of_not_reaches (by decide +kernel) (by decide +kernel) (by decide +kernel) missing

theorem follow_setupName (stop : List String) :
    tree.follow stop [setupName] =
      match tree.entry? (stop ++ [setupName]) with
      | some .directory => .ok .directory
      | some (.file content) => .ok (.file (stop ++ [setupName]) content false)
      | none => .ok (.vacant (stop ++ [setupName]) false) :=
  FileTree.follow_name (by decide +kernel)

theorem vacant_iff {closed : Bool} :
    tree.resolve (Project.mk directory).setupPath = .ok (.vacant place closed) ↔
      ∃ stop, tree.Reaches (tree.origin directory) (Path.components directory) stop ∧
        place = stop ++ [setupName] ∧ closed = false ∧ tree.entry? place = none := by
  constructor
  · intro isVacant
    by_cases entered : ∃ stop, tree.Reaches (tree.origin directory) (Path.components directory) stop
    · obtain ⟨stop, reaches⟩ := entered
      rw [resolve_setupPath_of_reaches reaches, follow_setupName] at isVacant
      split at isVacant
      · cases isVacant
      · cases isVacant
      · rename_i nothing
        cases isVacant
        exact ⟨stop, reaches, rfl, rfl, nothing⟩
    · obtain ⟨fault, failed⟩ := resolve_setupPath_of_not_reaches (not_exists.mp entered)
      rw [isVacant] at failed
      cases failed
  · intro facts
    obtain ⟨stop, reaches, rfl, rfl, nothing⟩ := facts
    rw [resolve_setupPath_of_reaches reaches, follow_setupName, nothing]

/-- In a directory that was just made there is a place for the setup document. -/
theorem vacant_in_made {closed : Bool} (rooted : tree.Rooted)
    (isVacant : tree.resolve directory = .ok (.vacant place closed)) :
    (tree.insert place .directory).resolve (Project.mk directory).setupPath =
      .ok (.vacant (place ++ [setupName]) false) := by
  have nothing : FileTree.entry? (tree.insert place .directory) (place ++ [setupName]) = none := by
    rw [FileTree.entry?_insert_of_ne (by simp)]
    exact rooted.entry?_below_vacant (FileTree.entry?_of_vacant isVacant) setupName
  have grown : tree.Extends (tree.insert place .directory) :=
    FileTree.extends_insert (FileTree.entry?_of_vacant isVacant)
  refine vacant_iff.mpr ⟨place, ?_, rfl, rfl, nothing⟩
  rw [grown.origin]
  exact FileTree.reaches_insert_directory isVacant

/-- Where no setup document exists, there is a place for it, or no way to it. -/
theorem vacant_of_absent (absent : tree.exists? project.setupPath = false) :
    (∃ fault, tree.resolve project.setupPath = .error fault) ∨
      ∃ place, tree.resolve project.setupPath = .ok (.vacant place false) := by
  by_cases entered : ∃ stop,
      tree.Reaches (tree.origin project.directory) (Path.components project.directory) stop
  · obtain ⟨stop, reaches⟩ := entered
    have leads := resolve_setupPath_of_reaches reaches
    rw [follow_setupName] at leads
    rw [FileTree.exists?] at absent
    cases found : tree.entry? (stop ++ [setupName]) with
    | none => exact .inr ⟨_, by rw [leads, found]⟩
    | some entry =>
        cases entry with
        | directory => simp [leads, found] at absent
        | file content => simp [leads, found] at absent
  · exact .inl (resolve_setupPath_of_not_reaches (not_exists.mp entered))

theorem unresolved_of_missing (named : directory ≠ "") (missing : tree.isDirectory directory = false) :
    ∃ fault, tree.resolve (Project.mk directory).setupPath = .error fault := by
  refine resolve_setupPath_of_not_reaches fun stop reaches => ?_
  rw [FileTree.isDirectory_iff_reaches.mpr ⟨named, stop, reaches⟩] at missing
  cases missing

theorem vacant_of_isDirectory (present : tree.isDirectory project.directory = true)
    (absent : tree.exists? project.setupPath = false) :
    ∃ place, tree.resolve project.setupPath = .ok (.vacant place false) := by
  obtain ⟨_, stop, reaches⟩ := FileTree.isDirectory_iff_reaches.mp present
  rcases vacant_of_absent absent with ⟨fault, failed⟩ | found
  · rw [resolve_setupPath_of_reaches reaches, follow_setupName] at failed
    split at failed <;> cases failed
  · exact found

theorem populate_of_present (present : tree.exists? project.setupPath = true) :
    project.populate resources tree = (.error .setupPresent, tree) := by
  rw [populate, Filing.bind_of_ok (Filing.inspect_eq present)]
  rfl

theorem populate_of_unsupplied {failure : Failure} (absent : tree.exists? project.setupPath = false)
    (unsupplied : resources tree setupName = .error failure) :
    project.populate resources tree = (.error failure, tree) := by
  have seen : (get : Filing FileTree) tree = (.ok tree, tree) := rfl
  rw [populate, Filing.bind_of_ok (Filing.inspect_eq absent)]
  simp only [Bool.false_eq_true, ↓reduceIte]
  rw [Filing.bind_of_ok seen, unsupplied]
  rfl

theorem populate_of_supplied (absent : tree.exists? project.setupPath = false)
    (supplied : resources tree setupName = .ok content) :
    project.populate resources tree =
      (Filing.write project.setupPath content >>= fun _ => pure project.setupPath : Filing String) tree := by
  have seen : (get : Filing FileTree) tree = (.ok tree, tree) := rfl
  have read : (liftM (resources tree setupName) : Filing ByteArray) tree = (.ok content, tree) := by
    rw [supplied]
    rfl
  rw [populate, Filing.bind_of_ok (Filing.inspect_eq absent)]
  simp only [Bool.false_eq_true, ↓reduceIte]
  rw [Filing.bind_of_ok seen, Filing.bind_of_ok read]

theorem populate_of_unresolved {fault : FileTree.Fault} (absent : tree.exists? project.setupPath = false)
    (supplied : resources tree setupName = .ok content)
    (unresolved : tree.resolve project.setupPath = .error fault) :
    project.populate resources tree = (.error (.file project.setupPath fault), tree) := by
  have unwritten : Filing.write project.setupPath content tree = _ :=
    Filing.change_of_error (FileTree.write_of_unresolved unresolved)
  rw [populate_of_supplied absent supplied, Filing.bind_of_error unwritten]

theorem populate_of_vacant (isVacant : tree.resolve project.setupPath = .ok (.vacant place false))
    (supplied : resources tree setupName = .ok content) :
    project.populate resources tree = (.ok project.setupPath, tree.insert place (.file content)) := by
  have written : Filing.write project.setupPath content tree = (.ok (), tree.insert place (.file content)) :=
    Filing.change_of_ok (FileTree.write_of_vacant isVacant)
  rw [populate_of_supplied (FileTree.exists?_eq_false_of_vacant isVacant) supplied, Filing.bind_of_ok written]
  rfl

theorem populated (tree : FileTree) (project : Project) (resources : FileTree → Resources) :
    Populated tree project resources (project.populate resources tree).1
      (project.populate resources tree).2 := by
  cases absent : tree.exists? project.setupPath with
  | true =>
      rw [populate_of_present absent]
      exact .present absent
  | false =>
      cases supplied : resources tree setupName with
      | error failure =>
          rw [populate_of_unsupplied absent supplied]
          exact .unsupplied absent supplied
      | ok content =>
          rcases vacant_of_absent absent with ⟨fault, failed⟩ | ⟨place, isVacant⟩
          · rw [populate_of_unresolved absent supplied failed]
            exact .unwritable absent supplied failed
          · rw [populate_of_vacant isVacant supplied]
            exact .written isVacant supplied

theorem eq_of_populate_error {failure : Failure}
    (failed : project.populate resources tree = (.error failure, after)) : after = tree := by
  have outcome := populated tree project resources
  rw [failed] at outcome
  cases outcome <;> rfl

theorem written_of_populate_ok {path : String} (succeeded : project.populate resources tree = (.ok path, after)) :
    ∃ place content, tree.resolve project.setupPath = .ok (.vacant place false) ∧
      resources tree setupName = .ok content ∧ path = project.setupPath ∧
      after = tree.insert place (.file content) := by
  have outcome := populated tree project resources
  rw [succeeded] at outcome
  generalize isTree : after = last at outcome
  cases outcome with
  | written isVacant supplied => exact ⟨_, _, isVacant, supplied, rfl, rfl⟩

end ClusterConfig.Project
