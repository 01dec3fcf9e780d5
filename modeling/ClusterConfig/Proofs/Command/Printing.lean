import ClusterConfig.Command.Run
import ClusterConfig.Proofs.Project

set_option autoImplicit false

/-!
# Printing

A view is printed line by line until a piece of it fails; that is all that a command line does with a
setup that it has found and read. Where it finds no directory or no setup it prints nothing.
-/

namespace ClusterConfig.Command

variable {arguments : List String} {environment : Environment} {tree : FileTree} {options : Options}
  {action : Action} {view : View} {directory : String} {bytes : ByteArray} {setup : Setup} {failure : Failure}
  {after : FileTree}

def linesText (texts : List String) : String := String.join (texts.map (· ++ "\n"))

theorem linesText_cons (text : String) (rest : List String) :
    linesText (text :: rest) = text ++ "\n" ++ linesText rest := by
  simp [linesText]

theorem print_append (texts : List String) (rest : List (Except Report String)) :
    print (texts.map .ok ++ rest) = (linesText texts ++ (print rest).1, (print rest).2) := by
  induction texts with
  | nil => simp [linesText]
  | cons text others ih =>
      rw [List.map_cons, List.cons_append, print, ih, linesText_cons]
      simp [String.append_assoc]

theorem print_texts (texts : List String) : print (texts.map .ok) = (linesText texts, none) := by
  have whole := print_append texts []
  rw [List.append_nil] at whole
  rw [whole, print, String.append_empty]

theorem print_none_iff {pieces : List (Except Report String)} :
    (print pieces).2 = none ↔ ∀ piece ∈ pieces, ∃ text, piece = .ok text := by
  induction pieces with
  | nil => simp [print]
  | cons piece rest ih =>
      rw [List.forall_mem_cons, ← ih]
      cases piece with
      | error report => simp [print]
      | ok text => simp [print]

theorem filing_of_ok {α : Type} {computation : Filing α} {value : α} {before after : FileTree}
    (done : computation before = (.ok value, after)) : filing computation before = (.ok value, after) := by
  rw [filing, done]
  rfl

theorem filing_of_error {α : Type} {computation : Filing α} {failure : Failure} {before after : FileTree}
    (failed : computation before = (.error failure, after)) :
    filing computation before = (.error (.ofFailure failure), after) := by
  rw [filing, failed]
  rfl

theorem filing_lift {α : Type} (answer : Except Failure α) (tree : FileTree) :
    filing (answer : Except Failure α) tree = (answer.mapError .ofFailure, tree) := by
  cases answer <;> rfl

theorem filing_projectDirectory (named : projectDirectory options environment = .ok directory) :
    filing (projectDirectory options environment : Except Failure String) tree = (.ok directory, tree) := by
  rw [filing_lift, named]
  rfl

theorem filing_enter (present : tree.isDirectory directory = true) (create : Bool) :
    filing (Project.enter directory create) tree = (.ok ⟨directory⟩, tree) :=
  filing_of_ok (Project.enter_of_isDirectory present)

/-!
## Failing before anything is shown
-/

def failing (failure : Failure) (tree : FileTree) : Outcome :=
  ⟨1, "", (Report.ofFailure failure).text, tree⟩

theorem run_of_failed (asked : request? arguments = some (.act options action))
    (failed : perform options (environment.withSettings tree) action tree = (.error (.ofFailure failure), after)) :
    run arguments environment tree = failing failure after := by
  rw [run, asked]
  dsimp only
  rw [failed]
  rfl

theorem perform_of_unnamed (unnamed : projectDirectory options environment = .error failure) :
    perform options environment action tree = (.error (.ofFailure failure), tree) := by
  have failed : filing (projectDirectory options environment : Except Failure String) tree =
      (.error (.ofFailure failure), tree) := by
    rw [filing_lift, unnamed]
    rfl
  exact Filing.bind_of_error failed

section Named

variable (named : projectDirectory options environment = .ok directory)

include named

theorem perform_of_unentered
    (unentered : Project.enter directory (action = .populate) tree = (.error failure, after)) :
    perform options environment action tree = (.error (.ofFailure failure), after) := by
  rw [perform, Filing.bind_of_ok (filing_projectDirectory named)]
  exact Filing.bind_of_error (filing_of_error unentered)

theorem perform_of_unloaded (present : tree.isDirectory directory = true)
    (unloaded : Project.load ⟨directory⟩ tree = (.error failure, after)) :
    perform options environment (.view view) tree = (.error (.ofFailure failure), after) := by
  rw [perform, Filing.bind_of_ok (filing_projectDirectory named), Filing.bind_of_ok (filing_enter present _)]
  exact Filing.bind_of_error (filing_of_error unloaded)

/-!
## Showing a view
-/

theorem perform_of_loaded (present : tree.isDirectory directory = true)
    (loaded : Project.load ⟨directory⟩ tree = (.ok setup, tree)) :
    perform options environment (.view view) tree =
      (.ok (view.pieces {
        project := ⟨directory⟩
        setup
        resources := resources options environment tree
        colored := isColored environment }), tree) := by
  rw [perform, Filing.bind_of_ok (filing_projectDirectory named), Filing.bind_of_ok (filing_enter present _)]
  dsimp only
  rw [Filing.bind_of_ok (filing_of_ok loaded)]
  rfl

end Named

/-- What a command line that shows something of a setup leaves behind. -/
theorem run_of_loaded (asked : request? arguments = some (.act options (.view view)))
    (isDirectory : projectDirectory options (environment.withSettings tree) = .ok directory)
    (present : tree.isDirectory directory = true)
    (loaded : Project.load ⟨directory⟩ tree = (.ok setup, tree)) :
    let (output, failed) := print (view.pieces {
        project := ⟨directory⟩
        setup
        resources := resources options (environment.withSettings tree) tree
        colored := isColored (environment.withSettings tree) })
    run arguments environment tree =
      ⟨if failed.isSome then 1 else 0, output, (failed.map Report.text).getD "", tree⟩ := by
  rw [run, asked]
  dsimp only
  rw [perform_of_loaded isDirectory present loaded]
  dsimp only
  split
  · rename_i isPrinted
    simp [isPrinted]
  · rename_i isPrinted
    simp [isPrinted]

theorem run_view (asked : request? arguments = some (.act options (.view view)))
    (isDirectory : projectDirectory options (environment.withSettings tree) = .ok directory)
    (present : tree.isDirectory directory = true)
    (isRead : tree.read (Project.mk directory).setupPath = .ok bytes)
    (isSetup : Setup.ofBytes bytes = .ok setup) :
    let (output, failed) := print (view.pieces {
        project := ⟨directory⟩
        setup
        resources := resources options (environment.withSettings tree) tree
        colored := isColored (environment.withSettings tree) })
    run arguments environment tree =
      ⟨if failed.isSome then 1 else 0, output, (failed.map Report.text).getD "", tree⟩ :=
  run_of_loaded asked isDirectory present (isSetup ▸ Project.load_of_read isRead)

end ClusterConfig.Command
