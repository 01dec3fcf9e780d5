import ClusterConfig.Project

set_option autoImplicit false

/-!
# Laws of projects

What is known of a computation on files step by step, and what entering a project and loading its setup
come to.
-/

namespace ClusterConfig

variable {tree : FileTree}

namespace Filing

/-- A step that succeeds hands its value and the files as it leaves them to the next one. -/
theorem bind_of_ok {ε α β : Type} {step : ExceptT ε (StateM FileTree) α}
    {next : α → ExceptT ε (StateM FileTree) β} {value : α} {before after : FileTree}
    (done : step before = (.ok value, after)) : (step >>= next) before = next value after := by
  change (ExceptT.bindCont next (step before).1) (step before).2 = next value after
  rw [done]
  rfl

/-- After a step that fails nothing more is done. -/
theorem bind_of_error {ε α β : Type} {step : ExceptT ε (StateM FileTree) α}
    {next : α → ExceptT ε (StateM FileTree) β} {failure : ε} {before after : FileTree}
    (failed : step before = (.error failure, after)) : (step >>= next) before = (.error failure, after) := by
  change (ExceptT.bindCont next (step before).1) (step before).2 = (.error failure, after)
  rw [failed]
  rfl

theorem query_of_ok {α : Type} {path : String} {answer : FileTree → Except FileTree.Fault α} {value : α}
    (isAnswer : answer tree = .ok value) : Filing.query path answer tree = (.ok value, tree) := by
  have seen : (get : Filing FileTree) tree = (.ok tree, tree) := rfl
  rw [Filing.query, bind_of_ok seen, isAnswer]
  rfl

theorem query_of_error {α : Type} {path : String} {answer : FileTree → Except FileTree.Fault α}
    {fault : FileTree.Fault} (isFault : answer tree = .error fault) :
    Filing.query path answer tree = (.error (.file path fault), tree) := by
  have seen : (get : Filing FileTree) tree = (.ok tree, tree) := rfl
  rw [Filing.query, bind_of_ok seen, isFault]
  rfl

theorem change_of_ok {path : String} {next : FileTree → Except FileTree.Fault FileTree} {after : FileTree}
    (isNext : next tree = .ok after) : Filing.change path next tree = (.ok (), after) := by
  rw [Filing.change, bind_of_ok (query_of_ok isNext)]
  rfl

theorem change_of_error {path : String} {next : FileTree → Except FileTree.Fault FileTree}
    {fault : FileTree.Fault} (isFault : next tree = .error fault) :
    Filing.change path next tree = (.error (.file path fault), tree) :=
  bind_of_error (query_of_error isFault)

theorem inspect_eq {α : Type} {answer : FileTree → α} {value : α} (isAnswer : answer tree = value) :
    Filing.inspect answer tree = (.ok value, tree) := by
  rw [← isAnswer]
  rfl

end Filing

namespace Yaml

/-- The bytes of a text that is allowed in a document are read by its characters. -/
theorem readTree_toUTF8 {text : String} (allowed : text.toList.all isAllowed = true) :
    readTree text.toUTF8 = tokenize (normalizeBreaks text.toList) >>= readDocument := by
  have nothing : (text.toList.find? fun c => !isAllowed c) = none := by simpa using allowed
  have decoded : (Utf8.decode text.toUTF8).mapError Fault.encoding = .ok text := by
    rw [Utf8.decode_toUTF8]
    rfl
  rw [readTree, decoded]
  simp only [bind, Except.bind, nothing]

end Yaml

namespace Project

variable {directory : String} {bytes : ByteArray}

theorem enter_of_isDirectory {create : Bool} (present : tree.isDirectory directory = true) :
    Project.enter directory create tree = (.ok ⟨directory⟩, tree) := by
  rw [Project.enter, Filing.bind_of_ok (Filing.inspect_eq present)]
  rfl

theorem enter_of_absent (absent : tree.isDirectory directory = false) :
    Project.enter directory false tree = (.error (.projectNotDirectory directory), tree) := by
  rw [Project.enter, Filing.bind_of_ok (Filing.inspect_eq absent)]
  rfl

theorem load_of_read (isRead : tree.read (Project.mk directory).setupPath = .ok bytes) :
    Project.load ⟨directory⟩ tree = (Setup.ofBytes bytes, tree) := by
  have inFile : Filing.read (Project.mk directory).setupPath tree = (.ok bytes, tree) :=
    Filing.query_of_ok isRead
  rw [Project.load, Setup.ofFile, Filing.bind_of_ok inFile]
  rfl

theorem load_of_unread {fault : FileTree.Fault}
    (isFault : tree.read (Project.mk directory).setupPath = .error fault) :
    Project.load ⟨directory⟩ tree = (.error (.file (Project.mk directory).setupPath fault), tree) :=
  Filing.bind_of_error (Filing.query_of_error isFault)

/-- Loading changes no file. -/
theorem load_eq {project : Project} {result : Except Failure Setup} (isResult : (project.load tree).1 = result) :
    project.load tree = (result, tree) := by
  rw [← isResult]
  cases isRead : tree.read project.setupPath with
  | ok bytes => rw [load_of_read isRead]
  | error fault => rw [load_of_unread isRead]

end Project

end ClusterConfig
