import ClusterConfig.FileTree

set_option autoImplicit false

/-!
# Editors

Programs that are run on a file, by name. The programs that are always at hand are the one that does
nothing, the one that does nothing and reports failure, and the one that removes the file; they stand in
the directories of system programs. A name without a slash is searched for in the directories of the
search path.
-/

namespace ClusterConfig.Editor

/-- The programs that are at hand: they leave the file alone and succeed, leave it alone and fail, or
remove it. -/
inductive Program where
  | keep
  | refuse
  | remove
deriving DecidableEq, Repr

def programs : List (String × Program) :=
  [("true", .keep), ("false", .refuse), ("rm", .remove)]

def systemDirectories : List String := ["/bin", "/usr/bin"]

def searchPath : String := "/usr/local/bin:/usr/bin:/bin"

def find? (searchPath name : String) : Option Program :=
  let places :=
    if name.toList.contains '/' then [name]
    else (Text.pieces ':' searchPath.toList).map fun directory =>
      Path.join (String.ofList directory) name
  places.findSome? fun place =>
    programs.findSome? fun (known, program) =>
      if systemDirectories.any fun directory => Path.join directory known == place then
        some program
      else none

/-- Why an editor fails: there is no such program, or it ended with a status other than zero and said so
in words of its own. -/
inductive Fault where
  | notFound
  | status (code : Nat) (remarks : String)
deriving DecidableEq, Repr

def Fault.message : Fault → String
  | .notFound => FileTree.Fault.notFound.message
  | .status code _ => "exit status: " ++ code.repr

def Fault.remarks : Fault → String
  | .notFound => ""
  | .status _ remarks => remarks

def Program.run (program : Program) (path : String) (tree : FileTree) : Except Fault FileTree :=
  match program with
  | .keep => .ok tree
  | .refuse => .error (.status 1 "")
  | .remove =>
      (tree.remove path).mapError fun fault =>
        .status 1 ("rm: cannot remove '" ++ path ++ "': " ++ fault.name ++ "\n")

def run (searchPath name path : String) (tree : FileTree) : Except Fault FileTree :=
  match find? searchPath name with
  | none => .error .notFound
  | some program => program.run path tree

end ClusterConfig.Editor
