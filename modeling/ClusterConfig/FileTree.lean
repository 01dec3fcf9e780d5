import ClusterConfig.FileTree.Path

set_option autoImplicit false

/-!
# File trees

Files and directories as a value, with the operations that programs see: whether a path names something,
reading, writing, making a directory and removing a file. A path is followed from the working directory,
component by component; every component but the last must name a directory that exists.
-/

namespace ClusterConfig

inductive Entry where
  | file (content : ByteArray)
  | directory

instance : DecidableEq Entry
  | .directory, .directory => isTrue rfl
  | .directory, .file _ => isFalse (fun equal => nomatch equal)
  | .file _, .directory => isFalse (fun equal => nomatch equal)
  | .file ⟨left⟩, .file ⟨right⟩ =>
      if same : left = right then isTrue (by rw [same])
      else isFalse (fun equal => by cases equal; exact same rfl)

/-- Files and directories by their places. A place is the list of names that lead to it from the root,
which is always a directory. -/
structure FileTree where
  workingDirectory : List String
  entries : List (List String × Entry)
deriving DecidableEq

namespace FileTree

inductive Fault where
  | notFound
  | alreadyExists
  | notDirectory
  | isDirectory
deriving DecidableEq, Repr

def Fault.code : Fault → Nat
  | .notFound => 2
  | .alreadyExists => 17
  | .notDirectory => 20
  | .isDirectory => 21

def Fault.name : Fault → String
  | .notFound => "No such file or directory"
  | .alreadyExists => "File exists"
  | .notDirectory => "Not a directory"
  | .isDirectory => "Is a directory"

def Fault.message (fault : Fault) : String :=
  fault.name ++ " (os error " ++ fault.code.repr ++ ")"

/-- The tree that holds nothing but its working directory and the directories above it. -/
def startingIn (place : List String) : FileTree where
  workingDirectory := place
  entries := (List.range place.length).map fun count => (place.take (count + 1), .directory)

def empty : FileTree := startingIn ["work"]

def entry? (tree : FileTree) (place : List String) : Option Entry :=
  if place.isEmpty then some .directory else tree.entries.lookup place

def insert (tree : FileTree) (place : List String) (entry : Entry) : FileTree :=
  { tree with
    entries := tree.entries.filter (fun other => other.1 != place) ++ [(place, entry)] }

def erase (tree : FileTree) (place : List String) : FileTree :=
  { tree with entries := tree.entries.filter fun other => other.1 != place }

/-- What a path leads to; a vacant place is one in a directory that exists. The mark `closed` says
whether slashes follow the last name. -/
inductive Target where
  | directory
  | file (place : List String) (content : ByteArray) (closed : Bool)
  | vacant (place : List String) (closed : Bool)

def follow (tree : FileTree) : (place components : List String) → Except Fault Target
  | _, [] => .ok .directory
  | place, component :: rest =>
      if component.isEmpty || component == "." then tree.follow place rest
      else if component == ".." then tree.follow place.dropLast rest
      else
        let next := place ++ [component]
        match tree.entry? next with
        | some .directory => tree.follow next rest
        | some (.file content) =>
            if rest.all String.isEmpty then .ok (.file next content !rest.isEmpty)
            else .error .notDirectory
        | none =>
            if rest.all String.isEmpty then .ok (.vacant next !rest.isEmpty)
            else .error .notFound

def resolve (tree : FileTree) (path : String) : Except Fault Target :=
  if path.isEmpty then .error .notFound
  else
    let start := if Path.isAbsolute path then [] else tree.workingDirectory
    tree.follow start (Path.components path)

def isDirectory (tree : FileTree) (path : String) : Bool :=
  match tree.resolve path with
  | .ok .directory => true
  | _ => false

def exists? (tree : FileTree) (path : String) : Bool :=
  match tree.resolve path with
  | .ok .directory => true
  | .ok (.file _ _ closed) => !closed
  | _ => false

def read (tree : FileTree) (path : String) : Except Fault ByteArray := do
  match ← tree.resolve path with
  | .directory => throw .isDirectory
  | .file _ content closed => if closed then throw .notDirectory else pure content
  | .vacant _ _ => throw .notFound

/-- The tree after a content was written to the file at a path, which need not exist before. -/
def write (tree : FileTree) (path : String) (content : ByteArray) : Except Fault FileTree := do
  match ← tree.resolve path with
  | .directory => throw .isDirectory
  | .file place _ closed | .vacant place closed =>
      if closed then throw .isDirectory else pure (tree.insert place (.file content))

def createDirectory (tree : FileTree) (path : String) : Except Fault FileTree := do
  match ← tree.resolve path with
  | .directory | .file _ _ _ => throw .alreadyExists
  | .vacant place _ => pure (tree.insert place .directory)

def remove (tree : FileTree) (path : String) : Except Fault FileTree := do
  match ← tree.resolve path with
  | .directory => throw .isDirectory
  | .file place _ closed => if closed then throw .notDirectory else pure (tree.erase place)
  | .vacant _ _ => throw .notFound

/-- The paths that lead to a path: those of its parents, the first one first, and its own. -/
def stages (path : String) : List String :=
  let components := Path.components path
  (List.range components.length).map fun count =>
    Text.join "/" (components.take (count + 1))

def createDirectories (tree : FileTree) (path : String) : Except Fault FileTree :=
  (stages path).foldlM (fun current stage =>
    if stage.isEmpty || current.isDirectory stage then pure current
    else current.createDirectory stage) tree

/-- Put a file, or for a path that ends with a slash a directory, into a tree, together with all parents
that it lacks. -/
def place (tree : FileTree) (path : String) (content : ByteArray) : Except Fault FileTree := do
  let components := Path.components path
  let tree ← tree.createDirectories (Text.join "/" components.dropLast)
  if components.getLast? == some "" then pure tree else tree.write path content

def listing (tree : FileTree) : List (String × Entry) :=
  tree.entries.filterMap fun (place, entry) =>
    let start := tree.workingDirectory
    if start <+: place && place != start then
      some (Text.join "/" (place.drop start.length), entry)
    else none

end FileTree

end ClusterConfig
