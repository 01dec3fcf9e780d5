import ClusterConfig.Command.Run

set_option autoImplicit false

/-!
# The command line

The command works on a picture of the part of the file system that it looks at. What differs in the
picture afterwards is carried over to the file system.
-/

namespace ClusterConfig.Main

def path (place : List String) : String := "/" ++ Text.join "/" place

def probe (path : String) : IO (Option Entry) := do
  try
    pure (some (.file (← IO.FS.readBinFile path)))
  catch
    | .noFileOrDirectory _ _ _ => pure none
    | _ => pure (some .directory)

/-- Add to a picture what stands at a path and at the paths that lead to it. -/
def add (picture : FileTree) (name : String) : IO FileTree := do
  let mut picture := picture
  for stage in FileTree.stages name do
    match picture.resolve stage with
    | .ok (.vacant place _) =>
        match ← probe (path place) with
        | some entry => picture := picture.insert place entry
        | none => pure ()
    | _ => pure ()
  pure picture

def carryOver (before after : FileTree) : IO Unit := do
  for (place, _) in before.entries do
    if (after.entry? place).isNone then IO.FS.removeFile (path place)
  for (place, entry) in after.entries do
    if before.entry? place != some entry then
      match entry with
      | .directory => IO.FS.createDir (path place)
      | .file content => IO.FS.writeBinFile (path place) content

def setVariables (names : List String) : IO Environment := do
  let mut environment : Environment := .empty
  for name in names do
    match ← IO.getEnv name with
    | some value => environment := environment.insert name value
    | none => pure ()
  pure environment

def run (arguments : List String) : IO UInt32 := do
  let current := toString (← IO.currentDir)
  let start := FileTree.startingIn ((Path.components current).filter (!·.isEmpty))
  let mut picture := start
  for place in Environment.filePlaces start.workingDirectory do
    picture ← add picture (path place)
  let settings := (Environment.settings? picture).bind String.fromUTF8?
  let names := Environment.commandVariables ++ Environment.words (settings.getD "")
  let environment ← setVariables names
  match Command.request? arguments with
  | some (.act options action) =>
      for name in Command.paths options (environment.withSettings picture) action do
        picture ← add picture name
  | _ => pure ()
  let outcome := Command.run arguments environment picture
  carryOver picture outcome.tree
  IO.print outcome.output
  IO.eprint outcome.errors
  pure (UInt32.ofNat outcome.code)

end ClusterConfig.Main

def main (arguments : List String) : IO UInt32 := ClusterConfig.Main.run arguments
