import ClusterConfig.Text.Split

set_option autoImplicit false

/-!
# Paths

A path is a text, kept as it is spelled, since faults name paths in the spelling that they were given.
-/

namespace ClusterConfig.Path

def isAbsolute (path : String) : Bool := path.toList.head? == some '/'

/-- The path of `name` seen from a directory. An absolute name is taken as it is, and a slash is written
only where the directory does not end with one. -/
def join (directory name : String) : String :=
  if isAbsolute name || directory.isEmpty then name
  else if directory.toList.getLast? == some '/' then directory ++ name
  else directory ++ "/" ++ name

def components (path : String) : List String :=
  (Text.pieces '/' path.toList).map String.ofList

end ClusterConfig.Path
