import ClusterConfig.Dictionary

set_option autoImplicit false

/-!
# Environment files

A heading and settings, one to a line, in the order of their keys.
-/

namespace ClusterConfig

structure EnvFile where
  header : String
  entries : Dictionary String
deriving DecidableEq

namespace EnvFile

def empty (header : String) : EnvFile := ⟨header, .empty⟩

def insert (key value : String) (file : EnvFile) : EnvFile :=
  { file with entries := file.entries.insert key value }

def line (entry : String × String) : String := entry.1 ++ "=" ++ entry.2

def lines (file : EnvFile) : List String :=
  file.header :: file.entries.entries.map line

def text (file : EnvFile) : String :=
  String.join (file.lines.map (· ++ "\n"))

end EnvFile

end ClusterConfig
