import ClusterConfig.Dictionary
import ClusterConfig.FileTree
import ClusterConfig.Text.Blank
import ClusterConfig.Text.Utf8

set_option autoImplicit false

/-!
# Environments

The variables that a command runs with: those that are set for it, and those that a file of settings adds.
A setting never replaces a variable that is set, so that of several settings of one name the first
counts. The file is read up to the first line that is not a setting.
-/

namespace ClusterConfig

abbrev Environment := Dictionary String

namespace Environment

def supplement (name value : String) (environment : Environment) : Environment :=
  if (environment.get? name).isSome then environment else environment.insert name value

def skipBlank (text : List Char) : List Char := text.dropWhile Text.isWhiteSpace

/-- Where the reading of a value stands. A literal is between single quotes, and the characters of a
name are those that were read, the last one first. -/
inductive Reading where
  | value
  | literal
  | escape
  | name (characters : List Char)
  | bracedName (characters : List Char)
  | done
deriving DecidableEq, Repr

def escaped? (c : Char) : Option Char :=
  if c == 'n' then some '\n'
  else if ['\\', '\'', '"', '$', ' '].contains c then some c
  else none

/-- The value of the variable whose name was read backwards; there is none if it is not set. -/
def substitute (environment : Environment) (characters : List Char) : List Char :=
  match environment.get? (String.ofList characters.reverse) with
  | some value => value.toList
  | none => []

/-- Read a value from a given state on. The mark says whether a double quote is open, and `output` holds
what was read. A variable's name ends before the first character that is neither letter nor digit, and
that character, whatever it is, stands for itself. -/
def valueFrom? (environment : Environment) :
    Reading → (isQuoted : Bool) → (output : List Char) → List Char → Option (List Char)
  | .literal, _, _, [] | .bracedName _, _, _, [] => none
  | .name name, isQuoted, output, [] =>
      if isQuoted then none else some (output ++ substitute environment name)
  | _, isQuoted, output, [] => if isQuoted then none else some output
  | .done, isQuoted, output, c :: rest =>
      if c == ' ' || c == '\t' then valueFrom? environment .done isQuoted output rest
      else if c == '#' then some output
      else none
  | .escape, isQuoted, output, c :: rest =>
      match escaped? c with
      | some character => valueFrom? environment .value isQuoted (output ++ [character]) rest
      | none => none
  | .literal, isQuoted, output, c :: rest =>
      if c == '\'' then valueFrom? environment .value isQuoted output rest
      else valueFrom? environment .literal isQuoted (output ++ [c]) rest
  | .name name, isQuoted, output, c :: rest =>
      if c.isAlphanum then valueFrom? environment (.name (c :: name)) isQuoted output rest
      else if c == '\x7b' && name.isEmpty then
        valueFrom? environment (.bracedName []) isQuoted output rest
      else
        let output := output ++ substitute environment name
        if c == '$' then valueFrom? environment (.name []) isQuoted output rest
        else valueFrom? environment .value isQuoted (output ++ [c]) rest
  | .bracedName name, isQuoted, output, c :: rest =>
      if c == '\x7d' then
        valueFrom? environment .value isQuoted (output ++ substitute environment name) rest
      else valueFrom? environment (.bracedName (c :: name)) isQuoted output rest
  | .value, isQuoted, output, c :: rest =>
      if c == '$' then valueFrom? environment (.name []) isQuoted output rest
      else if c == '"' then valueFrom? environment .value (!isQuoted) output rest
      else if c == '\\' then valueFrom? environment .escape isQuoted output rest
      else if isQuoted then valueFrom? environment .value isQuoted (output ++ [c]) rest
      else if c == '\'' then valueFrom? environment .literal isQuoted output rest
      else if c == ' ' || c == '\t' then valueFrom? environment .done isQuoted output rest
      else valueFrom? environment .value isQuoted (output ++ [c]) rest

def isNameCharacter (c : Char) : Bool := c.isAlphanum || c == '_' || c == '.'

/-- The name at the beginning of a text, and the rest. A name begins with a letter or an underscore. -/
def name? (text : List Char) : Option (List Char × List Char) :=
  match text with
  | first :: _ =>
      if first.isAlpha || first == '_' then
        some (text.takeWhile isNameCharacter, skipBlank (text.dropWhile isNameCharacter))
      else none
  | [] => none

def afterEquals? : List Char → Option (List Char)
  | '=' :: rest => some rest
  | _ => none

/-- The name of a setting, and the text after its equals sign. The word `export` may come first; it can
also be the name of a setting itself. -/
def setting? (text : List Char) : Option (String × List Char) := do
  let (name, rest) ← name? text
  match afterEquals? rest with
  | some value => pure (String.ofList name, value)
  | none =>
      if String.ofList name == "export" then
        let (name, rest) ← name? rest
        pure (String.ofList name, ← afterEquals? rest)
      else none

/-- The setting in a line, or nothing for empty lines and comments; there is no answer for a line that is
neither. The value may refer to variables of the environment. -/
def lineSetting? (environment : Environment) (line : String) : Option (Option (String × String)) :=
  match skipBlank (Text.trimEnd line).toList with
  | [] | '#' :: _ => some none
  | text => do
      let (name, rest) ← setting? text
      let value ←
        match skipBlank rest with
        | [] | '#' :: _ => some []
        | value => valueFrom? environment .value false [] value
      pure (some (name, String.ofList value))

def readLine? (line : String) (environment : Environment) : Option Environment :=
  (environment.lineSetting? line).map fun
    | none => environment
    | some (name, value) => environment.supplement name value

def fileLines : List UInt8 → List (List UInt8)
  | [] => [[]]
  | byte :: rest =>
      if byte == '\n'.toUInt8 then [] :: fileLines rest
      else
        match fileLines rest with
        | [] => [[byte]]
        | line :: others => (byte :: line) :: others

/-- Add the settings of lines to an environment, up to the first line that is none. -/
def readLines (environment : Environment) : List (List UInt8) → Environment
  | [] => environment
  | line :: rest =>
      match Utf8.decode ⟨line.toArray⟩ with
      | .error _ => environment
      | .ok text =>
          match readLine? text environment with
          | some extended => readLines extended rest
          | none => environment

def fileName : String := ".env"

/-- The places where the file of settings may stand: the working directory, and then the directories
above it. -/
def filePlaces (workingDirectory : List String) : List (List String) :=
  let depth := workingDirectory.length
  (List.range (depth + 1)).map fun count => workingDirectory.take (depth - count) ++ [fileName]

def settings? (tree : FileTree) : Option ByteArray :=
  (filePlaces tree.workingDirectory).findSome? fun place =>
    match tree.entry? place with
    | some (.file content) => some content
    | _ => none

def commandVariables : List String :=
  ["HOMEWORLD_DIR", "SPIRE_RESOURCES", "EDITOR", "PATH", "CLICOLOR_FORCE"]

/-- The words of a text: what can be the name of a variable that it refers to. -/
def words (text : String) : List String :=
  (text.toList.splitBy fun left right => isNameCharacter left && isNameCharacter right).map String.ofList

def withSettings (environment : Environment) (tree : FileTree) : Environment :=
  match settings? tree with
  | some content => readLines environment (fileLines content.toList)
  | none => environment

end Environment

end ClusterConfig
