set_option autoImplicit false

/-!
# Requests

What a command line asks for. Options come before the first command word; an operand that begins with a
dash must be preceded by two dashes.
-/

namespace ClusterConfig.Command

inductive View where
  | clusterConf
  | kubeconfig
  | prometheus
  | nodes
  | document
  | qualifiedName (name : String)
  | keyserver
  | storeEndpoints
  | apiserver
  | kubeSpec (name : String) (settings : List String)
deriving DecidableEq, Repr

inductive Action where
  | populate
  | edit
  | view (view : View)
deriving DecidableEq, Repr

structure Options where
  projectDirectory : Option String := none
  resourceDirectory : Option String := none
deriving DecidableEq, Repr

inductive Request where
  | version
  | act (options : Options) (action : Action)
deriving DecidableEq, Repr

/-- Whether an argument looks like an option. A single dash does not. -/
def isDashed (argument : String) : Bool :=
  argument.startsWith "-" && argument != "-"

def operands? : List String → Option (List String)
  | [] => some []
  | argument :: rest =>
      if argument == "--" then some rest
      else if isDashed argument then none
      else (operands? rest).map (argument :: ·)

def alone? {α : Type} (answer : α) (arguments : List String) : Option α :=
  match operands? arguments with
  | some [] => some answer
  | _ => none

def view? : List String → Option View
  | "cluster.conf" :: rest => alone? .clusterConf rest
  | "kubeconfig" :: rest => alone? .kubeconfig rest
  | "prometheus.yaml" :: rest => alone? .prometheus rest
  | "nodes" :: rest => alone? .nodes rest
  | "json" :: rest => alone? .document rest
  | _ => none

def action? : List String → Option Action
  | "populate" :: rest => alone? .populate rest
  | "edit" :: rest => alone? .edit rest
  | "show" :: rest => (view? rest).map .view
  | "fqdn" :: rest =>
      match operands? rest with
      | some [name] => some (.view (.qualifiedName name))
      | _ => none
  | "keyserver" :: rest => alone? (.view .keyserver) rest
  | "etcd-endpoints" :: rest => alone? (.view .storeEndpoints) rest
  | "apiserver" :: rest => alone? (.view .apiserver) rest
  | "kube-spec" :: rest =>
      match operands? rest with
      | some (name :: settings) => some (.view (.kubeSpec name settings))
      | _ => none
  | _ => none

inductive Flag where
  | projectDirectory
  | resourceDirectory
deriving DecidableEq, Repr

namespace Flag

def all : List Flag := [.projectDirectory, .resourceDirectory]

def longName : Flag → String
  | .projectDirectory => "--project-dir"
  | .resourceDirectory => "--resource-dir"

def letter : Flag → Char
  | .projectDirectory => 'd'
  | .resourceDirectory => 'r'

/-- The value in an argument that is the given option: after the long name and an equals sign, or after
the letter with or without one. There may be none. -/
def attached? (flag : Flag) (argument : String) : Option (Option String) :=
  let characters := argument.toList
  let long := flag.longName.toList
  if characters == long then some none
  else if (long ++ ['=']).isPrefixOf characters then
    some (some (String.ofList (characters.drop (long.length + 1))))
  else
    match characters with
    | '-' :: letter :: rest =>
        if letter == flag.letter then
          match rest with
          | [] => some none
          | '=' :: value => some (some (String.ofList value))
          | value => some (some (String.ofList value))
        else none
    | _ => none

def read? (argument : String) : Option (Flag × Option String) :=
  all.findSome? fun flag => (flag.attached? argument).map fun value => (flag, value)

end Flag

/-- Give an option its value, which may not be empty. No option is given twice. -/
def Options.set? (options : Options) (flag : Flag) (value : String) : Option Options :=
  let present :=
    match flag with
    | .projectDirectory => options.projectDirectory
    | .resourceDirectory => options.resourceDirectory
  if value.isEmpty || present.isSome then none
  else
    match flag with
    | .projectDirectory => some { options with projectDirectory := some value }
    | .resourceDirectory => some { options with resourceDirectory := some value }

def asksVersion (argument : String) : Bool :=
  argument == "--version" || argument.startsWith "-V"

def requestFrom? (options : Options) : List String → Option Request
  | [] => none
  | argument :: rest =>
      if argument == "config" then (action? rest).map (.act options)
      else if asksVersion argument then some .version
      else
        match Flag.read? argument, rest with
        | some (flag, some value), rest => do
            requestFrom? (← options.set? flag value) rest
        | some (flag, none), value :: rest =>
            if isDashed value then none
            else do requestFrom? (← options.set? flag value) rest
        | _, _ => none

def request? (arguments : List String) : Option Request := requestFrom? {} arguments

end ClusterConfig.Command
