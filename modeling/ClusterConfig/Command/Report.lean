import ClusterConfig.Failure

set_option autoImplicit false

/-!
# Reports

How a command that fails says so: in one line, and with the causes that lie behind it. A single cause is
indented; several are numbered. Further lines of a cause stand below its first one.
-/

namespace ClusterConfig.Command

/-- Why a command fails, with what was said to the user before. -/
structure Report where
  message : String
  causes : List String := []
  remarks : String := ""
deriving DecidableEq, Repr

namespace Report

def ofFailure (failure : Failure) : Report where
  message := failure.message
  causes := failure.causes
  remarks :=
    match failure with
    | .editor _ fault => fault.remarks
    | _ => ""

def within (purpose : String) (report : Report) : Report :=
  { report with message := purpose, causes := report.message :: report.causes }

/-- A cause with a text in front of its first line, and another one in front of the others. -/
def indented (first others cause : String) : String :=
  first ++ Text.join ("\n" ++ others) ((Text.pieces '\n' cause.toList).map String.ofList)

def number (index : Nat) : String :=
  let digits := index.repr
  String.ofList (List.replicate (5 - digits.length) ' ') ++ digits ++ ": "

def causesText (causes : List String) : String :=
  match causes with
  | [] => ""
  | [cause] => "\n\nCaused by:\n" ++ indented "    " "    " cause
  | causes =>
      "\n\nCaused by:" ++ String.join (causes.mapIdx fun index cause =>
        "\n" ++ indented (number index) "       " cause)

def text (report : Report) : String :=
  report.remarks ++ "Error: " ++ report.message ++ causesText report.causes ++ "\n"

end Report

end ClusterConfig.Command
