import ClusterConfig.Text.Split

set_option autoImplicit false

/-!
# JSON

Documents of texts, lists and objects, and their layout over several lines: every member on a line of its
own, indented by two spaces for each level.
-/

namespace ClusterConfig

/-- A document. The members of an object keep their order. -/
inductive Json where
  | null
  | text (value : String)
  | list (items : List Json)
  | object (members : List (String × Json))

namespace Json

def hexByte (value : Nat) : List Char :=
  [Nat.digitChar (value / 16 % 16), Nat.digitChar (value % 16)]

/-- A character between quotes. Quotes, backslashes and control characters are escaped. -/
def escape (c : Char) : List Char :=
  match c with
  | '"' => ['\\', '"']
  | '\\' => ['\\', '\\']
  | '\n' => ['\\', 'n']
  | '\r' => ['\\', 'r']
  | '\t' => ['\\', 't']
  | '\x08' => ['\\', 'b']
  | '\x0C' => ['\\', 'f']
  | c => if c.toNat < 0x20 then ['\\', 'u', '0', '0'] ++ hexByte c.toNat else [c]

def quoted (text : String) : String :=
  "\"" ++ String.ofList (text.toList.flatMap escape) ++ "\""

def indent (level : Nat) : String := "\n" ++ String.ofList (List.replicate (2 * level) ' ')

def block (opening closing : String) (level : Nat) (parts : List String) : String :=
  if parts.isEmpty then opening ++ closing
  else
    opening ++ Text.join "," (parts.map fun part => indent (level + 1) ++ part) ++ indent level
      ++ closing

mutual

def layout (level : Nat) : Json → String
  | .null => "null"
  | .text value => quoted value
  | .list items => block "[" "]" level (layoutItems (level + 1) items)
  | .object members => block "\x7b" "\x7d" level (layoutMembers (level + 1) members)

def layoutItems (level : Nat) : List Json → List String
  | [] => []
  | item :: rest => layout level item :: layoutItems level rest

def layoutMembers (level : Nat) : List (String × Json) → List String
  | [] => []
  | (key, value) :: rest =>
      (quoted key ++ ": " ++ layout level value) :: layoutMembers level rest

end

def pretty (document : Json) : String := layout 0 document

end Json

end ClusterConfig
