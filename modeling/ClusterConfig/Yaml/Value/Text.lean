import ClusterConfig.Text.Blank
import ClusterConfig.Text.Split
import ClusterConfig.Yaml.Block.Writer

set_option autoImplicit false

/-!
# Texts of values

How a value is shown: a string as it is, other scalars as they are written plainly, and everything else
in block notation. A few values have no block notation, since a mapping of a single entry is where a tag
is expected; those are shown by their constructors.
-/

namespace ClusterConfig.Yaml.Value

def isSingular : Value → Bool
  | .mapping [_] | .tagged _ _ => true
  | _ => false

mutual

/-- Whether a value has a block notation; `isTagged` says whether it stands behind a tag. -/
def isWritable (isTagged : Bool) : Value → Bool
  | .sequence items => areWritable items
  | .mapping [(key, value)] =>
      (isTagged || !key.isSingular) && isWritable false key && isWritable false value
  | .mapping entries => haveWritable entries
  | .tagged _ value => !isTagged && isWritable true value
  | _ => true

def areWritable : List Value → Bool
  | [] => true
  | item :: rest => isWritable false item && areWritable rest

def haveWritable : Entries → Bool
  | [] => true
  | (key, value) :: rest => isWritable false key && isWritable false value && haveWritable rest

end

def shownCharacter (c : Char) : List Char :=
  match c with
  | '\x00' => ['\\', '0']
  | '\t' => ['\\', 't']
  | '\n' => ['\\', 'n']
  | '\r' => ['\\', 'r']
  | '"' => ['\\', '"']
  | '\\' => ['\\', '\\']
  | c =>
      if c.toNat < 0x20 || (0x7F ≤ c.toNat && c.toNat < 0xA0) then
        '\\' :: 'u' :: '\x7b' :: (Nat.toDigits 16 c.toNat ++ ['\x7d'])
      else [c]

def shownString (text : String) : String :=
  "\"" ++ String.ofList (text.toList.flatMap shownCharacter) ++ "\""

/-- A key in the constructor notation: scalars other than null are shown without a constructor. -/
def shownKey? : Value → Option String
  | .string text => some (shownString text)
  | .null => none
  | key => key.plainText?

mutual

def shown : Value → String
  | .null => "Null"
  | .bool value => "Bool(" ++ (if value then "true" else "false") ++ ")"
  | .number n => "Number(" ++ n.text ++ ")"
  | .string text => "String(" ++ shownString text ++ ")"
  | .sequence items => "Sequence [" ++ Text.join ", " (shownItems items) ++ "]"
  | .mapping entries => "Mapping \x7b" ++ Text.join ", " (shownEntries entries) ++ "\x7d"
  | .tagged tag value => "TaggedValue \x7b tag: !" ++ tag ++ ", value: " ++ shown value ++ " \x7d"

def shownItems : List Value → List String
  | [] => []
  | item :: rest => shown item :: shownItems rest

def shownEntries : Entries → List String
  | [] => []
  | (key, value) :: rest =>
      (key.shownKey?.getD (shown key) ++ ": " ++ shown value) :: shownEntries rest

end

def text : Value → String
  | .string text => text
  | .null => "null"
  | .bool value => if value then "true" else "false"
  | .number n => n.text
  | value =>
      if value.isWritable false then Text.trimEnd value.blockText else value.shown

def typeName : Value → String
  | .null => "null"
  | .bool _ => "bool"
  | .number _ => "number"
  | .string _ => "string"
  | .sequence _ => "sequence"
  | .mapping _ => "mapping"
  | .tagged _ _ => "tagged"

end ClusterConfig.Yaml.Value
