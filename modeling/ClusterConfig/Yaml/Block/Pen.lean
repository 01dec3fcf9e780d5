import ClusterConfig.Yaml.Character

set_option autoImplicit false

/-!
# Writing in columns

The state of a block text that is being written: its characters, the column of the next one, and whether
the text ends in white space or in nothing but indicators since the last line break. Writing only ever
adds to the end of the text.
-/

namespace ClusterConfig.Yaml

/-- A text that is being written. It may end in white space, and its current line may hold only
indentation and indicators that can be nested in one line. -/
structure Pen where
  text : String
  column : Nat
  isSpaced : Bool
  isIndentation : Bool

namespace Pen

def start : Pen := ⟨"", 0, true, true⟩

def put (c : Char) (pen : Pen) : Pen :=
  { pen with text := pen.text.push c, column := if isBreak c then 0 else pen.column + 1 }

def putAll (characters : List Char) (pen : Pen) : Pen :=
  characters.foldl (fun pen c => pen.put c) pen

/-- Write a space unless the text ends in white space. -/
def separate (pen : Pen) : Pen :=
  if pen.isSpaced then pen else pen.put ' '

def mark (isSpaced isIndentation : Bool) (pen : Pen) : Pen := { pen with isSpaced, isIndentation }

/-- Begin a line at a column, or continue the line if it holds nothing but indentation so far. -/
def indent (column : Nat) (pen : Pen) : Pen :=
  let mustBreak :=
    !pen.isIndentation || decide (column < pen.column) || (column == pen.column && !pen.isSpaced)
  let pen := if mustBreak then pen.put '\n' else pen
  (pen.putAll (List.replicate (column - pen.column) ' ')).mark true true

/-- Write an indicator that content follows after a space: a hyphen, a question mark, or the colon of a
key that has an indicator of its own. -/
def nestingIndicator (c : Char) (pen : Pen) : Pen :=
  let pen := pen.separate.put c
  pen.mark false pen.isIndentation

def closingIndicator (c : Char) (pen : Pen) : Pen :=
  (pen.put c).mark false false

def openingIndicator (c : Char) (pen : Pen) : Pen :=
  (pen.separate.put c).mark false false

end Pen

end ClusterConfig.Yaml
