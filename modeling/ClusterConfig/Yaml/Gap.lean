set_option autoImplicit false

/-!
# White space inside flow scalars

Between two words of a plain or quoted scalar stands a gap: blanks on one line, or line breaks with
blanks around them. Blanks on a line are kept. Where there is a break, the blanks are dropped, a single
line feed becomes a space, and otherwise the first line feed is dropped.
-/

namespace ClusterConfig.Yaml

/-- The white space read since the last word, the last character first: blanks on the current line, or
breaks, of which the first one may be escaped. -/
inductive Gap where
  | blanks (reversed : List Char)
  | lines (first : Option Char) (reversed : List Char)

namespace Gap

def none : Gap := .blanks []

def isNone : Gap → Bool
  | .blanks [] => true
  | _ => false

def isMultiline : Gap → Bool
  | .blanks _ => false
  | .lines _ _ => true

/-- A blank after the gap counts while the line lasts. -/
def addBlank (c : Char) : Gap → Gap
  | .blanks reversed => .blanks (c :: reversed)
  | .lines first reversed => .lines first reversed

/-- A break ends the line; the blanks before the first one are dropped. -/
def addBreak (c : Char) : Gap → Gap
  | .blanks _ => .lines (some c) []
  | .lines first reversed => .lines first (c :: reversed)

def reversedText : Gap → List Char
  | .blanks reversed => reversed
  | .lines (some '\n') [] => [' ']
  | .lines (some '\n') reversed => reversed
  | .lines first reversed => reversed ++ first.toList

end Gap

end ClusterConfig.Yaml
