set_option autoImplicit false

/-!
# Characters of YAML text

The classes of characters that structure a document. Before a document is split into tokens its line
breaks are normalized, so that a break is a single character from then on.
-/

namespace ClusterConfig.Yaml

def isBlank (c : Char) : Bool := c == ' ' || c == '\t'

def isBreak (c : Char) : Bool :=
  c == '\n' || c == '\r' || c == '\x85' || c == '\u2028' || c == '\u2029'

def blankFollows : List Char → Bool
  | [] => true
  | c :: _ => isBlank c || isBreak c

/-- A letter, digit, hyphen or underscore: the characters of anchors and tag handles. -/
def isWordCharacter (c : Char) : Bool := c.isAlphanum || c == '-' || c == '_'

def isFlowIndicator (c : Char) : Bool :=
  c == ',' || c == '[' || c == ']' || c == '{' || c == '}'

def isAllowed (c : Char) : Bool :=
  let point := c.toNat
  point == 0x09 || point == 0x0A || point == 0x0D || (0x20 ≤ point && point ≤ 0x7E) ||
    point == 0x85 || (0xA0 ≤ point && point ≤ 0xD7FF) || (0xE000 ≤ point && point ≤ 0xFFFD) ||
    0x10000 ≤ point

/-- Replace every line break but the Unicode separators by a line feed. A carriage return and the line
feed after it are one break. -/
def normalizeBreaks : List Char → List Char
  | '\r' :: '\n' :: rest => '\n' :: normalizeBreaks rest
  | c :: rest => (if c == '\r' || c == '\x85' then '\n' else c) :: normalizeBreaks rest
  | [] => []

/-- Whether a line that begins here is a document marker: three hyphens or three dots, alone or before
white space. -/
def markerFollows (marker : Char) : List Char → Bool
  | a :: b :: c :: rest => a == marker && b == marker && c == marker && blankFollows rest
  | _ => false

def anyMarkerFollows (text : List Char) : Bool :=
  markerFollows '-' text || markerFollows '.' text

end ClusterConfig.Yaml
