import ClusterConfig.Yaml.Block.Pen
import ClusterConfig.Yaml.Value.Scalar

set_option autoImplicit false

/-!
# Written scalars

How a string is written in block context: plain if it reads back as that string, in single quotes if it
would read as something else, as a literal if it has line feeds, and in double quotes where nothing else
is able to hold it.
-/

namespace ClusterConfig.Yaml

inductive WrittenStyle where
  | plain
  | singleQuoted
  | doubleQuoted
  | literal
deriving DecidableEq, Repr

def isPrintable (c : Char) : Bool :=
  let point := c.toNat
  point == 0x0A || (0x20 ≤ point && point ≤ 0x7E) || (0xA0 ≤ point && point ≤ 0xD7FF) ||
    (0xE000 ≤ point && point ≤ 0xFFFD && point != 0xFEFF) || 0x10000 ≤ point

/-- A blank, a line break or a zero character: what separates an indicator from a word. -/
def isSeparator (c : Char) : Bool := isBlank c || isBreak c || c == '\x00'

def separatorFollows : List Char → Bool
  | [] => true
  | c :: _ => isSeparator c

def beginsWithIndicator (c : Char) (rest : List Char) : Bool :=
  "#,[]\x7b\x7d&*!|>'\"%@`".toList.contains c ||
    ((c == '?' || c == ':' || c == '-') && separatorFollows rest)

/-- Whether a colon before white space, or a number sign after it, stands in a text after `previous`. -/
def hasInnerIndicator (previous : Char) : List Char → Bool
  | [] => false
  | c :: rest =>
      (c == ':' && separatorFollows rest) || (c == '#' && isSeparator previous) ||
        hasInnerIndicator c rest

def hasNeighbours (first second : Char → Bool) : List Char → Bool
  | a :: b :: rest => (first a && second b) || hasNeighbours first second (b :: rest)
  | _ => false

/-- What stands in the way of the ways to write a text: what would not be read as a scalar, characters
that are not written as themselves, and spaces and breaks at an end or beside each other. -/
structure TextShape where
  hasIndicators : Bool
  hasBreaks : Bool
  hasSpecial : Bool
  hasOuterSpace : Bool
  endsWithSpace : Bool
  hasBreakSpace : Bool
  hasSpaceBreak : Bool

def isSpace (c : Char) : Bool := c == ' '

def TextShape.of (text : List Char) : TextShape :=
  let isOuter (c : Char) : Bool := isSpace c || isBreak c
  { hasIndicators :=
      "---".toList.isPrefixOf text || "...".toList.isPrefixOf text ||
        match text with
        | [] => false
        | c :: rest => beginsWithIndicator c rest || hasInnerIndicator c rest
    hasBreaks := text.any isBreak
    hasSpecial := text.any fun c => !isPrintable c
    hasOuterSpace := text.head?.any isOuter || text.getLast?.any isOuter
    endsWithSpace := text.getLast?.any isSpace
    hasBreakSpace := hasNeighbours isBreak isSpace text
    hasSpaceBreak := hasNeighbours isSpace isBreak text }

namespace TextShape

def allowsPlain (shape : TextShape) : Bool :=
  !(shape.hasIndicators || shape.hasBreaks || shape.hasSpecial || shape.hasOuterSpace ||
    shape.hasBreakSpace || shape.hasSpaceBreak)

def allowsSingleQuotes (shape : TextShape) : Bool :=
  !(shape.hasSpecial || shape.hasBreakSpace || shape.hasSpaceBreak)

def allowsLiteral (shape : TextShape) : Bool :=
  !(shape.hasSpecial || shape.endsWithSpace || shape.hasSpaceBreak)

end TextShape

def readsAsOther (text : String) : Bool :=
  match Scalar.plainValue text with
  | .ok (.string _) => Scalar.hasLeadingZero text.toList
  | _ => true

def stringStyle (isKey : Bool) (text : String) : WrittenStyle :=
  let shape := TextShape.of text.toList
  let quoted : WrittenStyle := if shape.allowsSingleQuotes then .singleQuoted else .doubleQuoted
  if isKey && shape.hasBreaks then .doubleQuoted
  else if text.toList.contains '\n' then
    if shape.allowsLiteral && !isKey then .literal else .doubleQuoted
  else if readsAsOther text then quoted
  else if shape.allowsPlain then .plain
  else quoted

/-- Digits of a number in hexadecimal notation, with capital letters and at least `width` of them. -/
def hexadecimal (width number : Nat) : List Char :=
  let digits := (Nat.toDigits 16 number).map Char.toUpper
  List.replicate (width - digits.length) '0' ++ digits

def escaped (c : Char) : List Char :=
  let letter? : Option Char :=
    match c with
    | '\x00' => some '0'
    | '\x07' => some 'a'
    | '\x08' => some 'b'
    | '\t' => some 't'
    | '\n' => some 'n'
    | '\x0B' => some 'v'
    | '\x0C' => some 'f'
    | '\r' => some 'r'
    | '\x1B' => some 'e'
    | '"' => some '"'
    | '\\' => some '\\'
    | '\x85' => some 'N'
    | '\u2028' => some 'L'
    | '\u2029' => some 'P'
    | _ => none
  match letter? with
  | some letter => ['\\', letter]
  | none =>
      if isPrintable c then [c]
      else if c.toNat ≤ 0xFF then '\\' :: 'x' :: hexadecimal 2 c.toNat
      else if c.toNat ≤ 0xFFFF then '\\' :: 'u' :: hexadecimal 4 c.toNat
      else '\\' :: 'U' :: hexadecimal 8 c.toNat

namespace Pen

def plain (text : List Char) (pen : Pen) : Pen :=
  ((if text.isEmpty then pen else pen.separate).putAll text).mark false false

/-- Write the lines of a text, each at a column. A line that is continued is not indented again. -/
def lines (column : Nat) (quote : Char → List Char) : List Char → (afterBreak : Bool) → Pen → Pen
  | [], afterBreak, pen => if afterBreak then pen.indent column else pen
  | c :: rest, afterBreak, pen =>
      if isBreak c then lines column quote rest true ((pen.put c).mark pen.isSpaced true)
      else if isSpace c then lines column quote rest afterBreak (pen.put c)
      else
        let pen := if afterBreak then pen.indent column else pen
        lines column quote rest false ((pen.putAll (quote c)).mark pen.isSpaced false)

def singleQuoted (column : Nat) (text : List Char) (pen : Pen) : Pen :=
  let doubled (c : Char) : List Char := if c == '\'' then [c, c] else [c]
  (lines column doubled text false (pen.openingIndicator '\'')).closingIndicator '\''

def doubleQuoted (text : List Char) (pen : Pen) : Pen :=
  ((pen.openingIndicator '"').putAll (text.flatMap escaped)).closingIndicator '"'

/-- The indicators behind that of a literal: the indentation if the text begins with white space, and
what becomes of the breaks at its end. -/
def literalHints (text : List Char) : List Char :=
  let indentation := if text.head?.any fun c => isSpace c || isBreak c then ['2'] else []
  let chomping :=
    match text.reverse with
    | [] => ['-']
    | [last] => if isBreak last then ['+'] else ['-']
    | last :: previous :: _ =>
        if !isBreak last then ['-'] else if isBreak previous then ['+'] else []
  indentation ++ chomping

/-- Write the lines of a literal, each at a column; empty lines are not indented. -/
def literalLines (column : Nat) : List Char → (afterBreak : Bool) → Pen → Pen
  | [], _, pen => pen
  | c :: rest, afterBreak, pen =>
      if isBreak c then literalLines column rest true ((pen.put c).mark pen.isSpaced true)
      else
        let pen := if afterBreak then pen.indent column else pen
        literalLines column rest false ((pen.put c).mark pen.isSpaced false)

def literal (column : Nat) (text : List Char) (pen : Pen) : Pen :=
  let header := ((pen.openingIndicator '|').putAll (literalHints text)).put '\n'
  literalLines column text true (header.mark true true)

def string (column : Nat) (isKey : Bool) (text : String) (pen : Pen) : Pen :=
  match stringStyle isKey text with
  | .plain => pen.plain text.toList
  | .singleQuoted => pen.singleQuoted column text.toList
  | .doubleQuoted => pen.doubleQuoted text.toList
  | .literal => pen.literal column text.toList

end Pen

end ClusterConfig.Yaml
