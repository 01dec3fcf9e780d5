import ClusterConfig.Decimal.Radix
import ClusterConfig.Yaml.Cursor

set_option autoImplicit false

/-!
# Block scalars

A block scalar is an indicator, a header line and the indented lines below it. A literal scalar keeps
its line breaks. A folded one turns a single line feed between two lines into a space, unless one of
them begins with a blank. The header may set the indentation and what becomes of the final breaks.
-/

namespace ClusterConfig.Yaml

/-- Which of the line breaks at the end of a block scalar are kept: none, the first one, or all. -/
inductive Chomping where
  | strip
  | clip
  | keep
deriving DecidableEq, Repr

/-- The header of a block scalar. Its lines are indented by the increment more than the collection
around it. -/
structure BlockHeader where
  chomping : Chomping
  increment : Option Nat

def chomping? : Char → Option Chomping
  | '-' => some .strip
  | '+' => some .keep
  | _ => none

def increment? (c : Char) : Option Nat :=
  (Radix.digit? 10 c).filter (· ≠ 0)

/-- Read the indicators of a header, which may stand in either order. -/
def blockIndicators : List Char → BlockHeader × List Char
  | [] => (⟨.clip, none⟩, [])
  | c :: rest =>
      match chomping? c, increment? c, rest with
      | some chomping, _, d :: _ =>
          match increment? d with
          | some increment => (⟨chomping, some increment⟩, [c, d])
          | none => (⟨chomping, none⟩, [c])
      | some chomping, _, [] => (⟨chomping, none⟩, [c])
      | none, some increment, d :: _ =>
          match chomping? d with
          | some chomping => (⟨chomping, some increment⟩, [c, d])
          | none => (⟨.clip, some increment⟩, [c])
      | none, some increment, [] => (⟨.clip, some increment⟩, [c])
      | none, none, _ => (⟨.clip, none⟩, [])

/-- What has been read of the lines of a block scalar, the last character first. The breaks after the last
line with content stand apart, and while the indentation is not known, `widest` is the greatest number of
columns of a line without content. -/
structure BlockLines where
  indentation : Option Nat
  widest : Nat
  inContent : Bool
  beginsBlank : Bool
  break? : Option Char
  emptyLines : List Char
  reversed : List Char

namespace BlockLines

def start (indentation : Option Nat) : BlockLines :=
  { indentation, widest := 0, inContent := false, beginsBlank := false, break? := none,
    emptyLines := [], reversed := [] }

/-- The characters before a line with content, the last one first: the breaks since the last such line
are kept, or folded. -/
def joined (lines : BlockLines) (folded beginsBlank : Bool) : List Char :=
  if folded && lines.break? == some '\n' && !lines.beginsBlank && !beginsBlank then
    (if lines.emptyLines.isEmpty then [' '] else lines.emptyLines) ++ lines.reversed
  else lines.emptyLines ++ (lines.break?.toList ++ lines.reversed)

def text (lines : BlockLines) (chomping : Chomping) : String :=
  let tail :=
    match chomping with
    | .strip => []
    | .clip => lines.break?.toList
    | .keep => lines.emptyLines ++ lines.break?.toList
  String.ofList (tail ++ lines.reversed).reverse

end BlockLines

/-- Read the lines of a block scalar. An indentation that the header does not set is that of the first
line with content, but no less than `least` nor than the widest line before it. -/
def blockLinesFrom (folded : Bool) (least : Nat) :
    List Char → Mark → BlockLines → Except Fault (BlockLines × Cursor)
  | [], mark, lines => .ok (lines, ⟨[], mark⟩)
  | c :: rest, mark, lines =>
      let continueWith := blockLinesFrom folded least rest (mark.past c)
      let isShort := lines.indentation.all fun indentation => decide (mark.column < indentation)
      if lines.inContent then
        if isBreak c then continueWith { lines with inContent := false, break? := some c }
        else continueWith { lines with reversed := c :: lines.reversed }
      else if isShort && c == ' ' then continueWith lines
      else if isShort && c == '\t' then .error (.token mark)
      else
        let widest := max lines.widest mark.column
        if isBreak c then
          continueWith { lines with widest, emptyLines := c :: lines.emptyLines }
        else
          let indentation := lines.indentation.getD (max widest least)
          if mark.column = indentation then
            continueWith
              { lines with
                indentation := some indentation
                inContent := true
                beginsBlank := isBlank c
                break? := none
                emptyLines := []
                reversed := c :: lines.joined folded (isBlank c) }
          else .ok (lines, ⟨c :: rest, mark⟩)

/-- Read a block scalar at the cursor, which stands at its indicator. The collection around it is
indented by `parent` columns, if there is one. -/
def readBlock (folded : Bool) (parent : Option Nat) (cursor : Cursor) :
    Except Fault (String × Cursor) :=
  let afterIndicator := cursor.next
  let (header, indicators) := blockIndicators afterIndicator.rest
  let afterHeader := ((afterIndicator.past indicators).skip isBlank).skipComment
  match afterHeader.rest with
  | c :: _ =>
      if isBreak c then
        let body := afterHeader.next
        let indentation := header.increment.map (parent.getD 0 + ·)
        let least := parent.elim 1 (· + 1)
        match blockLinesFrom folded least body.rest body.mark (.start indentation) with
        | .ok (lines, after) => .ok (lines.text header.chomping, after)
        | .error fault => .error fault
      else .error afterHeader.fault
  | [] => .ok ("", afterHeader)

end ClusterConfig.Yaml
