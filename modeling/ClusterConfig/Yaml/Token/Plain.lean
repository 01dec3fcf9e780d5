import ClusterConfig.Yaml.Cursor
import ClusterConfig.Yaml.Gap

set_option autoImplicit false

/-!
# Plain scalars

A plain scalar has no quotes and ends where something else must begin: at a colon before white space,
at a comment, at a document marker, in a flow collection at its indicators, and in block context at a
line that is not indented enough.
-/

namespace ClusterConfig.Yaml

structure PlainScalar where
  text : String
  cursor : Cursor
  endsLine : Bool

def plainEnds (inFlow : Bool) : List Char → Bool
  | ':' :: rest => blankFollows rest
  | c :: _ => inFlow && isFlowIndicator c
  | [] => true

/-- A colon directly before an indicator of the flow collection around it. -/
def isMisplacedColon (inFlow : Bool) : List Char → Bool
  | ':' :: c :: _ => inFlow && (isFlowIndicator c || c == '?')
  | _ => false

def plainEndsAfterGap (inFlow : Bool) (indentation column : Nat) (text : List Char) : Bool :=
  (!inFlow && decide (column < indentation)) || (column == 0 && anyMarkerFollows text) ||
    text.head? == some '#'

/-- Continue a plain scalar whose characters so far, the last one first, are `reversed`, after a gap.
Continuation lines are indented by at least `indentation`. -/
def plainFrom (inFlow : Bool) (indentation : Nat) :
    List Char → Mark → Gap → List Char → Except Fault PlainScalar
  | [], mark, gap, reversed =>
      .ok ⟨String.ofList reversed.reverse, ⟨[], mark⟩, gap.isMultiline⟩
  | c :: rest, mark, gap, reversed =>
      let stop : PlainScalar :=
        ⟨String.ofList reversed.reverse, ⟨c :: rest, mark⟩, gap.isMultiline⟩
      if isBlank c then
        if c == '\t' && gap.isMultiline && decide (mark.column < indentation) then
          .error (.token mark)
        else plainFrom inFlow indentation rest (mark.past c) (gap.addBlank c) reversed
      else if isBreak c then
        plainFrom inFlow indentation rest (mark.past c) (gap.addBreak c) reversed
      else if !gap.isNone && plainEndsAfterGap inFlow indentation mark.column (c :: rest) then
        .ok stop
      else if isMisplacedColon inFlow (c :: rest) then .error (.token mark)
      else if plainEnds inFlow (c :: rest) then .ok stop
      else
        plainFrom inFlow indentation rest (mark.past c) .none (c :: (gap.reversedText ++ reversed))

def readPlain (inFlow : Bool) (indentation : Nat) (cursor : Cursor) : Except Fault PlainScalar :=
  plainFrom inFlow indentation cursor.rest cursor.mark .none []

end ClusterConfig.Yaml
