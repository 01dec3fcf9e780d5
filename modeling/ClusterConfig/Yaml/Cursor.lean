import ClusterConfig.Yaml.Character
import ClusterConfig.Yaml.Fault

set_option autoImplicit false

/-!
# Positions in a document

A cursor is the text that is still to be read and the place where it begins. Reading a character moves
the place by a column, or to the next line if the character is a break.
-/

namespace ClusterConfig.Yaml

def Mark.start : Mark := ⟨0, 0, 0⟩

def Mark.past (mark : Mark) (c : Char) : Mark :=
  if isBreak c then ⟨mark.offset + 1, mark.line + 1, 0⟩
  else ⟨mark.offset + 1, mark.line, mark.column + 1⟩

structure Cursor where
  rest : List Char
  mark : Mark

namespace Cursor

def next (cursor : Cursor) : Cursor :=
  match cursor.rest with
  | [] => cursor
  | c :: rest => ⟨rest, cursor.mark.past c⟩

/-- The cursor after as many characters as there are in `taken`, which begin the unread text. -/
def past (cursor : Cursor) (taken : List Char) : Cursor :=
  ⟨cursor.rest.drop taken.length, taken.foldl Mark.past cursor.mark⟩

/-- The longest run of characters of a class, and the cursor after it. -/
def span (cursor : Cursor) (accept : Char → Bool) : List Char × Cursor :=
  let taken := cursor.rest.takeWhile accept
  (taken, cursor.past taken)

def skip (cursor : Cursor) (accept : Char → Bool) : Cursor :=
  (cursor.span accept).2

def at? (cursor : Cursor) (c : Char) : Bool :=
  cursor.rest.head? == some c

def skipComment (cursor : Cursor) : Cursor :=
  if cursor.at? '#' then cursor.skip (fun c => !isBreak c) else cursor

def fault (cursor : Cursor) : Fault := .token cursor.mark

end Cursor

end ClusterConfig.Yaml
