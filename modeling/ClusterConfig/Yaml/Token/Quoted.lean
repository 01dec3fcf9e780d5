import ClusterConfig.Decimal.Radix
import ClusterConfig.Yaml.Cursor
import ClusterConfig.Yaml.Gap

set_option autoImplicit false

/-!
# Quoted scalars

A single-quoted scalar writes a quote twice; a double-quoted one knows escapes with a backslash. Both
may run over several lines.
-/

namespace ClusterConfig.Yaml

inductive Quote where
  | single
  | double
deriving DecidableEq, Repr

def Quote.character : Quote → Char
  | .single => '\''
  | .double => '"'

/-- How the next character of a scalar is to be read. Of an escape by digits, `left + 1` digits are
still to come after those with the given value. -/
inductive EscapeState where
  | none
  | letter
  | hexadecimal (left value : Nat)

def escapedCharacter? : Char → Option Char
  | '0' => some '\x00'
  | 'a' => some '\x07'
  | 'b' => some '\x08'
  | 't' => some '\t'
  | '\t' => some '\t'
  | 'n' => some '\n'
  | 'v' => some '\x0B'
  | 'f' => some '\x0C'
  | 'r' => some '\r'
  | 'e' => some '\x1B'
  | ' ' => some ' '
  | '"' => some '"'
  | '/' => some '/'
  | '\\' => some '\\'
  | 'N' => some '\x85'
  | '_' => some '\xA0'
  | 'L' => some '\u2028'
  | 'P' => some '\u2029'
  | _ => none

/-- The number of hexadecimal digits that the letter of an escape asks for, less one. -/
def escapeDigits? : Char → Option Nat
  | 'x' => some 1
  | 'u' => some 3
  | 'U' => some 7
  | _ => none

/-- The character with a code point. Surrogates are no characters. -/
def character? (point : Nat) : Option Char :=
  if valid : point.isValidChar then some (Char.ofNatAux point valid) else none

/-- Continue a quoted scalar whose characters so far, the last one first, are `reversed`. -/
def quotedFrom (quote : Quote) :
    List Char → Mark → Gap → EscapeState → List Char → Except Fault (String × Cursor)
  | [], mark, _, _, _ => .error (.token mark)
  | c :: rest, mark, gap, .hexadecimal left value, reversed =>
      match Radix.digit? 16 c with
      | none => .error (.token mark)
      | some digit =>
          let value := value * 16 + digit
          match left with
          | left + 1 =>
              quotedFrom quote rest (mark.past c) gap (.hexadecimal left value) reversed
          | 0 =>
              match character? value with
              | none => .error (.token mark)
              | some character =>
                  quotedFrom quote rest (mark.past c) .none .none (character :: reversed)
  | c :: rest, mark, gap, .letter, reversed =>
      if isBreak c then quotedFrom quote rest (mark.past c) (.lines none []) .none reversed
      else
        match escapedCharacter? c, escapeDigits? c with
        | some character, _ =>
            quotedFrom quote rest (mark.past c) .none .none (character :: reversed)
        | none, some left =>
            quotedFrom quote rest (mark.past c) gap (.hexadecimal left 0) reversed
        | none, none => .error (.token mark)
  | c :: rest, mark, gap, .none, reversed =>
      if isBlank c then quotedFrom quote rest (mark.past c) (gap.addBlank c) .none reversed
      else if isBreak c then quotedFrom quote rest (mark.past c) (gap.addBreak c) .none reversed
      else if !gap.isNone && mark.column == 0 && anyMarkerFollows (c :: rest) then
        .error (.token mark)
      else
        let reversed := gap.reversedText ++ reversed
        if c == quote.character then
          match quote, rest with
          | .single, '\'' :: rest =>
              quotedFrom quote rest ((mark.past c).past c) .none .none (c :: reversed)
          | _, _ => .ok (String.ofList reversed.reverse, ⟨rest, mark.past c⟩)
        else if quote = .double && c == '\\' then
          quotedFrom quote rest (mark.past c) .none .letter reversed
        else quotedFrom quote rest (mark.past c) .none .none (c :: reversed)

def readQuoted (quote : Quote) (cursor : Cursor) : Except Fault (String × Cursor) :=
  quotedFrom quote cursor.next.rest cursor.next.mark .none .none []

end ClusterConfig.Yaml
