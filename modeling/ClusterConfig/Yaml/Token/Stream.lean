import ClusterConfig.Yaml.Token.Block
import ClusterConfig.Yaml.Token.Plain
import ClusterConfig.Yaml.Token.Quoted
import ClusterConfig.Yaml.Token.Tag

set_option autoImplicit false

/-!
# Splitting a document into tokens

Block structure is found from columns: a deeper column opens a collection, a shallower one closes those
deeper than it. A mapping key needs no indicator of its own, so the place of every token that may turn
out to begin a key is remembered until a colon decides, a line ends, or too much text has passed.
-/

namespace ClusterConfig.Yaml

/-- A token that begins a mapping key if a colon follows; it has as many tokens before it as its
position says. Where it is required, nothing else than a key may stand. -/
structure PossibleKey where
  position : Nat
  mark : Mark
  isRequired : Bool

/-- The state of the division into tokens. The columns are those of the open block collections, and the
outer keys are the possible keys around the open flow collections, the innermost first. -/
structure Tokenizer where
  cursor : Cursor
  tokens : Array Token
  columns : List Nat
  possibleKey : Option PossibleKey
  outerKeys : List (Option PossibleKey)
  keyAllowed : Bool

namespace Tokenizer

def start (text : List Char) : Tokenizer :=
  { cursor := ⟨text, .start⟩, tokens := #[], columns := [], possibleKey := none, outerKeys := [],
    keyAllowed := true }

def inFlow (state : Tokenizer) : Bool := !state.outerKeys.isEmpty

def column (state : Tokenizer) : Nat := state.cursor.mark.column

/-- The least column of the continuation lines of a plain scalar. -/
def indentation (state : Tokenizer) : Nat := state.columns.head?.elim 0 (· + 1)

def push (token : Token) (state : Tokenizer) : Tokenizer :=
  { state with tokens := state.tokens.push token }

def moveTo (cursor : Cursor) (state : Tokenizer) : Tokenizer := { state with cursor }

def allowKey (keyAllowed : Bool) (state : Tokenizer) : Tokenizer := { state with keyAllowed }

/-- Open a block collection at a column deeper than the current one, by a token that stands at a
position. Inside flow collections columns do not count. -/
def openBlock (column position : Nat) (token : Token) (state : Tokenizer) : Tokenizer :=
  if state.inFlow || state.columns.head?.any (column ≤ ·) then state
  else
    { state with
      columns := column :: state.columns
      tokens := state.tokens.insertIdxIfInBounds position token }

def openBlockHere (token : Token) (state : Tokenizer) : Tokenizer :=
  state.openBlock state.column state.tokens.size token

def closeBlocks (accept : Nat → Bool) (state : Tokenizer) : Tokenizer :=
  if state.inFlow then state
  else
    let closed := state.columns.takeWhile fun column => !accept column
    { state with
      columns := state.columns.drop closed.length
      tokens := state.tokens ++ (closed.map fun _ => Token.blockEnd).toArray }

def closeAllBlocks (state : Tokenizer) : Tokenizer := state.closeBlocks fun _ => false

def dropKey (state : Tokenizer) : Except Fault Tokenizer :=
  match state.possibleKey with
  | some key => if key.isRequired then .error (.token key.mark) else .ok { state with possibleKey := none }
  | none => .ok state

def saveKey (state : Tokenizer) : Except Fault Tokenizer :=
  if state.keyAllowed then do
    let state ← state.dropKey
    let isRequired := !state.inFlow && state.columns.head? == some state.column
    pure
      { state with
        possibleKey := some ⟨state.tokens.size, state.cursor.mark, isRequired⟩ }
  else .ok state

/-- The greatest length of a key that needs no indicator. -/
def longestKey : Nat := 1024

/-- Whether a possible key is out of reach from a place: on an earlier line, or too far back. -/
def isStale (mark : Mark) (key : PossibleKey) : Bool :=
  decide (key.mark.line < mark.line) || decide (key.mark.offset + longestKey < mark.offset)

def dropStaleKeys (state : Tokenizer) : Except Fault Tokenizer :=
  let stale (key : Option PossibleKey) : Bool := key.any (isStale state.cursor.mark)
  let isLost (key : Option PossibleKey) : Bool := stale key && key.any (·.isRequired)
  let fresh (key : Option PossibleKey) : Option PossibleKey := if stale key then none else key
  if isLost state.possibleKey || state.outerKeys.any isLost then .error state.cursor.fault
  else
    .ok
      { state with
        possibleKey := fresh state.possibleKey
        outerKeys := state.outerKeys.map fresh }

/-- Skip white space and comments before the next token. In block context a key may begin on a new line,
and a tab may not indent what may be one. -/
def skipSpaceFrom (inFlow : Bool) : List Char → Mark → Bool → Bool → Cursor × Bool
  | [], mark, _, keyAllowed => (⟨[], mark⟩, keyAllowed)
  | c :: rest, mark, inComment, keyAllowed =>
      if isBreak c then
        skipSpaceFrom inFlow rest (mark.past c) false (keyAllowed || !inFlow)
      else if inComment || c == ' ' || (c == '\t' && (inFlow || !keyAllowed)) ||
          (c == '\uFEFF' && mark.column == 0) then
        skipSpaceFrom inFlow rest (mark.past c) inComment keyAllowed
      else if c == '#' then skipSpaceFrom inFlow rest (mark.past c) true keyAllowed
      else (⟨c :: rest, mark⟩, keyAllowed)

def skipSpace (state : Tokenizer) : Tokenizer :=
  let (cursor, keyAllowed) :=
    skipSpaceFrom state.inFlow state.cursor.rest state.cursor.mark false state.keyAllowed
  { state with cursor, keyAllowed }

def pushIndicator (token : Token) (state : Tokenizer) : Tokenizer :=
  (state.moveTo state.cursor.next).push token

/-- Add a token that closes the block structure before it: a directive or a document marker. -/
def pushOutermost (read : Cursor → Except Fault (Token × Cursor)) (state : Tokenizer) :
    Except Fault Tokenizer := do
  let state ← state.closeAllBlocks.dropKey
  let (token, cursor) ← read state.cursor
  pure (((state.allowKey false).moveTo cursor).push token)

def pushMarker (token : Token) (state : Tokenizer) : Except Fault Tokenizer :=
  state.pushOutermost fun cursor => .ok (token, cursor.next.next.next)

def openFlow (token : Token) (state : Tokenizer) : Except Fault Tokenizer := do
  let state ← state.saveKey
  pure
    (({ state with
        possibleKey := none
        outerKeys := state.possibleKey :: state.outerKeys }.allowKey true).pushIndicator token)

def closeFlow (token : Token) (state : Tokenizer) : Except Fault Tokenizer := do
  let state ← state.dropKey
  let state :=
    match state.outerKeys with
    | [] => state
    | key :: outerKeys => { state with possibleKey := key, outerKeys }
  pure ((state.allowKey false).pushIndicator token)

def pushFlowEntry (state : Tokenizer) : Except Fault Tokenizer := do
  let state ← state.dropKey
  pure ((state.allowKey true).pushIndicator .flowEntry)

def pushBlockEntry (state : Tokenizer) : Except Fault Tokenizer := do
  if !state.inFlow && !state.keyAllowed then throw state.cursor.fault
  let state ← (state.openBlockHere .blockSequenceStart).dropKey
  pure ((state.allowKey true).pushIndicator .blockEntry)

def pushKey (state : Tokenizer) : Except Fault Tokenizer := do
  if !state.inFlow && !state.keyAllowed then throw state.cursor.fault
  let state ← (state.openBlockHere .blockMappingStart).dropKey
  pure ((state.allowKey (!state.inFlow)).pushIndicator .key)

/-- Add the colon of a value. If there is a possible key, the colon makes it one. -/
def pushValue (state : Tokenizer) : Except Fault Tokenizer :=
  match state.possibleKey with
  | some key =>
      let state :=
        { state with
          possibleKey := none
          tokens := state.tokens.insertIdxIfInBounds key.position .key }
      let state := state.openBlock key.mark.column key.position .blockMappingStart
      .ok ((state.allowKey false).pushIndicator .value)
  | none =>
      if !state.inFlow && !state.keyAllowed then .error state.cursor.fault
      else
        let state := state.openBlockHere .blockMappingStart
        .ok ((state.allowKey (!state.inFlow)).pushIndicator .value)

def pushContent (read : Cursor → Except Fault (Token × Cursor)) (state : Tokenizer) :
    Except Fault Tokenizer := do
  let state ← state.saveKey
  let (token, cursor) ← read state.cursor
  pure (((state.allowKey false).moveTo cursor).push token)

def pushName (token : String → Token) (state : Tokenizer) : Except Fault Tokenizer :=
  state.pushContent fun cursor => do
    let (name, cursor) ← readName cursor
    pure (token name, cursor)

def pushQuoted (quote : Quote) (state : Tokenizer) : Except Fault Tokenizer :=
  state.pushContent fun cursor => do
    let (text, cursor) ← readQuoted quote cursor
    pure (.scalar .quoted text, cursor)

/-- Add a plain scalar. After one that a line break follows, a key may begin. -/
def pushPlain (state : Tokenizer) : Except Fault Tokenizer := do
  let state ← state.saveKey
  let scalar ← readPlain state.inFlow state.indentation state.cursor
  pure (((state.allowKey scalar.endsLine).moveTo scalar.cursor).push (.scalar .plain scalar.text))

def pushBlock (folded : Bool) (state : Tokenizer) : Except Fault Tokenizer := do
  let state ← state.dropKey
  let (text, cursor) ← readBlock folded state.columns.head? state.cursor
  pure (((state.allowKey true).moveTo cursor).push (.scalar .block text))

def isIndicator (c : Char) : Bool := "-?:,[]\x7b\x7d#&*!|>'\"%@`".toList.contains c

/-- Whether a plain scalar begins with a character before a text. A hyphen begins one unless a blank
follows, and in block context so do a question mark and a colon unless white space follows. -/
def beginsPlain (inFlow : Bool) (c : Char) (rest : List Char) : Bool :=
  !(isIndicator c || isBlank c || isBreak c) || (c == '-' && !rest.head?.any isBlank) ||
    (!inFlow && (c == '?' || c == ':') && !blankFollows rest)

/-- Add the token at the cursor, where the white space before it has been skipped and the blocks that
end before it are closed. -/
def pushToken (c : Char) (rest : List Char) (state : Tokenizer) : Except Fault Tokenizer :=
  let atLineStart := state.column == 0
  let isSeparate := blankFollows rest
  let isPart := state.inFlow || isSeparate
  if atLineStart && c == '%' then state.pushOutermost readDirective
  else if atLineStart && markerFollows '-' (c :: rest) then state.pushMarker .documentStart
  else if atLineStart && markerFollows '.' (c :: rest) then state.pushMarker .documentEnd
  else if c == '[' then state.openFlow .flowSequenceStart
  else if c == '{' then state.openFlow .flowMappingStart
  else if c == ']' then state.closeFlow .flowSequenceEnd
  else if c == '}' then state.closeFlow .flowMappingEnd
  else if c == ',' then state.pushFlowEntry
  else if c == '-' && isSeparate then state.pushBlockEntry
  else if c == '?' && isPart then state.pushKey
  else if c == ':' && isPart then state.pushValue
  else if c == '*' then state.pushName .alias
  else if c == '&' then state.pushName .anchor
  else if c == '!' then state.pushContent (readTag state.inFlow)
  else if c == '|' && !state.inFlow then state.pushBlock false
  else if c == '>' && !state.inFlow then state.pushBlock true
  else if c == '\'' then state.pushQuoted .single
  else if c == '"' then state.pushQuoted .double
  else if beginsPlain state.inFlow c rest then state.pushPlain
  else .error state.cursor.fault

/-- Split the rest of a text of `size` characters into tokens. Every token is at least one character
long, so the distance to the end of the text shrinks. -/
def run (size : Nat) (state : Tokenizer) : Except Fault (List Token) := do
  let separated ← state.skipSpace.dropStaleKeys
  match separated.cursor.rest with
  | [] =>
      let closed ← separated.closeAllBlocks.dropKey
      pure closed.tokens.toList
  | c :: rest =>
      let next ← (separated.closeBlocks (· ≤ separated.column)).pushToken c rest
      if _ : state.cursor.mark.offset < next.cursor.mark.offset ∧ next.cursor.mark.offset ≤ size then
        run size next
      else throw separated.cursor.fault
termination_by size - state.cursor.mark.offset
decreasing_by omega

end Tokenizer

def tokenize (text : List Char) : Except Fault (List Token) :=
  (Tokenizer.start text).run text.length

end ClusterConfig.Yaml
