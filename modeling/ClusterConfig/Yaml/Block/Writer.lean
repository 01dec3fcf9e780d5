import ClusterConfig.Yaml.Block.Scalar

set_option autoImplicit false

/-!
# Block text of values

Values in block notation: an entry of a collection on each line, nested collections indented by two
columns, but the entries of a sequence that is a mapping value not more than its key. Empty collections
are written in flow notation. A key that does not fit on a line gets an indicator of its own.
-/

namespace ClusterConfig.Yaml

def writtenTag (name : String) : List Char :=
  match name.toList with
  | '!' :: rest => '!' :: rest
  | characters => '!' :: characters

def isTagCharacter (c : Char) : Bool :=
  isWordCharacter c || ";/?:@&=+$,.~*'()[]".toList.contains c

/-- The characters of a tag, where those that may not stand in a tag are escaped byte by byte. -/
def encodedTag (characters : List Char) : List Char :=
  characters.flatMap fun c =>
    if isTagCharacter c then [c]
    else (String.singleton c).toUTF8.toList.flatMap fun byte => '%' :: hexadecimal 2 byte.toNat

/-- The greatest number of bytes of a key on one line, with its tag. -/
def greatestKeySize : Nat := 128

namespace Value

/-- The text of a value that is neither a string nor a collection. -/
def plainText? : Value → Option String
  | .null => some "null"
  | .bool true => some "true"
  | .bool false => some "false"
  | .number n => some n.text
  | _ => none

def lineSize? : Value → Option Nat
  | .string text => if text.toList.any isBreak then none else some text.utf8ByteSize
  | .sequence [] | .mapping [] => some 0
  | .sequence _ | .mapping _ => none
  | .tagged tag value =>
      (lineSize? value).map fun size => (String.ofList (writtenTag tag)).utf8ByteSize + size
  | value => value.plainText?.map (·.utf8ByteSize)

def isLineKey (value : Value) : Bool :=
  value.lineSize?.any fun size => decide (size ≤ greatestKeySize)

end Value

/-- Where a value is written: the column of the collection around it, whether it belongs to a mapping,
and whether it is a key without an indicator. -/
structure Place where
  column : Option Nat
  inMapping : Bool
  isLineKey : Bool

namespace Place

def top : Place := ⟨none, false, false⟩

def entries (place : Place) (isIndented : Bool) : Nat :=
  match place.column with
  | none => 0
  | some column => if isIndented then column + 2 else column

def lines (place : Place) : Nat := place.column.elim 2 (· + 2)

end Place

namespace Pen

def tag (name : String) (pen : Pen) : Pen :=
  match writtenTag name with
  | ['!'] => ((pen.separate.putAll "!<".toList).putAll (encodedTag ['!'])).closingIndicator '>'
  | characters =>
      ((pen.separate.put '!').putAll (encodedTag (characters.drop 1))).mark false false

def tag? (name : Option String) (pen : Pen) : Pen :=
  match name with
  | some name => pen.tag name
  | none => pen

mutual

def value (name : Option String) (place : Place) : Value → Pen → Pen
  | .null, pen => (pen.tag? name).plain "null".toList
  | .bool true, pen => (pen.tag? name).plain "true".toList
  | .bool false, pen => (pen.tag? name).plain "false".toList
  | .number number, pen => (pen.tag? name).plain number.text.toList
  | .string text, pen => (pen.tag? name).string place.lines place.isLineKey text
  | .sequence [], pen => ((pen.tag? name).openingIndicator '[').closingIndicator ']'
  | .sequence (first :: others), pen =>
      let pen := pen.tag? name
      items (place.entries (!place.inMapping || pen.isIndentation)) (first :: others) pen
  | .mapping [], pen => ((pen.tag? name).openingIndicator '\x7b').closingIndicator '\x7d'
  | .mapping (first :: others), pen => entries (place.entries true) (first :: others) (pen.tag? name)
  | .tagged tag inner, pen => value (some tag) place inner pen

def items (column : Nat) : List Value → Pen → Pen
  | [], pen => pen
  | item :: rest, pen =>
      items column rest
        (value none ⟨some column, false, false⟩ item ((pen.indent column).nestingIndicator '-'))

def entries (column : Nat) : Entries → Pen → Pen
  | [], pen => pen
  | (key, inner) :: rest, pen =>
      let pen := pen.indent column
      let pen :=
        if key.isLineKey then
          (value none ⟨some column, true, true⟩ key pen).closingIndicator ':'
        else
          let pen := value none ⟨some column, true, false⟩ key (pen.nestingIndicator '?')
          (pen.indent column).nestingIndicator ':'
      entries column rest (value none ⟨some column, true, false⟩ inner pen)

end

end Pen

def Value.blockText (value : Value) : String :=
  (Pen.start.value none .top value).text

end ClusterConfig.Yaml
