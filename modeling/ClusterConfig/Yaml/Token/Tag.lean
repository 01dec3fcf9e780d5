import ClusterConfig.Decimal.Radix
import ClusterConfig.Yaml.Cursor
import ClusterConfig.Yaml.Token

set_option autoImplicit false

/-!
# Tags, anchors and directives

A tag is a handle and a suffix. The suffix is made of the characters of a locator, in which any byte may
be written as a percent sign and two hexadecimal digits; the escaped bytes have to group into
characters by their leading bits. A zero byte ends a suffix.
-/

namespace ClusterConfig.Yaml

def isLocatorCharacter (c : Char) : Bool :=
  isWordCharacter c || ";/?:@&=+$.!~*'()".toList.contains c

def isOpenLocatorCharacter (c : Char) : Bool :=
  isLocatorCharacter c || c == ',' || c == '[' || c == ']'

/-- The number of bytes of the character that a byte leads, by its leading bits alone. -/
def escapedWidth? (byte : Nat) : Option Nat :=
  if byte < 0x80 then some 1
  else if byte < 0xC0 then none
  else if byte < 0xE0 then some 2
  else if byte < 0xF0 then some 3
  else if byte < 0xF8 then some 4
  else none

/-- Read the rest of a locator whose bytes so far, the last one first, are `reversed`. The last escaped
character lacks `owed` bytes, which have to be escaped as well. There is no answer if an escape is
malformed. The text that was read is returned beside the bytes, the last character first. -/
def locatorFrom (accept : Char → Bool) :
    Nat → List UInt8 → List Char → List Char → Option (List UInt8 × List Char)
  | owed, reversed, taken, '%' :: rest =>
      match rest with
      | high :: low :: rest =>
          match Radix.digit? 16 high, Radix.digit? 16 low with
          | some high', some low' =>
              let byte := high' * 16 + low'
              let owed? :=
                if owed = 0 then (escapedWidth? byte).map (· - 1)
                else if 0x80 ≤ byte ∧ byte < 0xC0 then some (owed - 1)
                else none
              match owed? with
              | some owed =>
                  locatorFrom accept owed (UInt8.ofNat byte :: reversed)
                    (low :: high :: '%' :: taken) rest
              | none => none
          | _, _ => none
      | _ => none
  | owed, reversed, taken, c :: rest =>
      if owed ≠ 0 then none
      else if accept c then
        locatorFrom accept 0 (UInt8.ofNat c.toNat :: reversed) (c :: taken) rest
      else some (reversed.reverse, taken.reverse)
  | owed, reversed, taken, [] =>
      if owed ≠ 0 then none else some (reversed.reverse, taken.reverse)

/-- Read a locator. Its bytes end at a zero byte, and it may be empty only after a `head`. -/
def readLocator (accept : Char → Bool) (head : List UInt8) (mayBeEmpty : Bool) (cursor : Cursor) :
    Except Fault (List UInt8 × Cursor) :=
  match locatorFrom accept 0 [] [] cursor.rest with
  | none => .error cursor.fault
  | some (bytes, taken) =>
      if taken.isEmpty && !mayBeEmpty then .error cursor.fault
      else .ok ((head ++ bytes).takeWhile (· ≠ 0), cursor.past taken)

/-- Read a handle: an exclamation mark, or a word between two of them. Without the second mark the word
is returned as the beginning of a suffix. -/
def readHandle (cursor : Cursor) : Except Fault (List Char × Bool × Cursor) :=
  if cursor.at? '!' then
    let (word, after) := cursor.next.span isWordCharacter
    if after.at? '!' then .ok (word, true, after.next) else .ok (word, false, after)
  else .error cursor.fault

/-- Read a tag at the cursor. The tag `!` alone is a suffix without a handle. -/
def readTag (inFlow : Bool) (cursor : Cursor) : Except Fault (Token × Cursor) := do
  let (handle, suffix, after) ←
    if cursor.next.at? '<' then
      let (suffix, after) ← readLocator isOpenLocatorCharacter [] false cursor.next.next
      if after.at? '>' then pure ("", suffix, after.next) else throw after.fault
    else
      let (word, isHandle, after) ← readHandle cursor
      if isHandle then
        let (suffix, after) ← readLocator isLocatorCharacter [] false after
        pure ("!" ++ String.ofList word ++ "!", suffix, after)
      else
        let head := word.map fun c => UInt8.ofNat c.toNat
        let (suffix, after) ← readLocator isLocatorCharacter head true after
        if suffix.isEmpty then pure ("", "!".toUTF8.toList, after) else pure ("!", suffix, after)
  if blankFollows after.rest || (inFlow && after.at? ',') then
    pure (.tag handle suffix, after)
  else throw after.fault

def mayFollowName : List Char → Bool
  | [] => true
  | c :: rest => blankFollows (c :: rest) || "?:,]\x7d%@`".toList.contains c

def readName (cursor : Cursor) : Except Fault (String × Cursor) :=
  let (name, after) := cursor.next.span isWordCharacter
  if name.isEmpty || !mayFollowName after.rest then .error after.fault
  else .ok (String.ofList name, after)

def readVersionNumber (cursor : Cursor) : Except Fault (Nat × Cursor) :=
  let (digits, after) := cursor.span Char.isDigit
  match Radix.natural? 10 digits with
  | some number => if digits.length ≤ 9 then .ok (number, after) else .error cursor.fault
  | none => .error cursor.fault

def readOperands (name : String) (cursor : Cursor) : Except Fault (Token × Cursor) := do
  let cursor := cursor.skip isBlank
  match name with
  | "YAML" =>
      let (major, after) ← readVersionNumber cursor
      if after.at? '.' then
        let (minor, after) ← readVersionNumber after.next
        pure (.versionDirective major minor, after)
      else throw after.fault
  | "TAG" =>
      let (word, isHandle, after) ← readHandle cursor
      if !isHandle && !word.isEmpty then throw after.fault
      let handle := if isHandle then "!" ++ String.ofList word ++ "!" else "!"
      if !after.rest.head?.any isBlank then throw after.fault
      let (expansion, after) ←
        readLocator isOpenLocatorCharacter [] false (after.skip isBlank)
      if blankFollows after.rest then pure (.tagDirective handle expansion, after)
      else throw after.fault
  | _ => throw cursor.fault

def readDirective (cursor : Cursor) : Except Fault (Token × Cursor) := do
  let (name, after) := cursor.next.span isWordCharacter
  if name.isEmpty || !blankFollows after.rest then throw after.fault
  let (token, after) ← readOperands (String.ofList name) after
  let after := (after.skip isBlank).skipComment
  if after.rest.head?.all isBreak then pure (token, after.next) else throw after.fault

end ClusterConfig.Yaml
