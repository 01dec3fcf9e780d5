import ClusterConfig.Decimal.Radix
import ClusterConfig.Yaml.Fault
import ClusterConfig.Yaml.Token
import ClusterConfig.Yaml.Value

set_option autoImplicit false

/-!
# Typing of scalars

What the text of a scalar denotes. A plain scalar is null, a boolean, an integer or a floating-point
number if it has that form, and a string otherwise. A core tag demands one of the forms.
-/

namespace ClusterConfig.Yaml.Scalar

def isNull (text : String) : Bool := ["null", "Null", "NULL", "~"].contains text

def bool? (text : String) : Option Bool :=
  if ["true", "True", "TRUE"].contains text then some true
  else if ["false", "False", "FALSE"].contains text then some false
  else none

/-- Digits with a needless zero in front, after an optional sign. They are not a number. -/
def hasLeadingZero (text : List Char) : Bool :=
  let digits :=
    match text with
    | '+' :: rest | '-' :: rest => rest
    | text => text
  match digits with
  | '0' :: rest => !rest.isEmpty && rest.all Char.isDigit
  | _ => false

/-- The natural number that a text without a sign spells: in hexadecimal, octal or binary notation after
its mark, or else in decimal notation without a needless zero. -/
def magnitude? (text : List Char) : Option Nat :=
  let marked :=
    match text with
    | '0' :: 'x' :: digits => Radix.natural? 16 digits
    | '0' :: 'o' :: digits => Radix.natural? 8 digits
    | '0' :: 'b' :: digits => Radix.natural? 2 digits
    | _ => none
  marked <|> if hasLeadingZero text then none else Radix.natural? 10 text

/-- What an integer notation denotes: an integer of 64 bits, or one of more than these but at most 128. -/
inductive IntegerText where
  | fits (value : Int)
  | tooLarge

/-- The integer that a text spells, with an optional sign. Texts beyond 128 bits are no integers. -/
def integer? (text : List Char) : Option IntegerText :=
  match text with
  | '-' :: digits =>
      (magnitude? digits).bind fun magnitude =>
        if magnitude ≤ Nat.pow 2 63 then some (.fits (-magnitude))
        else if magnitude ≤ Nat.pow 2 127 then some .tooLarge
        else none
  | text =>
      let digits :=
        match text with
        | '+' :: rest => rest
        | text => text
      (magnitude? digits).bind fun magnitude =>
        if magnitude < Nat.pow 2 64 then some (.fits magnitude)
        else if magnitude < Nat.pow 2 128 then some .tooLarge
        else none

def exponent? : List Char → Option Int
  | [] => some 0
  | mark :: rest =>
      if mark == 'e' || mark == 'E' then
        match rest with
        | '-' :: digits => (Radix.natural? 10 digits).map fun value => -(value : Int)
        | '+' :: digits => (Radix.natural? 10 digits).map fun value => (value : Int)
        | digits => (Radix.natural? 10 digits).map fun value => (value : Int)
      else none

/-- The finite number that is nearest to a decimal without a sign: digits with at most one point among
them, and an exponent. -/
def decimal? (text : List Char) : Option Binary64 :=
  let whole := text.takeWhile Char.isDigit
  let (fraction, rest) :=
    match text.drop whole.length with
    | '.' :: rest => (rest.takeWhile Char.isDigit, rest.dropWhile Char.isDigit)
    | rest => ([], rest)
  match Radix.natural? 10 (whole ++ fraction), exponent? rest with
  | some digits, some exponent => Binary64.ofDecimal? digits (exponent - fraction.length)
  | _, _ => none

def float? (text : String) : Option Binary64 :=
  if [".inf", ".Inf", ".INF", "+.inf", "+.Inf", "+.INF"].contains text then some .infinity
  else if ["-.inf", "-.Inf", "-.INF"].contains text then some Binary64.infinity.negate
  else if [".nan", ".NaN", ".NAN"].contains text then some .notANumber
  else
    match text.toList with
    | '+' :: rest => decimal? rest
    | '-' :: rest => (decimal? rest).map Binary64.negate
    | rest => decimal? rest

def plainValue (text : String) : Except Fault Value :=
  if text.isEmpty || isNull text then .ok .null
  else
    match bool? text with
    | some value => .ok (.bool value)
    | none =>
        match integer? text.toList with
        | some (.fits value) => .ok (.number (.integer value))
        | some .tooLarge => .error (.integerRange text)
        | none =>
            if hasLeadingZero text.toList then .ok (.string text)
            else
              match float? text with
              | some value => .ok (.number (.float value))
              | none => .ok (.string text)

inductive CoreType where
  | bool
  | integer
  | float
  | null
deriving DecidableEq, Repr

def coreTags : List (List UInt8 × CoreType) :=
  [("tag:yaml.org,2002:bool", .bool), ("tag:yaml.org,2002:int", .integer),
    ("tag:yaml.org,2002:float", .float), ("tag:yaml.org,2002:null", .null)].map
    fun (tag, type) => (tag.toUTF8.toList, type)

def coreValue (type : CoreType) (text : String) : Except Fault Value :=
  let found : Option Value :=
    match type with
    | .bool => (bool? text).map .bool
    | .integer =>
        (integer? text.toList).bind fun
          | .fits value => some (.number (.integer value))
          | .tooLarge => none
    | .float => (float? text).map fun value => .number (.float value)
    | .null => if isNull text then some .null else none
  match found with
  | some value => .ok value
  | none => .error (.scalarForm text)

def isLocalTag (tag : List UInt8) : Bool := tag.head? == some '!'.toUInt8

/-- The name of a local tag, if its bytes are a text. The exclamation mark is no part of the name, and
the tag that is nothing else is its own name; of two marks in front, neither is. -/
def tagName? (tag : List UInt8) : Option String :=
  if isLocalTag tag then
    let name := tag.drop 1
    let shown :=
      match name with
      | [] => tag
      | mark :: others => if mark == '!'.toUInt8 && !others.isEmpty then others else name
    match Utf8.decode ⟨shown.toArray⟩ with
    | .ok text => some text
    | .error _ => none
  else none

/-- The value of a scalar. Its tag, unless it is already accounted for, may demand a type; a tag that
says nothing about the type leaves a string. -/
def value (tag : Option (List UInt8)) (style : ScalarStyle) (text : String) : Except Fault Value :=
  match tag with
  | none => if style = .plain then plainValue text else .ok (.string text)
  | some tag =>
      match coreTags.lookup tag with
      | some type => coreValue type text
      | none =>
          if isLocalTag tag && style == .plain then plainValue text else .ok (.string text)

end ClusterConfig.Yaml.Scalar
