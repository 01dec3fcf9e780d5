import ClusterConfig.Yaml.Block.Writer

set_option autoImplicit false

/-!
# Writing in block notation

A pen only ever writes on behind what it has written, so that an indicator once written stays in the text.
Whatever else they hold, a sequence is written with a hyphen or a bracket, a mapping with a colon or a brace,
and a tag with an exclamation mark.
-/

namespace ClusterConfig.Yaml

namespace Pen

/-- The second pen has written on where the first one stands. -/
def Extends (pen later : Pen) : Prop := pen.text.toList <+: later.text.toList

variable {pen later : Pen} {c : Char}

theorem Extends.refl (pen : Pen) : pen.Extends pen := List.prefix_refl _

theorem Extends.trans {latest : Pen} (first : pen.Extends later) (second : later.Extends latest) :
    pen.Extends latest := List.IsPrefix.trans first second

theorem Extends.mem (grown : pen.Extends later) (member : c ∈ pen.text.toList) : c ∈ later.text.toList :=
  List.IsPrefix.subset grown member

theorem toList_put (c : Char) (pen : Pen) : (pen.put c).text.toList = pen.text.toList ++ [c] :=
  String.toList_push c

theorem extends_put (c : Char) (pen : Pen) : pen.Extends (pen.put c) := by
  rw [Extends, toList_put]
  exact List.prefix_append _ _

theorem mem_put (c : Char) (pen : Pen) : c ∈ (pen.put c).text.toList := by
  rw [toList_put]
  exact List.mem_append_right _ List.mem_cons_self

theorem extends_putAll (characters : List Char) (pen : Pen) : pen.Extends (pen.putAll characters) := by
  induction characters generalizing pen with
  | nil => exact .refl pen
  | cons c rest ih => exact (extends_put c pen).trans (ih (pen.put c))

theorem extends_mark (isSpaced isIndentation : Bool) (pen : Pen) : pen.Extends (pen.mark isSpaced isIndentation) :=
  .refl pen

theorem extends_separate (pen : Pen) : pen.Extends pen.separate := by
  unfold separate
  split
  · exact .refl pen
  · exact extends_put ' ' pen

theorem extends_indent (column : Nat) (pen : Pen) : pen.Extends (pen.indent column) := by
  unfold indent
  simp only
  split
  · exact (extends_put '\n' pen).trans ((extends_putAll _ _).trans (extends_mark _ _ _))
  · exact (extends_putAll _ _).trans (extends_mark _ _ _)

theorem extends_nestingIndicator (c : Char) (pen : Pen) : pen.Extends (pen.nestingIndicator c) :=
  (extends_separate pen).trans (extends_put c _)

theorem extends_closingIndicator (c : Char) (pen : Pen) : pen.Extends (pen.closingIndicator c) :=
  extends_put c pen

theorem extends_openingIndicator (c : Char) (pen : Pen) : pen.Extends (pen.openingIndicator c) :=
  (extends_separate pen).trans (extends_put c _)

theorem mem_nestingIndicator (c : Char) (pen : Pen) : c ∈ (pen.nestingIndicator c).text.toList :=
  mem_put c pen.separate

theorem mem_closingIndicator (c : Char) (pen : Pen) : c ∈ (pen.closingIndicator c).text.toList := mem_put c pen

theorem mem_openingIndicator (c : Char) (pen : Pen) : c ∈ (pen.openingIndicator c).text.toList :=
  mem_put c pen.separate

/-!
## Scalars and tags
-/

theorem extends_plain (text : List Char) (pen : Pen) : pen.Extends (pen.plain text) := by
  unfold plain
  split
  · exact (extends_putAll text pen).trans (extends_mark _ _ _)
  · exact (extends_separate pen).trans ((extends_putAll text _).trans (extends_mark _ _ _))

theorem extends_lines (column : Nat) (quote : Char → List Char) (text : List Char) (afterBreak : Bool) (pen : Pen) :
    pen.Extends (lines column quote text afterBreak pen) := by
  induction text generalizing afterBreak pen with
  | nil =>
      cases afterBreak with
      | true => exact extends_indent column pen
      | false => exact .refl pen
  | cons c rest ih =>
      rw [lines]
      split
      · exact (extends_put c pen).trans ((extends_mark _ _ _).trans (ih true _))
      · split
        · exact (extends_put c pen).trans (ih afterBreak _)
        · cases afterBreak with
          | true =>
              exact (extends_indent column pen).trans ((extends_putAll _ _).trans ((extends_mark _ _ _).trans (ih false _)))
          | false => exact (extends_putAll _ _).trans ((extends_mark _ _ _).trans (ih false _))

theorem extends_singleQuoted (column : Nat) (text : List Char) (pen : Pen) :
    pen.Extends (pen.singleQuoted column text) :=
  (extends_openingIndicator _ pen).trans ((extends_lines _ _ _ _ _).trans (extends_closingIndicator _ _))

theorem extends_doubleQuoted (text : List Char) (pen : Pen) : pen.Extends (pen.doubleQuoted text) :=
  (extends_openingIndicator _ pen).trans ((extends_putAll _ _).trans (extends_closingIndicator _ _))

theorem extends_literalLines (column : Nat) (text : List Char) (afterBreak : Bool) (pen : Pen) :
    pen.Extends (literalLines column text afterBreak pen) := by
  induction text generalizing afterBreak pen with
  | nil => exact .refl pen
  | cons c rest ih =>
      rw [literalLines]
      split
      · exact (extends_put c pen).trans ((extends_mark _ _ _).trans (ih true _))
      · cases afterBreak with
        | true =>
            exact (extends_indent column pen).trans ((extends_put c _).trans ((extends_mark _ _ _).trans (ih false _)))
        | false => exact (extends_put c pen).trans ((extends_mark _ _ _).trans (ih false _))

theorem extends_literal (column : Nat) (text : List Char) (pen : Pen) : pen.Extends (pen.literal column text) := by
  have header : pen.Extends (((pen.openingIndicator '|').putAll (literalHints text)).put '\n') :=
    (extends_openingIndicator _ pen).trans ((extends_putAll _ _).trans (extends_put _ _))
  exact header.trans ((extends_mark _ _ _).trans (extends_literalLines _ _ _ _))

theorem extends_string (column : Nat) (isKey : Bool) (text : String) (pen : Pen) :
    pen.Extends (pen.string column isKey text) := by
  unfold string
  cases stringStyle isKey text with
  | plain => exact extends_plain _ pen
  | singleQuoted => exact extends_singleQuoted _ _ pen
  | doubleQuoted => exact extends_doubleQuoted _ pen
  | literal => exact extends_literal _ _ pen

theorem extends_tag (name : String) (pen : Pen) : pen.Extends (pen.tag name) := by
  unfold tag
  split
  · exact (extends_separate pen).trans ((extends_putAll _ _).trans ((extends_putAll _ _).trans (extends_closingIndicator _ _)))
  · exact (extends_separate pen).trans ((extends_put _ _).trans ((extends_putAll _ _).trans (extends_mark _ _ _)))

theorem mem_tag (name : String) (pen : Pen) : '!' ∈ (pen.tag name).text.toList := by
  unfold tag
  split
  · have written : '!' ∈ (pen.separate.putAll "!<".toList).text.toList :=
      (extends_putAll ['<'] _).mem (mem_put '!' pen.separate)
    exact ((extends_putAll _ _).trans (extends_closingIndicator _ _)).mem written
  · exact ((extends_putAll _ _).trans (extends_mark _ _ _)).mem (mem_put '!' pen.separate)

theorem extends_tag? (name : Option String) (pen : Pen) : pen.Extends (pen.tag? name) := by
  cases name with
  | none => exact .refl pen
  | some name => exact extends_tag name pen

/-!
## Values
-/

mutual

theorem extends_value (name : Option String) (place : Place) :
    (value : Value) → (pen : Pen) → pen.Extends (pen.value name place value)
  | .null, pen => (extends_tag? name pen).trans (extends_plain _ _)
  | .bool true, pen => (extends_tag? name pen).trans (extends_plain _ _)
  | .bool false, pen => (extends_tag? name pen).trans (extends_plain _ _)
  | .number _, pen => (extends_tag? name pen).trans (extends_plain _ _)
  | .string text, pen => (extends_tag? name pen).trans (extends_string _ _ text _)
  | .sequence [], pen =>
      (extends_tag? name pen).trans ((extends_openingIndicator _ _).trans (extends_closingIndicator _ _))
  | .sequence (first :: others), pen => (extends_tag? name pen).trans (extends_items _ (first :: others) _)
  | .mapping [], pen =>
      (extends_tag? name pen).trans ((extends_openingIndicator _ _).trans (extends_closingIndicator _ _))
  | .mapping (first :: others), pen => (extends_tag? name pen).trans (extends_entries _ (first :: others) _)
  | .tagged tag inner, pen => extends_value (some tag) place inner pen

theorem extends_items (column : Nat) : (list : List Value) → (pen : Pen) → pen.Extends (items column list pen)
  | [], pen => .refl pen
  | item :: rest, pen =>
      ((extends_indent column pen).trans (extends_nestingIndicator '-' _)).trans
        ((extends_value none _ item _).trans (extends_items column rest _))

theorem extends_entries (column : Nat) : (list : Entries) → (pen : Pen) → pen.Extends (entries column list pen)
  | [], pen => .refl pen
  | (key, inner) :: rest, pen => by
      unfold entries
      refine ((extends_indent column pen).trans ?_).trans
        ((extends_value none _ inner _).trans (extends_entries column rest _))
      split
      · exact (extends_value none _ key _).trans (extends_closingIndicator ':' _)
      · exact (extends_nestingIndicator '?' _).trans ((extends_value none _ key _).trans
          ((extends_indent column _).trans (extends_nestingIndicator ':' _)))

end

/-- Whatever a value without a tag is written as, its tag is written before it. -/
theorem tag?_extends_value (name : Option String) (place : Place) (value : Value) (pen : Pen)
    (untagged : ∀ tag inner, value ≠ .tagged tag inner) : (pen.tag? name).Extends (pen.value name place value) := by
  cases value with
  | null => exact extends_plain _ _
  | bool truth => cases truth <;> exact extends_plain _ _
  | number => exact extends_plain _ _
  | string text => exact extends_string _ _ text _
  | sequence list =>
      cases list with
      | nil => exact (extends_openingIndicator _ _).trans (extends_closingIndicator _ _)
      | cons first others => exact extends_items _ (first :: others) _
  | mapping list =>
      cases list with
      | nil => exact (extends_openingIndicator _ _).trans (extends_closingIndicator _ _)
      | cons first others => exact extends_entries _ (first :: others) _
  | tagged tag inner => exact absurd rfl (untagged tag inner)

theorem mem_items (column : Nat) (first : Value) (others : List Value) (pen : Pen) :
    '-' ∈ (items column (first :: others) pen).text.toList :=
  ((extends_value none _ first _).trans (extends_items column others _)).mem
    (mem_nestingIndicator '-' (pen.indent column))

theorem mem_entries (column : Nat) (first : Value × Value) (others : Entries) (pen : Pen) :
    ':' ∈ (entries column (first :: others) pen).text.toList := by
  unfold entries
  refine ((extends_value none _ first.2 _).trans (extends_entries column others _)).mem ?_
  split
  · exact mem_closingIndicator ':' _
  · exact mem_nestingIndicator ':' _

end Pen

namespace Value

/-- An indicator that block notation writes for collections and tags. -/
def indicators : List Char := ['-', '[', ':', '\x7b', '!']

theorem exists_indicator_mem_blockText_sequence (items : List Value) :
    ∃ c ∈ indicators, c ∈ (Value.sequence items).blockText.toList := by
  cases items with
  | nil => exact ⟨'[', by decide, (Pen.extends_closingIndicator ']' _).mem (Pen.mem_openingIndicator '[' _)⟩
  | cons first others => exact ⟨'-', by decide, Pen.mem_items _ first others _⟩

theorem exists_indicator_mem_blockText_mapping (entries : Entries) :
    ∃ c ∈ indicators, c ∈ (Value.mapping entries).blockText.toList := by
  cases entries with
  | nil => exact ⟨'\x7b', by decide, (Pen.extends_closingIndicator '\x7d' _).mem (Pen.mem_openingIndicator '\x7b' _)⟩
  | cons first others => exact ⟨':', by decide, Pen.mem_entries _ first others _⟩

theorem mark_mem_blockText_tagged (tag : String) (value : Value)
    (untagged : ∀ tag inner, value ≠ .tagged tag inner) : '!' ∈ (Value.tagged tag value).blockText.toList :=
  (Pen.tag?_extends_value (some tag) .top value .start untagged).mem (Pen.mem_tag tag .start)

end Value

end ClusterConfig.Yaml
