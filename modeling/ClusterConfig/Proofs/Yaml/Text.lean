import ClusterConfig.Proofs.Net.Parsing
import ClusterConfig.Proofs.Yaml.Writing
import ClusterConfig.Yaml.Value.Text

set_option autoImplicit false

/-!
# What values are shown as

Only a string without a tag is shown as an address or as the kind of a node: a number has at most one point,
and every collection and every tag is shown with an indicator.
-/

namespace ClusterConfig

namespace Yaml

/-!
## Numbers
-/

/-- A character other than the point that numbers are written with. -/
def isNumeralCharacter (c : Char) : Bool := c.isDigit || "-aefin".toList.contains c

/-- Characters of numbers with at most one point among them. -/
inductive IsNumeral : List Char → Prop where
  | whole {characters} : (∀ c ∈ characters, isNumeralCharacter c = true) → IsNumeral characters
  | pointed (front back) : (∀ c ∈ front, isNumeralCharacter c = true) →
      (∀ c ∈ back, isNumeralCharacter c = true) → IsNumeral (front ++ '.' :: back)

section Numbers

variable {characters digits : List Char} {c : Char}

theorem isNumeralCharacter_of_isDigit (isDigit : c.isDigit = true) : isNumeralCharacter c = true := by
  rw [isNumeralCharacter, isDigit, Bool.true_or]

theorem isNumeralCharacter_of_mem_repr {number : Nat} (member : c ∈ number.repr.toList) :
    isNumeralCharacter c = true := by
  rw [Nat.toList_repr] at member
  exact isNumeralCharacter_of_isDigit (Nat.isDigit_of_mem_toDigits (by decide) (by decide) member)

theorem isNumeralCharacter_of_mem_intRepr {number : Int} (member : c ∈ number.repr.toList) :
    isNumeralCharacter c = true := by
  cases number with
  | ofNat value => exact isNumeralCharacter_of_mem_repr member
  | negSucc value =>
      change c ∈ ("-" ++ (value + 1).repr).toList at member
      rw [String.toList_append] at member
      cases List.mem_append.mp member with
      | inl isSign =>
          obtain rfl := List.mem_singleton.mp isSign
          decide
      | inr inDigits => exact isNumeralCharacter_of_mem_repr inDigits

theorem isNumeralCharacter_of_mem_zeros {count : Nat} (member : c ∈ List.replicate count '0') :
    isNumeralCharacter c = true := by
  rw [List.eq_of_mem_replicate member]
  decide

theorem IsNumeral.negative (numeral : IsNumeral characters) : IsNumeral ('-' :: characters) := by
  have sign : isNumeralCharacter '-' = true := by decide
  cases numeral with
  | whole inside => exact .whole (List.forall_mem_cons.mpr ⟨sign, inside⟩)
  | pointed front back before behind =>
      exact .pointed ('-' :: front) back (List.forall_mem_cons.mpr ⟨sign, before⟩) behind

theorem IsNumeral.count_point_le (numeral : IsNumeral characters) : characters.count '.' ≤ 1 := by
  have absent {part : List Char} (inside : ∀ c ∈ part, isNumeralCharacter c = true) : part.count '.' = 0 := by
    refine List.count_eq_zero.mpr fun member => ?_
    have isCharacter := inside '.' member
    revert isCharacter
    decide
  cases numeral with
  | whole inside => exact (absent inside).le.trans (Nat.zero_le 1)
  | pointed front back before behind => rw [List.count_append, List.count_cons_self, absent before, absent behind]

theorem IsNumeral.not_mem (numeral : IsNumeral characters) (foreign : isNumeralCharacter c = false)
    (notPoint : c ≠ '.') : c ∉ characters := by
  have absent {part : List Char} (inside : ∀ c ∈ part, isNumeralCharacter c = true) : c ∉ part := fun member =>
    Bool.false_ne_true (foreign.symm.trans (inside c member))
  cases numeral with
  | whole inside => exact absent inside
  | pointed front back before behind =>
      intro member
      rcases List.mem_append.mp member with inFront | inBack
      · exact absent before inFront
      · rcases List.mem_cons.mp inBack with isPoint | later
        · exact notPoint isPoint
        · exact absent behind later

theorem isNumeral_layout (rule : Positional) (exponent : Int) (allDigits : ∀ c ∈ digits, c.isDigit = true) :
    IsNumeral (layout rule digits exponent) := by
  have inside : ∀ c ∈ digits, isNumeralCharacter c = true := fun c member =>
    isNumeralCharacter_of_isDigit (allDigits c member)
  unfold layout
  simp only
  split
  · refine .pointed (digits ++ List.replicate exponent.toNat '0') ['0'] ?_ (List.all_eq_true.mp (by decide))
    exact List.forall_mem_append.mpr ⟨inside, fun c => isNumeralCharacter_of_mem_zeros⟩
  · split
    · exact .pointed _ _ (fun c member => inside c (List.mem_of_mem_take member))
        fun c member => inside c (List.mem_of_mem_drop member)
    · split
      · refine .pointed ['0'] _ (List.all_eq_true.mp (by decide)) ?_
        exact List.forall_mem_append.mpr ⟨fun c => isNumeralCharacter_of_mem_zeros, inside⟩
      · have power (point : Int) : ∀ c ∈ 'e' :: (point - 1).repr.toList, isNumeralCharacter c = true :=
          List.forall_mem_cons.mpr ⟨by decide, fun c => isNumeralCharacter_of_mem_intRepr⟩
        cases digits with
        | nil => exact .whole (power _)
        | cons first rest =>
            obtain ⟨isFirst, areOthers⟩ := List.forall_mem_cons.mp inside
            cases rest with
            | nil => exact .whole (List.forall_mem_cons.mpr ⟨isFirst, power _⟩)
            | cons second others =>
                refine .pointed [first] _ (List.forall_mem_singleton.mpr isFirst) ?_
                exact List.forall_mem_append.mpr ⟨areOthers, power _⟩

theorem isNumeral_floatText (x : Binary64) : IsNumeral (floatText x) := by
  have signed {characters : List Char} (numeral : IsNumeral characters) :
      IsNumeral ((if x.isNegative then ['-'] else []) ++ characters) := by
    cases x.isNegative with
    | true => exact numeral.negative
    | false => exact numeral
  unfold floatText
  simp only
  split
  · exact .pointed [] "nan".toList (List.all_eq_true.mp (by decide)) (List.all_eq_true.mp (by decide))
  · split
    · exact signed (.pointed [] "inf".toList (List.all_eq_true.mp (by decide)) (List.all_eq_true.mp (by decide)))
    · split
      · exact signed (.pointed ['0'] ['0'] (List.all_eq_true.mp (by decide)) (List.all_eq_true.mp (by decide)))
      · exact signed (isNumeral_layout _ _ fun c member =>
          Nat.isDigit_of_mem_toDigits (by decide) (by decide) member)

/-- A number is written as a numeral. -/
theorem Number.isNumeral_text (number : Number) : IsNumeral number.text.toList := by
  cases number with
  | integer value => exact .whole fun c => isNumeralCharacter_of_mem_intRepr
  | float x =>
      rw [Number.text, String.toList_ofList]
      exact isNumeral_floatText x

end Numbers

/-!
## Values
-/

namespace Value

/-- Everything that a value can look like when it is shown. -/
inductive Look : Value → Prop where
  | string (text) : Look (.string text)
  | word {value} : value.text ∈ ["null", "true", "false"] → Look value
  | numeral {value} : IsNumeral value.text.toList → Look value
  | compound {value} : (∃ c ∈ indicators, c ∈ value.text.toList) → Look value

theorem visible_of_mem_indicators {c : Char} (member : c ∈ indicators) : Text.isWhiteSpace c = false := by
  have visible : indicators.all (fun c => !Text.isWhiteSpace c) = true := by decide
  simpa using List.all_eq_true.mp visible c member

/-- An indicator is kept in the text of a value, in whichever of the two notations it is shown. -/
theorem exists_indicator_of_notations {value : Value}
    (written : value.isWritable false = true → ∃ c ∈ indicators, c ∈ value.blockText.toList)
    (shown : ∃ c ∈ indicators, c ∈ value.shown.toList) :
    ∃ c ∈ indicators,
      c ∈ (if value.isWritable false then Text.trimEnd value.blockText else value.shown).toList := by
  split
  · rename_i isWritable
    obtain ⟨c, isIndicator, member⟩ := written isWritable
    exact ⟨c, isIndicator, Text.mem_trimEnd (visible_of_mem_indicators isIndicator) member⟩
  · exact shown

theorem exists_indicator_shown_sequence (items : List Value) :
    ∃ c ∈ indicators, c ∈ (Value.sequence items).shown.toList := by
  refine ⟨'[', by decide, ?_⟩
  change '[' ∈ ("Sequence [" ++ Text.join ", " (shownItems items) ++ "]").toList
  simp

theorem exists_indicator_shown_mapping (entries : Entries) :
    ∃ c ∈ indicators, c ∈ (Value.mapping entries).shown.toList := by
  refine ⟨'\x7b', by decide, ?_⟩
  change '\x7b' ∈ ("Mapping \x7b" ++ Text.join ", " (shownEntries entries) ++ "\x7d").toList
  simp

theorem exists_indicator_shown_tagged (tag : String) (inner : Value) :
    ∃ c ∈ indicators, c ∈ (Value.tagged tag inner).shown.toList := by
  refine ⟨'!', by decide, ?_⟩
  change '!' ∈ ("TaggedValue \x7b tag: !" ++ tag ++ ", value: " ++ inner.shown ++ " \x7d").toList
  simp

/-- A value that is not shown by its constructors has one tag at most. -/
theorem untagged_of_isWritable {tag : String} {value : Value}
    (isWritable : (Value.tagged tag value).isWritable false = true) :
    ∀ tag' inner, value ≠ .tagged tag' inner := by
  intro tag' inner isTagged
  subst isTagged
  simp [Value.isWritable] at isWritable

theorem look (value : Value) : value.Look := by
  cases value with
  | null => exact .word (by decide)
  | bool truth =>
      cases truth with
      | true => exact .word (by decide)
      | false => exact .word (by decide)
  | number number => exact .numeral number.isNumeral_text
  | string text => exact .string text
  | sequence items =>
      have inBlock : ∃ c ∈ indicators, c ∈ (Value.sequence items).blockText.toList :=
        exists_indicator_mem_blockText_sequence items
      exact .compound (exists_indicator_of_notations (fun _ => inBlock) (exists_indicator_shown_sequence items))
  | mapping entries =>
      have inBlock : ∃ c ∈ indicators, c ∈ (Value.mapping entries).blockText.toList :=
        exists_indicator_mem_blockText_mapping entries
      exact .compound (exists_indicator_of_notations (fun _ => inBlock) (exists_indicator_shown_mapping entries))
  | tagged tag inner =>
      refine .compound (exists_indicator_of_notations (fun isWritable => ?_) (exists_indicator_shown_tagged tag inner))
      exact ⟨'!', by decide, mark_mem_blockText_tagged tag inner (untagged_of_isWritable isWritable)⟩

end Value

end Yaml

theorem Address.count_point_text (address : Address) : address.text.toList.count '.' = 3 := by
  have arePieces : Text.pieces '.' address.text.toList = address.octets.map (Nat.toDigits 10) :=
    (Address.pieces_eq_numerals_iff (List.cons_ne_nil _ _)).mpr rfl
  have four := congrArg List.length arePieces
  rw [Text.length_pieces, List.length_map] at four
  exact Nat.succ.inj four

namespace Yaml.Value

/-- Only a string without a tag is shown as an address. -/
theorem eq_string_of_text_address {value : Value} {address : Address} (same : value.text = address.text) :
    value = .string address.text := by
  cases value.look with
  | string text => exact congrArg Value.string same
  | word isWord =>
      rw [same] at isWord
      have foreign (word : String) (c : Char) (inWord : c ∈ word.toList) (notDigit : c.isDigit = false)
          (notPoint : c ≠ '.') : address.text ≠ word := by
        intro isWord
        exact Address.not_mem_text notDigit notPoint (isWord ▸ inWord)
      simp [foreign "null" 'n', foreign "true" 't', foreign "false" 'f'] at isWord
  | numeral isNumeral =>
      have points := isNumeral.count_point_le
      rw [same, address.count_point_text] at points
      omega
  | compound facts =>
      obtain ⟨c, isIndicator, member⟩ := facts
      rw [same] at member
      have foreign : indicators.all (fun c => !c.isDigit && c != '.') = true := by decide
      obtain ⟨notDigit, notPoint⟩ : c.isDigit = false ∧ c ≠ '.' := by
        simpa using List.all_eq_true.mp foreign c isIndicator
      exact absurd member (Address.not_mem_text notDigit notPoint)

/-- Only a string without a tag is shown as the kind of a node. -/
theorem eq_string_of_text_kind {value : Value} {kind : Node.Kind} (same : value.text = kind.text) :
    value = .string kind.text := by
  cases value.look with
  | string text => exact congrArg Value.string same
  | word isWord =>
      have foreign : kind.text ∉ ["null", "true", "false"] := by cases kind <;> decide
      exact absurd (same ▸ isWord) foreign
  | numeral isNumeral =>
      have inKind : 'r' ∈ kind.text.toList := by cases kind <;> decide
      rw [← same] at inKind
      exact absurd inKind (isNumeral.not_mem (by decide) (by decide))
  | compound facts =>
      obtain ⟨c, isIndicator, member⟩ := facts
      rw [same] at member
      have foreign : indicators.all (fun c => !kind.text.toList.contains c) = true := by cases kind <;> decide
      have notInKind : c ∉ kind.text.toList := by simpa using List.all_eq_true.mp foreign c isIndicator
      exact absurd member notInKind

end Yaml.Value

end ClusterConfig
