set_option autoImplicit false

/-!
# Taking texts apart

Splitting at a separator character, and removing a known ending. All functions work on characters,
and the parts always join back to the text that was split.
-/

namespace ClusterConfig.Text

/-- The pieces between the occurrences of `separator`; there is always at least one piece. -/
def pieces (separator : Char) : List Char → List (List Char)
  | [] => [[]]
  | c :: cs =>
      if c = separator then [] :: pieces separator cs
      else
        match pieces separator cs with
        | [] => [[c]]
        | first :: others => (c :: first) :: others

def splitFirst? (separator : Char) : List Char → Option (List Char × List Char)
  | [] => none
  | c :: cs =>
      if c = separator then some ([], cs)
      else (splitFirst? separator cs).map fun (before, after) => (c :: before, after)

def splitAtFirst? (separator : Char) (text : String) : Option (String × String) :=
  (splitFirst? separator text.toList).map fun (before, after) =>
    (String.ofList before, String.ofList after)

def withoutSuffix? (ending text : String) : Option String :=
  let characters := text.toList
  let kept := characters.length - ending.length
  if ending.toList <:+ characters then some (String.ofList (characters.take kept)) else none

def join (separator : String) (texts : List String) : String :=
  String.intercalate separator texts

theorem splitFirst?_eq_some {separator : Char} {text before after : List Char}
    (split : splitFirst? separator text = some (before, after)) :
    text = before ++ separator :: after ∧ separator ∉ before := by
  induction text generalizing before with
  | nil => simp [splitFirst?] at split
  | cons c cs ih =>
      by_cases same : c = separator
      · simp only [splitFirst?, same, ↓reduceIte, Option.some.injEq, Prod.mk.injEq] at split
        obtain ⟨rfl, rfl⟩ := split
        simp [same]
      · simp only [splitFirst?, same, ↓reduceIte, Option.map_eq_some_iff] at split
        obtain ⟨⟨front, back⟩, found, equal⟩ := split
        obtain ⟨rfl, rfl⟩ := Prod.mk.inj equal
        obtain ⟨whole, absent⟩ := ih found
        exact ⟨by simp [whole], by simp [absent, Ne.symm same]⟩

theorem splitFirst?_eq_none {separator : Char} {text : List Char} :
    splitFirst? separator text = none ↔ separator ∉ text := by
  induction text with
  | nil => simp [splitFirst?]
  | cons c cs ih =>
      by_cases same : c = separator
      · simp [splitFirst?, same]
      · simp [splitFirst?, same, ih, Ne.symm same]

end ClusterConfig.Text
