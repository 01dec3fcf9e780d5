import ClusterConfig.Dictionary
import ClusterConfig.Text.Utf8

set_option autoImplicit false

/-!
# Templates

A template is a text in which keys between double braces stand for values. Reading a template takes it
apart into characters and placeholders, from left to right and without losing anything; rendering puts
the values in place of the placeholders, exactly as they are.
-/

namespace ClusterConfig.Template

inductive Segment where
  | literal (c : Char)
  | placeholder (key : String)
deriving DecidableEq, Repr

inductive Fault where
  | encoding (fault : Utf8.Fault)
  | unbound (key : String)
deriving DecidableEq, Repr

def Fault.message : Fault → String
  | .encoding fault => fault.message
  | .unbound key => "no value for placeholder " ++ key

def isKeyCharacter (c : Char) : Bool :=
  c.isAlphanum || c == '_' || c == '.' || c == '-'

def Segment.source : Segment → List Char
  | .literal c => [c]
  | .placeholder key => '\x7b' :: '\x7b' :: (key.toList ++ ['\x7d', '\x7d'])

/-- The key of a placeholder at the beginning of a text, and what follows the placeholder. -/
def placeholder? : List Char → Option (List Char × List Char)
  | '\x7b' :: '\x7b' :: rest =>
      let key := rest.takeWhile isKeyCharacter
      match rest.dropWhile isKeyCharacter with
      | '\x7d' :: '\x7d' :: after => if key.isEmpty then none else some (key, after)
      | _ => none
  | _ => none

theorem placeholder?_eq_some {text key after : List Char}
    (found : placeholder? text = some (key, after)) :
    text = '\x7b' :: '\x7b' :: (key ++ '\x7d' :: '\x7d' :: after) ∧ key ≠ []
      ∧ ∀ c ∈ key, isKeyCharacter c = true := by
  unfold placeholder? at found
  split at found
  · rename_i rest
    simp only at found
    split at found
    · rename_i after' ending
      split at found
      · simp at found
      · rename_i nonempty
        obtain ⟨rfl, rfl⟩ := Prod.mk.inj (Option.some.inj found)
        refine ⟨?_, by simpa using nonempty, fun c member => ?_⟩
        · conv => lhs; rw [← List.takeWhile_append_dropWhile (p := isKeyCharacter) (l := rest), ending]
        · have all := List.all_takeWhile (p := isKeyCharacter) (l := rest)
          exact List.all_eq_true.mp all c member
    · simp at found
  · simp at found

theorem length_lt_of_placeholder? {text key after : List Char}
    (found : placeholder? text = some (key, after)) : after.length < text.length := by
  simp [(placeholder?_eq_some found).1]
  omega

/-- The parts of a template. A placeholder is recognised wherever a text begins with one. -/
def segments (text : List Char) : List Segment :=
  match found : placeholder? text with
  | some (key, after) =>
      have : after.length < text.length := length_lt_of_placeholder? found
      .placeholder (String.ofList key) :: segments after
  | none =>
      match text with
      | [] => []
      | c :: rest => .literal c :: segments rest
termination_by text.length

/-- Nothing of a template is lost. -/
theorem source_segments (text : List Char) : (segments text).flatMap Segment.source = text := by
  fun_induction segments text with
  | case1 text key after found _ ih =>
      simp [Segment.source, ih, (placeholder?_eq_some found).1]
  | case2 => rfl
  | case3 c rest _ ih => simp [Segment.source, ih]

def Segment.fill (values : Dictionary String) : Segment → Except Fault (List Char)
  | .literal c => .ok [c]
  | .placeholder key =>
      match values.get? key with
      | some value => .ok value.toList
      | none => .error (.unbound key)

/-- Render a template. The first placeholder without a value is reported. -/
def render (values : Dictionary String) (text : String) : Except Fault String := do
  let parts ← (segments text.toList).mapM (Segment.fill values)
  pure (String.ofList parts.flatten)

def renderBytes (values : Dictionary String) (bytes : ByteArray) : Except Fault String := do
  let text ← (Utf8.decode bytes).mapError .encoding
  render values text

end ClusterConfig.Template
