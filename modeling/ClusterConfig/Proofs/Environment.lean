import ClusterConfig.Environment
import ClusterConfig.Proofs.Dictionary

set_option autoImplicit false

/-!
# Laws of environments

A variable has the value that is set for it, or else the one in the first setting of its name.
-/

namespace ClusterConfig.Environment

variable {environment : Environment} {lines : List (List UInt8)} {name other value : String}

/-- The settings in lines, up to the first line that is not a setting. A setting may refer to variables of the
environment and to the settings before it. -/
def lineSettings (environment : Environment) : List (List UInt8) → List (String × String)
  | [] => []
  | line :: rest =>
      match Utf8.decode ⟨line.toArray⟩ with
      | .error _ => []
      | .ok text =>
          match environment.lineSetting? text with
          | none => []
          | some none => lineSettings environment rest
          | some (some (name, value)) =>
              (name, value) :: lineSettings (environment.supplement name value) rest

/-- The settings in the file of settings. -/
def fileSettings (environment : Environment) (tree : FileTree) : List (String × String) :=
  match settings? tree with
  | some content => lineSettings environment (fileLines content.toList)
  | none => []

/-- A setting gives a value to a variable that has none, and changes no other variable. -/
theorem get?_supplement (environment : Environment) (name value other : String) :
    (environment.supplement name value).get? other =
      (environment.get? other).or ([(name, value)].lookup other) := by
  rw [supplement, Dictionary.lookup_cons_if, List.lookup_nil]
  by_cases same : other = name
  · subst same
    rw [if_pos rfl]
    cases isSet : environment.get? other with
    | none => rw [Option.isSome_none, if_neg Bool.false_ne_true, Dictionary.get?_insert, if_pos rfl, Option.none_or]
    | some present => rw [Option.isSome_some, if_pos rfl, isSet, Option.some_or]
  · rw [if_neg same, Option.or_none]
    split
    · rfl
    · rw [Dictionary.get?_insert, if_neg same]

theorem get?_readLines (environment : Environment) (lines : List (List UInt8)) (name : String) :
    (readLines environment lines).get? name =
      (environment.get? name).or ((lineSettings environment lines).lookup name) := by
  induction lines generalizing environment with
  | nil => rw [readLines, lineSettings, List.lookup_nil, Option.or_none]
  | cons line rest ih =>
      rw [readLines, lineSettings]
      cases Utf8.decode ⟨line.toArray⟩ with
      | error _ => exact Option.or_none.symm
      | ok text =>
          dsimp only
          rw [readLine?]
          cases environment.lineSetting? text with
          | none => exact Option.or_none.symm
          | some found =>
              cases found with
              | none => exact ih environment
              | some setting =>
                  obtain ⟨present, value⟩ := setting
                  have rest := ih (environment.supplement present value)
                  rw [get?_supplement, Option.or_assoc, ← List.lookup_append] at rest
                  exact rest

theorem get?_withSettings (environment : Environment) (tree : FileTree) (name : String) :
    (environment.withSettings tree).get? name =
      (environment.get? name).or ((environment.fileSettings tree).lookup name) := by
  rw [withSettings, fileSettings]
  cases settings? tree with
  | none => exact Option.or_none.symm
  | some content => exact get?_readLines environment _ name

end ClusterConfig.Environment
