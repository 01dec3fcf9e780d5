import ClusterConfig.Generated.EnvFile
import ClusterConfig.Proofs.Dictionary
import ClusterConfig.Proofs.Text.Bytes
import Mathlib.Data.List.Dedup

set_option autoImplicit false

/-!
# Insertions into environment files

What stands in a file after insertions depends on the last insertion under each key only, and not on the
order in which the keys were inserted.
-/

namespace ClusterConfig.EnvFile

variable {insertions others : List (String × String)} {key value : String}

/-- Insert settings one after another. -/
def insertAll (insertions : List (String × String)) (file : EnvFile) : EnvFile :=
  insertions.foldl (fun current insertion => current.insert insertion.1 insertion.2) file

/-- The last insertion under the key is one of the value. -/
def InsertsLast (insertions : List (String × String)) (key value : String) : Prop :=
  ∃ before after, insertions = before ++ (key, value) :: after ∧ ∀ later ∈ after, later.1 ≠ key

/-- Every key that is inserted stands once among the settings, with the value that is inserted last, and
the settings are in the order of the bytes of their keys. -/
structure Settles (insertions settings : List (String × String)) : Prop where
  sorted : settings.Pairwise fun before after => Text.bytes before.1 < Text.bytes after.1
  keys : (settings.map Prod.fst).Perm (insertions.map Prod.fst).dedup
  values : ∀ key value, (key, value) ∈ settings ↔ InsertsLast insertions key value

theorem insertAll_cons (insertion : String × String) (rest : List (String × String)) (file : EnvFile) :
    file.insertAll (insertion :: rest) = (file.insert insertion.1 insertion.2).insertAll rest :=
  rfl

theorem insertAll_eq (insertions : List (String × String)) (file : EnvFile) :
    file.insertAll insertions = ⟨file.header, file.entries.insertAll insertions⟩ := by
  induction insertions generalizing file with
  | nil => rfl
  | cons insertion rest ih =>
      rw [insertAll_cons, ih]
      rfl

theorem insertAll_empty (insertions : List (String × String)) (header : String) :
    (empty header).insertAll insertions = ⟨header, .ofList insertions⟩ :=
  insertAll_eq insertions (empty header)

theorem lookup_reverse_iff_insertsLast :
    insertions.reverse.lookup key = some value ↔ InsertsLast insertions key value := by
  rw [List.lookup_eq_some_iff]
  constructor
  · intro found
    obtain ⟨after, before, isReverse, differ⟩ := found
    refine ⟨before.reverse, after.reverse, ?_, fun later member => ?_⟩
    · rw [← List.reverse_reverse insertions, isReverse]
      simp
    · have differs := differ later (List.mem_reverse.mp member)
      exact (bne_iff_ne.mp differs).symm
  · intro last
    obtain ⟨before, after, rfl, differ⟩ := last
    refine ⟨after.reverse, before.reverse, by simp, fun later member => ?_⟩
    exact bne_iff_ne.mpr (differ later (List.mem_reverse.mp member)).symm

theorem get?_insertAll_iff (header : String) :
    ((empty header).insertAll insertions).entries.get? key = some value ↔
      InsertsLast insertions key value := by
  rw [insertAll_empty, Dictionary.get?_ofList, lookup_reverse_iff_insertsLast]

theorem exists_insertsLast_iff :
    (∃ value, InsertsLast insertions key value) ↔ key ∈ insertions.map Prod.fst := by
  simp only [← lookup_reverse_iff_insertsLast]
  rw [← Option.isSome_iff_exists, ← Option.ne_none_iff_isSome, ne_eq, List.lookup_eq_none_iff]
  simp [@eq_comm String key]

theorem settles_insertAll (header : String) (insertions : List (String × String)) :
    Settles insertions ((empty header).insertAll insertions).entries.entries := by
  refine ⟨?_, ?_, fun key value => ?_⟩
  · exact (Dictionary.sorted _).imp Text.bytes_lt_iff.mpr
  · rw [List.perm_ext_iff_of_nodup (Dictionary.nodup_keys _) (List.nodup_dedup _)]
    intro key
    rw [Dictionary.mem_keys_iff, Option.isSome_iff_exists, List.mem_dedup, ← exists_insertsLast_iff]
    exact exists_congr fun value => get?_insertAll_iff header
  · rw [Dictionary.mem_iff_get?]
    exact get?_insertAll_iff header

theorem text_eq (file : EnvFile) :
    file.text = file.header ++ "\n" ++
      String.join (file.entries.entries.map fun setting => setting.1 ++ "=" ++ setting.2 ++ "\n") := by
  refine String.toList_injective ?_
  simp [text, lines, line, String.toList_join, List.flatMap_map]

theorem insertAll_congr (header : String)
    (same : ∀ key value, InsertsLast insertions key value ↔ InsertsLast others key value) :
    (empty header).insertAll insertions = (empty header).insertAll others := by
  rw [insertAll_empty, insertAll_empty]
  refine congrArg (EnvFile.mk header) (Dictionary.ext_get? fun key => Option.ext fun value => ?_)
  have alike := same key value
  rwa [← get?_insertAll_iff header, ← get?_insertAll_iff header, insertAll_empty, insertAll_empty] at alike

theorem insert_of_get? {file : EnvFile} (current : file.entries.get? key = some value) :
    file.insert key value = file := by
  have same : file.entries.insert key value = file.entries := by
    refine Dictionary.ext_get? fun other => ?_
    rw [Dictionary.get?_insert]
    by_cases isKey : other = key
    · rw [if_pos isKey, isKey, current]
    · rw [if_neg isKey]
  rw [insert, same]

/-- **Insertions.** After insertions a file has, below its heading, one line for every key that was inserted,
in the order of the bytes of the keys, with the value that was inserted last. So files with the same last
values have the same text, and to insert a value that is there already changes nothing. -/
theorem text_of_insertions (header : String) (insertions : List (String × String)) :
    (∃ settings, Settles insertions settings ∧
      ((empty header).insertAll insertions).text = header ++ "\n" ++
        String.join (settings.map fun setting => setting.1 ++ "=" ++ setting.2 ++ "\n")) ∧
      (∀ others, (∀ key value, InsertsLast insertions key value ↔ InsertsLast others key value) →
        ((empty header).insertAll others).text = ((empty header).insertAll insertions).text) ∧
      ∀ key value, InsertsLast insertions key value →
        ((empty header).insertAll insertions).insert key value = (empty header).insertAll insertions := by
  refine ⟨⟨_, settles_insertAll header insertions, ?_⟩, fun others same => ?_, fun key value last => ?_⟩
  · rw [text_eq, insertAll_empty]
  · rw [insertAll_congr header same]
  · exact insert_of_get? ((get?_insertAll_iff header).mpr last)

theorem text_of_insertions_sample :
    ((empty "#").insertAll [("é", "1"), ("z", "2"), ("é", "3"), ("za", "4")]).text =
        ((empty "#").insertAll [("za", "4"), ("é", "3"), ("z", "0"), ("z", "2")]).text ∧
      ((empty "#").insertAll [("za", "4"), ("é", "3"), ("z", "0"), ("z", "2")]).insert "é" "3" =
        (empty "#").insertAll [("za", "4"), ("é", "3"), ("z", "0"), ("z", "2")] := by
  obtain ⟨_, sameText, unchanged⟩ :=
    text_of_insertions "#" [("za", "4"), ("é", "3"), ("z", "0"), ("z", "2")]
  constructor
  · refine sameText _ fun key value => ?_
    rw [← lookup_reverse_iff_insertsLast, ← lookup_reverse_iff_insertsLast]
    simp only [List.reverse_cons, List.reverse_nil, List.nil_append, List.cons_append,
      Dictionary.lookup_cons_if]
    split_ifs <;> simp_all
  · exact unchanged "é" "3" ⟨[("za", "4")], [("z", "0"), ("z", "2")], rfl, by decide⟩

end ClusterConfig.EnvFile
