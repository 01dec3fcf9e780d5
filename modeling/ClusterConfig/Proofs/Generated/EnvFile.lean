import ClusterConfig.Generated.EnvFile
import ClusterConfig.Proofs.Text

set_option autoImplicit false

/-!
# Reading environment files back

An environment file is written without marks around keys and values. What is in it is found again in its
text unless a line feed, or an equals sign in a key, stands where it is taken for the end of a part.
-/

namespace ClusterConfig.EnvFile

variable {file : EnvFile}

/-- The text of a file has the heading as its first line, and then one line for each of the entries, in
the order of the keys: a line which has the key before its first equals sign and the value after it. -/
structure ReadsBack (file : EnvFile) : Prop where
  sorted : file.entries.entries.Pairwise fun before after => before.1 < after.1
  lines : ∃ settings,
    (Text.pieces '\n' file.text.toList).map String.ofList = file.header :: settings ++ [""] ∧
      settings.map (Text.splitAtFirst? '=') = file.entries.entries.map some

theorem toList_text (file : EnvFile) :
    file.text.toList = (file.lines.map String.toList).flatMap (· ++ ['\n']) := by
  simp [text, String.toList_join, List.flatMap_map]

theorem lines_of_not_mem (absent : ∀ line ∈ file.lines, '\n' ∉ line.toList) :
    (Text.pieces '\n' file.text.toList).map String.ofList = file.lines ++ [""] := by
  have areLines : ∀ line ∈ file.lines.map String.toList, '\n' ∉ line := by
    intro line member
    obtain ⟨written, isLine, rfl⟩ := List.mem_map.mp member
    exact absent written isLine
  rw [toList_text, Text.pieces_lines areLines]
  simp [Function.comp_def]

theorem not_mem_of_readsBack (readsBack : file.ReadsBack) : ∀ line ∈ file.lines, '\n' ∉ line.toList := by
  obtain ⟨settings, areLines, areEntries⟩ := readsBack.lines
  have same : settings.length = file.entries.entries.length := by
    simpa using congrArg List.length areEntries
  have count : (Text.pieces '\n' file.text.toList).length = (file.lines.map String.toList).length + 1 := by
    simpa [lines, same] using congrArg List.length areLines
  rw [toList_text] at count
  intro line member
  exact Text.not_mem_of_length_pieces count _ (List.mem_map_of_mem member)

theorem splitAtFirst?_line_iff {entry : String × String} :
    Text.splitAtFirst? '=' (line entry) = some entry ↔ '=' ∉ entry.1.toList := by
  rw [Text.splitAtFirst?_eq_some_iff]
  exact and_iff_right rfl

theorem not_mem_line_iff {entry : String × String} :
    '\n' ∉ (line entry).toList ↔ '\n' ∉ entry.1.toList ∧ '\n' ∉ entry.2.toList := by
  simp [line]

/-- **Reading back.** A file is found again in its text exactly if its heading and its entries hold no line
feed and its keys no equals sign. -/
theorem readsBack_iff :
    file.ReadsBack ↔ '\n' ∉ file.header.toList ∧ ∀ entry ∈ file.entries.entries,
      '=' ∉ entry.1.toList ∧ '\n' ∉ entry.1.toList ∧ '\n' ∉ entry.2.toList := by
  constructor
  · intro readsBack
    -- A line feed within a line would make a line more, so the lines read are the lines written.
    have absent := not_mem_of_readsBack readsBack
    obtain ⟨settings, areLines, areEntries⟩ := readsBack.lines
    rw [lines_of_not_mem absent] at areLines
    obtain rfl : file.entries.entries.map line = settings := by simpa [lines] using areLines
    obtain ⟨inHeader, inEntries⟩ := List.forall_mem_cons.mp absent
    refine ⟨inHeader, fun entry member => ⟨?_, ?_⟩⟩
    · rw [List.map_map] at areEntries
      exact splitAtFirst?_line_iff.mp (List.map_inj_left.mp areEntries entry member)
    · exact not_mem_line_iff.mp (inEntries (line entry) (List.mem_map_of_mem member))
  · intro both
    obtain ⟨inHeader, inEntries⟩ := both
    have absent : ∀ written ∈ file.lines, '\n' ∉ written.toList := by
      refine List.forall_mem_cons.mpr ⟨inHeader, fun written member => ?_⟩
      obtain ⟨entry, isEntry, rfl⟩ := List.mem_map.mp member
      exact not_mem_line_iff.mpr (inEntries entry isEntry).2
    refine ⟨file.entries.sorted, file.entries.entries.map line, lines_of_not_mem absent, ?_⟩
    rw [List.map_map]
    exact List.map_congr_left fun entry isEntry =>
      splitAtFirst?_line_iff.mpr (inEntries entry isEntry).1

/-- What stands between two line feeds of a value is a line of the file. -/
theorem mem_pieces_of_value {entry : String × String} {before added after : String}
    (member : entry ∈ file.entries.entries)
    (isValue : entry.2 = before ++ "\n" ++ added ++ "\n" ++ after) (plain : '\n' ∉ added.toList) :
    added ∈ (Text.pieces '\n' file.text.toList).map String.ofList := by
  have isLine : (line entry).toList ∈ file.lines.map String.toList :=
    List.mem_map_of_mem (List.mem_cons_of_mem file.header (List.mem_map_of_mem member))
  obtain ⟨front, back, areLines⟩ := List.append_of_mem isLine
  have whole : file.text.toList =
      (front.flatMap (· ++ ['\n']) ++ entry.1.toList ++ '=' :: before.toList) ++
        '\n' :: (added.toList ++ '\n' :: (after.toList ++ '\n' :: back.flatMap (· ++ ['\n']))) := by
    rw [toList_text, areLines]
    simp [line, isValue]
  rw [whole]
  exact List.mem_map.mpr ⟨added.toList, Text.mem_pieces_of_between plain _ _, String.ofList_toList⟩

end ClusterConfig.EnvFile
