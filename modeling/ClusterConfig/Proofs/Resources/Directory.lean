import ClusterConfig.Proofs.FileTree
import ClusterConfig.Resources

set_option autoImplicit false

/-!
# Resources in a directory

A directory that holds resources under their names and nothing else follows the names that it is asked for as
paths. What it answers is told here by the names of the resources alone, for every name that does not lead out
of the directory.
-/

namespace ClusterConfig.Resources

open FileTree

/-- What stands below a directory that holds these contents under their names and nothing else. -/
inductive Shelves (contents : List (String × ByteArray)) : List String → Entry → Prop where
  | file {name content} : (name, content) ∈ contents →
      Shelves contents (Path.components name) (.file content)
  | directory {name content front rest} : (name, content) ∈ contents →
      Path.components name = front ++ rest → front ≠ [] → rest ≠ [] → Shelves contents front .directory

/-- The directory holds these contents under their names and nothing else. -/
def Holds (tree : FileTree) (directory : String) (contents : List (String × ByteArray)) : Prop :=
  directory ≠ "" ∧ ∃ place, tree.Reaches (tree.origin directory) (Path.components directory) place ∧
    ∀ inner ≠ [], ∀ entry, tree.entry? (place ++ inner) = some entry ↔ Shelves contents inner entry

/-- Components that lead from a directory on the shelves to another one. -/
inductive Walks (contents : List (String × ByteArray)) : List String → List String → List String → Prop where
  | here {start} : Walks contents start [] start
  | stay {start component rest stop} : component = "" ∨ component = "." →
      Walks contents start rest stop → Walks contents start (component :: rest) stop
  | up {start last rest stop} : Walks contents start rest stop →
      Walks contents (start ++ [last]) (".." :: rest) stop
  | down {start component rest stop} : IsName component → Shelves contents (start ++ [component]) .directory →
      Walks contents (start ++ [component]) rest stop → Walks contents start (component :: rest) stop

/-- Components that at some point lead out of the shelves to what is above them. -/
def Leaves (contents : List (String × ByteArray)) (start components : List String) : Prop :=
  ∃ front rest, components = front ++ ".." :: rest ∧ Walks contents start front []

/-- The name does not lead out of a directory that holds these contents. -/
structure Inside (contents : List (String × ByteArray)) (name : String) : Prop where
  relative : Path.isAbsolute name = false
  stays : ¬ Leaves contents [] (Path.components name)

/-- What a directory answers to a name that leads to this path and has these components. -/
inductive Answers (contents : List (String × ByteArray)) (path name : String) :
    List String → Except Failure ByteArray → Prop where
  | resource {front stop last content} : Walks contents [] front stop → IsName last →
      Shelves contents (stop ++ [last]) (.file content) →
      Answers contents path name (front ++ [last]) (.ok content)
  | directory {components stop} : Walks contents [] components stop →
      Answers contents path name components (.error (.file path .isDirectory))
  | inFile {front stop last rest content} : Walks contents [] front stop → IsName last →
      Shelves contents (stop ++ [last]) (.file content) → rest ≠ [] →
      Answers contents path name (front ++ last :: rest) (.error (.file path .notDirectory))
  | missing {front stop last rest} : Walks contents [] front stop → IsName last →
      (∀ entry, ¬ Shelves contents (stop ++ [last]) entry) →
      Answers contents path name (front ++ last :: rest) (.error (.noResource name))

/-- What becomes of the outcome of following a path to a resource. -/
def answer (path name : String) : Except FileTree.Fault Target → Except Failure ByteArray
  | .ok .directory => .error (.file path .isDirectory)
  | .ok (.file _ content closed) => if closed then .error (.file path .notDirectory) else .ok content
  | .ok (.vacant _ _) => .error (.noResource name)
  | .error .notFound => .error (.noResource name)
  | .error fault => .error (.file path fault)

variable {contents : List (String × ByteArray)} {tree : FileTree} {directory name path : String}
  {place start stop components front rest : List String} {content : ByteArray}
  {result : Except Failure ByteArray}

theorem inDirectory_eq_answer (tree : FileTree) (directory name : String) :
    inDirectory tree directory name =
      answer (Path.join directory name) name (tree.resolve (Path.join directory name)) := by
  rw [inDirectory, FileTree.read]
  cases tree.resolve (Path.join directory name) with
  | error fault => cases fault <;> rfl
  | ok target =>
      cases target with
      | directory => rfl
      | file place content closed => cases closed <;> rfl
      | vacant place closed => rfl

/-!
## Paths from the directory
-/

theorem Leaves.append (leaves : Leaves contents start front) (rest : List String) :
    Leaves contents start (front ++ rest) := by
  obtain ⟨before, after, rfl, walks⟩ := leaves
  exact ⟨before, after ++ rest, List.append_assoc .., walks⟩

section Held

variable (held : ∀ inner ≠ [], ∀ entry, tree.entry? (place ++ inner) = some entry ↔
  Shelves contents inner entry)

include held

theorem entry?_name_iff {last : String} {entry : Entry} :
    tree.entry? (place ++ start ++ [last]) = some entry ↔ Shelves contents (start ++ [last]) entry := by
  rw [List.append_assoc]
  exact held _ (by simp) entry

theorem Walks.reaches (walks : Walks contents start components stop) :
    tree.Reaches (place ++ start) components (place ++ stop) := by
  induction walks with
  | here => exact .here
  | stay stays _ ih => exact .stay stays ih
  | up _ ih =>
      refine .up rfl ?_
      rw [← List.append_assoc, List.dropLast_concat]
      exact ih
  | down isName shelved _ ih =>
      refine .down isName ((entry?_name_iff held).mpr shelved) ?_
      rw [List.append_assoc]
      exact ih

theorem walks_of_reaches {first last : List String} (reaches : tree.Reaches first components last)
    (isFirst : first = place ++ start) :
    (∃ stop, last = place ++ stop ∧ Walks contents start components stop) ∨
      Leaves contents start components := by
  induction reaches generalizing start with
  | here => exact .inl ⟨start, isFirst, .here⟩
  | stay stays _ ih =>
      rcases ih isFirst with ⟨stop, isLast, walks⟩ | ⟨front, rest, rfl, walks⟩
      · exact .inl ⟨stop, isLast, .stay stays walks⟩
      · exact .inr ⟨_ :: front, rest, rfl, .stay stays walks⟩
  | up isUp _ ih =>
      subst isUp isFirst
      -- Only from the directory itself does a step up lead out of it.
      rcases start.eq_nil_or_concat with rfl | ⟨above, last, rfl⟩
      · exact .inr ⟨[], _, rfl, .here⟩
      · rw [List.concat_eq_append] at ih ⊢
        rw [← List.append_assoc, List.dropLast_concat] at ih
        rcases ih rfl with ⟨stop, isLast, walks⟩ | ⟨front, rest, rfl, walks⟩
        · exact .inl ⟨stop, isLast, .up walks⟩
        · exact .inr ⟨".." :: front, rest, rfl, .up walks⟩
  | down isName found _ ih =>
      subst isFirst
      have shelved := (entry?_name_iff held).mp found
      rcases ih (List.append_assoc ..) with ⟨stop, isLast, walks⟩ | ⟨front, rest, rfl, walks⟩
      · exact .inl ⟨stop, isLast, .down isName shelved walks⟩
      · exact .inr ⟨_ :: front, rest, rfl, .down isName shelved walks⟩

theorem exists_walks (reaches : tree.Reaches place front stop) (inside : ¬ Leaves contents [] (front ++ rest)) :
    ∃ inner, stop = place ++ inner ∧ Walks contents [] front inner := by
  rcases walks_of_reaches held reaches (List.append_nil place).symm with walks | leaves
  · exact walks
  · exact absurd (leaves.append rest) inside

/-- What following components comes to is told by the shelves, as long as they do not lead out of these. -/
theorem answers_of_leads {outcome : Except FileTree.Fault Target} (leads : tree.Leads place components outcome)
    (inside : ¬ Leaves contents [] components) (path name : String) :
    Answers contents path name components (answer path name outcome) := by
  cases leads with
  | directory reaches =>
      rw [← List.append_nil components] at inside
      obtain ⟨inner, _, walks⟩ := exists_walks held reaches inside
      exact .directory walks
  | @file front stop last rest content reaches isName found _ =>
      obtain ⟨inner, rfl, walks⟩ := exists_walks held reaches inside
      have shelved := (entry?_name_iff held).mp found
      cases rest with
      | nil => exact .resource walks isName shelved
      | cons => exact .inFile walks isName shelved (List.cons_ne_nil _ _)
  | @inFile front stop last rest content reaches isName found more =>
      obtain ⟨inner, rfl, walks⟩ := exists_walks held reaches inside
      refine .inFile walks isName ((entry?_name_iff held).mp found) ?_
      intro isNil
      rw [isNil] at more
      cases more
  | vacant reaches isName found _ =>
      obtain ⟨inner, rfl, walks⟩ := exists_walks held reaches inside
      refine .missing walks isName fun entry shelved => ?_
      rw [(entry?_name_iff held).mpr shelved] at found
      cases found
  | inVacancy reaches isName found _ =>
      obtain ⟨inner, rfl, walks⟩ := exists_walks held reaches inside
      refine .missing walks isName fun entry shelved => ?_
      rw [(entry?_name_iff held).mpr shelved] at found
      cases found

theorem Walks.follow_append (walks : Walks contents [] front stop) (rest : List String) :
    tree.follow place (front ++ rest) = tree.follow (place ++ stop) rest := by
  have reaches := walks.reaches held
  rw [List.append_nil] at reaches
  exact reaches.follow_append rest

theorem Answers.answer_follow (answers : Answers contents path name components result) :
    answer path name (tree.follow place components) = result := by
  cases answers with
  | resource walks isName shelved =>
      rw [walks.follow_append held, follow_name isName, (entry?_name_iff held).mpr shelved]
      rfl
  | directory walks =>
      rw [← List.append_nil components, walks.follow_append held]
      rfl
  | inFile walks isName shelved more =>
      rw [walks.follow_append held, follow_name isName, (entry?_name_iff held).mpr shelved]
      dsimp only
      split
      · simp [answer, more]
      · rfl
  | @missing front stop last rest walks isName nothing =>
      have vacant : tree.entry? (place ++ stop ++ [last]) = none :=
        Option.eq_none_iff_forall_ne_some.mpr fun entry found => nothing entry ((entry?_name_iff held).mp found)
      rw [walks.follow_append held, follow_name isName, vacant]
      dsimp only
      split <;> rfl

end Held

theorem Holds.inDirectory_of_answers (holds : Holds tree directory contents)
    (relative : Path.isAbsolute name = false)
    (answers : Answers contents (Path.join directory name) name (Path.components name) result) :
    inDirectory tree directory name = result := by
  obtain ⟨present, place, reaches, held⟩ := holds
  rw [inDirectory_eq_answer, resolve_join relative (.inl present) reaches]
  exact answers.answer_follow held

theorem Holds.inDirectory_eq_iff (holds : Holds tree directory contents) (inside : Inside contents name) :
    inDirectory tree directory name = result ↔
      Answers contents (Path.join directory name) name (Path.components name) result := by
  constructor
  · intro same
    obtain ⟨present, place, reaches, held⟩ := holds
    rw [inDirectory_eq_answer, resolve_join inside.relative (.inl present) reaches] at same
    subst same
    exact answers_of_leads held (leads_follow tree place _) inside.stays _ name
  · intro answers
    exact holds.inDirectory_of_answers inside.relative answers

/-!
## Names without steps up
-/

theorem Shelves.exists_name (shelved : Shelves contents components (.file content)) :
    ∃ name, (name, content) ∈ contents ∧ Path.components name = components := by
  cases shelved with
  | file member => exact ⟨_, member, rfl⟩

theorem Shelves.exists_below (shelved : Shelves contents components .directory) :
    ∃ name content rest, (name, content) ∈ contents ∧ Path.components name = components ++ rest ∧
      components ≠ [] ∧ rest ≠ [] := by
  cases shelved with
  | directory member areComponents present more => exact ⟨_, _, _, member, areComponents, present, more⟩

theorem not_leaves (level : ".." ∉ components) : ¬ Leaves contents start components := by
  intro leaves
  obtain ⟨front, rest, rfl, _⟩ := leaves
  exact level (by simp)

theorem inside_of_level (relative : Path.isAbsolute name = false) (level : ".." ∉ Path.components name) :
    Inside contents name := ⟨relative, not_leaves level⟩

/-- Without steps up, the components that name something are those that lead on. -/
theorem Walks.eq_append_filter (walks : Walks contents start components stop) (level : ".." ∉ components) :
    stop = start ++ components.filter IsName := by
  induction walks with
  | here => simp
  | stay stays _ ih =>
      have unnamed : ¬ IsName _ := fun isName => stays.elim isName.1 isName.2.1
      rw [List.filter_cons_of_neg (by simpa using unnamed)]
      exact ih fun member => level (List.mem_cons_of_mem _ member)
  | up => exact absurd List.mem_cons_self level
  | down isName _ _ ih =>
      rw [List.filter_cons_of_pos (by simpa using isName), ih fun member => level (List.mem_cons_of_mem _ member),
        List.append_assoc, List.singleton_append]

theorem Walks.eq_of_named (walks : Walks contents start components stop)
    (areNames : ∀ component ∈ components, IsName component) : stop = start ++ components := by
  have level : ".." ∉ components := fun member => (areNames ".." member).2.2 rfl
  have areSame : components.filter IsName = components := List.filter_eq_self.mpr (by simpa using areNames)
  rw [walks.eq_append_filter level, areSame]

theorem Shelves.above {last : String} (shelved : Shelves contents (start ++ [last]) .directory)
    (inside : start ≠ []) : Shelves contents start .directory := by
  obtain ⟨name, content, rest, member, areComponents, _, _⟩ := shelved.exists_below
  rw [List.append_assoc] at areComponents
  exact .directory member areComponents inside (by simp)

theorem Walks.shelved (walks : Walks contents start components stop)
    (below : start ≠ [] → Shelves contents start .directory) (inside : stop ≠ []) :
    Shelves contents stop .directory := by
  -- What is above a directory on the shelves is one, too, or it is the place where the walk began.
  induction walks with
  | here => exact below inside
  | stay _ _ ih => exact ih below inside
  | up _ ih => exact ih (fun more => (below (by simp)).above more) inside
  | down _ shelved _ ih => exact ih (fun _ => shelved) inside

theorem walks_of_prefix (member : (name, content) ∈ contents)
    (areComponents : Path.components name = start ++ (front ++ rest)) (more : rest ≠ [])
    (named : ∀ component ∈ front, IsName component) : Walks contents start front (start ++ front) := by
  induction front generalizing start with
  | nil =>
      rw [List.append_nil]
      exact .here
  | cons component front ih =>
      obtain ⟨isName, areNames⟩ := List.forall_mem_cons.mp named
      have split : Path.components name = start ++ [component] ++ (front ++ rest) := by simp [areComponents]
      have shelved : Shelves contents (start ++ [component]) .directory :=
        .directory member split (by simp) (by simp [more])
      have walks := ih split areNames
      rw [List.append_assoc] at walks
      exact .down isName shelved walks

theorem relative_of_named (named : ∀ component ∈ Path.components name, IsName component) :
    Path.isAbsolute name = false := by
  rw [← Bool.not_eq_true]
  intro absolute
  obtain ⟨rest, isRooted⟩ : ∃ rest, name.toList = '/' :: rest := by
    simpa [Path.isAbsolute, List.head?_eq_some_iff] using absolute
  have isEmpty : "" ∈ Path.components name := by simp [Path.components, isRooted, Text.pieces]
  exact (named "" isEmpty).1 rfl

/-- A name without steps up, if it is read, is but another spelling of the name of what it reads. -/
theorem Holds.exists_of_level (holds : Holds tree directory contents) (relative : Path.isAbsolute name = false)
    (level : ".." ∉ Path.components name) (isRead : inDirectory tree directory name = .ok content) :
    ∃ known, (known, content) ∈ contents ∧
      Path.components known = (Path.components name).filter IsName := by
  have answers := (holds.inDirectory_eq_iff (inside_of_level relative level)).mp isRead
  generalize Path.components name = components at answers level
  cases answers with
  | @resource front stop last content walks isName shelved =>
      rw [walks.eq_append_filter fun member => level (List.mem_append_left _ member)] at shelved
      obtain ⟨known, member, same⟩ := shelved.exists_name
      exact ⟨known, member, by simpa [isName] using same⟩

theorem Holds.exists_of_inside (holds : Holds tree directory contents) (inside : Inside contents name)
    (isRead : inDirectory tree directory name = .ok content) : ∃ known, (known, content) ∈ contents := by
  have answers := (holds.inDirectory_eq_iff inside).mp isRead
  generalize Path.components name = components at answers
  cases answers with
  | resource _ _ shelved =>
      obtain ⟨known, member, _⟩ := shelved.exists_name
      exact ⟨known, member⟩

/-!
## Names of resources
-/

theorem exists_components_concat (name : String) : ∃ front last, Path.components name = front ++ [last] := by
  rcases (Path.components name).eq_nil_or_concat with isNil | ⟨front, last, isConcat⟩
  · exact absurd (List.map_eq_nil_iff.mp isNil) (Text.pieces_ne_nil _)
  · exact ⟨front, last, isConcat.trans (List.concat_eq_append ..)⟩

theorem components_ne_nil (name : String) : Path.components name ≠ [] := by
  obtain ⟨front, last, isConcat⟩ := exists_components_concat name
  simp [isConcat]

theorem lookup_eq_some_iff_mem {α β : Type} [BEq α] [LawfulBEq α] {entries : List (α × β)} {key : α} {value : β}
    (distinct : (entries.map (·.1)).Nodup) : entries.lookup key = some value ↔ (key, value) ∈ entries := by
  rw [List.lookup_eq_some_iff]
  constructor
  · intro facts
    obtain ⟨before, after, rfl, _⟩ := facts
    simp
  · intro member
    obtain ⟨before, after, rfl⟩ := List.append_of_mem member
    refine ⟨before, after, rfl, fun earlier inBefore => ?_⟩
    rw [List.map_append, List.map_cons, List.nodup_append] at distinct
    have differs : earlier.1 ≠ key := distinct.2.2 _ (List.mem_map_of_mem inBefore) _ List.mem_cons_self
    simpa using differs.symm

theorem listed_eq_ok_iff (distinct : (contents.map (·.1)).Nodup) :
    listed contents name = .ok content ↔ (name, content) ∈ contents := by
  rw [← lookup_eq_some_iff_mem distinct, listed]
  cases contents.lookup name <;> simp

theorem listed_eq_error (unknown : ∀ content, (name, content) ∉ contents) :
    listed contents name = .error (.noResource name) := by
  have absent : contents.lookup name = none := by
    rw [List.lookup_eq_none_iff]
    intro entry member
    have differs : name ≠ entry.1 := by
      intro same
      exact unknown entry.2 (same ▸ member)
    simpa using differs
  rw [listed, absent]

/-- Every component of the names of these contents names something. -/
def Named (contents : List (String × ByteArray)) : Prop :=
  ∀ name content, (name, content) ∈ contents → ∀ component ∈ Path.components name, IsName component

section Named

variable (holds : Holds tree directory contents) (named : Named contents)

include named

theorem exists_shelved (member : (name, content) ∈ contents) :
    ∃ front last, Path.components name = front ++ [last] ∧ Walks contents [] front front ∧ IsName last ∧
      Shelves contents (front ++ [last]) (.file content) := by
  have areNames := named name content member
  obtain ⟨front, last, isConcat⟩ := exists_components_concat name
  have walks : Walks contents [] front front :=
    walks_of_prefix member isConcat (List.cons_ne_nil _ _) fun component inFront =>
      areNames component (by simp [isConcat, inFront])
  exact ⟨front, last, isConcat, walks, areNames last (by simp [isConcat]), isConcat ▸ .file member⟩

include holds

theorem Holds.inDirectory_of_mem (member : (name, content) ∈ contents) :
    inDirectory tree directory name = .ok content := by
  obtain ⟨front, last, isConcat, walks, isName, shelved⟩ := exists_shelved named member
  refine holds.inDirectory_of_answers (relative_of_named (named name content member)) ?_
  rw [isConcat]
  exact .resource walks isName shelved

theorem Holds.inDirectory_above {later : String} (member : (name ++ "/" ++ later, content) ∈ contents) :
    inDirectory tree directory name = .error (.file (Path.join directory name) .isDirectory) := by
  have areNames : ∀ component ∈ Path.components name, IsName component := by
    intro component inName
    refine named _ content member component ?_
    rw [Path.components_slash]
    exact List.mem_append_left _ inName
  have walks : Walks contents [] (Path.components name) (Path.components name) :=
    walks_of_prefix member (Path.components_slash name later) (components_ne_nil later) areNames
  exact holds.inDirectory_of_answers (relative_of_named areNames) (.directory walks)

theorem Holds.inDirectory_below (member : (name, content) ∈ contents) (later : String) :
    inDirectory tree directory (name ++ "/" ++ later) =
      .error (.file (Path.join directory (name ++ "/" ++ later)) .notDirectory) := by
  have areNames := named name content member
  obtain ⟨front, last, isConcat, walks, isName, shelved⟩ := exists_shelved named member
  have present : name ≠ "" := by
    intro isEmpty
    subst isEmpty
    exact (areNames "" (by decide +kernel)).1 rfl
  have relative : Path.isAbsolute (name ++ "/" ++ later) = false := by
    rw [String.append_assoc, Path.isAbsolute_append present]
    exact relative_of_named areNames
  refine holds.inDirectory_of_answers relative ?_
  rw [Path.components_slash, isConcat, List.append_assoc]
  exact .inFile walks isName shelved (components_ne_nil later)

/-- A name of components that name something is answered like a listed one, unless it is that of a directory
or leads below a file. -/
theorem Holds.inDirectory_of_named (distinct : (contents.map (·.1)).Nodup)
    (areNames : ∀ component ∈ Path.components name, IsName component)
    (notAbove : ∀ later content, (name ++ "/" ++ later, content) ∉ contents)
    (notBelow : ∀ known content later, (known, content) ∈ contents → name ≠ known ++ "/" ++ later) :
    inDirectory tree directory name = listed contents name := by
  have level : ".." ∉ Path.components name := fun member => (areNames ".." member).2.2 rfl
  have relative := relative_of_named areNames
  generalize isResult : inDirectory tree directory name = result
  have answers := (holds.inDirectory_eq_iff (inside_of_level relative level)).mp isResult
  generalize areComponents : Path.components name = components at answers
  rw [areComponents] at areNames
  cases answers with
  | @resource front stop last content walks isName shelved =>
      rw [walks.eq_of_named fun component inFront => areNames component (by simp [inFront])] at shelved
      obtain ⟨known, member, same⟩ := shelved.exists_name
      rw [← Path.components_injective (same.trans areComponents.symm)]
      exact ((listed_eq_ok_iff distinct).mpr member).symm
  | directory walks =>
      rw [walks.eq_of_named areNames] at walks
      have shelved := walks.shelved (fun inside => absurd rfl inside) (areComponents ▸ components_ne_nil name)
      obtain ⟨known, content, rest, member, isBelow, present, more⟩ := shelved.exists_below
      rw [Path.exists_eq_slash isBelow present more, List.nil_append, ← areComponents,
        Path.join_components] at member
      exact absurd member (notAbove _ content)
  | @inFile front stop last rest content walks isName shelved more =>
      rw [walks.eq_of_named fun component inFront => areNames component (by simp [inFront])] at shelved
      obtain ⟨known, member, same⟩ := shelved.exists_name
      rw [List.append_cons, ← List.nil_append front, ← same] at areComponents
      have isBelow := Path.exists_eq_slash areComponents (components_ne_nil known) more
      rw [Path.join_components] at isBelow
      exact absurd isBelow (notBelow known content _ member)
  | missing walks isName nothing =>
      refine (listed_eq_error fun content member => ?_).symm
      rw [holds.inDirectory_of_mem named member] at isResult
      cases isResult

end Named

end ClusterConfig.Resources
