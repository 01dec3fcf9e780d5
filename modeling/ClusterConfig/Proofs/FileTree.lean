import ClusterConfig.FileTree
import ClusterConfig.Proofs.Text

set_option autoImplicit false

/-!
# Laws of file trees

Where a path leads, said by the directories that it goes through, and what stays so when a tree grows. A
tree grows where something is put at a place that was vacant.
-/

namespace ClusterConfig

namespace Path

variable {directory name : String}

theorem join_of_present (present : directory ≠ "") (relative : isAbsolute name = false) :
    join directory name =
      if directory.toList.getLast? == some '/' then directory ++ name else directory ++ "/" ++ name := by
  rw [join, relative, Bool.false_or, if_neg (by simpa using present)]

theorem isAbsolute_append (present : directory ≠ "") :
    isAbsolute (directory ++ name) = isAbsolute directory := by
  rw [isAbsolute, isAbsolute, String.toList_append]
  cases isList : directory.toList with
  | nil => exact absurd (String.toList_injective isList) present
  | cons first rest => rfl

theorem isAbsolute_join (relative : isAbsolute name = false) :
    isAbsolute (join directory name) = isAbsolute directory := by
  by_cases present : directory = ""
  · subst present
    rw [join, relative]
    exact relative
  · rw [join_of_present present relative]
    split
    · exact isAbsolute_append present
    · rw [String.append_assoc, isAbsolute_append present]

theorem components_of_single (single : '/' ∉ name.toList) : components name = [name] := by
  rw [components, Text.pieces_of_not_mem single]
  simp

theorem components_slash (front back : String) :
    components (front ++ "/" ++ back) = components front ++ components back := by
  have whole : (front ++ "/" ++ back).toList = front.toList ++ '/' :: back.toList := by simp
  rw [components, whole, Text.pieces_append_cons, List.map_append, components, components]

theorem join_components (path : String) : Text.join "/" (components path) = path :=
  Text.join_pieces path

theorem components_injective {other : String} (same : components name = components other) : name = other := by
  rw [← join_components name, same, join_components]

theorem exists_eq_slash {front back : List String} (areComponents : components name = front ++ back)
    (before : front ≠ []) (after : back ≠ []) :
    name = Text.join "/" front ++ "/" ++ Text.join "/" back := by
  rw [← join_components name, areComponents, Text.join_append "/" before after]

/-- The components of a name in a directory are those of the directory and the name; that the directory
is empty or ends with a slash does not count. -/
theorem components_join (directory : String) (relative : isAbsolute name = false) :
    ∃ front, components (join directory name) = front ++ components name ∧
      (components directory = front ∨ components directory = front ++ [""]) := by
  by_cases present : directory = ""
  · subst present
    refine ⟨[], ?_, .inr rfl⟩
    rw [join, relative]
    rfl
  · rw [join_of_present present relative]
    split
    · rename_i endsOpen
      obtain ⟨front, isFront⟩ := List.getLast?_eq_some_iff.mp (beq_iff_eq.mp endsOpen)
      have isDirectory : directory = String.ofList front ++ "/" := String.toList_injective (by simp [isFront])
      refine ⟨components (String.ofList front), ?_, .inr ?_⟩
      · rw [isDirectory, components_slash]
      · rw [isDirectory, ← String.append_empty (s := String.ofList front ++ "/"), components_slash]
        rfl
    · exact ⟨components directory, components_slash directory name, .inl rfl⟩

theorem join_ne_empty (present : directory ≠ "" ∨ name ≠ "") : join directory name ≠ "" := by
  rw [join]
  split
  · rename_i alone
    rcases present with present | present
    · have absolute : isAbsolute name = true := by simpa [present] using alone
      intro isEmpty
      rw [isEmpty] at absolute
      cases absolute
    · exact present
  · rename_i both
    have present : directory ≠ "" := by
      intro isEmpty
      simp [isEmpty] at both
    split
    · simp [present]
    · simp

end Path

namespace FileTree

/-- A component that names something, and not the directory itself or the one above it. -/
def IsName (component : String) : Prop := component ≠ "" ∧ component ≠ "." ∧ component ≠ ".."

instance (component : String) : Decidable (IsName component) := inferInstanceAs (Decidable (_ ∧ _ ∧ _))

/-- Components that lead from a directory through directories to a directory. -/
inductive Reaches (tree : FileTree) : List String → List String → List String → Prop where
  | here {start} : Reaches tree start [] start
  | stay {start component rest stop} : component = "" ∨ component = "." →
      Reaches tree start rest stop → Reaches tree start (component :: rest) stop
  | up {start component rest stop} : component = ".." →
      Reaches tree start.dropLast rest stop → Reaches tree start (component :: rest) stop
  | down {start component rest stop} : IsName component →
      tree.entry? (start ++ [component]) = some .directory →
      Reaches tree (start ++ [component]) rest stop → Reaches tree start (component :: rest) stop

/-- Everything that following components can come to. -/
inductive Leads (tree : FileTree) (start : List String) : List String → Except Fault Target → Prop where
  | directory {components stop} : tree.Reaches start components stop →
      Leads tree start components (.ok .directory)
  | file {front stop name rest content} : tree.Reaches start front stop → IsName name →
      tree.entry? (stop ++ [name]) = some (.file content) → rest.all String.isEmpty = true →
      Leads tree start (front ++ name :: rest) (.ok (.file (stop ++ [name]) content !rest.isEmpty))
  | vacant {front stop name rest} : tree.Reaches start front stop → IsName name →
      tree.entry? (stop ++ [name]) = none → rest.all String.isEmpty = true →
      Leads tree start (front ++ name :: rest) (.ok (.vacant (stop ++ [name]) !rest.isEmpty))
  | inFile {front stop name rest content} : tree.Reaches start front stop → IsName name →
      tree.entry? (stop ++ [name]) = some (.file content) → rest.all String.isEmpty = false →
      Leads tree start (front ++ name :: rest) (.error .notDirectory)
  | inVacancy {front stop name rest} : tree.Reaches start front stop → IsName name →
      tree.entry? (stop ++ [name]) = none → rest.all String.isEmpty = false →
      Leads tree start (front ++ name :: rest) (.error .notFound)

variable {tree later : FileTree} {place other start stop front components rest : List String}
  {name path : String} {entry : Entry} {content : ByteArray} {closed : Bool} {fault : Fault} {target : Target}

/-!
## Entries
-/

private theorem lookup_filter_ne (entries : List (List String × Entry)) (differs : other ≠ place) :
    (entries.filter fun entry => entry.1 != place).lookup other = entries.lookup other := by
  induction entries with
  | nil => rfl
  | cons head rest ih =>
      obtain ⟨key, content⟩ := head
      rw [List.filter_cons]
      by_cases removed : key = place
      · have notFound : (other == key) = false := by simpa [removed] using differs
        rw [List.lookup_cons, notFound]
        simpa [removed] using ih
      · rw [if_pos (by simpa using removed), List.lookup_cons, List.lookup_cons, ih]

theorem entry?_insert_self (inside : place ≠ []) :
    FileTree.entry? (tree.insert place entry) place = some entry := by
  have removed : (tree.entries.filter fun other => other.1 != place).lookup place = none := by
    refine List.lookup_eq_none_iff.mpr fun other member => ?_
    have differs : other.1 ≠ place := bne_iff_ne.mp (List.mem_filter.mp member).2
    exact bne_iff_ne.mpr differs.symm
  rw [FileTree.entry?, if_neg (by simpa using inside), insert, List.lookup_append, removed]
  simp

theorem entry?_insert_of_ne (differs : other ≠ place) :
    FileTree.entry? (tree.insert place entry) other = tree.entry? other := by
  have notFound : (other == place) = false := by simpa using differs
  simp [FileTree.entry?, insert, List.lookup_append, lookup_filter_ne tree.entries differs,
    List.lookup_cons, notFound]

theorem ne_nil_of_vacant (vacant : tree.entry? place = none) : place ≠ [] := by
  intro isRoot
  rw [isRoot] at vacant
  cases vacant

/-- A tree in which everything that stands in another one stands, too. -/
structure Extends (tree later : FileTree) : Prop where
  workingDirectory : later.workingDirectory = tree.workingDirectory
  kept : ∀ {place entry}, tree.entry? place = some entry → later.entry? place = some entry

theorem Extends.refl (tree : FileTree) : tree.Extends tree := ⟨rfl, fun found => found⟩

theorem Extends.trans {last : FileTree} (first : tree.Extends later) (second : later.Extends last) :
    tree.Extends last :=
  ⟨second.workingDirectory.trans first.workingDirectory, fun found => second.kept (first.kept found)⟩

theorem extends_insert (vacant : tree.entry? place = none) : tree.Extends (tree.insert place entry) := by
  refine ⟨rfl, fun {other present} found => ?_⟩
  have differs : other ≠ place := by
    intro same
    rw [same, vacant] at found
    cases found
  rw [entry?_insert_of_ne differs, found]

/-- Only the place at which something is put holds more than before. -/
theorem eq_of_entry?_insert {present : Entry} (vacant : tree.entry? other = none)
    (found : FileTree.entry? (tree.insert place entry) other = some present) :
    other = place ∧ present = entry := by
  by_cases same : other = place
  · rw [same, entry?_insert_self (same ▸ ne_nil_of_vacant vacant)] at found
    exact ⟨same, (Option.some.inj found).symm⟩
  · rw [entry?_insert_of_ne same, vacant] at found
    cases found

/-!
## Paths
-/

theorem follow_stay {component : String} (stays : component = "" ∨ component = ".") :
    tree.follow start (component :: rest) = tree.follow start rest := by
  rcases stays with rfl | rfl <;> simp [follow]

theorem follow_up {component : String} (isUp : component = "..") :
    tree.follow start (component :: rest) = tree.follow start.dropLast rest := by
  subst isUp
  simp [follow]

theorem follow_name (isName : IsName name) :
    tree.follow start (name :: rest) =
      match tree.entry? (start ++ [name]) with
      | some .directory => tree.follow (start ++ [name]) rest
      | some (.file content) =>
          if rest.all String.isEmpty then .ok (.file (start ++ [name]) content !rest.isEmpty)
          else .error .notDirectory
      | none =>
          if rest.all String.isEmpty then .ok (.vacant (start ++ [name]) !rest.isEmpty)
          else .error .notFound := by
  obtain ⟨notEmpty, notHere, notUp⟩ := isName
  have named : (name.isEmpty || name == ".") = false := by simp [notEmpty, notHere]
  have below : (name == "..") = false := by simpa using notUp
  rw [follow, named, below]
  exact (if_neg Bool.false_ne_true).trans (if_neg Bool.false_ne_true)

theorem Reaches.follow_append (reaches : tree.Reaches start components stop) (rest : List String) :
    tree.follow start (components ++ rest) = tree.follow stop rest := by
  induction reaches with
  | here => rfl
  | stay stays _ ih => rw [List.cons_append, follow_stay stays, ih]
  | up isUp _ ih => rw [List.cons_append, follow_up isUp, ih]
  | down isName found _ ih => rw [List.cons_append, follow_name isName, found, ih]

theorem Reaches.extends (reaches : tree.Reaches start components stop) (grown : tree.Extends later) :
    later.Reaches start components stop := by
  induction reaches with
  | here => exact .here
  | stay stays _ ih => exact .stay stays ih
  | up isUp _ ih => exact .up isUp ih
  | down isName found _ ih => exact .down isName (grown.kept found) ih

theorem Leads.cons {component : String} {next : List String} {answer : Except Fault Target}
    (leads : tree.Leads next rest answer)
    (step : ∀ {front stop}, tree.Reaches next front stop → tree.Reaches start (component :: front) stop) :
    tree.Leads start (component :: rest) answer := by
  cases leads with
  | directory reaches => exact .directory (step reaches)
  | file reaches isName found empty => exact .file (step reaches) isName found empty
  | vacant reaches isName found empty => exact .vacant (step reaches) isName found empty
  | inFile reaches isName found more => exact .inFile (step reaches) isName found more
  | inVacancy reaches isName found more => exact .inVacancy (step reaches) isName found more

theorem leads_follow (tree : FileTree) (start components : List String) :
    tree.Leads start components (tree.follow start components) := by
  induction components generalizing start with
  | nil => exact .directory .here
  | cons component rest ih =>
      by_cases stays : component = "" ∨ component = "."
      · rw [follow_stay stays]
        exact (ih start).cons (.stay stays)
      · by_cases isUp : component = ".."
        · rw [follow_up isUp]
          exact (ih start.dropLast).cons (.up isUp)
        · obtain ⟨notEmpty, notHere⟩ := not_or.mp stays
          have isName : IsName component := ⟨notEmpty, notHere, isUp⟩
          rw [follow_name isName]
          cases found : tree.entry? (start ++ [component]) with
          | none =>
              cases empty : rest.all String.isEmpty with
              | true => exact .vacant .here isName found empty
              | false => exact .inVacancy .here isName found empty
          | some entry =>
              cases entry with
              | directory => exact (ih _).cons (.down isName found)
              | file content =>
                  cases empty : rest.all String.isEmpty with
                  | true => exact .file .here isName found empty
                  | false => exact .inFile .here isName found empty

theorem Reaches.append (first : tree.Reaches start front stop) {last : List String}
    (second : tree.Reaches stop rest last) : tree.Reaches start (front ++ rest) last := by
  induction first with
  | here => exact second
  | stay stays _ ih => exact .stay stays (ih second)
  | up isUp _ ih => exact .up isUp (ih second)
  | down isName found _ ih => exact .down isName found (ih second)

theorem Reaches.of_append (reaches : tree.Reaches start (front ++ rest) stop) :
    ∃ between, tree.Reaches start front between ∧ tree.Reaches between rest stop := by
  induction front generalizing start with
  | nil => exact ⟨start, .here, reaches⟩
  | cons component front ih =>
      cases reaches with
      | stay stays reaches =>
          obtain ⟨between, first, second⟩ := ih reaches
          exact ⟨between, .stay stays first, second⟩
      | up isUp reaches =>
          obtain ⟨between, first, second⟩ := ih reaches
          exact ⟨between, .up isUp first, second⟩
      | down isName found reaches =>
          obtain ⟨between, first, second⟩ := ih reaches
          exact ⟨between, .down isName found first, second⟩

theorem reaches_of_all_empty (empty : rest.all String.isEmpty = true) : tree.Reaches start rest start := by
  induction rest with
  | nil => exact .here
  | cons component rest ih =>
      rw [List.all_cons, Bool.and_eq_true] at empty
      exact .stay (.inl (String.isEmpty_iff.mp empty.1)) (ih empty.2)

theorem reaches_empty_iff : tree.Reaches start (front ++ [""]) stop ↔ tree.Reaches start front stop := by
  constructor
  · intro reaches
    obtain ⟨between, first, second⟩ := reaches.of_append
    cases second with
    | stay _ here =>
        cases here
        exact first
    | up isUp => exact absurd isUp (by decide)
    | down isName => exact absurd rfl isName.1
  · intro reaches
    exact reaches.append (.stay (.inl rfl) .here)

/-- Components that go on from what is no directory lead nowhere. -/
theorem Reaches.follow_past (reaches : tree.Reaches start front stop) (isName : IsName name)
    (ends : tree.entry? (stop ++ [name]) ≠ some .directory) (more : rest.all String.isEmpty = false) :
    ∃ fault, tree.follow start (front ++ name :: rest) = .error fault := by
  rw [reaches.follow_append, follow_name isName]
  cases found : tree.entry? (stop ++ [name]) with
  | none => exact ⟨.notFound, by simp [more]⟩
  | some entry =>
      cases entry with
      | directory => exact absurd found ends
      | file content => exact ⟨.notDirectory, by simp [more]⟩

theorem follow_of_not_reaches (named : name ≠ "") (missing : ∀ stop, ¬ tree.Reaches start components stop) :
    ∃ fault, tree.follow start (components ++ [name]) = .error fault := by
  have more (rest : List String) : (rest ++ [name]).all String.isEmpty = false := by simp [named]
  have leads := leads_follow tree start components
  generalize tree.follow start components = answer at leads
  cases leads with
  | directory reaches => exact absurd reaches (missing _)
  | file reaches isName found _ =>
      rw [List.append_assoc]
      exact reaches.follow_past isName (by simp [found]) (more _)
  | inFile reaches isName found _ =>
      rw [List.append_assoc]
      exact reaches.follow_past isName (by simp [found]) (more _)
  | vacant reaches isName found _ =>
      rw [List.append_assoc]
      exact reaches.follow_past isName (by simp [found]) (more _)
  | inVacancy reaches isName found _ =>
      rw [List.append_assoc]
      exact reaches.follow_past isName (by simp [found]) (more _)

/-- The directory from which a path is followed. -/
def origin (tree : FileTree) (path : String) : List String :=
  if Path.isAbsolute path then [] else tree.workingDirectory

theorem resolve_eq_follow (present : path ≠ "") :
    tree.resolve path = tree.follow (tree.origin path) (Path.components path) := by
  rw [resolve, if_neg (by simpa using present), origin]

theorem ne_empty_of_resolve (leads : tree.resolve path = .ok target) : path ≠ "" := by
  intro isEmpty
  rw [isEmpty] at leads
  cases leads

theorem leads_of_resolve (leads : tree.resolve path = .ok target) :
    ∃ components, Path.components path = components ∧
      tree.Leads (tree.origin path) components (.ok target) := by
  refine ⟨_, rfl, ?_⟩
  rw [← leads, resolve_eq_follow (ne_empty_of_resolve leads)]
  exact leads_follow tree _ _

theorem Extends.origin (grown : tree.Extends later) (path : String) :
    later.origin path = tree.origin path := by
  rw [FileTree.origin, FileTree.origin, grown.workingDirectory]

/-- A path to something that stands in a tree leads there as long as the tree only grows. -/
theorem Extends.resolve (grown : tree.Extends later) (leads : tree.resolve path = .ok target)
    (stands : ∀ place closed, target ≠ .vacant place closed) : later.resolve path = .ok target := by
  obtain ⟨components, areComponents, found⟩ := leads_of_resolve leads
  rw [resolve_eq_follow (ne_empty_of_resolve leads), grown.origin, areComponents]
  cases found with
  | directory reaches => simpa [follow] using (reaches.extends grown).follow_append []
  | file reaches isName found empty =>
      rw [(reaches.extends grown).follow_append, follow_name isName, grown.kept found]
      simp only [empty, ↓reduceIte]
  | vacant => exact absurd rfl (stands _ _)

theorem entry?_of_vacant (isVacant : tree.resolve path = .ok (.vacant place closed)) :
    tree.entry? place = none := by
  obtain ⟨components, areComponents, found⟩ := leads_of_resolve isVacant
  cases found with
  | vacant _ _ nothing _ => exact nothing

theorem resolve_insert_file (isVacant : tree.resolve path = .ok (.vacant place closed)) :
    (tree.insert place (.file content)).resolve path = .ok (.file place content closed) := by
  have nothing := entry?_of_vacant isVacant
  have grown : tree.Extends (tree.insert place (.file content)) := extends_insert nothing
  obtain ⟨components, areComponents, found⟩ := leads_of_resolve isVacant
  rw [resolve_eq_follow (ne_empty_of_resolve isVacant), grown.origin, areComponents]
  cases found with
  | vacant reaches isName _ empty =>
      rw [(reaches.extends grown).follow_append, follow_name isName,
        entry?_insert_self (ne_nil_of_vacant nothing)]
      simp only [empty, ↓reduceIte]

/-- A directory that is made where a path leads can be entered by that path. -/
theorem reaches_insert_directory (isVacant : tree.resolve path = .ok (.vacant place closed)) :
    (tree.insert place .directory).Reaches (tree.origin path) (Path.components path) place := by
  have nothing := entry?_of_vacant isVacant
  have grown : tree.Extends (tree.insert place .directory) := extends_insert nothing
  obtain ⟨components, areComponents, found⟩ := leads_of_resolve isVacant
  rw [areComponents]
  cases found with
  | vacant reaches isName _ empty =>
      exact (reaches.extends grown).append (.down isName (entry?_insert_self (ne_nil_of_vacant nothing))
        (reaches_of_all_empty empty))

/-!
## Operations
-/

theorem isDirectory_iff : tree.isDirectory path = true ↔ tree.resolve path = .ok .directory := by
  unfold isDirectory
  split
  · simp [*]
  · rename_i other
    simp only [Bool.false_eq_true, false_iff]
    exact other

theorem isDirectory_iff_reaches :
    tree.isDirectory path = true ↔
      path ≠ "" ∧ ∃ stop, tree.Reaches (tree.origin path) (Path.components path) stop := by
  rw [isDirectory_iff]
  constructor
  · intro leads
    obtain ⟨components, areComponents, found⟩ := leads_of_resolve leads
    cases found with
    | directory reaches => exact ⟨ne_empty_of_resolve leads, _, areComponents ▸ reaches⟩
  · intro both
    obtain ⟨present, stop, reaches⟩ := both
    rw [resolve_eq_follow present, ← List.append_nil (Path.components path), reaches.follow_append, follow]

theorem exists?_eq_false_of_vacant (isVacant : tree.resolve path = .ok (.vacant place closed)) :
    tree.exists? path = false := by
  rw [exists?, isVacant]

theorem Extends.exists? (grown : tree.Extends later) (present : tree.exists? path = true) :
    later.exists? path = true := by
  rw [FileTree.exists?] at present
  split at present
  · rename_i leads
    rw [FileTree.exists?, grown.resolve leads nofun]
  · rename_i leads
    rw [FileTree.exists?, grown.resolve leads nofun]
    exact present
  · cases present

theorem read_eq_ok_iff :
    tree.read path = .ok content ↔ ∃ place, tree.resolve path = .ok (.file place content false) := by
  rw [read]
  cases tree.resolve path with
  | error fault => simp [bind, Except.bind]
  | ok target =>
      cases target with
      | directory => simp [bind, Except.bind, throw, throwThe, MonadExceptOf.throw]
      | file place content closed =>
          cases closed <;> simp [bind, Except.bind, throw, throwThe, MonadExceptOf.throw, pure, Except.pure]
      | vacant place closed => simp [bind, Except.bind, throw, throwThe, MonadExceptOf.throw]

theorem exists?_of_read (isRead : tree.read path = .ok content) : tree.exists? path = true := by
  obtain ⟨place, leads⟩ := read_eq_ok_iff.mp isRead
  rw [FileTree.exists?, leads]
  rfl

theorem Extends.read (grown : tree.Extends later) (isRead : tree.read path = .ok content) :
    later.read path = .ok content := by
  obtain ⟨place, leads⟩ := read_eq_ok_iff.mp isRead
  exact read_eq_ok_iff.mpr ⟨place, grown.resolve leads nofun⟩

theorem write_of_vacant (isVacant : tree.resolve path = .ok (.vacant place false)) :
    tree.write path content = .ok (tree.insert place (.file content)) := by
  rw [write, isVacant]
  rfl

theorem write_of_unresolved (failed : tree.resolve path = .error fault) :
    tree.write path content = .error fault := by
  rw [write, failed]
  rfl

theorem read_of_written (isVacant : tree.resolve path = .ok (.vacant place false)) :
    (tree.insert place (.file content)).read path = .ok content :=
  read_eq_ok_iff.mpr ⟨place, resolve_insert_file isVacant⟩

theorem createDirectory_eq_ok_iff :
    tree.createDirectory path = .ok later ↔
      ∃ place closed, tree.resolve path = .ok (.vacant place closed) ∧
        later = tree.insert place .directory := by
  rw [createDirectory]
  cases tree.resolve path with
  | error fault => simp [bind, Except.bind]
  | ok target =>
      cases target with
      | vacant place closed => simp [bind, Except.bind, pure, Except.pure, eq_comm]
      | _ => simp [bind, Except.bind, throw, throwThe, MonadExceptOf.throw]

/-!
## Rooted trees
-/

/-- Everything stands in a directory, and so does the program. -/
structure Rooted (tree : FileTree) : Prop where
  workingDirectory : tree.entry? tree.workingDirectory = some .directory
  parents : ∀ place name entry, tree.entry? (place ++ [name]) = some entry →
    tree.entry? place = some .directory

theorem directory_of_startingIn (found : FileTree.entry? (startingIn place) other = some entry) :
    entry = .directory ∧ other <+: place := by
  by_cases isRoot : other = []
  · subst isRoot
    cases found
    exact ⟨rfl, List.nil_prefix⟩
  · rw [FileTree.entry?, if_neg (by simpa using isRoot)] at found
    obtain ⟨before, after, areEntries, _⟩ := List.lookup_eq_some_iff.mp found
    have member : (other, entry) ∈ (startingIn place).entries := by simp [areEntries]
    obtain ⟨count, _, isEntry⟩ := List.mem_map.mp member
    cases isEntry
    exact ⟨rfl, List.take_prefix _ _⟩

theorem entry?_startingIn (above : other <+: place) :
    FileTree.entry? (startingIn place) other = some .directory := by
  cases found : FileTree.entry? (startingIn place) other with
  | some entry => rw [(directory_of_startingIn found).1]
  | none =>
      have inside : other ≠ [] := ne_nil_of_vacant found
      have positive : 0 < other.length := List.length_pos_iff.mpr inside
      have within : other.length - 1 < place.length := by
        have atMost := above.length_le
        omega
      have isTake : place.take (other.length - 1 + 1) = other := by
        rw [Nat.sub_add_cancel positive]
        exact (List.prefix_iff_eq_take.mp above).symm
      have member : (other, Entry.directory) ∈ (startingIn place).entries :=
        List.mem_map.mpr ⟨_, List.mem_range.mpr within, by rw [isTake]⟩
      rw [FileTree.entry?, if_neg (by simpa using inside), List.lookup_eq_none_iff] at found
      simpa using found _ member

/-- A program that is started anywhere finds everything in its place. -/
theorem rooted_startingIn (place : List String) : (startingIn place).Rooted := by
  constructor
  · exact entry?_startingIn List.prefix_rfl
  · intro parent name entry found
    have below := (directory_of_startingIn found).2
    exact entry?_startingIn ((List.prefix_append parent [name]).trans below)

theorem Rooted.entry?_of_reaches (rooted : tree.Rooted) (reaches : tree.Reaches start components stop)
    (isDirectory : tree.entry? start = some .directory) : tree.entry? stop = some .directory := by
  induction reaches with
  | here => exact isDirectory
  | stay _ _ ih => exact ih isDirectory
  | @up start component rest stop _ _ ih =>
      apply ih
      rcases start.eq_nil_or_concat with rfl | ⟨front, last, rfl⟩
      · exact isDirectory
      · rw [List.concat_eq_append] at isDirectory ⊢
        rw [List.dropLast_concat]
        exact rooted.parents front last _ isDirectory
  | down _ found _ ih => exact ih found

theorem Rooted.entry?_origin (rooted : tree.Rooted) (path : String) :
    tree.entry? (tree.origin path) = some .directory := by
  rw [origin]
  split
  · rfl
  · exact rooted.workingDirectory

theorem Rooted.entry?_below_vacant (rooted : tree.Rooted) (nothing : tree.entry? place = none)
    (name : String) : tree.entry? (place ++ [name]) = none := by
  cases found : tree.entry? (place ++ [name]) with
  | none => rfl
  | some entry =>
      rw [rooted.parents place name entry found] at nothing
      cases nothing

/-- What is put where a path leads stands in a directory. -/
theorem Rooted.insert (rooted : tree.Rooted) (isVacant : tree.resolve path = .ok (.vacant place closed))
    (entry : Entry) : (tree.insert place entry).Rooted := by
  have nothing := entry?_of_vacant isVacant
  have grown : tree.Extends (tree.insert place entry) := extends_insert nothing
  constructor
  · exact grown.kept rooted.workingDirectory
  · intro parent name present found
    by_cases same : parent ++ [name] = place
    · obtain ⟨components, _, leads⟩ := leads_of_resolve isVacant
      cases leads with
      | vacant reaches _ _ _ =>
          obtain ⟨rfl, -⟩ := List.append_inj' same rfl
          exact grown.kept (rooted.entry?_of_reaches reaches (rooted.entry?_origin path))
    · rw [entry?_insert_of_ne same] at found
      exact grown.kept (rooted.parents parent name present found)

/-!
## Names in directories
-/

section Joined

variable {directory : String} (relative : Path.isAbsolute name = false)

include relative

theorem resolve_join (present : directory ≠ "" ∨ name ≠ "")
    (reaches : tree.Reaches (tree.origin directory) (Path.components directory) stop) :
    tree.resolve (Path.join directory name) = tree.follow stop (Path.components name) := by
  obtain ⟨front, isJoined, isDirectory⟩ := Path.components_join directory relative
  have reachesFront : tree.Reaches (tree.origin directory) front stop := by
    rcases isDirectory with same | same
    · exact same ▸ reaches
    · exact reaches_empty_iff.mp (same ▸ reaches)
  rw [resolve_eq_follow (Path.join_ne_empty present), isJoined, origin, Path.isAbsolute_join relative,
    ← origin, reachesFront.follow_append]

variable (single : '/' ∉ name.toList)

include single

theorem resolve_join_of_reaches (isName : IsName name)
    (reaches : tree.Reaches (tree.origin directory) (Path.components directory) stop) :
    tree.resolve (Path.join directory name) = tree.follow stop [name] := by
  rw [resolve_join relative (.inr isName.1) reaches, Path.components_of_single single]

theorem resolve_join_of_not_reaches (isName : IsName name)
    (missing : ∀ stop, ¬ tree.Reaches (tree.origin directory) (Path.components directory) stop) :
    ∃ fault, tree.resolve (Path.join directory name) = .error fault := by
  obtain ⟨front, isJoined, isDirectory⟩ := Path.components_join directory relative
  have missingFront : ∀ stop, ¬ tree.Reaches (tree.origin directory) front stop := by
    intro stop reaches
    rcases isDirectory with same | same
    · exact missing stop (same ▸ reaches)
    · exact missing stop (same ▸ reaches_empty_iff.mpr reaches)
  rw [resolve_eq_follow (Path.join_ne_empty (.inr isName.1)), isJoined, Path.components_of_single single, origin,
    Path.isAbsolute_join relative, ← origin]
  exact follow_of_not_reaches isName.1 missingFront

end Joined

end FileTree

end ClusterConfig
