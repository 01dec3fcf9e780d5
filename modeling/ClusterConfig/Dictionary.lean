set_option autoImplicit false

/-!
# Dictionaries

Finite maps from texts, kept as entries in strictly increasing order of the keys' characters. Since
that order is the order of the keys' UTF-8 bytes and a key occurs once, two dictionaries with the same
entries are equal, and nothing depends on the order of insertions.
-/

namespace ClusterConfig

/-- A finite map from texts, in strictly increasing order of keys. -/
structure Dictionary (α : Type) where
  entries : List (String × α)
  sorted : entries.Pairwise fun left right => left.1 < right.1

namespace Dictionary

variable {α : Type}

instance [DecidableEq α] : DecidableEq (Dictionary α) := fun left right =>
  if same : left.entries = right.entries then
    isTrue (by cases left; cases right; cases same; rfl)
  else isFalse (fun equal => same (congrArg entries equal))

def empty : Dictionary α := ⟨[], .nil⟩

def insertEntry (key : String) (value : α) : List (String × α) → List (String × α)
  | [] => [(key, value)]
  | (other, present) :: rest =>
      if key < other then (key, value) :: (other, present) :: rest
      else if other < key then (other, present) :: insertEntry key value rest
      else (key, value) :: rest

theorem mem_insertEntry {key : String} {value : α} {entries : List (String × α)}
    {entry : String × α} (member : entry ∈ insertEntry key value entries) :
    entry = (key, value) ∨ entry ∈ entries := by
  induction entries with
  | nil => simpa [insertEntry] using member
  | cons head rest ih =>
      simp only [insertEntry] at member
      split at member
      · simpa using member
      · split at member
        · rcases List.mem_cons.mp member with rfl | later
          · simp
          · rcases ih later with rfl | found
            · simp
            · simp [found]
        · rcases List.mem_cons.mp member with rfl | later
          · simp
          · simp [later]

theorem sorted_insertEntry {key : String} {value : α} {entries : List (String × α)}
    (sorted : entries.Pairwise fun left right => left.1 < right.1) :
    (insertEntry key value entries).Pairwise fun left right => left.1 < right.1 := by
  induction entries with
  | nil => simp [insertEntry]
  | cons head rest ih =>
      obtain ⟨first, later⟩ := List.pairwise_cons.mp sorted
      simp only [insertEntry]
      split
      · rename_i before
        refine List.pairwise_cons.mpr ⟨fun entry member => ?_, sorted⟩
        rcases List.mem_cons.mp member with rfl | found
        · exact before
        · exact String.lt_trans before (first entry found)
      · split
        · rename_i after
          refine List.pairwise_cons.mpr ⟨fun entry member => ?_, ih later⟩
          rcases mem_insertEntry member with rfl | found
          · exact after
          · exact first entry found
        · rename_i notBefore notAfter
          refine List.pairwise_cons.mpr ⟨fun entry member => ?_, later⟩
          have same : key = head.1 :=
            String.le_antisymm (String.not_lt.mp notAfter) (String.not_lt.mp notBefore)
          exact same ▸ first entry member

def insert (key : String) (value : α) (dictionary : Dictionary α) : Dictionary α :=
  ⟨insertEntry key value dictionary.entries, sorted_insertEntry dictionary.sorted⟩

def get? (key : String) (dictionary : Dictionary α) : Option α :=
  dictionary.entries.lookup key

def insertAll (additions : List (String × α)) (dictionary : Dictionary α) : Dictionary α :=
  additions.foldl (fun current (key, value) => current.insert key value) dictionary

/-- The dictionary of a list of entries; the last one with a key counts. -/
def ofList (entries : List (String × α)) : Dictionary α :=
  empty.insertAll entries

/-- The first dictionary with the entries of the second, which count where both have a key. -/
def override (base additions : Dictionary α) : Dictionary α :=
  base.insertAll additions.entries

end Dictionary

end ClusterConfig
