import ClusterConfig.Proofs.Setup.Keyserver
import ClusterConfig.Proofs.Text.Marks

set_option autoImplicit false

/-!
# Lists of quoted targets

The items of a list stand between quotes as they are. So the quote, comma and quote that end an item and
begin the next one may also stand within an item, and then the list reads like another one.
-/

namespace ClusterConfig.Setup

variable {setup : Setup} {items left right : List String}

/-- No item holds what stands between two items, and none but the last one ends in the beginning of it. -/
structure Separable (items : List String) : Prop where
  without : ∀ item ∈ items, ¬ Text.Within "','" item
  ends : ∀ item ∈ items.dropLast, ∀ before, item ≠ before ++ "',"

/-- What the nodes are asked under for their state, in the order of the document. -/
def nodeTargets (setup : Setup) : List String :=
  setup.nodes.map fun node => node.hostname ++ "." ++ setup.cluster.externalDomain ++ ":9100"

/-- No qualified name of a node holds the end of one target and the beginning of the next one. -/
def HasSeparableNames (setup : Setup) : Prop :=
  ∀ node ∈ setup.nodes, ¬ Text.Within ":9100','" (setup.qualify node.hostname)

/-!
## Lists of items with a common ending
-/

theorem join_quoted (ending : String) (item : String) (rest : List String) :
    Text.join "," ((item :: rest).map fun item => "'" ++ (item ++ ending) ++ "'") =
      "'" ++ Text.join (ending ++ "','") (item :: rest) ++ ending ++ "'" := by
  induction rest generalizing item with
  | nil =>
      simp only [Text.join, List.map_cons, List.map_nil, String.intercalate_singleton, String.append_assoc]
  | cons next rest ih =>
      have others := ih next
      rw [List.map_cons] at others
      rw [List.map_cons, List.map_cons, Text.join_cons_cons, others, Text.join_cons_cons]
      refine String.toList_injective ?_
      simp

theorem quotedList_cons (ending : String) (item : String) (rest : List String) :
    quotedList ((item :: rest).map (· ++ ending)) =
      "['" ++ Text.join (ending ++ "','") (item :: rest) ++ (ending ++ "']") := by
  have between := join_quoted ending item rest
  rw [quotedList, List.map_map]
  refine Eq.trans (congrArg (fun text => "[" ++ text ++ "]") between) (String.toList_injective ?_)
  simp

/-- Lists of items with a common ending have the same text exactly if they are both empty or are the same
when they are joined. -/
theorem quotedList_map_eq_iff (ending : String) :
    quotedList (left.map (· ++ ending)) = quotedList (right.map (· ++ ending)) ↔
      (left = [] ↔ right = []) ∧ Text.join (ending ++ "','") left = Text.join (ending ++ "','") right := by
  have differs (item : String) (rest : List String) :
      quotedList [] ≠ quotedList ((item :: rest).map (· ++ ending)) := by
    intro same
    have characters := congrArg (fun text => text.toList[1]?) (same.trans (quotedList_cons ending item rest))
    simp [quotedList, Text.join] at characters
  cases left with
  | nil =>
      cases right with
      | nil => simp
      | cons item rest => exact iff_of_false (differs item rest) (by simp)
  | cons item rest =>
      cases right with
      | nil => exact iff_of_false (differs item rest).symm (by simp)
      | cons item' rest' =>
          rw [quotedList_cons, quotedList_cons, String.append_left_inj, String.append_right_inj]
          simp

theorem mark_ne_empty (ending : String) : ending ++ "','" ≠ "" := by
  intro empty
  exact absurd (String.append_eq_empty_iff.mp empty).2 (by decide)

theorem eq_of_quotedList_map (ending : String) (apart : Text.Apart (ending ++ "','") left)
    (apart' : Text.Apart (ending ++ "','") right)
    (same : quotedList (left.map (· ++ ending)) = quotedList (right.map (· ++ ending))) : left = right := by
  obtain ⟨empty, joined⟩ := (quotedList_map_eq_iff ending).mp same
  by_cases isEmpty : left = []
  · rw [isEmpty, empty.mp isEmpty]
  · exact apart.eq_of_join apart' isEmpty (mt empty.mpr isEmpty) joined

theorem exists_apart_quotedList (ending : String) (items : List String) :
    ∃ apart, Text.Apart (ending ++ "','") apart ∧
      quotedList (apart.map (· ++ ending)) = quotedList (items.map (· ++ ending)) := by
  by_cases isEmpty : items = []
  · exact ⟨[], ⟨by simp, by simp⟩, by rw [isEmpty]⟩
  · obtain ⟨apart, present, isApart, joined⟩ :=
      Text.exists_apart (mark_ne_empty ending) (Text.join (ending ++ "','") items)
    refine ⟨apart, isApart, (quotedList_map_eq_iff ending).mpr ⟨?_, joined⟩⟩
    exact iff_of_false present isEmpty

/-!
## Items without a common ending
-/

/-- The mark between two items overlaps itself in a quote only. -/
theorem endsAt_between_iff {item : String} :
    Text.EndsAt "','" item ↔ ¬ Text.Within "','" item ∧ ∀ before, item ≠ before ++ "'," := by
  constructor
  · intro ends
    refine ⟨ends.not_within (by decide), fun before isItem => ?_⟩
    refine absurd (ends before ",'" ?_) (by decide)
    rw [isItem, String.append_assoc, String.append_assoc]
    rfl
  · intro both before after same
    obtain ⟨without, noEnding⟩ := both
    by_contra nonempty
    obtain ⟨ending, start, isItem, someEnding, someStart, isEnding, isStart⟩ :=
      Text.exists_overlap without same nonempty
    have atEnding : ending.toList ++ start.toList = ['\'', ',', '\''] := by
      rw [← String.toList_append, ← isEnding]
      rfl
    have atStart : start.toList ++ after.toList = ['\'', ',', '\''] := by
      rw [← String.toList_append, ← isStart]
      rfl
    rcases List.append_eq_cons_iff.mp atEnding with ⟨isEmpty, _⟩ | ⟨rest, isList, isRest⟩
    · exact someEnding (String.toList_eq_nil_iff.mp isEmpty)
    · rcases List.append_eq_cons_iff.mp isRest.symm with ⟨_, startsLate⟩ | ⟨rest', isRest', isLast⟩
      · simp [startsLate] at atStart
      · rcases List.append_eq_singleton_iff.mp isLast.symm with ⟨isNil, _⟩ | ⟨_, isEmpty⟩
        · refine noEnding before ?_
          rw [isItem, String.append_right_inj, ← String.toList_inj, isList, isRest', isNil]
          rfl
        · exact someStart (String.toList_eq_nil_iff.mp isEmpty)

theorem separable_iff : Separable items ↔ Text.Apart "','" items := by
  constructor
  · intro separable
    refine ⟨separable.without, fun item member => endsAt_between_iff.mpr ?_⟩
    exact ⟨separable.without item (List.dropLast_subset items member), separable.ends item member⟩
  · intro apart
    exact ⟨apart.without, fun item member => (endsAt_between_iff.mp (apart.ends item member)).2⟩

/-- Items with no comma in them can be separated, whatever quotes they have. -/
theorem separable_of_not_mem (plain : ∀ item ∈ items, ',' ∉ item.toList) : Separable items := by
  refine ⟨fun item member => Text.not_within_of_not_mem (by decide) (plain item member), ?_⟩
  rintro item member before rfl
  exact plain _ (List.dropLast_subset items member) (by simp)

/-!
## Targets
-/

theorem nodeTargets_eq (setup : Setup) :
    setup.nodeTargets = (setup.nodes.map fun node => setup.qualify node.hostname).map (· ++ ":9100") := by
  rw [List.map_map]
  rfl

/-- Names with no colon in them can be separated, whatever quotes they have. -/
theorem hasSeparableNames_of_not_mem
    (plain : ∀ node ∈ setup.nodes, ':' ∉ (setup.qualify node.hostname).toList) : HasSeparableNames setup :=
  fun node member => Text.not_within_of_not_mem (by decide) (plain node member)

theorem apart_names (separable : HasSeparableNames setup) :
    Text.Apart (":9100" ++ "','") (setup.nodes.map fun node => setup.qualify node.hostname) := by
  have isMark : (":9100" ++ "','").toList = ':' :: "9100','".toList := by decide
  rw [Text.apart_iff_forall_not_within isMark (by decide)]
  intro name member
  obtain ⟨node, inNodes, rfl⟩ := List.mem_map.mp member
  exact separable node inNodes

theorem get?_nodeTargets {values : Dictionary String} (isValues : setup.prometheusVariables = .ok values) :
    values.get? "NODE-TARGETS" = some (quotedList setup.nodeTargets) := by
  have monitors := monitors_filtered setup
  have present : setup.masters ≠ [] := by
    intro absent
    rw [monitors.refused absent] at isValues
    cases isValues
  obtain ⟨values', isValues', isTargets, _⟩ := monitors.answered present
  obtain rfl := Except.ok.inj (isValues.symm.trans isValues')
  exact isTargets

/-- A document that is read with a master in it, and what is checked of its setup. -/
theorem exists_read_of_any {document : Yaml.Value} {holds : Setup → Bool}
    (checked : (read document).toOption.any (fun setup => !setup.masters.isEmpty && holds setup) = true) :
    ∃ setup, read document = .ok setup ∧ setup.masters ≠ [] ∧ holds setup = true := by
  obtain ⟨setup, isRead, facts⟩ := Reading.exists_ok_of_any checked
  simp only [Bool.and_eq_true, Bool.not_eq_true', List.isEmpty_eq_false_iff] at facts
  exact ⟨setup, isRead, facts⟩

/-- **Quoted lists.** The text of a list determines it among the lists that can be separated, and every list
has the text of one of them. In the same way the targets of nodes are determined by the text for the
monitoring, as long as no name holds what stands between two targets. -/
theorem separable_lists_determined :
    (∀ left right, Separable left → Separable right → quotedList left = quotedList right → left = right) ∧
      (∀ items, ∃ separable, Separable separable ∧ quotedList separable = quotedList items) ∧
      (∀ setup : Setup, setup.masters ≠ [] → ∃ values, setup.prometheusVariables = .ok values ∧
        values.get? "NODE-TARGETS" = some (quotedList setup.nodeTargets)) ∧
      ∀ left right : Setup, HasSeparableNames left → HasSeparableNames right →
        ∀ values values', left.prometheusVariables = .ok values → right.prometheusVariables = .ok values' →
          values.get? "NODE-TARGETS" = values'.get? "NODE-TARGETS" → left.nodeTargets = right.nodeTargets := by
  have unended (items : List String) : items.map (· ++ "") = items := by simp
  refine ⟨fun left right separable separable' same => ?_, fun items => ?_, fun setup present => ?_, ?_⟩
  · rw [separable_iff] at separable separable'
    exact eq_of_quotedList_map "" separable separable' (by rwa [unended, unended])
  · obtain ⟨separable, apart, same⟩ := exists_apart_quotedList "" items
    rw [unended, unended] at same
    exact ⟨separable, separable_iff.mpr apart, same⟩
  · obtain ⟨values, isValues, _⟩ := (monitors_filtered setup).answered present
    exact ⟨values, isValues, get?_nodeTargets isValues⟩
  · intro left right separable separable' values values' isValues isValues' same
    rw [get?_nodeTargets isValues, get?_nodeTargets isValues', Option.some.injEq, nodeTargets_eq left,
      nodeTargets_eq right] at same
    rw [nodeTargets_eq left, nodeTargets_eq right,
      eq_of_quotedList_map ":9100" (apart_names separable) (apart_names separable') same]

/-- Two documents whose nodes have quotes in their names, and not the same names. -/
theorem separable_lists_determined_quotes :
    quotedList ["it's", "b"] ≠ quotedList ["it's b"] ∧
      ∃ left right values values',
        read (sample [] [sampleEntry "o'a" "10.0.0.1" "master", sampleEntry "b" "10.0.0.2" "worker"]) =
          .ok left ∧
        read (sample [] [sampleEntry "o'a','b" "10.0.0.1" "master"]) = .ok right ∧
        left.prometheusVariables = .ok values ∧ right.prometheusVariables = .ok values' ∧
        values.get? "NODE-TARGETS" ≠ values'.get? "NODE-TARGETS" := by
  obtain ⟨lists, _, answered, setups⟩ := separable_lists_determined
  obtain ⟨left, isLeft, present, leftFacts⟩ := exists_read_of_any
    (show (read (sample [] [sampleEntry "o'a" "10.0.0.1" "master", sampleEntry "b" "10.0.0.2" "worker"])
        ).toOption.any (fun setup => !setup.masters.isEmpty &&
          (setup.nodes.all (fun node => !(setup.qualify node.hostname).toList.contains ':') &&
            setup.nodeTargets == ["o'a.example.org:9100", "b.example.org:9100"])) = true by
      decide +kernel)
  obtain ⟨right, isRight, present', rightFacts⟩ := exists_read_of_any
    (show (read (sample [] [sampleEntry "o'a','b" "10.0.0.1" "master"])
        ).toOption.any (fun setup => !setup.masters.isEmpty &&
          (setup.nodes.all (fun node => !(setup.qualify node.hostname).toList.contains ':') &&
            setup.nodeTargets == ["o'a','b.example.org:9100"])) = true by
      decide +kernel)
  simp only [Bool.and_eq_true, Bool.not_eq_true', List.all_eq_true, beq_iff_eq, List.contains_eq_mem,
    decide_eq_false_iff_not] at leftFacts rightFacts
  obtain ⟨plain, targets⟩ := leftFacts
  obtain ⟨plain', targets'⟩ := rightFacts
  obtain ⟨values, isValues, _⟩ := answered left present
  obtain ⟨values', isValues', _⟩ := answered right present'
  have separable : HasSeparableNames left := hasSeparableNames_of_not_mem plain
  have separable' : HasSeparableNames right := hasSeparableNames_of_not_mem plain'
  constructor
  · intro same
    exact absurd (lists _ _ (separable_of_not_mem (by decide)) (separable_of_not_mem (by decide)) same)
      (by decide)
  · refine ⟨left, right, values, values', isLeft, isRight, isValues, isValues', fun same => ?_⟩
    have sameTargets := setups left right separable separable' values values' isValues isValues' same
    rw [targets, targets'] at sameTargets
    exact absurd sameTargets (by decide)

/-- An item that holds what stands between two items, and a host name that holds what stands between two
targets, make a list with the text of a longer one. -/
theorem quotedList_not_faithful :
    (¬ ∀ left right, quotedList left = quotedList right → left = right) ∧
      ∃ left right values values',
        read (sample [] [sampleEntry "a" "10.0.0.1" "master", sampleEntry "b" "10.0.0.2" "worker"]) =
          .ok left ∧
        read (sample [] [sampleEntry "a.example.org:9100','b" "10.0.0.1" "master"]) = .ok right ∧
        left.prometheusVariables = .ok values ∧ right.prometheusVariables = .ok values' ∧
        values.get? "NODE-TARGETS" = values'.get? "NODE-TARGETS" ∧ left.nodeTargets ≠ right.nodeTargets := by
  constructor
  · intro faithful
    exact absurd (faithful ["a", "b"] ["a','b"] (by decide)) (by decide)
  · obtain ⟨left, isLeft, present, targets⟩ := exists_read_of_any
      (show (read (sample [] [sampleEntry "a" "10.0.0.1" "master", sampleEntry "b" "10.0.0.2" "worker"])
          ).toOption.any (fun setup => !setup.masters.isEmpty &&
            setup.nodeTargets == ["a.example.org:9100", "b.example.org:9100"]) = true by
        decide +kernel)
    obtain ⟨right, isRight, present', targets'⟩ := exists_read_of_any
      (show (read (sample [] [sampleEntry "a.example.org:9100','b" "10.0.0.1" "master"])
          ).toOption.any (fun setup => !setup.masters.isEmpty &&
            setup.nodeTargets == ["a.example.org:9100','b.example.org:9100"]) = true by
        decide +kernel)
    rw [beq_iff_eq] at targets targets'
    obtain ⟨values, isValues, _⟩ := (monitors_filtered left).answered present
    obtain ⟨values', isValues', _⟩ := (monitors_filtered right).answered present'
    refine ⟨left, right, values, values', isLeft, isRight, isValues, isValues', ?_, ?_⟩
    · rw [get?_nodeTargets isValues, get?_nodeTargets isValues', targets, targets']
      exact congrArg some (by decide)
    · rw [targets, targets']
      decide

end ClusterConfig.Setup
