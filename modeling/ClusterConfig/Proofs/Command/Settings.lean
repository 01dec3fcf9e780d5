import ClusterConfig.Command.Run
import ClusterConfig.Proofs.Generated.KubeSpec
import ClusterConfig.Proofs.Template.Rendering

set_option autoImplicit false

/-!
# From arguments to a specification

Arguments give values to keys, and the last one for a key counts. The values of the cluster stand behind
them, and together they take the places of the placeholders in the template of a specification.
-/

namespace ClusterConfig.Command

/-- The argument gives the value to the key, which stands before its first equals sign. -/
structure Sets (argument key value : String) : Prop where
  whole : argument = key ++ "=" ++ value
  first : '=' ∉ key.toList

/-- The last of the arguments that give a value to the key gives it this one. -/
inductive LastSets : List String → String → String → Prop where
  | here {argument rest key value} : Sets argument key value →
      (∀ later ∈ rest, ∀ other, ¬ Sets later key other) → LastSets (argument :: rest) key value
  | later {argument rest key value} : LastSets rest key value → LastSets (argument :: rest) key value

/-- The value that takes the place of a key: the one that the arguments give it, or else the one that it has
in the cluster. -/
inductive Supplies (arguments : List String) (base : Dictionary String) : String → String → Prop where
  | given {key value} : LastSets arguments key value → Supplies arguments base key value
  | ofCluster {key value} : (∀ argument ∈ arguments, ∀ other, ¬ Sets argument key other) →
      base.get? key = some value → Supplies arguments base key value

variable {arguments : List String} {argument key value : String}

/-!
## Reading the arguments
-/

theorem splitAtFirst?_eq_some_iff_sets :
    Text.splitAtFirst? '=' argument = some (key, value) ↔ Sets argument key value := by
  rw [Text.splitAtFirst?_eq_some_iff]
  constructor
  · intro both
    exact ⟨both.1, both.2⟩
  · intro sets
    exact ⟨sets.whole, sets.first⟩

theorem exists_sets_iff : (∃ key value, Sets argument key value) ↔ '=' ∈ argument.toList := by
  constructor
  · intro facts
    obtain ⟨key, value, sets⟩ := facts
    simp [sets.whole]
  · intro member
    cases split : Text.splitAtFirst? '=' argument with
    | none =>
        rw [Text.splitAtFirst?, Option.map_eq_none_iff, Text.splitFirst?_eq_none] at split
        exact absurd member split
    | some entry => exact ⟨entry.1, entry.2, splitAtFirst?_eq_some_iff_sets.mp split⟩

theorem Sets.unique {key' value' : String} (sets : Sets argument key value) (sets' : Sets argument key' value') :
    key = key' ∧ value = value' := by
  have split := splitAtFirst?_eq_some_iff_sets.mpr sets
  rw [splitAtFirst?_eq_some_iff_sets.mpr sets'] at split
  cases split
  exact ⟨rfl, rfl⟩

def malformed (argument : String) : Report := { message := "expected KEY=VALUE, got: " ++ argument }

def setting (argument : String) : Except Report (String × String) :=
  match Text.splitAtFirst? '=' argument with
  | some entry => .ok entry
  | none => .error (malformed argument)

theorem settings_eq (arguments : List String) :
    settings arguments = (do
      let entries ← arguments.mapM setting
      pure (Dictionary.ofList entries)) := rfl

theorem setting_eq_ok_iff {entry : String × String} :
    setting argument = .ok entry ↔ Sets argument entry.1 entry.2 := by
  rw [← splitAtFirst?_eq_some_iff_sets, setting]
  cases Text.splitAtFirst? '=' argument <;> simp

theorem setting_eq_error (plain : '=' ∉ argument.toList) : setting argument = .error (malformed argument) := by
  have absent := Text.splitFirst?_eq_none.mpr plain
  rw [setting, Text.splitAtFirst?, absent]
  rfl

theorem settings_eq_error {before after : List String} (order : arguments = before ++ argument :: after)
    (wellFormed : ∀ earlier ∈ before, '=' ∈ earlier.toList) (plain : '=' ∉ argument.toList) :
    settings arguments = .error (malformed argument) := by
  have passes : ∀ earlier ∈ before, Reading.fault? (setting earlier) = none := by
    intro earlier member
    obtain ⟨key, value, sets⟩ := exists_sets_iff.mpr (wellFormed earlier member)
    have isSetting : setting earlier = .ok (key, value) := setting_eq_ok_iff.mpr sets
    rw [isSetting]
    rfl
  have isFault : Reading.fault? (arguments.mapM setting) = some (malformed argument) := by
    rw [Reading.fault?_mapM, order, List.findSome?_append, List.findSome?_eq_none_iff.mpr passes,
      List.findSome?_cons, setting_eq_error plain]
    rfl
  rw [settings_eq, Reading.fault?_eq_some_iff.mp isFault]
  rfl

/-!
## The last argument for a key
-/

section Entries

variable {entries : List (String × String)}

theorem lookup_reverse_eq_none_iff
    (split : List.Forall₂ (fun argument entry => setting argument = .ok entry) arguments entries) :
    entries.reverse.lookup key = none ↔ ∀ argument ∈ arguments, ∀ value, ¬ Sets argument key value := by
  rw [List.lookup_eq_none_iff]
  simp only [List.mem_reverse, bne_iff_ne]
  induction split with
  | nil => simp
  | @cons argument entry rest entries first _ ih =>
      have sets := setting_eq_ok_iff.mp first
      rw [List.forall_mem_cons, List.forall_mem_cons, ih]
      refine and_congr_left fun _ => ?_
      constructor
      · intro differs value other
        exact differs (other.unique sets).1
      · intro nothing same
        exact nothing entry.2 (same ▸ sets)

theorem lookup_reverse_eq_some_iff
    (split : List.Forall₂ (fun argument entry => setting argument = .ok entry) arguments entries) :
    entries.reverse.lookup key = some value ↔ LastSets arguments key value := by
  induction split with
  | nil =>
      refine iff_of_false (by simp) ?_
      intro last
      cases last
  | @cons argument entry rest entries first others ih =>
      have sets := setting_eq_ok_iff.mp first
      have alone : [entry].lookup key = some value ↔ key = entry.1 ∧ entry.2 = value := by
        obtain ⟨present, content⟩ := entry
        simp
      -- In the reversed list the head stands last, so it counts only where the rest does not set the key.
      rw [List.reverse_cons, List.lookup_append, Option.or_eq_some_iff, ih, alone,
        lookup_reverse_eq_none_iff others]
      constructor
      · intro found
        rcases found with inRest | ⟨notInRest, rfl, rfl⟩
        · exact .later inRest
        · exact .here sets notInRest
      · intro last
        cases last with
        | later inRest => exact .inl inRest
        | here isFirst notInRest =>
            obtain ⟨isKey, isValue⟩ := sets.unique isFirst
            exact .inr ⟨notInRest, isKey.symm, isValue⟩

end Entries

theorem exists_settings (wellFormed : ∀ argument ∈ arguments, '=' ∈ argument.toList) :
    ∃ extra, settings arguments = .ok extra ∧
      (∀ key, extra.get? key = none ↔ ∀ argument ∈ arguments, ∀ value, ¬ Sets argument key value) ∧
      ∀ key value, extra.get? key = some value ↔ LastSets arguments key value := by
  obtain ⟨entries, split⟩ : ∃ entries,
      List.Forall₂ (fun argument entry => setting argument = .ok entry) arguments entries := by
    refine Reading.exists_forall₂_iff.mpr fun argument member => ?_
    obtain ⟨key, value, sets⟩ := exists_sets_iff.mpr (wellFormed argument member)
    exact ⟨(key, value), setting_eq_ok_iff.mpr sets⟩
  refine ⟨.ofList entries, ?_, fun key => ?_, fun key value => ?_⟩
  · rw [settings_eq, Reading.mapM_eq_ok_iff.mpr split]
    rfl
  · rw [Dictionary.get?_ofList, lookup_reverse_eq_none_iff split]
  · rw [Dictionary.get?_ofList, lookup_reverse_eq_some_iff split]

/-!
## Taking the places of the placeholders
-/

/-- What a specification comes to with the settings that its arguments are read as. -/
structure Specifies (setup : Setup) (name : String) (arguments : List String) (extra : Dictionary String)
    (resources : Resources) : Prop where
  unsupplied : ∀ failure, resources ("clustered/" ++ name) = .error failure →
    setup.kubeSpec name extra resources = .error failure
  foreign : ∀ bytes, resources ("clustered/" ++ name) = .ok bytes → (∀ text : String, text.toUTF8 ≠ bytes) →
    setup.kubeSpec name extra resources =
      .error (.template ("clustered/" ++ name) (.encoding (Utf8.firstFault bytes)))
  noMaster : ∀ text : String, resources ("clustered/" ++ name) = .ok text.toUTF8 → setup.masters = [] →
    setup.kubeSpec name extra resources = .error .noMaster
  rendered : ∀ text : String, resources ("clustered/" ++ name) = .ok text.toUTF8 → setup.masters ≠ [] →
    ∃ base values, setup.kubeSpecBase = .ok base ∧ setup.kubeSpecVariables extra = .ok values ∧
      setup.kubeSpec name extra resources = resources.render ("clustered/" ++ name) values ∧
      (∀ key value, values.get? key = some value ↔ Supplies arguments base key value) ∧
      ∃ division : Template.Division, division.Divides text.toList ∧
        (∀ value : String → String, (∀ key ∈ division.keys, Supplies arguments base key (value key)) →
          setup.kubeSpec name extra resources = .ok (String.ofList (division.fill value))) ∧
        ∀ before key after, division.keys = before ++ key :: after →
          (∀ earlier ∈ before, ∃ value, Supplies arguments base earlier value) →
          (∀ value, ¬ Supplies arguments base key value) →
            setup.kubeSpec name extra resources = .error (.template ("clustered/" ++ name) (.unbound key))

section Supplied

variable {setup : Setup} {name text : String} {extra base : Dictionary String} {resources : Resources}
  {first : Node} {others : List Node}

theorem get?_override_eq_some_iff
    (unset : ∀ key, extra.get? key = none ↔ ∀ argument ∈ arguments, ∀ value, ¬ Sets argument key value)
    (set : ∀ key value, extra.get? key = some value ↔ LastSets arguments key value) :
    (base.override extra).get? key = some value ↔ Supplies arguments base key value := by
  rw [Dictionary.get?_override, Option.or_eq_some_iff, set, unset]
  constructor
  · intro found
    rcases found with last | ⟨nothing, inBase⟩
    · exact .given last
    · exact .ofCluster nothing inBase
  · intro supplies
    cases supplies with
    | given last => exact .inl last
    | ofCluster nothing inBase => exact .inr ⟨nothing, inBase⟩

theorem specifies
    (unset : ∀ key, extra.get? key = none ↔ ∀ argument ∈ arguments, ∀ value, ¬ Sets argument key value)
    (set : ∀ key value, extra.get? key = some value ↔ LastSets arguments key value) :
    Specifies setup name arguments extra resources := by
  constructor
  case unsupplied =>
    intro failure unsupplied
    exact Setup.kubeSpec_of_unsupplied unsupplied
  case foreign =>
    intro bytes supplied foreign
    exact Setup.kubeSpec_of_foreign supplied foreign
  case noMaster =>
    intro text supplied absent
    exact Setup.kubeSpec_of_lacking supplied absent
  case rendered =>
    intro text supplied present
    obtain ⟨first, others, areMasters⟩ := List.exists_cons_of_ne_nil present
    obtain ⟨base, isBase, _, areValues⟩ := (Setup.showsControlPlane areMasters).kubeSpecVariables
    have found (key value : String) :
        (base.override extra).get? key = some value ↔ Supplies arguments base key value :=
      get?_override_eq_some_iff unset set
    have byName : setup.kubeSpec name extra resources =
        resources.render ("clustered/" ++ name) (base.override extra) :=
      Setup.kubeSpec_eq_render supplied (areValues extra)
    have isRendered := byName.trans (Resources.render_of_text supplied _)
    have divides := Template.Division.divides_iff.mpr
      (rfl : Template.Division.ofSegments (Template.segments text.toList) = _)
    refine ⟨base, _, isBase, areValues extra, byName, found, _, divides, ?_, ?_⟩
    · intro value supplies
      rw [isRendered, Template.render_eq_ok divides fun key member => (found key _).mpr (supplies key member)]
      rfl
    · intro before key after order supplies unsupplied
      have bound : ∀ earlier ∈ before, ((base.override extra).get? earlier).isSome := by
        intro earlier member
        obtain ⟨value, supply⟩ := supplies earlier member
        exact Option.isSome_iff_exists.mpr ⟨value, (found earlier value).mpr supply⟩
      have unbound : (base.override extra).get? key = none :=
        Option.eq_none_iff_forall_ne_some.mpr fun value isValue => unsupplied value ((found key value).mp isValue)
      rw [isRendered, Template.render_eq_error divides order bound unbound]
      rfl

end Supplied

/-- **From arguments to a specification.** The first argument without an equals sign is reported. Otherwise the
arguments are settings, with which the specification is the template by its name among the resources where
every placeholder has given way to the setting of the last argument for its key, or else to the value in
the cluster; and it fails, in this order, for the lookup, for bytes that are no text, for the lack of a control
plane whatever the arguments say, and for the first placeholder that nothing stands for. -/
theorem kubeSpec_of_arguments (setup : Setup) (name : String) (arguments : List String)
    (resources : Resources) :
    (∀ before argument after, arguments = before ++ argument :: after →
      (∀ earlier ∈ before, '=' ∈ earlier.toList) → '=' ∉ argument.toList →
        settings arguments = .error { message := "expected KEY=VALUE, got: " ++ argument }) ∧
      ((∀ argument ∈ arguments, '=' ∈ argument.toList) →
        ∃ extra, settings arguments = .ok extra ∧ Specifies setup name arguments extra resources) := by
  constructor
  · intro before argument after order wellFormed plain
    exact settings_eq_error order wellFormed plain
  · intro wellFormed
    obtain ⟨extra, areSettings, unset, set⟩ := exists_settings wellFormed
    exact ⟨extra, areSettings, specifies unset set⟩

/-- A template with three placeholders, the last of which only the cluster has a value for. -/
def sampleTemplate : String := "\x7b\x7bX\x7d\x7d \x7b\x7bSERVIP_DNS\x7d\x7d \x7b\x7bINTERNAL_DOMAIN\x7d\x7d"

def sampleArguments : List String := ["SERVIP_DNS=10.0.0.53", "X=a=b", "SERVIP_DNS=1.1.1.1"]

theorem kubeSpec_of_arguments_sample :
    settings ["A=1", "B", "C"] = .error { message := "expected KEY=VALUE, got: B" } ∧
      ∃ setup extra, Setup.read (Setup.sample [] [Setup.sampleEntry "a" "10.0.0.1" "master"]) = .ok setup ∧
        settings sampleArguments = .ok extra ∧
        setup.kubeSpec "t" extra (.listed [("clustered/t", sampleTemplate.toUTF8)]) =
          .ok "a=b 1.1.1.1 example.lan" := by
  obtain ⟨setup, isRead, checked⟩ := Reading.exists_ok_of_any
    (show (Setup.read (Setup.sample [] [Setup.sampleEntry "a" "10.0.0.1" "master"])).toOption.any (fun setup =>
        !setup.masters.isEmpty && (settings sampleArguments).toOption.any fun extra =>
          (setup.kubeSpecVariables extra).toOption.any fun values =>
            values.get? "X" = some "a=b" ∧ values.get? "SERVIP_DNS" = some "1.1.1.1" ∧
              values.get? "INTERNAL_DOMAIN" = some "example.lan") = true by
      decide +kernel)
  obtain ⟨isMasters, checked⟩ := Bool.and_eq_true_iff.mp checked
  obtain ⟨extra, areSettings, checked⟩ := Reading.exists_ok_of_any checked
  obtain ⟨values, areValues, found⟩ := Reading.exists_ok_of_any checked
  obtain ⟨foundX, foundDns, foundDomain⟩ := of_decide_eq_true found
  have present : setup.masters ≠ [] := by simpa using isMasters
  obtain ⟨extra', areSettings', specifies⟩ := (kubeSpec_of_arguments setup "t" sampleArguments
    (.listed [("clustered/t", sampleTemplate.toUTF8)])).2 (by decide)
  cases areSettings.symm.trans areSettings'
  have supplied : Resources.listed [("clustered/t", sampleTemplate.toUTF8)] ("clustered/" ++ "t") =
      .ok sampleTemplate.toUTF8 := rfl
  obtain ⟨base, values', _, areValues', _, supplies, division, divides, filled, _⟩ :=
    specifies.rendered sampleTemplate supplied present
  cases areValues.symm.trans areValues'
  rw [Template.Division.divides_iff] at divides
  subst divides
  let value (key : String) : String :=
    if key = "X" then "a=b" else if key = "SERVIP_DNS" then "1.1.1.1" else "example.lan"
  have areKeys : (Template.Division.ofSegments (Template.segments sampleTemplate.toList)).keys =
      ["X", "SERVIP_DNS", "INTERNAL_DOMAIN"] := by decide +kernel
  have isFilled : String.ofList
      ((Template.Division.ofSegments (Template.segments sampleTemplate.toList)).fill value) =
        "a=b 1.1.1.1 example.lan" := by decide +kernel
  refine ⟨?_, setup, extra, isRead, areSettings, ?_⟩
  · exact (kubeSpec_of_arguments setup "t" ["A=1", "B", "C"] .bundled).1 ["A=1"] "B" ["C"] rfl (by decide)
      (by decide)
  · rw [filled value ?_, isFilled]
    rw [areKeys]
    simp only [List.forall_mem_cons, ← supplies]
    exact ⟨foundX, foundDns, foundDomain, fun _ member => absurd member List.not_mem_nil⟩

end ClusterConfig.Command
