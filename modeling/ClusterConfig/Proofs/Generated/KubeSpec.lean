import ClusterConfig.Generated.KubeSpec
import ClusterConfig.Proofs.Dictionary
import ClusterConfig.Proofs.Generated.ControlPlane

set_option autoImplicit false

/-!
# How a specification ends

The template of a specification is looked up, then decoded, then the control plane is asked for, and only
then is it rendered. The first of these steps that fails decides; without a failure the specification is
what rendering the resource by its name gives.
-/

namespace ClusterConfig

variable {resources : Resources} {name : String} {bytes : ByteArray} {text : String} {failure : Failure}
  {values : Dictionary String}

theorem Resources.render_of_text (supplied : resources name = .ok text.toUTF8)
    (values : Dictionary String) :
    resources.render name values = (Template.render values text).mapError (.template name) := by
  rw [render, supplied]
  change (Template.renderBytes values text.toUTF8).mapError (Failure.template name) = _
  rw [Template.renderBytes, Utf8.decode_toUTF8]
  rfl

namespace Setup

variable {setup : Setup} {extra : Dictionary String}

theorem kubeSpec_of_unsupplied (unsupplied : resources (kubeSpecTemplate name) = .error failure) :
    setup.kubeSpec name extra resources = .error failure := by
  rw [kubeSpec, unsupplied]
  rfl

theorem kubeSpec_of_foreign (supplied : resources (kubeSpecTemplate name) = .ok bytes)
    (foreign : ∀ text : String, text.toUTF8 ≠ bytes) :
    setup.kubeSpec name extra resources =
      .error (.template (kubeSpecTemplate name) (.encoding (Utf8.firstFault bytes))) := by
  have isFault := Utf8.decode_eq_error foreign
  rw [kubeSpec, supplied]
  dsimp only [bind, Except.bind]
  rw [isFault]
  rfl

theorem kubeSpec_of_text (supplied : resources (kubeSpecTemplate name) = .ok text.toUTF8) :
    setup.kubeSpec name extra resources =
      (do
        let values ← setup.kubeSpecVariables extra
        (Template.render values text).mapError (.template (kubeSpecTemplate name))) := by
  rw [kubeSpec, supplied]
  dsimp only [bind, Except.bind]
  rw [Utf8.decode_toUTF8]
  rfl

theorem kubeSpec_of_lacking (supplied : resources (kubeSpecTemplate name) = .ok text.toUTF8)
    (absent : setup.masters = []) : setup.kubeSpec name extra resources = .error .noMaster := by
  rw [kubeSpec_of_text supplied, (lacksControlPlane absent).kubeSpecVariables]
  rfl

theorem kubeSpec_eq_ok_iff {rendered : String} :
    setup.kubeSpec name extra resources = .ok rendered ↔
      ∃ text values, resources (kubeSpecTemplate name) = .ok text.toUTF8 ∧
        setup.kubeSpecVariables extra = .ok values ∧ Template.render values text = .ok rendered := by
  simp only [kubeSpec, Reading.bind_eq_ok_iff, Reading.mapError_eq_ok_iff, Utf8.decode_eq_ok_iff]
  constructor
  · intro facts
    obtain ⟨_, supplied, text, rfl, values, areValues, isRendered⟩ := facts
    exact ⟨text, values, supplied, areValues, isRendered⟩
  · intro facts
    obtain ⟨text, values, supplied, areValues, isRendered⟩ := facts
    exact ⟨_, supplied, text, rfl, values, areValues, isRendered⟩

/-- Reading the template apart from rendering it comes to the same as rendering the resource. -/
theorem kubeSpec_eq_render (supplied : resources (kubeSpecTemplate name) = .ok text.toUTF8)
    (areValues : setup.kubeSpecVariables extra = .ok values) :
    setup.kubeSpec name extra resources = resources.render (kubeSpecTemplate name) values := by
  rw [kubeSpec_of_text supplied, areValues, Resources.render_of_text supplied]
  rfl

theorem exists_sample_master : ∃ setup, read (sample [] [sampleEntry "a" "10.0.0.1" "master"]) = .ok setup ∧
    setup.masters ≠ [] := by
  obtain ⟨setup, isRead, nonempty⟩ := Reading.exists_ok_of_any
    (show (read (sample [] [sampleEntry "a" "10.0.0.1" "master"])).toOption.any (fun setup =>
        !setup.masters.isEmpty) = true by decide +kernel)
  exact ⟨setup, isRead, by simpa using nonempty⟩

end Setup

end ClusterConfig
