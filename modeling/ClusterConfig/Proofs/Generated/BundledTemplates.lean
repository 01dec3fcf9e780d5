import ClusterConfig.Proofs.Generated.KubeSpec
import ClusterConfig.Proofs.Template.Rendering

set_option autoImplicit false

/-!
# The templates that come with the program

Templates and the values for them are written apart from each other and share nothing but the spelling of
keys. Every key that stands in a template which comes with the program is among those that its file is
rendered with, so that only a setup without a control plane is refused these files.
-/

namespace ClusterConfig

namespace Resources.Bundled

def text (lines : List String) : String := String.join (lines.map (· ++ "\n"))

theorem content_eq (lines : List String) : content lines = (text lines).toUTF8 := rfl

theorem toList_text (lines : List String) :
    (text lines).toList = lines.flatMap fun line => line.toList ++ ['\n'] := by
  simp [text, String.toList_join, List.flatMap_map]

/-- The keys of the placeholders in a text of lines, in their order. -/
def keys (lines : List String) : List String :=
  (Template.Division.ofSegments (Template.segments (lines.flatMap fun line => line.toList ++ ['\n']))).keys

theorem keys_kubeconfig : keys kubeconfig = ["AUTHORITY-PATH", "APISERVER", "CERT-PATH", "KEY-PATH"] := by
  decide +kernel

theorem keys_prometheus : keys prometheus = ["NODE-TARGETS", "PULL-TARGETS", "ETCD-TARGETS", "APISERVER"] := by
  decide +kernel

theorem keys_dnsService : keys dnsService = ["SERVIP_DNS"] := by
  decide +kernel

end Resources.Bundled

open Resources.Bundled

/-- The template of that name comes with the program, it has placeholders with the given keys, each of which
has a value, and the text is the template with the value of each key in the place of its placeholder and
unchanged elsewhere. -/
def FillsBundled (name : String) (keys : List String) (values : Dictionary String) (text : String) : Prop :=
  ∃ (template : String) (division : Template.Division), Resources.bundled name = .ok template.toUTF8 ∧
    division.Divides template.toList ∧ division.keys = keys ∧ (∀ key ∈ keys, (values.get? key).isSome) ∧
    ∀ value : String → String, (∀ key ∈ keys, values.get? key = some (value key)) →
      text = String.ofList (division.fill value)

theorem exists_rendered {name : String} {lines : List String} {values : Dictionary String}
    (supplied : Resources.bundled name = .ok (content lines))
    (bound : ∀ key ∈ keys lines, (values.get? key).isSome) :
    ∃ rendered, Resources.bundled.render name values = .ok rendered ∧
      FillsBundled name (keys lines) values rendered := by
  rw [content_eq] at supplied
  have divides := Template.Division.divides_iff.mpr
    (rfl : Template.Division.ofSegments (Template.segments (text lines).toList) = _)
  have areKeys : (Template.Division.ofSegments (Template.segments (text lines).toList)).keys = keys lines := by
    rw [toList_text, keys]
  have found : ∀ key ∈ keys lines, values.get? key = some ((values.get? key).getD "") := by
    intro key member
    obtain ⟨value, isValue⟩ := Option.isSome_iff_exists.mp (bound key member)
    rw [isValue, Option.getD_some]
  obtain ⟨rendered, isRendered⟩ : ∃ rendered, Template.render values (text lines) = .ok rendered :=
    ⟨_, Template.render_eq_ok divides (areKeys ▸ found)⟩
  refine ⟨rendered, ?_, text lines, _, supplied, divides, areKeys, bound, fun value isValue => ?_⟩
  · rw [Resources.render_of_text supplied, isRendered]
    rfl
  · exact Except.ok.inj (isRendered.symm.trans (Template.render_eq_ok divides (areKeys ▸ isValue)))

namespace Setup

variable {setup : Setup} {first : Node} {others : List Node}

theorem kubeconfig_of_variables {project : Project} {values : Dictionary String}
    (areValues : setup.kubeconfigVariables project = .ok values) (resources : Resources) :
    setup.kubeconfig project resources = resources.render kubeconfigTemplate values := by
  rw [Setup.kubeconfig, areValues]
  rfl

theorem prometheus_of_variables {values : Dictionary String}
    (areValues : setup.prometheusVariables = .ok values) (resources : Resources) :
    setup.prometheus resources = resources.render prometheusTemplate values := by
  rw [Setup.prometheus, areValues]
  rfl

theorem bundled_dnsService : Resources.bundled (kubeSpecTemplate "dns-service.yaml") =
    .ok (text Resources.Bundled.dnsService).toUTF8 := rfl

/-- All three files are refused for want of a control plane. -/
structure RefusesBundled (setup : Setup) (project : Project) (extra : Dictionary String) : Prop where
  kubeconfig : setup.kubeconfig project .bundled = .error .noMaster
  prometheus : setup.prometheus .bundled = .error .noMaster
  dnsService : setup.kubeSpec "dns-service.yaml" extra .bundled = .error .noMaster

/-- All three files are made from their templates. -/
structure FillsAllBundled (setup : Setup) (project : Project) (extra : Dictionary String) : Prop where
  kubeconfig : ∃ values rendered, setup.kubeconfigVariables project = .ok values ∧
    setup.kubeconfig project .bundled = .ok rendered ∧
    FillsBundled "kubeconfig-local.yaml" ["AUTHORITY-PATH", "APISERVER", "CERT-PATH", "KEY-PATH"] values
      rendered
  prometheus : ∃ values rendered, setup.prometheusVariables = .ok values ∧
    setup.prometheus .bundled = .ok rendered ∧
    FillsBundled "prometheus.yaml" ["NODE-TARGETS", "PULL-TARGETS", "ETCD-TARGETS", "APISERVER"] values
      rendered
  dnsService : ∃ values rendered, setup.kubeSpecVariables extra = .ok values ∧
    setup.kubeSpec "dns-service.yaml" extra .bundled = .ok rendered ∧
    FillsBundled "clustered/dns-service.yaml" ["SERVIP_DNS"] values rendered ∧
    values.get? "SERVIP_DNS" = some ((extra.get? "SERVIP_DNS").getD setup.addressing.dns.text)

theorem refusesBundled (absent : setup.masters = []) (project : Project) (extra : Dictionary String) :
    RefusesBundled setup project extra := by
  have lacks := lacksControlPlane absent
  constructor
  case kubeconfig =>
    rw [Setup.kubeconfig, lacks.kubeconfigVariables]
    rfl
  case prometheus =>
    rw [Setup.prometheus, lacks.prometheusVariables]
    rfl
  case dnsService => exact kubeSpec_of_lacking bundled_dnsService absent

theorem fillsAllBundled (present : setup.masters = first :: others) (project : Project)
    (extra : Dictionary String) : FillsAllBundled setup project extra := by
  have isDefault := defaultMaster_of_cons present
  have isEndpoint := defaultEndpoint_of_cons present
  constructor
  case kubeconfig =>
    obtain ⟨values, areValues, bound⟩ : ∃ values, setup.kubeconfigVariables project = .ok values ∧
        ∀ key ∈ keys Resources.Bundled.kubeconfig, (values.get? key).isSome := by
      rw [kubeconfigVariables, isEndpoint, keys_kubeconfig]
      refine ⟨_, rfl, ?_⟩
      simp [Dictionary.get?_ofList, List.lookup_cons]
    have supplied : Resources.bundled kubeconfigTemplate = .ok (content Resources.Bundled.kubeconfig) := rfl
    obtain ⟨rendered, isRendered, fills⟩ := exists_rendered supplied bound
    rw [keys_kubeconfig] at fills
    refine ⟨values, rendered, areValues, ?_, fills⟩
    rw [kubeconfig_of_variables areValues]
    exact isRendered
  case prometheus =>
    obtain ⟨values, areValues, bound⟩ : ∃ values, setup.prometheusVariables = .ok values ∧
        ∀ key ∈ keys Resources.Bundled.prometheus, (values.get? key).isSome := by
      rw [prometheusVariables, isDefault, keys_prometheus]
      refine ⟨_, rfl, ?_⟩
      simp [Dictionary.get?_ofList, List.lookup_cons]
    have supplied : Resources.bundled prometheusTemplate = .ok (content Resources.Bundled.prometheus) := rfl
    obtain ⟨rendered, isRendered, fills⟩ := exists_rendered supplied bound
    rw [keys_prometheus] at fills
    refine ⟨values, rendered, areValues, ?_, fills⟩
    rw [prometheus_of_variables areValues]
    exact isRendered
  case dnsService =>
    obtain ⟨base, isBase, inBase⟩ : ∃ base, setup.kubeSpecBase = .ok base ∧
        base.get? "SERVIP_DNS" = some setup.addressing.dns.text := by
      rw [kubeSpecBase, isDefault]
      refine ⟨_, rfl, ?_⟩
      simp [Dictionary.get?_ofList, List.lookup_cons]
    have areValues : setup.kubeSpecVariables extra = .ok (base.override extra) := by
      rw [kubeSpecVariables, isBase]
      rfl
    have isValue : (base.override extra).get? "SERVIP_DNS" =
        some ((extra.get? "SERVIP_DNS").getD setup.addressing.dns.text) := by
      rw [Dictionary.get?_override, inBase]
      cases extra.get? "SERVIP_DNS" <;> rfl
    have bound : ∀ key ∈ keys Resources.Bundled.dnsService, ((base.override extra).get? key).isSome := by
      rw [keys_dnsService]
      simp [isValue]
    obtain ⟨rendered, isRendered, fills⟩ := exists_rendered bundled_dnsService bound
    rw [keys_dnsService] at fills
    refine ⟨_, rendered, areValues, ?_, fills, isValue⟩
    rw [kubeSpec_eq_render bundled_dnsService areValues]
    exact isRendered

/-- **The templates that come with the program.** With them a setup that has a control plane is always given
its files, whatever the project and the further values are, and nothing but the placeholders of a template
changes. A setup without one is refused each of them for this reason. -/
theorem bundledTemplates_fit (setup : Setup) (project : Project) (extra : Dictionary String) :
    ((setup.nodes.filter fun node => node.kind = .master) = [] → RefusesBundled setup project extra) ∧
      ((setup.nodes.filter fun node => node.kind = .master) ≠ [] → FillsAllBundled setup project extra) := by
  constructor
  · intro absent
    exact refusesBundled absent project extra
  · intro present
    obtain ⟨first, others, areMasters⟩ := List.exists_cons_of_ne_nil present
    exact fillsAllBundled areMasters project extra

/-- The address of the name server is given anew, and is taken as it is although it is none. -/
theorem bundledTemplates_fit_sample :
    ∃ lacking setup, read (sample [] [sampleEntry "w" "10.0.0.2" "worker"]) = .ok lacking ∧
      read (sample [] [sampleEntry "a" "10.0.0.1" "master"]) = .ok setup ∧
      RefusesBundled lacking ⟨"/p"⟩ (.ofList []) ∧
      setup.kubeSpec "dns-service.yaml" (.ofList [("SERVIP_DNS", "\x7b\x7bX\x7d\x7d")]) .bundled =
        .ok (text (Resources.Bundled.dnsService.set 8 "  clusterIP: \x7b\x7bX\x7d\x7d")) := by
  obtain ⟨lacking, isLacking, absent⟩ := Reading.exists_ok_of_any
    (show (read (sample [] [sampleEntry "w" "10.0.0.2" "worker"])).toOption.any (fun setup =>
        setup.masters.isEmpty) = true by decide +kernel)
  obtain ⟨setup, isRead, present⟩ := exists_sample_master
  have refused := (bundledTemplates_fit lacking ⟨"/p"⟩ (.ofList [])).1 (List.isEmpty_iff.mp absent)
  obtain ⟨values, rendered, _, isRendered, fills, isValue⟩ := ((bundledTemplates_fit setup ⟨"/p"⟩
    (.ofList [("SERVIP_DNS", "\x7b\x7bX\x7d\x7d")])).2 present).dnsService
  obtain ⟨template, division, supplied, divides, areKeys, _, isFilled⟩ := fills
  obtain rfl : text Resources.Bundled.dnsService = template :=
    String.toByteArray_inj.mp (Except.ok.inj supplied)
  rw [Template.Division.divides_iff, toList_text] at divides
  subst divides
  have lines : String.ofList ((Template.Division.ofSegments (Template.segments
      (Resources.Bundled.dnsService.flatMap fun line => line.toList ++ ['\n']))).fill
        fun _ => "\x7b\x7bX\x7d\x7d") =
      text (Resources.Bundled.dnsService.set 8 "  clusterIP: \x7b\x7bX\x7d\x7d") := by
    rw [← String.ofList_toList (s := text _), toList_text]
    exact congrArg String.ofList (by decide +kernel)
  refine ⟨lacking, setup, isLacking, isRead, refused, ?_⟩
  rw [isRendered, isFilled _ ?_, lines]
  simpa [Dictionary.get?_ofList] using isValue

end Setup

end ClusterConfig
