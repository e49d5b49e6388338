import Mathlib.Data.List.Chain
import Mathlib.Data.List.Nodup
import Mathlib.Data.String.Basic
import ClusterApi.Schema

/-!
# The ClusterClass validating webhook

`ValidateCreate` and `ValidateUpdate` (`api/v1alpha4/clusterclass_webhook.go`) accept a
ClusterClass only when no check reports an error. On update the infrastructure and
control-plane templates may not change, no MachineDeployment class may be removed or
changed, and class names stay unique. An accepted history therefore only ever adds
classes.

The template references are non-nil, as the CRD schema requires. Go maps are kept as
their sorted entries, so that `reflect.DeepEqual` is equality.
-/

namespace ClusterApi

/-- A Go `map[string]string` as its entries sorted by key; `reflect.DeepEqual` on two maps
is equality of their sorted entries. -/
def StringMap := {l : List (String × String) // l.Pairwise fun a b : String × String => a.1 < b.1}

instance : DecidableEq StringMap :=
  inferInstanceAs
    (DecidableEq {l : List (String × String) // l.Pairwise fun a b : String × String => a.1 < b.1})

structure ObjectMeta where
  labels : Option StringMap
  annotations : Option StringMap
  deriving DecidableEq

structure LocalObjectTemplate where
  ref : ObjectReference
  deriving DecidableEq

structure MachineDeploymentClassTemplate where
  metadata : ObjectMeta
  bootstrap : LocalObjectTemplate
  infrastructure : LocalObjectTemplate
  deriving DecidableEq

structure MachineDeploymentClass where
  «class» : String
  template : MachineDeploymentClassTemplate
  deriving DecidableEq

structure WorkersClass where
  machineDeployments : List MachineDeploymentClass
  deriving DecidableEq

structure ClusterClassSpec where
  infrastructure : LocalObjectTemplate
  controlPlane : LocalObjectTemplate
  workers : WorkersClass
  deriving DecidableEq

structure ClusterClass where
  name : String
  «namespace» : String
  spec : ClusterClassSpec
  deriving DecidableEq

inductive BadValue where
  | string (s : String)
  | machineDeploymentClass (c : MachineDeploymentClass)
  | machineDeploymentClasses (cs : List MachineDeploymentClass)
  | localObjectTemplate (t : LocalObjectTemplate)

inductive ErrorType where
  | invalid | forbidden
  deriving DecidableEq

structure FieldError where
  type : ErrorType
  field : List String
  badValue : BadValue
  detail : String

def fieldInvalid (field : List String) (badValue : BadValue) (detail : String) : FieldError :=
  ⟨.invalid, field, badValue, detail⟩

inductive ValidationError where
  | field (e : FieldError)
  | invalid (groupKind : GroupKind) (name : String) (errs : List FieldError)

/-! ## The checks -/

def checkRefNamespace (path : List String) (ref : ObjectReference) (ns : String) :
    List FieldError :=
  if ref.«namespace» ≠ ns then
    [fieldInvalid path (.string ref.«namespace») "must match metadata.namespace"]
  else []

def validateRefNamespace (cc : ClusterClass) : List FieldError :=
  checkRefNamespace ["spec", "infrastructure", "ref", "namespace"]
      cc.spec.infrastructure.ref cc.«namespace» ++
    checkRefNamespace ["spec", "controlPlane", "ref", "namespace"]
      cc.spec.controlPlane.ref cc.«namespace» ++
    cc.spec.workers.machineDeployments.flatMap fun c =>
      checkRefNamespace ["spec", "workers", "machineDeployments", "template", "bootstrap", "ref",
          "namespace"] c.template.bootstrap.ref cc.«namespace» ++
        checkRefNamespace ["spec", "workers", "machineDeployments", "template", "infrastructure",
          "ref", "namespace"] c.template.infrastructure.ref cc.«namespace»

def checkRefTemplate (path : List String) (ref : ObjectReference) : List FieldError :=
  if !hasSuffixLower ref.kind "template" then
    [fieldInvalid path (.string ref.kind) "must be a template"]
  else []

def validateRefTemplates (cc : ClusterClass) : List FieldError :=
  checkRefTemplate ["spec", "infrastructure", "ref", "kind"] cc.spec.infrastructure.ref ++
    checkRefTemplate ["spec", "controlplane", "ref", "kind"] cc.spec.controlPlane.ref ++
    cc.spec.workers.machineDeployments.flatMap fun c =>
      checkRefTemplate ["spec", "workers", "machineDeployments", "template", "bootstrap", "ref",
          "kind"] c.template.bootstrap.ref ++
        checkRefTemplate ["spec", "workers", "machineDeployments", "template", "infrastructure",
          "ref", "kind"] c.template.infrastructure.ref

def checkRefAPIVersion (path : List String) (ref : ObjectReference) : List FieldError :=
  if ref.apiVersion ≠ "" then
    match parseGroupVersion ref.apiVersion with
    | .error err => [fieldInvalid path (.string ref.apiVersion)
        ("must be a valid apiVerison. found error: " ++ err)]
    | .ok _ => []
  else []

def validateRefAPIVersions (cc : ClusterClass) : List FieldError :=
  checkRefAPIVersion ["spec", "infrastructure", "ref", "apiVersion"] cc.spec.infrastructure.ref ++
    checkRefAPIVersion ["spec", "controlplane", "ref", "apiVersion"] cc.spec.controlPlane.ref ++
    cc.spec.workers.machineDeployments.flatMap fun c =>
      checkRefAPIVersion ["spec", "workers", "machineDeployments", "template", "bootstrap", "ref",
          "apiVersion"] c.template.bootstrap.ref ++
        checkRefAPIVersion ["spec", "workers", "machineDeployments", "template",
          "infrastructure", "ref", "apiVersion"] c.template.infrastructure.ref

def duplicateClassErrors : List String → List MachineDeploymentClass → List FieldError
  | _, [] => []
  | classNames, c :: cs =>
    (if c.«class» ∈ classNames then
      [fieldInvalid ["spec", "workers", "machineDeployments"] (.machineDeploymentClass c)
        ("MachineDeployment class should be unique. MachineDeployment with class \"" ++
          c.«class» ++ "\" is defined more than once.")]
    else []) ++ duplicateClassErrors (c.«class» :: classNames) cs

def validateMachineDeployments (cc : ClusterClass) (old : Option ClusterClass) :
    List FieldError :=
  let mds := cc.spec.workers.machineDeployments
  let allErrs := duplicateClassErrors [] mds
  match old with
  | none => allErrs
  | some old =>
    allErrs ++ old.spec.workers.machineDeployments.flatMap fun oldClass =>
      if oldClass.«class» ∉ mds.map (·.«class») then
        [fieldInvalid ["spec", "workers", "machineDeployments"] (.machineDeploymentClasses mds)
          ("The \"" ++ oldClass.«class» ++ "\" MachineDeployment class can't be removed.")]
      else []

def validateAdditionalChanges (cc : ClusterClass) (old : Option ClusterClass) :
    List FieldError :=
  match old with
  | none => []
  | some old =>
    (if cc.spec.infrastructure ≠ old.spec.infrastructure then
      [fieldInvalid ["spec", "infrastructure"] (.localObjectTemplate cc.spec.infrastructure)
        "cannot be changed."]
    else []) ++
    -- the reported value is the infrastructure template, as in the source
    (if cc.spec.controlPlane ≠ old.spec.controlPlane then
      [fieldInvalid ["spec", "controlPlane"] (.localObjectTemplate cc.spec.infrastructure)
        "cannot be changed."]
    else []) ++
    cc.spec.workers.machineDeployments.flatMap fun c =>
      old.spec.workers.machineDeployments.flatMap fun oldClass =>
        if c.«class» = oldClass.«class» ∧ c ≠ oldClass then
          [fieldInvalid ["spec", "workers", "machineDeployments"] (.machineDeploymentClass c)
            "cannot be changed."]
        else []

/-- `validate`, under the value of the `ClusterTopology` feature gate. -/
def validate (clusterTopology : Bool) (cc : ClusterClass) (old : Option ClusterClass) :
    Except ValidationError Unit :=
  if !clusterTopology then
    .error (.field ⟨.forbidden, ["spec"], .string "",
      "can be set only if the ClusterTopology feature flag is enabled"⟩)
  else
    let allErrs := validateRefNamespace cc ++ validateRefTemplates cc ++
      validateRefAPIVersions cc ++ validateMachineDeployments cc old ++
      validateAdditionalChanges cc old
    if allErrs.length > 0 then .error (.invalid ⟨"cluster.x-k8s.io", "ClusterClass"⟩ cc.name allErrs)
    else .ok ()

def validateCreate (clusterTopology : Bool) (cc : ClusterClass) : Except ValidationError Unit :=
  validate clusterTopology cc none

def validateUpdate (clusterTopology : Bool) (cc old : ClusterClass) :
    Except ValidationError Unit :=
  validate clusterTopology cc (some old)

/-! ## An accepted update only adds classes -/

theorem duplicateClassErrors_eq_nil {classNames : List String}
    {cs : List MachineDeploymentClass} (h : duplicateClassErrors classNames cs = []) :
    (cs.map (·.«class»)).Nodup ∧ ∀ c ∈ cs, c.«class» ∉ classNames := by
  induction cs generalizing classNames with
  | nil => simp
  | cons c cs ih =>
    simp only [duplicateClassErrors, List.append_eq_nil] at h
    have hc : c.«class» ∉ classNames := fun hm => by simp [hm] at h
    obtain ⟨hnd, hnot⟩ := ih h.2
    refine ⟨List.nodup_cons.mpr ⟨fun hm => ?_, hnd⟩, ?_⟩
    · obtain ⟨d, hd, hdc⟩ := List.mem_map.mp hm
      exact hnot d hd (by simp [hdc])
    · simp only [List.mem_cons, forall_eq_or_imp]
      exact ⟨hc, fun d hd hm => hnot d hd (List.mem_cons_of_mem _ hm)⟩

theorem validate_ok {clusterTopology : Bool} {cc : ClusterClass} {old : Option ClusterClass}
    (h : validate clusterTopology cc old = .ok ()) :
    validateMachineDeployments cc old = [] ∧ validateAdditionalChanges cc old = [] := by
  unfold validate at h
  split at h
  · cases h
  dsimp only at h
  split at h
  · cases h
  rename_i hlen
  simp only [gt_iff_lt, List.length_pos, ne_eq, not_not, List.append_eq_nil] at hlen
  exact ⟨hlen.1.2, hlen.2⟩

theorem validateCreate_ok {clusterTopology : Bool} {cc : ClusterClass}
    (h : validateCreate clusterTopology cc = .ok ()) :
    (cc.spec.workers.machineDeployments.map (·.«class»)).Nodup :=
  (duplicateClassErrors_eq_nil (validate_ok h).1).1

theorem validateUpdate_ok {clusterTopology : Bool} {cc old : ClusterClass}
    (h : validateUpdate clusterTopology cc old = .ok ()) :
    cc.spec.infrastructure = old.spec.infrastructure ∧
      cc.spec.controlPlane = old.spec.controlPlane ∧
      (∀ c ∈ old.spec.workers.machineDeployments, c ∈ cc.spec.workers.machineDeployments) ∧
      (cc.spec.workers.machineDeployments.map (·.«class»)).Nodup := by
  obtain ⟨hmd, hadd⟩ := validate_ok h
  simp only [validateMachineDeployments, List.append_eq_nil, List.flatMap_eq_nil_iff] at hmd
  simp only [validateAdditionalChanges, List.append_eq_nil, List.flatMap_eq_nil_iff] at hadd
  obtain ⟨⟨hinfra, hcp⟩, hsame⟩ := hadd
  refine ⟨?_, ?_, fun oc hoc => ?_, (duplicateClassErrors_eq_nil hmd.1).1⟩
  · by_contra hne; simp [hne] at hinfra
  · by_contra hne; simp [hne] at hcp
  · have hname : oc.«class» ∈ cc.spec.workers.machineDeployments.map (·.«class») := by
      by_contra hn; simpa [hn] using hmd.2 oc hoc
    obtain ⟨c, hc, hcc⟩ := List.mem_map.mp hname
    have : c = oc := by
      by_contra hne
      simpa [hcc, hne] using hsame c hc oc hoc
    exact this ▸ hc

theorem updates_keep {clusterTopology : Bool} :
    ∀ {cc : ClusterClass} {updates : List ClusterClass},
      List.Chain (fun old new => validateUpdate clusterTopology new old = .ok ()) cc updates →
      let last := (cc :: updates).getLast (List.cons_ne_nil _ _)
      last.spec.infrastructure = cc.spec.infrastructure ∧
        last.spec.controlPlane = cc.spec.controlPlane ∧
        (∀ c ∈ cc.spec.workers.machineDeployments, c ∈ last.spec.workers.machineDeployments) ∧
        ∀ cc' ∈ updates, (cc'.spec.workers.machineDeployments.map (·.«class»)).Nodup
  | _, [], _ => ⟨rfl, rfl, fun _ h => h, by simp⟩
  | cc, next :: updates, h => by
    obtain ⟨hstep, hrest⟩ := List.chain_cons.mp h
    obtain ⟨hi, hc, hm, hnd⟩ := validateUpdate_ok hstep
    obtain ⟨hi', hc', hm', hnd'⟩ := updates_keep hrest
    simp only [List.getLast_cons_cons] at hi' hc' hm' ⊢
    refine ⟨hi'.trans hi, hc'.trans hc, fun c h => hm' c (hm c h), ?_⟩
    simp only [List.mem_cons, forall_eq_or_imp]
    exact ⟨hnd, hnd'⟩

/-- **Accepted ClusterClass histories only add classes.** If the first object passes
`ValidateCreate` and every later one passes `ValidateUpdate` against its predecessor, the
last object has the first one's infrastructure and control-plane templates and all of its
MachineDeployment classes, and every object of the history has unique class names. -/
theorem clusterClass_history_only_adds {clusterTopology : Bool} {cc₀ : ClusterClass}
    {updates : List ClusterClass} (hcreate : validateCreate clusterTopology cc₀ = .ok ())
    (hupdates : List.Chain (fun old new => validateUpdate clusterTopology new old = .ok ())
      cc₀ updates) :
    let ccₙ := (cc₀ :: updates).getLast (List.cons_ne_nil _ _)
    ccₙ.spec.infrastructure = cc₀.spec.infrastructure ∧
      ccₙ.spec.controlPlane = cc₀.spec.controlPlane ∧
      (∀ c ∈ cc₀.spec.workers.machineDeployments, c ∈ ccₙ.spec.workers.machineDeployments) ∧
      ∀ cc ∈ cc₀ :: updates, (cc.spec.workers.machineDeployments.map (·.«class»)).Nodup := by
  obtain ⟨hi, hc, hm, hnd⟩ := updates_keep hupdates
  refine ⟨hi, hc, hm, ?_⟩
  simp only [List.mem_cons, forall_eq_or_imp]
  exact ⟨validateCreate_ok hcreate, hnd⟩

/-! ## Defaulting, and an update that changes nothing -/

def defaultRefNamespace (ns : String) (t : LocalObjectTemplate) : LocalObjectTemplate :=
  if t.ref.«namespace» = "" then ⟨{ t.ref with «namespace» := ns }⟩ else t

/-- `Default` of the defaulting webhook. -/
def ClusterClass.default (cc : ClusterClass) : ClusterClass :=
  { cc with
    spec.infrastructure := defaultRefNamespace cc.«namespace» cc.spec.infrastructure
    spec.controlPlane := defaultRefNamespace cc.«namespace» cc.spec.controlPlane
    spec.workers.machineDeployments := cc.spec.workers.machineDeployments.map fun c =>
      { c with
        template.bootstrap := defaultRefNamespace cc.«namespace» c.template.bootstrap
        template.infrastructure := defaultRefNamespace cc.«namespace» c.template.infrastructure } }

theorem checkRefNamespace_defaultRefNamespace (path : List String) (ns : String)
    (t : LocalObjectTemplate) :
    checkRefNamespace path (defaultRefNamespace ns t).ref ns = [] ↔
      t.ref.«namespace» = "" ∨ t.ref.«namespace» = ns := by
  unfold defaultRefNamespace checkRefNamespace
  split_ifs <;> simp_all

/-- After `Default`, the namespace check passes exactly when every reference had no namespace
or the ClusterClass's own. -/
theorem validateRefNamespace_default (cc : ClusterClass) :
    validateRefNamespace cc.default = [] ↔
      (cc.spec.infrastructure.ref.«namespace» = "" ∨
          cc.spec.infrastructure.ref.«namespace» = cc.«namespace») ∧
        (cc.spec.controlPlane.ref.«namespace» = "" ∨
          cc.spec.controlPlane.ref.«namespace» = cc.«namespace») ∧
        ∀ c ∈ cc.spec.workers.machineDeployments,
          (c.template.bootstrap.ref.«namespace» = "" ∨
              c.template.bootstrap.ref.«namespace» = cc.«namespace») ∧
            (c.template.infrastructure.ref.«namespace» = "" ∨
              c.template.infrastructure.ref.«namespace» = cc.«namespace») := by
  simp only [validateRefNamespace, ClusterClass.default, List.append_eq_nil, List.flatMap_eq_nil_iff,
    List.mem_map, forall_exists_index, and_imp, forall_apply_eq_imp_iff₂,
    checkRefNamespace_defaultRefNamespace, and_assoc]

theorem validateAdditionalChanges_self {cc : ClusterClass}
    (h : (cc.spec.workers.machineDeployments.map (·.«class»)).Nodup) :
    validateAdditionalChanges cc (some cc) = [] := by
  simp only [validateAdditionalChanges, ne_eq, not_true_eq_false, if_false, List.nil_append,
    List.flatMap_eq_nil_iff]
  intro c hc oc hoc
  rw [if_neg]
  rintro ⟨hcl, hne⟩
  exact hne (List.inj_on_of_nodup_map h hc hoc hcl)

theorem validate_ne_ok {cc : ClusterClass} {old : Option ClusterClass}
    (h : validateMachineDeployments cc old ≠ []) : validate true cc old ≠ .ok () := by
  unfold validate
  rw [if_neg (show ¬(!true) = true by decide), if_pos]
  · exact fun h' => Except.noConfusion h'
  · have := List.length_pos.mpr h
    simp only [List.length_append]
    omega

/-- An update that changes nothing is accepted exactly when the object would be accepted on
create. -/
theorem validateUpdate_self (clusterTopology : Bool) (cc : ClusterClass) :
    validateUpdate clusterTopology cc cc = .ok () ↔ validateCreate clusterTopology cc = .ok () := by
  cases clusterTopology
  · simp only [validateUpdate, validateCreate, validate, Bool.not_false, if_true]
  by_cases hd : duplicateClassErrors [] cc.spec.workers.machineDeployments = []
  · have hvmd : validateMachineDeployments cc (some cc) = validateMachineDeployments cc none := by
      simp only [validateMachineDeployments, List.append_right_eq_self, List.flatMap_eq_nil_iff]
      intro oc hoc
      rw [if_neg (not_not.mpr (List.mem_map_of_mem _ hoc))]
    have hvac : validateAdditionalChanges cc (some cc) = validateAdditionalChanges cc none :=
      validateAdditionalChanges_self (duplicateClassErrors_eq_nil hd).1
    simp only [validateUpdate, validateCreate, validate, hvmd, hvac]
  · have hne : ∀ old, validateMachineDeployments cc old ≠ [] := by
      intro old; cases old <;> simp [validateMachineDeployments, hd]
    exact iff_of_false (validate_ne_ok (hne _)) (validate_ne_ok (hne _))

def templateRef (kind apiVersion : String) : LocalObjectTemplate :=
  ⟨⟨kind, "default", "quick-start", "", apiVersion, "", ""⟩⟩

def workerClass (name : String) : MachineDeploymentClass :=
  ⟨name, ⟨⟨none, none⟩, templateRef "KubeadmConfigTemplate" "bootstrap.cluster.x-k8s.io/v1alpha4",
    templateRef "DockerMachineTemplate" "infrastructure.cluster.x-k8s.io/v1alpha4"⟩⟩

def quickStart (classes : List String) : ClusterClass :=
  ⟨"quick-start", "default",
    ⟨templateRef "DockerClusterTemplate" "infrastructure.cluster.x-k8s.io/v1alpha4",
     templateRef "KubeadmControlPlaneTemplate" "controlplane.cluster.x-k8s.io/v1alpha4",
     ⟨classes.map workerClass⟩⟩⟩

theorem clusterClass_history_quickStart :
    validateCreate true (quickStart ["default-worker"]) = .ok () ∧
    List.Chain (fun old new => validateUpdate true new old = .ok ())
      (quickStart ["default-worker"]) [quickStart ["default-worker", "gpu-worker"]] ∧
    let ccₙ := [quickStart ["default-worker"], quickStart ["default-worker", "gpu-worker"]].getLast
      (List.cons_ne_nil _ _)
    ccₙ.spec.infrastructure = (quickStart ["default-worker"]).spec.infrastructure ∧
      ccₙ.spec.controlPlane = (quickStart ["default-worker"]).spec.controlPlane ∧
      (∀ c ∈ (quickStart ["default-worker"]).spec.workers.machineDeployments,
        c ∈ ccₙ.spec.workers.machineDeployments) ∧
      ∀ cc ∈ [quickStart ["default-worker"], quickStart ["default-worker", "gpu-worker"]],
        (cc.spec.workers.machineDeployments.map (·.«class»)).Nodup :=
  ⟨rfl, .cons rfl .nil, @clusterClass_history_only_adds true _ _ rfl (.cons rfl .nil)⟩

end ClusterApi
