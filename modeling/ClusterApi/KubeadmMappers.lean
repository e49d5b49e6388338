import ClusterApi.KubeadmTypes

/-!
# The watches of the kubeadm bootstrap controller

`SetupWithManager` has a KubeadmConfig reconciled on events of its Machine and of its
Cluster, through two map functions. `ClusterToKubeadmConfigs` lists the cluster's Machines and
compares the group and kind of each bootstrap reference with those of `KubeadmConfig`;
`MachineToBootstrapMapFunc` compares the whole group-version-kind. Every request of the
machine mapper is one of the cluster mapper's, and on references of the current version
the two agree; a reference of an older version of the bootstrap group is followed by the
cluster mapper only.
-/

namespace ClusterApi

def bootstrapGroupVersion : GroupVersion := ⟨"bootstrap.cluster.x-k8s.io", "v1alpha3"⟩

structure Request where
  «namespace» : String
  name : String
  deriving DecidableEq, Repr

inductive MapObject where
  | cluster (c : Cluster)
  | machine (m : Machine)
  | other
  deriving DecidableEq, Repr

abbrev MachineLister := String → List (String × String) → Except GoError (List Machine)

/-- `ClusterToKubeadmConfigs`: the bootstrap configs of the Machines listed in the cluster's
namespace with its cluster-name label, when their reference has the group and kind of
`KubeadmConfig`. -/
def clusterToKubeadmConfigs (list : MachineLister) : MapObject → List Request
  | .cluster c =>
    match list c.«namespace» [(clusterLabelName, c.name)] with
    | .error _ => []
    | .ok machines =>
      machines.filterMap fun m =>
        match m.bootstrap.configRef with
        | some ref =>
          if ref.groupVersionKind.groupKind =
              (bootstrapGroupVersion.withKind "KubeadmConfig").groupKind then
            some ⟨m.«namespace», ref.name⟩
          else none
        | none => none
  | _ => []

/-- `MachineToBootstrapMapFunc`: the Machine's bootstrap config, when its reference has the
group, version and kind of `KubeadmConfig`. -/
def machineToBootstrapMapFunc : MapObject → List Request
  | .machine m =>
    match m.bootstrap.configRef with
    | some ref =>
      if ref.groupVersionKind = bootstrapGroupVersion.withKind "KubeadmConfig" then
        [⟨m.«namespace», ref.name⟩]
      else []
    | none => []
  | _ => []

/-! ## The two mappers compared -/

theorem mem_clusterToKubeadmConfigs {list : MachineLister} {c : Cluster} {machines : List Machine}
    (hl : list c.«namespace» [(clusterLabelName, c.name)] = .ok machines) {r : Request} :
    r ∈ clusterToKubeadmConfigs list (.cluster c) ↔
      ∃ m ∈ machines, ∃ ref, m.bootstrap.configRef = some ref ∧
        ref.groupVersionKind.groupKind =
          (bootstrapGroupVersion.withKind "KubeadmConfig").groupKind ∧
        r = ⟨m.«namespace», ref.name⟩ := by
  simp only [clusterToKubeadmConfigs, hl, List.mem_filterMap]
  refine exists_congr fun m => and_congr_right fun _ => ?_
  cases m.bootstrap.configRef with
  | none => simp
  | some ref =>
    by_cases h : ref.groupVersionKind.groupKind =
        (bootstrapGroupVersion.withKind "KubeadmConfig").groupKind
    · simp [h, eq_comm]
    · simp [h]

theorem mem_machineToBootstrapMapFunc {m : Machine} {r : Request} :
    r ∈ machineToBootstrapMapFunc (.machine m) ↔
      ∃ ref, m.bootstrap.configRef = some ref ∧
        ref.groupVersionKind = bootstrapGroupVersion.withKind "KubeadmConfig" ∧
        r = ⟨m.«namespace», ref.name⟩ := by
  simp only [machineToBootstrapMapFunc]
  cases m.bootstrap.configRef with
  | none => simp
  | some ref =>
    by_cases h : ref.groupVersionKind = bootstrapGroupVersion.withKind "KubeadmConfig" <;>
      simp [h]

/-- Every config the machine mapper enqueues, the cluster mapper enqueues too, once it lists
the machine. -/
theorem machineToBootstrapMapFunc_sub {list : MachineLister} {c : Cluster}
    {machines : List Machine} (hl : list c.«namespace» [(clusterLabelName, c.name)] = .ok machines)
    {m : Machine} (hm : m ∈ machines) {r : Request}
    (hr : r ∈ machineToBootstrapMapFunc (.machine m)) :
    r ∈ clusterToKubeadmConfigs list (.cluster c) := by
  obtain ⟨ref, href, hgvk, rfl⟩ := mem_machineToBootstrapMapFunc.1 hr
  exact (mem_clusterToKubeadmConfigs hl).2 ⟨m, hm, ref, href, by rw [hgvk], rfl⟩

/-! ## A reference of the previous bootstrap version -/

/-- A worker Machine of `capi-quickstart` whose bootstrap reference still carries
`bootstrap.cluster.x-k8s.io/v1alpha2`. -/
def olderRefMachine : Machine :=
  ⟨"capi-quickstart-md-0-a", "default", [(clusterLabelName, "capi-quickstart")],
    "capi-quickstart",
    ⟨some ⟨"KubeadmConfig", "default", "capi-quickstart-md-0-a", "",
      "bootstrap.cluster.x-k8s.io/v1alpha2", "", ""⟩, none⟩, some "v1.17.3", false⟩

def quickStartCluster : Cluster :=
  ⟨"capi-quickstart", "default", ⟨"", 0⟩, none, true, true⟩

/-- The cluster mapper enqueues the machine's config, and the machine mapper does not. -/
theorem mappers_disagree_on_older_version :
    clusterToKubeadmConfigs (fun _ _ => .ok [olderRefMachine]) (.cluster quickStartCluster) =
      [⟨"default", "capi-quickstart-md-0-a"⟩] ∧
    machineToBootstrapMapFunc (.machine olderRefMachine) = [] := by
  decide

/-! ## A reference of the current bootstrap version -/

def currentRefMachine : Machine :=
  ⟨"capi-quickstart-md-0-b", "default", [(clusterLabelName, "capi-quickstart")],
    "capi-quickstart",
    ⟨some ⟨"KubeadmConfig", "default", "capi-quickstart-md-0-b", "",
      "bootstrap.cluster.x-k8s.io/v1alpha3", "", ""⟩, none⟩, some "v1.17.3", false⟩

theorem currentRefMachine_enqueued_by_both :
    (⟨"default", "capi-quickstart-md-0-b"⟩ : Request) ∈
        machineToBootstrapMapFunc (.machine currentRefMachine) ∧
      (⟨"default", "capi-quickstart-md-0-b"⟩ : Request) ∈
        clusterToKubeadmConfigs (fun _ _ => .ok [currentRefMachine]) (.cluster quickStartCluster) := by
  have h : (⟨"default", "capi-quickstart-md-0-b"⟩ : Request) ∈
      machineToBootstrapMapFunc (.machine currentRefMachine) := by decide
  refine ⟨h, machineToBootstrapMapFunc_sub ?_ (List.mem_singleton_self _) h⟩
  rfl

end ClusterApi
