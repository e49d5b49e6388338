import Mathlib.Data.List.Nodup
import ClusterApi.GoError

/-!
# Providers, management groups and upgrade plans

The records clusterctl's provider upgrader reads and builds
(`cmd/clusterctl/client/cluster/upgrader.go`): inventory providers, management groups,
and upgrade items and plans.
-/

namespace ClusterApi

inductive ProviderType where
  | core | bootstrap | controlPlane | infrastructure
  deriving DecidableEq, Repr

def ProviderType.labelPrefix : ProviderType → String
  | .core => ""
  | .bootstrap => "bootstrap-"
  | .controlPlane => "control-plane-"
  | .infrastructure => "infrastructure-"

structure Provider where
  providerName : String
  type : ProviderType
  «namespace» : String
  version : String
  watchedNamespace : String
  deriving DecidableEq, Repr

structure InstanceName where
  providerName : String
  type : ProviderType
  «namespace» : String
  deriving DecidableEq, Repr

def InstanceName.render (n : InstanceName) : String :=
  n.«namespace» ++ "/" ++ n.type.labelPrefix ++ n.providerName

/-- Modelled from the spec: `Provider.InstanceName` (clusterctl API, not in the sources),
the tuple `(providerName, providerType, namespace)` of section 3.2. -/
def Provider.instanceName (p : Provider) : InstanceName :=
  ⟨p.providerName, p.type, p.«namespace»⟩

/-- A core provider and the providers sharing its contract. Instance names are unique in
the inventory the group is read from, so they are unique among its members. -/
structure ManagementGroup where
  coreProvider : Provider
  providers : List Provider
  nodup : (providers.map Provider.instanceName).Nodup

/-- Modelled from the spec: `ManagementGroup.GetProviderByInstanceName` (not in the
sources), the member with the given instance name. -/
def ManagementGroup.getProviderByInstanceName (g : ManagementGroup) (n : InstanceName) :
    Option Provider :=
  g.providers.find? (·.instanceName == n)

/-- Modelled from the spec: `ManagementGroupList.FindManagementGroupByProviderInstanceName`
(not in the sources), the first group hosting a provider with the given instance name. -/
def findManagementGroupByProviderInstanceName (groups : List ManagementGroup)
    (n : InstanceName) : Option ManagementGroup :=
  groups.find? fun g => (g.getProviderByInstanceName n).isSome

structure UpgradeItem where
  provider : Provider
  nextVersion : String
  deriving DecidableEq, Repr

def UpgradeItem.instanceName (i : UpgradeItem) : InstanceName := i.provider.instanceName

structure UpgradePlan where
  contract : String
  coreProvider : Provider
  providers : List UpgradeItem
  deriving DecidableEq, Repr

def UpgradePlan.isPartialUpgrade (u : UpgradePlan) : Bool :=
  u.providers.any (·.nextVersion == "")

/-! ## Lookups -/

theorem getProviderByInstanceName_spec {g : ManagementGroup} {n : InstanceName} {p : Provider}
    (h : g.getProviderByInstanceName n = some p) : p ∈ g.providers ∧ p.instanceName = n := by
  unfold ManagementGroup.getProviderByInstanceName at h
  exact ⟨List.mem_of_find?_eq_some h, by simpa using List.find?_some h⟩

theorem getProviderByInstanceName_of_mem {g : ManagementGroup} {p : Provider}
    (hp : p ∈ g.providers) : g.getProviderByInstanceName p.instanceName = some p := by
  obtain ⟨q, hq⟩ := Option.isSome_iff_exists.mp <| show
      (g.getProviderByInstanceName p.instanceName).isSome by
    simpa [ManagementGroup.getProviderByInstanceName, List.find?_isSome] using ⟨p, hp, rfl⟩
  obtain ⟨hqm, hqn⟩ := getProviderByInstanceName_spec hq
  rw [hq, List.inj_on_of_nodup_map g.nodup hqm hp hqn]

theorem isPartialUpgrade_iff (u : UpgradePlan) :
    u.isPartialUpgrade = true ↔ ∃ i ∈ u.providers, i.nextVersion = "" := by
  simp [UpgradePlan.isPartialUpgrade]

end ClusterApi
