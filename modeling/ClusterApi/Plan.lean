import ClusterApi.DoUpgrade
import ClusterApi.Version

/-!
# Upgrade plans

`Plan` proposes, for every management group, one plan per contract its core provider can
move to, and drops a plan that would switch the contract of only part of the group.
`ApplyPlan` rebuilds the plan of one group and contract and executes it. What a provider's
releases offer comes from `getUpgradeInfo` (upgrader_info.go, not in the sources); the
theorems hold for every answer it gives.
-/

namespace ClusterApi

/-- What `getUpgradeInfo` reports about a provider: the release series of its latest
metadata, the contract it supports now, the contracts its group may move to
(`getContractsForUpgrade`), and the newest release above its current version for a contract
(`getLatestNextVersion`), without the `v` prefix. -/
structure UpgradeInfo where
  metadata : List ReleaseSeries
  currentContract : String
  contractsForUpgrade : List String
  latestNextVersion : String → Option String

/-- Modelled from the spec: `versionTag` (upgrader_info.go, not in the sources). A found
version is printed with its `v` prefix, a missing one as the empty string, since "empty
nextVersion means no upgrade available". -/
def versionTag : Option String → String
  | none => ""
  | some v => "v" ++ v

theorem versionTag_eq_empty {v : Option String} : versionTag v = "" ↔ v = none := by
  cases v with
  | none => simp [versionTag]
  | some v =>
    simp only [versionTag, reduceCtorEq, iff_false]
    intro h
    have hl := congrArg String.length h
    have hv : "v".length = 1 := rfl
    simp only [String.length_append, hv] at hl
    exact absurd hl (by simp)

section
variable (getUpgradeInfo : Provider → Except GoError UpgradeInfo)

def upgradeItems (contract : String) : List Provider → Except GoError (List UpgradeItem)
  | [] => .ok []
  | p :: ps => do
    let info ← getUpgradeInfo p
    let rest ← upgradeItems contract ps
    pure (⟨p, versionTag (info.latestNextVersion contract)⟩ :: rest)

def getUpgradePlan (g : ManagementGroup) (contract : String) : Except GoError UpgradePlan := do
  let items ← upgradeItems getUpgradeInfo contract g.providers
  pure ⟨contract, g.coreProvider, items⟩

def planContracts (g : ManagementGroup) (coreUpgradeInfo : UpgradeInfo) :
    List UpgradePlan → List String → Except GoError (List UpgradePlan)
  | ret, [] => .ok ret
  | ret, contract :: cs => do
    let upgradePlan ← getUpgradePlan getUpgradeInfo g contract
    if upgradePlan.isPartialUpgrade && coreUpgradeInfo.currentContract != contract then
      planContracts g coreUpgradeInfo ret cs
    else planContracts g coreUpgradeInfo (ret ++ [upgradePlan]) cs

def invalidMetadataMessage (coreProvider : Provider) : String :=
  "Invalid metadata: unable to find th API Version of Cluster API (contract) supported by the " ++
    coreProvider.instanceName.render ++ " provider"

/-- The group loop of `Plan`. A `return` inside the loop leaves `Plan` with what it
returns, whatever `ret` holds. -/
def planGroups : List UpgradePlan → List ManagementGroup → Except GoError (List UpgradePlan)
  | ret, [] => .ok ret
  | ret, g :: gs =>
    match getUpgradeInfo g.coreProvider with
    | .error e => .error e
    | .ok coreUpgradeInfo =>
      if coreUpgradeInfo.contractsForUpgrade.length = 0 then
        -- `err` is nil here: the core's upgrade info was read without error
        goReturn [] (errorsWrapf none (invalidMetadataMessage g.coreProvider))
      else
        match planContracts getUpgradeInfo g coreUpgradeInfo ret
            coreUpgradeInfo.contractsForUpgrade with
        | .error e => .error e
        | .ok ret => planGroups ret gs

def plan (managementGroups : Except GoError (List ManagementGroup)) :
    Except GoError (List UpgradePlan) := do
  planGroups getUpgradeInfo [] (← managementGroups)

def getManagementGroup (managementGroups : Except GoError (List ManagementGroup))
    (coreProvider : Provider) : Except GoError ManagementGroup := do
  match findManagementGroupByProviderInstanceName (← managementGroups)
      coreProvider.instanceName with
  | some g => pure g
  | none => throw (.msg ("unable to identify " ++ coreProvider.«namespace» ++ "/" ++
      coreProvider.providerName ++ " the management group"))

def applyPlan {Cfg Repo Comp : Type} (c : Collaborators Cfg Repo Comp)
    (managementGroups : Except GoError (List ManagementGroup)) (coreProvider : Provider)
    (contract : String) : List (RemoteOp Comp) × Option GoError :=
  match getManagementGroup managementGroups coreProvider with
  | .error e => ([], some e)
  | .ok g =>
    match getUpgradePlan getUpgradeInfo g contract with
    | .error e => ([], some e)
    | .ok upgradePlan => doUpgrade c upgradePlan

end

/-! ## Plans on the scenario of a contract bump -/

def capiCore : Provider := ⟨"cluster-api", .core, "capi-system", "v0.3.10", ""⟩

def kubeadmBootstrap : Provider :=
  ⟨"kubeadm", .bootstrap, "capi-kubeadm-bootstrap-system", "v0.3.9", ""⟩

def awsInfrastructure : Provider := ⟨"aws", .infrastructure, "capa-system", "v0.5.4", ""⟩

def contractBumpGroup : ManagementGroup :=
  ⟨capiCore, [capiCore, kubeadmBootstrap, awsInfrastructure], by decide⟩

def contractBumpInfo (p : Provider) : Except GoError UpgradeInfo :=
  .ok ⟨[⟨0, 3, "v1alpha3"⟩, ⟨0, 4, "v1alpha4"⟩], "v1alpha3", ["v1alpha3", "v1alpha4"],
    fun contract =>
      if contract = "v1alpha4" ∧ p = capiCore then some "0.4.1"
      else if contract = "v1alpha4" ∧ p = kubeadmBootstrap then some "0.4.0"
      else none⟩

def succeedingCollaborators : Collaborators Unit Unit Unit :=
  ⟨fun _ _ _ => .ok (), fun _ _ => .ok (), fun _ _ _ => .ok (), fun _ _ => none,
    fun _ _ => none⟩

/-- A core provider offering no contract: `Plan` returns neither a plan nor an error. -/
theorem plan_no_contracts_no_error :
    plan (fun _ => .ok ⟨[], "v1alpha3", [], fun _ => none⟩) (.ok [contractBumpGroup]) = .ok [] :=
  rfl

/-- On a contract bump that only the core and bootstrap providers follow, `Plan` drops the `v1alpha4` plan as a partial contract switch, but
`ApplyPlan` for `v1alpha4` deletes and reinstalls the core and bootstrap providers, leaving
the infrastructure provider on `v1alpha3`. -/
theorem applyPlan_executes_dropped_plan :
    plan contractBumpInfo (.ok [contractBumpGroup]) =
      .ok [⟨"v1alpha3", capiCore,
        [⟨capiCore, ""⟩, ⟨kubeadmBootstrap, ""⟩, ⟨awsInfrastructure, ""⟩]⟩] ∧
    applyPlan contractBumpInfo succeedingCollaborators (.ok [contractBumpGroup]) capiCore
        "v1alpha4" =
      ([.getComponents capiCore ⟨"v0.4.1", "capi-system", ""⟩,
        .delete ⟨capiCore, false, false⟩, .install (),
        .getComponents kubeadmBootstrap ⟨"v0.4.0", "capi-kubeadm-bootstrap-system", ""⟩,
        .delete ⟨kubeadmBootstrap, false, false⟩, .install ()], none) :=
  ⟨rfl, rfl⟩

/-! ## What `Plan` returns when every lookup succeeds -/

section
variable (info : Provider → UpgradeInfo)

def planFor (g : ManagementGroup) (contract : String) : UpgradePlan :=
  ⟨contract, g.coreProvider,
    g.providers.map fun p => ⟨p, versionTag ((info p).latestNextVersion contract)⟩⟩

def KeepsPlan (g : ManagementGroup) (contract : String) : Prop :=
  contract = (info g.coreProvider).currentContract ∨
    ∀ p ∈ g.providers, (info p).latestNextVersion contract ≠ none

instance (g : ManagementGroup) (contract : String) : Decidable (KeepsPlan info g contract) :=
  inferInstanceAs (Decidable (_ ∨ ∀ p ∈ g.providers, _))

/-- The plans the spec assigns to a list of groups. -/
def specPlans (groups : List ManagementGroup) : List UpgradePlan :=
  groups.flatMap fun g =>
    ((info g.coreProvider).contractsForUpgrade.filter (KeepsPlan info g ·)).map (planFor info g)

theorem isPartialUpgrade_planFor (g : ManagementGroup) (contract : String) :
    (planFor info g contract).isPartialUpgrade = true ↔
      ∃ p ∈ g.providers, (info p).latestNextVersion contract = none := by
  simp [isPartialUpgrade_iff, planFor, versionTag_eq_empty]

theorem not_keepsPlan_iff (g : ManagementGroup) (contract : String) :
    ¬KeepsPlan info g contract ↔
      (planFor info g contract).isPartialUpgrade = true ∧
        ¬(info g.coreProvider).currentContract = contract := by
  rw [isPartialUpgrade_planFor, KeepsPlan, not_or, and_comm, eq_comm]
  simp

variable {getUpgradeInfo : Provider → Except GoError UpgradeInfo}
  (hinfo : ∀ p, getUpgradeInfo p = .ok (info p))
include hinfo

theorem upgradeItems_of_ok (contract : String) (ps : List Provider) :
    upgradeItems getUpgradeInfo contract ps =
      .ok (ps.map fun p => ⟨p, versionTag ((info p).latestNextVersion contract)⟩) := by
  induction ps with
  | nil => rfl
  | cons p ps ih => simp [upgradeItems, hinfo, ih, bind, Except.bind, pure, Except.pure]

theorem getUpgradePlan_of_ok (g : ManagementGroup) (contract : String) :
    getUpgradePlan getUpgradeInfo g contract = .ok (planFor info g contract) := by
  simp [getUpgradePlan, upgradeItems_of_ok info hinfo, planFor, bind, Except.bind, pure,
    Except.pure]

theorem planContracts_of_ok (g : ManagementGroup) (ret : List UpgradePlan)
    (cs : List String) :
    planContracts getUpgradeInfo g (info g.coreProvider) ret cs =
      .ok (ret ++ (cs.filter (KeepsPlan info g ·)).map (planFor info g)) := by
  induction cs generalizing ret with
  | nil => simp [planContracts]
  | cons c cs ih =>
    simp only [planContracts, getUpgradePlan_of_ok info hinfo, bind, Except.bind]
    by_cases hk : KeepsPlan info g c <;> simp [← not_keepsPlan_iff, hk, ih]

theorem planGroups_of_ok (ret : List UpgradePlan) (groups : List ManagementGroup)
    (hc : ∀ g ∈ groups, (info g.coreProvider).contractsForUpgrade ≠ []) :
    planGroups getUpgradeInfo ret groups = .ok (ret ++ specPlans info groups) := by
  induction groups generalizing ret with
  | nil => simp [planGroups, specPlans]
  | cons g gs ih =>
    have hg : (info g.coreProvider).contractsForUpgrade.length ≠ 0 := by
      simpa using hc g (List.mem_cons_self g gs)
    simp only [planGroups, hinfo, hg, if_false, planContracts_of_ok info hinfo]
    rw [ih _ fun g' h' => hc g' (List.mem_cons_of_mem g h')]
    simp [specPlans]

/-- When the inventory and every upgrade-info lookup succeed and every core offers a
contract, `Plan` returns the plans of `specPlans`: group by group, contract by contract,
the plans of the contracts that keep them. -/
theorem plan_of_ok (groups : List ManagementGroup)
    (hc : ∀ g ∈ groups, (info g.coreProvider).contractsForUpgrade ≠ []) :
    plan getUpgradeInfo (.ok groups) = .ok (specPlans info groups) := by
  simpa [plan, bind, Except.bind] using planGroups_of_ok info hinfo [] groups hc

end

def contractBumpUpgradeInfo (p : Provider) : UpgradeInfo :=
  ⟨[⟨0, 3, "v1alpha3"⟩, ⟨0, 4, "v1alpha4"⟩], "v1alpha3", ["v1alpha3", "v1alpha4"],
    fun contract =>
      if contract = "v1alpha4" ∧ p = capiCore then some "0.4.1"
      else if contract = "v1alpha4" ∧ p = kubeadmBootstrap then some "0.4.0"
      else none⟩

theorem contractBump_plan_eq_specPlans :
    plan (fun p => .ok (contractBumpUpgradeInfo p)) (.ok [contractBumpGroup]) =
      .ok (specPlans contractBumpUpgradeInfo [contractBumpGroup]) :=
  plan_of_ok contractBumpUpgradeInfo (fun _ => rfl) [contractBumpGroup] (by decide)

end ClusterApi
