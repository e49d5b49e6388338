import ClusterApi.Plan

/-!
# Custom upgrade plans

`ApplyCustomPlan` upgrades the providers a user lists. `createCustomPlan` first makes sure
the whole management group ends on one contract: every listed target version must support
the contract of the core provider's resulting version, and every member left out must
support it already. The contract of a version comes from `getProviderContractByVersion`,
which reads the provider's release metadata; the theorems hold for every answer it gives.
-/

namespace ClusterApi

def getProviderContractByVersion (getUpgradeInfo : Provider → Except GoError UpgradeInfo)
    (provider : Provider) (targetVersion : String) : Except GoError String :=
  match parseSemantic targetVersion with
  | none => .error (.wrap ("failed to parse target version for the " ++
      provider.instanceName.render ++ " provider")
      (.msg ("could not parse " ++ targetVersion ++ " as version")))
  | some targetSemVersion => do
    let upgradeInfo ← getUpgradeInfo provider
    match getReleaseSeriesForVersion upgradeInfo.metadata targetSemVersion with
    | none => throw (.msg ("invalid target version: version " ++ targetVersion ++
        " for the provider " ++ provider.instanceName.render ++
        " does not match any release series"))
    | some releaseSeries => pure releaseSeries.contract

def UpgradeItem.withWatchedNamespace (i : UpgradeItem) (provider : Provider) : UpgradeItem :=
  { i with provider := { i.provider with watchedNamespace := provider.watchedNamespace } }

section
variable (getProviderContractByVersion : Provider → String → Except GoError String)

def targetCoreProviderVersion (g : ManagementGroup) : List UpgradeItem → String
  | [] => g.coreProvider.version
  | i :: is =>
    if i.instanceName = g.coreProvider.instanceName then i.nextVersion
    else targetCoreProviderVersion g is

def customPlanItems (g : ManagementGroup) (coreProvider : Provider) (targetContract : String) :
    List UpgradeItem → Except GoError (List UpgradeItem)
  | [] => .ok []
  | upgradeItem :: is =>
    match g.getProviderByInstanceName upgradeItem.instanceName with
    | none => .error (.msg ("unable to complete that upgrade: the provider " ++
        upgradeItem.instanceName.render ++ " in not part of the " ++
        coreProvider.instanceName.render ++ " management group"))
    | some provider => do
      let contract ← getProviderContractByVersion provider upgradeItem.nextVersion
      if contract ≠ targetContract then
        throw (.msg ("unable to complete that upgrade: the target version for the provider " ++
          upgradeItem.instanceName.render ++ " supports the " ++ contract ++
          " API Version of Cluster API (contract), while the management group is using " ++
          targetContract))
      let rest ← customPlanItems g coreProvider targetContract is
      pure (upgradeItem.withWatchedNamespace provider :: rest)

def checkLagging (targetContract : String) (upgradeInstanceNames : List InstanceName) :
    List Provider → Except GoError Unit
  | [] => .ok ()
  | provider :: ps =>
    if provider.instanceName ∈ upgradeInstanceNames then
      checkLagging targetContract upgradeInstanceNames ps
    else do
      let contract ← getProviderContractByVersion provider provider.version
      if contract ≠ targetContract then
        throw (.msg ("unable to complete that upgrade: the provider " ++
          provider.instanceName.render ++ " supports the " ++ contract ++
          " API Version of Cluster API (contract), while the management group is being updated to " ++
          targetContract ++ ". Please include the " ++ provider.instanceName.render ++
          " provider in the upgrade"))
      checkLagging targetContract upgradeInstanceNames ps

/-- `createCustomPlan`. The instance names the item loop collects are those of all items,
since it returns on the first item it rejects. -/
def createCustomPlan (managementGroups : Except GoError (List ManagementGroup))
    (coreProvider : Provider) (upgradeItems : List UpgradeItem) : Except GoError UpgradePlan := do
  let g ← getManagementGroup managementGroups coreProvider
  let targetContract ←
    getProviderContractByVersion g.coreProvider (targetCoreProviderVersion g upgradeItems)
  let items ← customPlanItems getProviderContractByVersion g coreProvider targetContract upgradeItems
  checkLagging getProviderContractByVersion targetContract
    (upgradeItems.map (·.instanceName)) g.providers
  pure ⟨targetContract, g.coreProvider, items⟩

def applyCustomPlan {Cfg Repo Comp : Type} (c : Collaborators Cfg Repo Comp)
    (managementGroups : Except GoError (List ManagementGroup)) (coreProvider : Provider)
    (upgradeItems : List UpgradeItem) : List (RemoteOp Comp) × Option GoError :=
  match createCustomPlan getProviderContractByVersion managementGroups coreProvider upgradeItems with
  | .error e => ([], some e)
  | .ok upgradePlan => doUpgrade c upgradePlan

end

/-! ## A custom plan keeps the group on one contract -/

def resultingVersions (p : Provider) (items : List UpgradeItem) : List String :=
  match items.filter (·.instanceName == p.instanceName) with
  | [] => [p.version]
  | named => named.map (·.nextVersion)

def coreResultingVersion (core : Provider) (items : List UpgradeItem) : String :=
  match items.find? (·.instanceName == core.instanceName) with
  | some i => i.nextVersion
  | none => core.version

def carryWatchedNamespace (g : ManagementGroup) (i : UpgradeItem) : UpgradeItem :=
  match g.getProviderByInstanceName i.instanceName with
  | some p => i.withWatchedNamespace p
  | none => i

theorem instanceName_carryWatchedNamespace (g : ManagementGroup) (i : UpgradeItem) :
    (carryWatchedNamespace g i).instanceName = i.instanceName := by
  unfold carryWatchedNamespace; split <;> rfl

theorem nextVersion_carryWatchedNamespace (g : ManagementGroup) (i : UpgradeItem) :
    (carryWatchedNamespace g i).nextVersion = i.nextVersion := by
  unfold carryWatchedNamespace; split <;> rfl

theorem targetCoreProviderVersion_eq (g : ManagementGroup) (items : List UpgradeItem) :
    targetCoreProviderVersion g items = coreResultingVersion g.coreProvider items := by
  induction items with
  | nil => rfl
  | cons i is ih =>
    by_cases h : i.instanceName = g.coreProvider.instanceName
    · simp [targetCoreProviderVersion, coreResultingVersion, h]
    · simp only [targetCoreProviderVersion, h, if_false, ih]
      simp [coreResultingVersion, List.find?_cons, h]

theorem coreResultingVersion_carry (g : ManagementGroup) (core : Provider)
    (items : List UpgradeItem) :
    coreResultingVersion core (items.map (carryWatchedNamespace g)) =
      coreResultingVersion core items := by
  have hp : ((·.instanceName == core.instanceName) ∘ carryWatchedNamespace g) =
      (·.instanceName == core.instanceName) := by
    funext i; simp only [Function.comp_apply, instanceName_carryWatchedNamespace]
  unfold coreResultingVersion
  rw [List.find?_map, hp]
  cases items.find? (·.instanceName == core.instanceName) <;>
    simp [nextVersion_carryWatchedNamespace]

theorem resultingVersions_carry (g : ManagementGroup) (p : Provider)
    (items : List UpgradeItem) :
    resultingVersions p (items.map (carryWatchedNamespace g)) = resultingVersions p items := by
  have hp : ((·.instanceName == p.instanceName) ∘ carryWatchedNamespace g) =
      (·.instanceName == p.instanceName) := by
    funext i; simp only [Function.comp_apply, instanceName_carryWatchedNamespace]
  unfold resultingVersions
  rw [List.filter_map, hp]
  cases items.filter (·.instanceName == p.instanceName) <;>
    simp [nextVersion_carryWatchedNamespace]

section
variable (contractOf : Provider → String → Except GoError String)

/-- A plan under which every member of the group ends on the plan's contract. -/
structure SingleContract (g : ManagementGroup) (P : UpgradePlan) : Prop where
  members : ∀ i ∈ P.providers, ∃ p ∈ g.providers,
    p.instanceName = i.instanceName ∧ i.provider.watchedNamespace = p.watchedNamespace
  core : contractOf g.coreProvider (coreResultingVersion g.coreProvider P.providers) =
    .ok P.contract
  all : ∀ p ∈ g.providers, ∀ v ∈ resultingVersions p P.providers, contractOf p v = .ok P.contract

theorem contractCheck_ok {α : Type} {x : Except GoError String} {target : String}
    {err : String → GoError} {k : Except GoError α} {b : α}
    (h : (do
      let contract ← x
      if contract ≠ target then throw (err contract)
      k) = .ok b) :
    x = .ok target ∧ k = .ok b := by
  obtain ⟨contract, hc, h⟩ := bind_eq_ok h
  split at h
  · obtain ⟨_, h, -⟩ := bind_eq_ok h
    cases h
  · rename_i ht
    obtain ⟨_, -, h⟩ := bind_eq_ok h
    exact ⟨not_not.1 ht ▸ hc, h⟩

theorem customPlanItems_ok {g : ManagementGroup} {coreProvider : Provider}
    {targetContract : String} {items out : List UpgradeItem}
    (h : customPlanItems contractOf g coreProvider targetContract items = .ok out) :
    out = items.map (carryWatchedNamespace g) ∧
      ∀ i ∈ items, ∃ p, g.getProviderByInstanceName i.instanceName = some p ∧
        contractOf p i.nextVersion = .ok targetContract := by
  induction items generalizing out with
  | nil => exact ⟨by simpa [customPlanItems] using h.symm, by simp⟩
  | cons i is ih =>
    simp only [customPlanItems] at h
    split at h
    · cases h
    rename_i p hp
    obtain ⟨hc, h⟩ := contractCheck_ok h
    obtain ⟨rest, hr, h⟩ := bind_eq_ok h
    cases h
    obtain ⟨rfl, hall⟩ := ih hr
    refine ⟨by simp [carryWatchedNamespace, hp], ?_⟩
    simp only [List.mem_cons, forall_eq_or_imp]
    exact ⟨⟨p, hp, hc⟩, hall⟩

theorem checkLagging_ok {targetContract : String} {names : List InstanceName}
    {ps : List Provider} (h : checkLagging contractOf targetContract names ps = .ok ()) :
    ∀ p ∈ ps, p.instanceName ∉ names → contractOf p p.version = .ok targetContract := by
  induction ps with
  | nil => simp
  | cons q qs ih =>
    simp only [checkLagging] at h
    simp only [List.mem_cons, forall_eq_or_imp]
    split at h
    · exact ⟨fun hn => absurd ‹_› hn, ih h⟩
    · obtain ⟨hc, h⟩ := contractCheck_ok h
      exact ⟨fun _ => hc, ih h⟩

theorem createCustomPlan_ok {managementGroups : Except GoError (List ManagementGroup)}
    {coreProvider : Provider} {upgradeItems : List UpgradeItem} {P : UpgradePlan}
    (h : createCustomPlan contractOf managementGroups coreProvider upgradeItems = .ok P) :
    ∃ g, getManagementGroup managementGroups coreProvider = .ok g ∧ SingleContract contractOf g P := by
  obtain ⟨g, hg, h⟩ := bind_eq_ok h
  obtain ⟨target, ht, h⟩ := bind_eq_ok h
  obtain ⟨items, hi, h⟩ := bind_eq_ok h
  obtain ⟨_, hl, h⟩ := bind_eq_ok h
  cases h
  obtain ⟨rfl, hall⟩ := customPlanItems_ok contractOf hi
  have hlag := checkLagging_ok contractOf hl
  refine ⟨g, hg, ⟨?members, ?core, ?all⟩⟩
  case members =>
    intro o ho
    obtain ⟨i, hi, rfl⟩ := List.mem_map.mp ho
    obtain ⟨p, hp, -⟩ := hall i hi
    obtain ⟨hpm, hpn⟩ := getProviderByInstanceName_spec hp
    exact ⟨p, hpm, by simp [instanceName_carryWatchedNamespace, hpn],
      by simp [carryWatchedNamespace, hp, UpgradeItem.withWatchedNamespace]⟩
  case core => simpa [coreResultingVersion_carry, ← targetCoreProviderVersion_eq] using ht
  case all =>
    intro p hp v hv
    rw [resultingVersions_carry] at hv
    unfold resultingVersions at hv
    split at hv
    · rename_i hnil
      obtain rfl : v = p.version := by simpa using hv
      refine hlag p hp fun hmem => ?_
      obtain ⟨i, hi', hin⟩ := List.mem_map.mp hmem
      have : i ∈ upgradeItems.filter (·.instanceName == p.instanceName) := by simp [hi', hin]
      simp [hnil] at this
    · obtain ⟨i, hi', rfl⟩ := List.mem_map.mp hv
      obtain ⟨hi'', hin⟩ : i ∈ upgradeItems ∧ i.instanceName = p.instanceName := by
        simpa using List.mem_filter.mp hi'
      obtain ⟨q, hq, hc⟩ := hall i hi''
      rw [hin, getProviderByInstanceName_of_mem hp] at hq
      cases hq
      exact hc

/-- **A custom plan never leaves a management group on two contracts.** A plan
`createCustomPlan` returns names members of the group, with their watched namespaces, and
every member ends on the contract of the core provider's resulting version; so
`ApplyCustomPlan` issues nothing unless it executes such a plan. -/
theorem applyCustomPlan_single_contract {Cfg Repo Comp : Type} (c : Collaborators Cfg Repo Comp)
    (managementGroups : Except GoError (List ManagementGroup)) (coreProvider : Provider)
    (upgradeItems : List UpgradeItem) :
    (∀ P, createCustomPlan contractOf managementGroups coreProvider upgradeItems = .ok P →
      ∃ g, getManagementGroup managementGroups coreProvider = .ok g ∧
        SingleContract contractOf g P) ∧
    ((applyCustomPlan contractOf c managementGroups coreProvider upgradeItems).1 ≠ [] →
      ∃ g P, getManagementGroup managementGroups coreProvider = .ok g ∧
        createCustomPlan contractOf managementGroups coreProvider upgradeItems = .ok P ∧
        SingleContract contractOf g P ∧
        applyCustomPlan contractOf c managementGroups coreProvider upgradeItems = doUpgrade c P) := by
  refine ⟨fun P h => createCustomPlan_ok contractOf h, fun hops => ?_⟩
  unfold applyCustomPlan at hops ⊢
  split at hops
  · exact absurd rfl hops
  · rename_i P hP
    obtain ⟨g, hg, hs⟩ := createCustomPlan_ok contractOf hP
    exact ⟨g, P, hg, hP, hs, rfl⟩

end

end ClusterApi
