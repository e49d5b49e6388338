import ClusterApi.Provider

/-!
# Executing an upgrade plan

`doUpgrade` upgrades the items of a plan one after another: it fetches the new
components, deletes the running provider keeping its namespace and CRDs, then installs
the new components and records them in the inventory. The collaborators are answer
functions: every success/failure pattern of them is one value of `Collaborators`, and the
theorems hold for all of them.
-/

namespace ClusterApi

structure ComponentsOptions where
  version : String
  targetNamespace : String
  watchingNamespace : String
  deriving DecidableEq, Repr

structure DeleteOptions where
  provider : Provider
  includeNamespace : Bool
  includeCRDs : Bool
  deriving DecidableEq, Repr

/-- The collaborators `doUpgrade` calls, for provider configurations `Cfg`, repository
clients `Repo` and components `Comp`. The first argument of each is the number of items
upgraded before the call, so an answer may change from one call to the next. -/
structure Collaborators (Cfg Repo Comp : Type) where
  providersGet : Nat → String → ProviderType → Except GoError Cfg
  repositoryClientFactory : Nat → Cfg → Except GoError Repo
  componentsGet : Nat → Repo → ComponentsOptions → Except GoError Comp
  delete : Nat → DeleteOptions → Option GoError
  installComponentsAndUpdateInventory : Nat → Comp → Option GoError

inductive RemoteOp (Comp : Type) where
  | getComponents (provider : Provider) (options : ComponentsOptions)
  | delete (options : DeleteOptions)
  | install (components : Comp)

section
variable {Cfg Repo Comp : Type} (c : Collaborators Cfg Repo Comp)

def componentsOptions (i : UpgradeItem) : ComponentsOptions :=
  ⟨i.nextVersion, i.provider.«namespace», i.provider.watchedNamespace⟩

def upgradeDeleteOptions (i : UpgradeItem) : DeleteOptions := ⟨i.provider, false, false⟩

def getUpgradeComponents (n : Nat) (i : UpgradeItem) : Except GoError Comp := do
  let configRepository ← c.providersGet n i.provider.providerName i.provider.type
  let providerRepository ← c.repositoryClientFactory n configRepository
  c.componentsGet n providerRepository (componentsOptions i)

def doUpgradeLoop : Nat → List UpgradeItem → List (RemoteOp Comp) × Option GoError
  | _, [] => ([], none)
  | n, i :: is =>
    if i.nextVersion = "" then doUpgradeLoop n is
    else
      let fetch := RemoteOp.getComponents i.provider (componentsOptions i)
      match getUpgradeComponents c n i with
      | .error e => ([fetch], some e)
      | .ok components =>
        match c.delete n (upgradeDeleteOptions i) with
        | some e => ([fetch, .delete (upgradeDeleteOptions i)], some e)
        | none =>
          match c.installComponentsAndUpdateInventory n components with
          | some e => ([fetch, .delete (upgradeDeleteOptions i), .install components], some e)
          | none =>
            let rest := doUpgradeLoop (n + 1) is
            (fetch :: .delete (upgradeDeleteOptions i) :: .install components :: rest.1, rest.2)

def doUpgrade (plan : UpgradePlan) : List (RemoteOp Comp) × Option GoError :=
  doUpgradeLoop c 0 plan.providers

/-! ## The reference sequence -/

structure Step (Comp : Type) where
  op : RemoteOp Comp
  failure : Option GoError

/-- The reference steps of the `n`-th upgraded item: fetch its components at its next version,
rendered for its namespace and watched namespace; delete it, keeping its namespace and CRDs;
install what was fetched. A failed fetch has nothing to install, so the item ends there. -/
def itemSteps (n : Nat) (i : UpgradeItem) : List (Step Comp) :=
  let options : ComponentsOptions := ⟨i.nextVersion, i.provider.«namespace», i.provider.watchedNamespace⟩
  let delete : DeleteOptions := ⟨i.provider, false, false⟩
  let fetched : Except GoError Comp := do
    let configRepository ← c.providersGet n i.provider.providerName i.provider.type
    let providerRepository ← c.repositoryClientFactory n configRepository
    c.componentsGet n providerRepository options
  match fetched with
  | .error e => [⟨.getComponents i.provider options, some e⟩]
  | .ok components =>
    [⟨.getComponents i.provider options, none⟩, ⟨.delete delete, c.delete n delete⟩,
     ⟨.install components, c.installComponentsAndUpdateInventory n components⟩]

/-- The reference sequence: the steps of every item with a next version, in plan order,
whether or not an earlier one failed. -/
def referenceSteps : Nat → List UpgradeItem → List (Step Comp)
  | _, [] => []
  | n, i :: is =>
    if i.nextVersion = "" then referenceSteps n is
    else itemSteps c n i ++ referenceSteps (n + 1) is

end

def untilFailure {Comp : Type} : List (Step Comp) → List (Step Comp)
  | [] => []
  | s :: ss => if s.failure.isSome then [s] else s :: untilFailure ss

def firstFailure {Comp : Type} : List (Step Comp) → Option GoError
  | [] => none
  | s :: ss => if s.failure.isSome then s.failure else firstFailure ss

/-! ## doUpgrade follows the reference sequence -/

section
variable {Cfg Repo Comp : Type} (c : Collaborators Cfg Repo Comp)

theorem itemSteps_eq (n : Nat) (i : UpgradeItem) :
    itemSteps c n i =
      match getUpgradeComponents c n i with
      | .error e => [⟨.getComponents i.provider (componentsOptions i), some e⟩]
      | .ok components =>
        [⟨.getComponents i.provider (componentsOptions i), none⟩,
         ⟨.delete (upgradeDeleteOptions i), c.delete n (upgradeDeleteOptions i)⟩,
         ⟨.install components, c.installComponentsAndUpdateInventory n components⟩] := rfl

theorem doUpgradeLoop_eq_reference (n : Nat) (items : List UpgradeItem) :
    doUpgradeLoop c n items =
      ((untilFailure (referenceSteps c n items)).map (·.op),
        firstFailure (referenceSteps c n items)) := by
  induction items generalizing n with
  | nil => rfl
  | cons i is ih =>
    by_cases hv : i.nextVersion = ""
    · simp only [doUpgradeLoop, referenceSteps, hv, if_true, ih]
    simp only [doUpgradeLoop, referenceSteps, hv, if_false, itemSteps_eq]
    cases getUpgradeComponents c n i with
    | error e => simp [untilFailure, firstFailure]
    | ok components =>
      simp only
      cases c.delete n (upgradeDeleteOptions i) with
      | some e => simp [untilFailure, firstFailure]
      | none =>
        cases c.installComponentsAndUpdateInventory n components <;>
          simp [untilFailure, firstFailure, ih]

/-- **`doUpgrade` runs the reference sequence up to its first failure.** It issues the
reference operations up to and including the first failing one, and returns that failure
unchanged, or nil when none fails. -/
theorem doUpgrade_eq_reference (plan : UpgradePlan) :
    doUpgrade c plan =
      ((untilFailure (referenceSteps c 0 plan.providers)).map (·.op),
        firstFailure (referenceSteps c 0 plan.providers)) :=
  doUpgradeLoop_eq_reference c 0 plan.providers

theorem untilFailure_sublist {Comp : Type} (l : List (Step Comp)) :
    (untilFailure l).Sublist l := by
  induction l with
  | nil => exact .slnil
  | cons s l ih =>
    unfold untilFailure
    split
    · exact (List.nil_sublist l).cons₂ s
    · exact ih.cons₂ s

theorem delete_mem_referenceSteps {n : Nat} {items : List UpgradeItem} {d : DeleteOptions}
    (h : RemoteOp.delete d ∈ (referenceSteps c n items).map (·.op)) :
    ∃ i ∈ items, i.nextVersion ≠ "" ∧ d = upgradeDeleteOptions i := by
  induction items generalizing n with
  | nil => simp [referenceSteps] at h
  | cons i is ih =>
    by_cases hv : i.nextVersion = ""
    · simp only [referenceSteps, hv, if_true] at h
      obtain ⟨j, hj, hd⟩ := ih h
      exact ⟨j, List.mem_cons_of_mem i hj, hd⟩
    simp only [referenceSteps, hv, if_false, List.map_append, List.mem_append] at h
    rcases h with h | h
    · rw [itemSteps_eq] at h
      split at h <;> simp at h
      exact ⟨i, List.mem_cons_self i is, hv, h⟩
    · obtain ⟨j, hj, hd⟩ := ih h
      exact ⟨j, List.mem_cons_of_mem i hj, hd⟩

/-- Every provider `doUpgrade` deletes belongs to an item with a next version, and is
deleted keeping its namespace and CRDs. -/
theorem doUpgrade_deletes {plan : UpgradePlan} {d : DeleteOptions}
    (h : RemoteOp.delete d ∈ (doUpgrade c plan).1) :
    ∃ i ∈ plan.providers, i.nextVersion ≠ "" ∧ d = upgradeDeleteOptions i := by
  rw [doUpgrade, doUpgradeLoop_eq_reference] at h
  exact delete_mem_referenceSteps c (((untilFailure_sublist _).map _).subset h)

end

def patchReleasePlan : UpgradePlan :=
  ⟨"v1alpha3", ⟨"cluster-api", .core, "capi-system", "v0.3.9", ""⟩,
    [⟨⟨"cluster-api", .core, "capi-system", "v0.3.9", ""⟩, "v0.3.10"⟩,
      ⟨⟨"kubeadm", .bootstrap, "capi-kubeadm-bootstrap-system", "v0.3.9", ""⟩, ""⟩]⟩

def fetchingCollaborators : Collaborators Unit Unit String :=
  ⟨fun _ _ _ => .ok (), fun _ _ => .ok (), fun _ _ o => .ok ("components " ++ o.version),
    fun _ _ => none, fun _ _ => none⟩

theorem patchReleasePlan_deletes_core :
    RemoteOp.delete ⟨⟨"cluster-api", .core, "capi-system", "v0.3.9", ""⟩, false, false⟩ ∈
        (doUpgrade fetchingCollaborators patchReleasePlan).1 ∧
      ∃ i ∈ patchReleasePlan.providers, i.nextVersion ≠ "" ∧
        (⟨⟨"cluster-api", .core, "capi-system", "v0.3.9", ""⟩, false, false⟩ : DeleteOptions) =
          upgradeDeleteOptions i := by
  have h : RemoteOp.delete ⟨⟨"cluster-api", .core, "capi-system", "v0.3.9", ""⟩, false, false⟩ ∈
      (doUpgrade fetchingCollaborators patchReleasePlan).1 :=
    List.mem_cons_of_mem _ (List.mem_cons_self _ _)
  exact ⟨h, doUpgrade_deletes fetchingCollaborators h⟩

end ClusterApi
