import Mathlib.Data.List.Nodup
import ClusterApi.KubeadmReconcile

/-!
# The kubeadm configs along a run

Each `Reconcile` of the kubeadm bootstrap reconciler patches at most the config it was asked
about, and writes only its spec and status: the defaults and discovery of the kubeadm
configurations, `Status.Ready`, and bootstrap data for the role of the config's Machine. Over
any interleaving of calls, under any pattern of failures:

* the persisted configs are the same objects in the same order, none created, removed or
  moved to another Machine, each still Ready once it was and still with bootstrap data once it
  had some (`runReconciles_configsAdvance`);
* the bootstrap data of every config is for its Machine's role: init or control-plane join
  data for a control-plane Machine, node join data for a worker (`runReconciles_dataOfRole`).
-/

namespace ClusterApi

def BootstrapData.forControlPlane : BootstrapData → Bool
  | .node _ _ => false
  | _ => true

namespace KubeadmConfig

/-- `c'` is `c` further along: the same object of the same Machine, still Ready if `c` was,
and still with bootstrap data if `c` had some. -/
structure Advances (c c' : KubeadmConfig) : Prop where
  name : c'.name = c.name
  «namespace» : c'.«namespace» = c.«namespace»
  ownerMachine : c'.ownerMachine = c.ownerMachine
  ready : c.status.ready = true → c'.status.ready = true
  bootstrapData : c.status.bootstrapData.isSome → c'.status.bootstrapData.isSome

@[refl] theorem Advances.refl (c : KubeadmConfig) : c.Advances c :=
  ⟨rfl, rfl, rfl, id, id⟩

@[trans] theorem Advances.trans {c c' c'' : KubeadmConfig} (h : c.Advances c')
    (h' : c'.Advances c'') : c.Advances c'' :=
  ⟨h'.name.trans h.name, h'.namespace.trans h.namespace, h'.ownerMachine.trans h.ownerMachine,
    h'.ready ∘ h.ready, h'.bootstrapData ∘ h.bootstrapData⟩

/-- What one call may write from `c` into `c'` for a Machine of the given role: `c'` is
further along, and its bootstrap data is `c`'s or new data for that role. -/
structure WritesFor (c c' : KubeadmConfig) (controlPlane : Bool) : Prop where
  advances : c.Advances c'
  bootstrapData : c'.status.bootstrapData = c.status.bootstrapData ∨
    ∃ d, c'.status.bootstrapData = some d ∧ d.forControlPlane = controlPlane

theorem WritesFor.refl (c : KubeadmConfig) (controlPlane : Bool) :
    c.WritesFor c controlPlane :=
  ⟨.refl c, .inl rfl⟩

theorem WritesFor.trans {c c' c'' : KubeadmConfig} {controlPlane : Bool}
    (h : c.WritesFor c' controlPlane) (h' : c'.WritesFor c'' controlPlane) :
    c.WritesFor c'' controlPlane :=
  ⟨h.advances.trans h'.advances, h'.bootstrapData.elim (fun e => e ▸ h.bootstrapData) .inr⟩

theorem writesFor_spec (c : KubeadmConfig) (spec : KubeadmConfigSpec) (controlPlane : Bool) :
    c.WritesFor { c with spec := spec } controlPlane :=
  ⟨⟨rfl, rfl, rfl, id, id⟩, .inl rfl⟩

theorem writesFor_bootstrapData (c : KubeadmConfig) (spec : KubeadmConfigSpec)
    (d : BootstrapData) :
    c.WritesFor { c with spec := spec, status := ⟨true, some d⟩ } d.forControlPlane :=
  ⟨⟨rfl, rfl, rfl, fun _ => rfl, fun _ => rfl⟩, .inr ⟨d, rfl, rfl⟩⟩

end KubeadmConfig

/-! ## What one call writes into the config -/

section Handlers

variable (r : KubeadmConfigReconciler) (a : Answers) (w : World) (cluster : Cluster)
  (machine : Machine) (config : KubeadmConfig)

theorem initControlPlane_writesFor {config' : KubeadmConfig}
    (h : initControlPlane a w cluster machine config = .ok config') :
    config.WritesFor config' true := by
  unfold initControlPlane at h
  split at h
  · cases h
  split at h
  · cases h
  · cases h
    exact config.writesFor_bootstrapData _ (.initControlPlane _ _ _)

theorem handleClusterNotInitialized_writesFor :
    config.WritesFor (handleClusterNotInitialized r a w cluster machine config).1.config
      machine.isControlPlane := by
  unfold handleClusterNotInitialized
  split
  · exact .refl _ _
  rename_i hcp
  rw [Bool.not_eq_true', Bool.not_eq_false] at hcp
  rw [hcp]
  split
  · exact .refl _ _
  split
  · exact .refl _ _
  split
  · exact .refl _ _
  · exact initControlPlane_writesFor a w cluster machine config ‹_›

theorem joinDiscovery_writesFor (join : JoinConfiguration) (controlPlane : Bool) :
    (∀ h, joinDiscovery a cluster config join = .error h →
      config.WritesFor h.config controlPlane) ∧
    ∀ config' join', joinDiscovery a cluster config join = .ok (config', join') →
      config.WritesFor config' controlPlane := by
  unfold joinDiscovery
  dsimp only
  split
  · exact ⟨fun h he => by cases he; exact .refl _ _, fun _ _ he => by cases he⟩
  split
  · split <;> exact ⟨fun h he => by cases he; exact config.writesFor_spec _ _,
      fun _ _ he => by cases he⟩
  split
  · exact ⟨fun h he => by cases he; exact config.writesFor_spec _ _, fun _ _ he => by cases he⟩
  · exact ⟨fun _ he => (by cases he), fun _ _ he => by cases he; exact config.writesFor_spec _ _⟩

theorem joinWorker_writesFor (join : JoinConfiguration) :
    config.WritesFor (joinWorker a w cluster config join).config false := by
  have hd := joinDiscovery_writesFor a cluster config join false
  unfold joinWorker
  split
  · exact hd.1 _ ‹_›
  rename_i config' join' hok
  have hc := hd.2 config' join' hok
  split
  · exact hc
  split
  · exact hc
  · exact hc.trans (config'.writesFor_bootstrapData _ (.node _ _))

theorem joinControlplane_writesFor (join : JoinConfiguration) :
    config.WritesFor (joinControlplane a w cluster config join).config true := by
  unfold joinControlplane
  dsimp only
  split
  · exact (config.writesFor_spec _ _).trans ((joinDiscovery_writesFor a cluster _ _ _).1 _ ‹_›)
  rename_i config' join' hok
  have hc := (config.writesFor_spec _ true).trans
    ((joinDiscovery_writesFor a cluster _ _ true).2 _ _ hok)
  split
  · exact hc
  · exact hc.trans (config'.writesFor_bootstrapData _ (.joinControlPlane _ _))

end Handlers

/-! ## One call -/

/-- The world after a call that may patch the config `c`: its configs are those of `w`, or
those of `w` patched with `c`, and its Machines are `w`'s. -/
def World.Patches (w w' : World) (c : KubeadmConfig) : Prop :=
  (w'.configs = w.configs ∨ w'.configs = (w.patchConfig c).configs) ∧ w'.machines = w.machines

section Call

variable (r : KubeadmConfigReconciler) (a : Answers) (w : World)

theorem patchOnSuccess_patches (h : Handled) : w.Patches (patchOnSuccess a w h).world h.config := by
  unfold patchOnSuccess
  split
  · exact ⟨.inl rfl, rfl⟩
  split
  · exact ⟨.inl rfl, rfl⟩
  · exact ⟨.inr rfl, rfl⟩

theorem generateBootstrapData_writes (cluster : Cluster) (machine : Machine)
    (config : KubeadmConfig) :
    (generateBootstrapData r a w cluster machine config).world = w ∨
    ∃ c, config.WritesFor c machine.isControlPlane ∧
      w.Patches (generateBootstrapData r a w cluster machine config).world c := by
  unfold generateBootstrapData
  dsimp only
  split
  · exact .inl rfl
  split
  · exact .inr ⟨_, handleClusterNotInitialized_writesFor r a w cluster machine config,
      patchOnSuccess_patches a (w.setInitLockHolder _) _⟩
  · refine .inr ⟨_, (config.writesFor_spec { config.spec with
        joinConfiguration := some (config.spec.joinConfiguration.getD .empty) } _).trans ?_,
      patchOnSuccess_patches a (w.setInitLockHolder none) _⟩
    split
    · rename_i hcp
      rw [hcp]
      exact joinControlplane_writesFor a w cluster _ _
    · rename_i hcp
      rw [Bool.not_eq_true] at hcp
      rw [hcp]
      exact joinWorker_writesFor a w cluster _ _

theorem getOwnerMachine_found {config : KubeadmConfig} {machine : Machine}
    (h : getOwnerMachine a w config = .ok (some machine)) :
    machine ∈ w.machines ∧ machine.«namespace» = config.«namespace» ∧
      config.ownerMachine = some machine.name := by
  unfold getOwnerMachine at h
  split at h
  · cases h
  rename_i name hname
  split at h
  · cases h
  split at h
  · rename_i m hm
    cases h
    have hfound := List.find?_some hm
    simp only [Bool.and_eq_true, beq_iff_eq] at hfound
    exact ⟨List.mem_of_find?_eq_some hm, hfound.1, by rw [hname, hfound.2]⟩
  · cases h

theorem reconcileConfig_writes (cluster : Cluster) (machine : Machine) (config : KubeadmConfig) :
    (reconcileConfig r a w cluster machine config).world = w ∨
    ∃ c, config.WritesFor c machine.isControlPlane ∧
      w.Patches (reconcileConfig r a w cluster machine config).world c := by
  rcases reconcileConfig_cases (r := r) (a := a) w cluster machine config with h | h
  · exact .inl h
  · rw [h]
    exact generateBootstrapData_writes r a w cluster machine config

theorem reconcile_writes (req : Request) :
    ((reconcile r a req w).world.configs = w.configs ∧
      (reconcile r a req w).world.machines = w.machines) ∨
    ∃ config ∈ w.configs, ∃ machine ∈ w.machines, machine.«namespace» = config.«namespace» ∧
      config.ownerMachine = some machine.name ∧
      ∃ c, config.WritesFor c machine.isControlPlane ∧ w.Patches (reconcile r a req w).world c := by
  unfold reconcile
  split
  · exact .inl ⟨rfl, rfl⟩
  split
  · exact .inl ⟨rfl, rfl⟩
  rename_i config hfind
  split
  · exact .inl ⟨rfl, rfl⟩
  · exact .inl ⟨rfl, rfl⟩
  rename_i machine hm
  obtain ⟨hmach, hns, hown⟩ := getOwnerMachine_found a w hm
  split
  · exact .inl ⟨rfl, rfl⟩
  · exact .inl ⟨rfl, rfl⟩
  rename_i cluster hcl
  rw [getClusterByName_eq hcl]
  rcases reconcileConfig_writes r a w w.cluster machine config with h | ⟨c, hc, hp⟩
  · rw [h]
    exact .inl ⟨rfl, rfl⟩
  · exact .inr ⟨config, World.findConfig_mem hfind, machine, hmach, hns, hown, c, hc, hp⟩

end Call

/-! ## The persisted configs -/

namespace World

def ConfigsAdvance (w w' : World) : Prop :=
  ∃ f : KubeadmConfig → KubeadmConfig,
    w'.configs = w.configs.map f ∧ ∀ c ∈ w.configs, c.Advances (f c)

theorem ConfigsAdvance.of_configs_eq {w w' : World} (h : w'.configs = w.configs) :
    w.ConfigsAdvance w' :=
  ⟨id, by rw [h, List.map_id], fun c _ => .refl c⟩

@[refl] theorem ConfigsAdvance.refl (w : World) : w.ConfigsAdvance w := .of_configs_eq rfl

@[trans] theorem ConfigsAdvance.trans {w w' w'' : World} (h : w.ConfigsAdvance w')
    (h' : w'.ConfigsAdvance w'') : w.ConfigsAdvance w'' := by
  obtain ⟨f, hf, hfa⟩ := h
  obtain ⟨g, hg, hga⟩ := h'
  refine ⟨g ∘ f, by rw [hg, hf, List.map_map], fun c hc => (hfa c hc).trans (hga (f c) ?_)⟩
  rw [hf]
  exact List.mem_map_of_mem f hc

def configKeys (w : World) : List (String × String) :=
  w.configs.map fun c => (c.«namespace», c.name)

theorem ConfigsAdvance.configKeys_eq {w w' : World} (h : w.ConfigsAdvance w') :
    w'.configKeys = w.configKeys := by
  obtain ⟨f, hf, hfa⟩ := h
  rw [configKeys, configKeys, hf, List.map_map]
  exact List.map_congr_left fun c hc => by
    simp only [Function.comp, (hfa c hc).namespace, (hfa c hc).name]

theorem configsAdvance_patchConfig {w : World} (hkeys : w.configKeys.Nodup)
    {c₀ c : KubeadmConfig} (hmem : c₀ ∈ w.configs) (hc : c₀.Advances c) :
    w.ConfigsAdvance (w.patchConfig c) := by
  refine ⟨_, rfl, fun d hd => ?_⟩
  dsimp only
  split
  · rename_i heq
    obtain rfl : d = c₀ := List.inj_on_of_nodup_map hkeys hd hmem
      (by rw [heq.1, heq.2, hc.namespace, hc.name])
    exact hc
  · rfl

/-- Every config's bootstrap data is for its Machine's role: init or control-plane join data
for a control-plane Machine, node join data for a worker. -/
def DataOfRole (w : World) : Prop :=
  ∀ c ∈ w.configs, ∀ d, c.status.bootstrapData = some d →
    ∃ m ∈ w.machines, m.«namespace» = c.«namespace» ∧ c.ownerMachine = some m.name ∧
      d.forControlPlane = m.isControlPlane

theorem DataOfRole.of_eq {w w' : World} (hw : w.DataOfRole) (hc : w'.configs = w.configs)
    (hm : w'.machines = w.machines) : w'.DataOfRole := by
  unfold DataOfRole at *
  rwa [hc, hm]

end World

section Call

variable (r : KubeadmConfigReconciler) (a : Answers) (req : Request) {w : World}

theorem reconcile_configsAdvance (hkeys : w.configKeys.Nodup) :
    w.ConfigsAdvance (reconcile r a req w).world := by
  rcases reconcile_writes r a w req with ⟨h, -⟩ | ⟨config, hmem, _, _, _, _, c, hc, h | h, -⟩
  · exact .of_configs_eq h
  · exact .of_configs_eq h
  · exact (World.configsAdvance_patchConfig hkeys hmem hc.advances).trans (.of_configs_eq h)

theorem reconcile_dataOfRole (hw : w.DataOfRole) : (reconcile r a req w).world.DataOfRole := by
  rcases reconcile_writes r a w req with
    ⟨hcs, hm⟩ | ⟨config, hmem, machine, hmach, hns, hown, c, hc, hcs | hcs, hm⟩
  · exact hw.of_eq hcs hm
  · exact hw.of_eq hcs hm
  intro c' hc' d hd
  rw [hm]
  rcases World.mem_patchConfig (hcs ▸ hc') with rfl | hold
  · rcases hc.bootstrapData with hdata | ⟨d', hd', hrole⟩
    · obtain ⟨m, hm, hmns, hmown, hrole⟩ := hw config hmem d (hdata ▸ hd)
      exact ⟨m, hm, hmns.trans hc.advances.namespace.symm,
        hc.advances.ownerMachine.trans hmown, hrole⟩
    · obtain rfl : d' = d := Option.some.inj (hd'.symm.trans hd)
      exact ⟨machine, hmach, hns.trans hc.advances.namespace.symm,
        hc.advances.ownerMachine.trans hown, hrole⟩
  · exact hw c' hold d hd

end Call

/-! ## Along a run -/

theorem forall_mem_runReconciles (r : KubeadmConfigReconciler) {P : World → Prop}
    (step : ∀ a req w, P w → P (reconcile r a req w).world) :
    ∀ {calls : List (Request × Answers)} {w w' : World}, P w → w' ∈ runReconciles r calls w → P w'
  | [], _, _, hw, h => by
    rw [runReconciles, List.mem_singleton] at h
    rwa [h]
  | (req, a) :: _, w, _, hw, h => by
    rcases List.mem_cons.1 h with rfl | h
    · exact hw
    · exact forall_mem_runReconciles r step (step a req w hw) h

/-- Over every run of `Reconcile` calls from a world whose configs have distinct namespaced
names, under any answers of the collaborators, every world the run passes through holds the
same configs in the same order, none created, removed, renamed or moved to another Machine,
each still Ready once it was and still with bootstrap data once it had some. -/
theorem runReconciles_configsAdvance (r : KubeadmConfigReconciler)
    (calls : List (Request × Answers)) {w w' : World} (hkeys : w.configKeys.Nodup)
    (h : w' ∈ runReconciles r calls w) : w.ConfigsAdvance w' :=
  forall_mem_runReconciles r (P := w.ConfigsAdvance)
    (fun a req _ hv => hv.trans (reconcile_configsAdvance r a req (hv.configKeys_eq ▸ hkeys)))
    (.refl w) h

theorem controlPlaneAndWorker_configsAdvance :
    controlPlaneAndWorker.ConfigsAdvance (reconcile ⟨freeInitLocker, 900⟩ succeedingAnswers
      ⟨"default", "cp-0-config"⟩ controlPlaneAndWorker).world :=
  runReconciles_configsAdvance ⟨freeInitLocker, 900⟩
    [(⟨"default", "cp-0-config"⟩, succeedingAnswers)] (by decide)
    (List.mem_cons_of_mem _ (List.mem_singleton_self _))

/-- Over every run of `Reconcile` calls from a world where every config's bootstrap data is
for its Machine's role, under any answers of the collaborators, it stays so in every world
the run passes through: a worker's config never gets init or control-plane join data, and a
control-plane Machine's config never gets node join data. -/
theorem runReconciles_dataOfRole (r : KubeadmConfigReconciler)
    (calls : List (Request × Answers)) {w w' : World} (hw : w.DataOfRole)
    (h : w' ∈ runReconciles r calls w) : w'.DataOfRole :=
  forall_mem_runReconciles r (fun a req _ => reconcile_dataOfRole r a req) hw h

theorem controlPlaneAndWorker_dataOfRole :
    (reconcile ⟨freeInitLocker, 900⟩ succeedingAnswers ⟨"default", "cp-0-config"⟩
      controlPlaneAndWorker).world.DataOfRole :=
  runReconciles_dataOfRole ⟨freeInitLocker, 900⟩
    [(⟨"default", "cp-0-config"⟩, succeedingAnswers)]
    (fun c hc d hd => by
      rw [bootstrapData_controlPlaneAndWorker hc] at hd
      cases hd)
    (List.mem_cons_of_mem _ (List.mem_singleton_self _))

end ClusterApi
