import Mathlib.Data.List.Chain
import ClusterApi.KubeadmSettings
import ClusterApi.KubeadmMappers

/-!
# The kubeadm bootstrap reconciler

`KubeadmConfigReconciler.Reconcile` turns a KubeadmConfig into bootstrap data for its
Machine. While the cluster's control plane is not initialized, a control-plane config gets
init data, guarded by the cluster's init lock; once it is, every config gets join data. The
model runs `Reconcile` on a world of one cluster, its Machines, the persisted KubeadmConfigs
and the holder of the init lock. The answers of the collaborators are an argument of each
call, so that a run is any interleaving of calls under any pattern of failures.

The init lock is to let one machine initialize the control plane. Init data stays with the
holder of the lock, except on one path: a call that takes the lock and then fails frees it,
and when the lock was taken again by its holder, whose init data is already persisted, the
next control-plane machine can take it and get init data too. With a lock that refuses its
own holder no run ever gives two machines init data.
-/

namespace ClusterApi

/-! ## The reconciler and its world -/

/-- An `InitLocker` for one cluster, as a per-cluster mutex: `lock holder m` is whether
`Lock` succeeds for machine `m` while `holder` holds the lock. It succeeds only when the lock
is free or held by `m`; a successful `Lock` makes `m` the holder and `Unlock` frees it. -/
structure InitLocker where
  lock : Option String → String → Bool
  mutex : ∀ holder m, lock holder m = true → holder = none ∨ holder = some m

structure KubeadmConfigReconciler where
  kubeadmInitLock : InitLocker
  defaultTokenTTL : Nat

structure ReconcileResult where
  requeueAfter : Nat
  deriving DecidableEq, Repr

def requeueAfter30 : ReconcileResult := ⟨30⟩

/-- The objects `Reconcile` reads and writes: one cluster, its Machines, the persisted
KubeadmConfigs, the ConfigMaps and Secrets files are read from, and the Machine holding the
cluster's init lock. -/
structure World where
  cluster : Cluster
  machines : List Machine
  configs : List KubeadmConfig
  configMaps : List ConfigMap
  secrets : List Secret
  initLockHolder : Option String

/-- The answers of the collaborators during one `Reconcile` call: the error each call
returns, if any, and those `reconcileDiscovery` gets. -/
structure Answers where
  getConfig : Option GoError
  getOwnerMachine : Option GoError
  getCluster : Option GoError
  remoteClient : Option GoError
  refreshToken : Option GoError
  newHelper : Option GoError
  patch : Option GoError
  marshalInit : Option GoError
  marshalCluster : Option GoError
  marshalJoin : Option GoError
  lookupOrGenerate : Option GoError
  lookup : Option GoError
  ensureAllExist : Option GoError
  getFileSource : Nat → Option GoError
  cloudInit : Option GoError
  discovery : DiscoveryCollaborators

def firstError (errs : List (Option GoError)) : Option GoError := errs.findSome? id

namespace World

def findConfig (w : World) (req : Request) : Option KubeadmConfig :=
  w.configs.find? fun c => c.«namespace» == req.«namespace» && c.name == req.name

def patchConfig (w : World) (config : KubeadmConfig) : World :=
  { w with configs := w.configs.map fun c =>
      if c.«namespace» = config.«namespace» ∧ c.name = config.name then config else c }

def setInitLockHolder (w : World) (holder : Option String) : World :=
  { w with initLockHolder := holder }

@[simp] theorem patchConfig_cluster (w : World) (c : KubeadmConfig) :
    (w.patchConfig c).cluster = w.cluster := rfl

@[simp] theorem patchConfig_initLockHolder (w : World) (c : KubeadmConfig) :
    (w.patchConfig c).initLockHolder = w.initLockHolder := rfl

@[simp] theorem setInitLockHolder_cluster (w : World) (h : Option String) :
    (w.setInitLockHolder h).cluster = w.cluster := rfl

@[simp] theorem setInitLockHolder_configs (w : World) (h : Option String) :
    (w.setInitLockHolder h).configs = w.configs := rfl

@[simp] theorem setInitLockHolder_initLockHolder (w : World) (h : Option String) :
    (w.setInitLockHolder h).initLockHolder = h := rfl

theorem mem_patchConfig {w : World} {c c' : KubeadmConfig} (h : c ∈ (w.patchConfig c').configs) :
    c = c' ∨ c ∈ w.configs := by
  obtain ⟨d, hd, rfl⟩ := List.mem_map.1 h
  by_cases hn : d.«namespace» = c'.«namespace» ∧ d.name = c'.name
  · exact .inl (if_pos hn)
  · exact .inr (by rwa [if_neg hn])

theorem findConfig_mem {w : World} {req : Request} {c : KubeadmConfig}
    (h : w.findConfig req = some c) : c ∈ w.configs :=
  List.mem_of_find?_eq_some h

end World

/-! ## `Reconcile` -/

section
variable (r : KubeadmConfigReconciler) (a : Answers)

def getOwnerMachine (w : World) (config : KubeadmConfig) : Except GoError (Option Machine) :=
  match config.ownerMachine with
  | none => .ok none
  | some name =>
    match a.getOwnerMachine with
    | some e => .error e
    | none =>
      match w.machines.find? fun m => m.«namespace» == config.«namespace» && m.name == name with
      | some m => .ok (some m)
      | none => .error (.msg ("machines.cluster.x-k8s.io \"" ++ name ++ "\" not found"))

def getClusterByName (w : World) (ns name : String) : Except GoError (Option Cluster) :=
  match a.getCluster with
  | some e => .error e
  | none => if w.cluster.«namespace» = ns ∧ w.cluster.name = name then .ok (some w.cluster) else .ok none

structure Handled where
  result : ReconcileResult
  err : Option GoError
  config : KubeadmConfig

/-! ### Files -/

def errOptionalFileContentSourceNotFound : GoError :=
  .sentinel "errOptionalFileContentSourceNotFound" "optional file content source not found"

def resolveKeyRef (kind resource ns : String) (ref : KeySelector) (getErr : Option GoError)
    (found : Option (List (String × String))) : Except GoError String :=
  let nn := ns ++ "/" ++ ref.name
  match getErr, found with
  | some e, _ => .error (.wrap ("getting " ++ kind ++ " " ++ nn) e)
  | none, none =>
    if ref.optional = some true then .error errOptionalFileContentSourceNotFound
    else .error (.wrap ("getting " ++ kind ++ " " ++ nn)
      (.msg (resource ++ " \"" ++ ref.name ++ "\" not found")))
  | none, some data =>
    match data.lookup ref.key with
    | some v => .ok v
    | none => .error (.msg ("could not find key " ++ ref.key ++ " in " ++ kind ++ " " ++ nn))

def resolveFileContentSource (w : World) (ns : String) (getErr : Option GoError)
    (source : FileContentSource) : Except GoError String :=
  match source.configMapKeyRef with
  | some ref => resolveKeyRef "ConfigMap" "configmaps" ns ref getErr
      ((w.configMaps.find? fun c => c.«namespace» == ns && c.name == ref.name).map (·.data))
  | none =>
    match source.secretKeyRef with
    | some ref => resolveKeyRef "Secret" "secrets" ns ref getErr
        ((w.secrets.find? fun c => c.«namespace» == ns && c.name == ref.name).map (·.data))
    | none => .error (.msg "no source reference defined")

def File.toCloudInit (f : File) (content : String) : CloudInitFile :=
  ⟨f.path, f.owner, f.permissions, f.encoding, content⟩

/-- `resolveFiles`, from the file of index `i` on: a file keeps its content or takes that of
its source; a missing optional source drops the file; any other failure is an error naming
the file's index. -/
def resolveFiles (w : World) (ns : String) : Nat → List File → Except GoError (List CloudInitFile)
  | _, [] => .ok []
  | i, f :: fs =>
    if f.content ≠ "" then (resolveFiles w ns (i + 1) fs).map (f.toCloudInit f.content :: ·)
    else
      match f.contentFrom with
      | none => .error (.msg ("files[" ++ toString i ++ "]: missing content or contentFrom"))
      | some source =>
        match resolveFileContentSource w ns (a.getFileSource i) source with
        | .error e =>
          if e = errOptionalFileContentSourceNotFound then resolveFiles w ns (i + 1) fs
          else .error (.wrap ("files[" ++ toString i ++ "]: resolving contentFrom reference") e)
        | .ok content => (resolveFiles w ns (i + 1) fs).map (f.toCloudInit content :: ·)

def resolveFilesAndRender (w : World) (config : KubeadmConfig) :
    Except GoError (List CloudInitFile) :=
  match resolveFiles a w config.«namespace» 0 config.spec.files with
  | .error e => .error e
  | .ok files =>
    match a.cloudInit with
    | some e => .error e
    | none => .ok files

/-! ### Init and join -/

def defaultInitConfiguration : InitConfiguration := ⟨"kubeadm.k8s.io/v1beta1", "InitConfiguration"⟩

def initControlPlane (w : World) (cluster : Cluster) (machine : Machine) (config : KubeadmConfig) :
    Except GoError KubeadmConfig :=
  let initConfiguration := config.spec.initConfiguration.getD defaultInitConfiguration
  let clusterConfiguration := reconcileTopLevelObjectSettings cluster machine
    (config.spec.clusterConfiguration.getD defaultClusterConfiguration)
  match firstError [a.marshalInit, a.marshalCluster, a.lookupOrGenerate] with
  | some e => .error e
  | none =>
    match resolveFilesAndRender a w config with
    | .error e => .error e
    | .ok files => .ok { config with
        spec := { config.spec with
          initConfiguration := some initConfiguration
          clusterConfiguration := some clusterConfiguration }
        status := ⟨true, some (.initControlPlane initConfiguration clusterConfiguration files)⟩ }

/-- `handleClusterNotInitialized`, with the holder of the init lock after it. Once the lock is
taken, an error unlocks it (the deferred `Unlock`); the config is then not patched, so the
one returned is the one given. -/
def handleClusterNotInitialized (w : World) (cluster : Cluster) (machine : Machine)
    (config : KubeadmConfig) : Handled × Option String :=
  if !machine.isControlPlane then (⟨requeueAfter30, none, config⟩, w.initLockHolder)
  else if config.spec.initConfiguration.isNone && config.spec.clusterConfiguration.isNone then
    (⟨requeueAfter30, none, config⟩, w.initLockHolder)
  else if !r.kubeadmInitLock.lock w.initLockHolder machine.name then
    (⟨requeueAfter30, none, config⟩, w.initLockHolder)
  else
    match initControlPlane a w cluster machine config with
    | .error e => (⟨⟨0⟩, some e, config⟩, none)
    | .ok config => (⟨⟨0⟩, none, config⟩, some machine.name)

def joinDiscovery (cluster : Cluster) (config : KubeadmConfig) (join : JoinConfiguration) :
    Except Handled (KubeadmConfig × JoinConfiguration) :=
  match firstError [a.lookup, a.ensureAllExist] with
  | some e => .error ⟨⟨0⟩, some e, config⟩
  | none =>
    let o := reconcileDiscovery a.discovery cluster join.discovery
    let join := { join with discovery := o.discovery }
    let config := { config with spec := { config.spec with joinConfiguration := some join } }
    match o.err with
    | some e =>
      match e.cause with
      | .requeueAfter n => .error ⟨⟨n⟩, none, config⟩
      | _ => .error ⟨⟨0⟩, some e, config⟩
    | none =>
      match a.marshalJoin with
      | some e => .error ⟨⟨0⟩, some e, config⟩
      | none => .ok (config, join)

def joinWorker (w : World) (cluster : Cluster) (config : KubeadmConfig)
    (join : JoinConfiguration) : Handled :=
  match joinDiscovery a cluster config join with
  | .error h => h
  | .ok (config, join) =>
    if join.controlPlane.isSome then
      ⟨⟨0⟩, some (.msg ("Machine is a Worker, but JoinConfiguration.ControlPlane is set in " ++
        "the KubeadmConfig object")), config⟩
    else
      match resolveFilesAndRender a w config with
      | .error e => ⟨⟨0⟩, some e, config⟩
      | .ok files => ⟨⟨0⟩, none, { config with status := ⟨true, some (.node join files)⟩ }⟩

def joinControlplane (w : World) (cluster : Cluster) (config : KubeadmConfig)
    (join : JoinConfiguration) : Handled :=
  let join := { join with controlPlane := some (join.controlPlane.getD ⟨""⟩) }
  let config := { config with spec := { config.spec with joinConfiguration := some join } }
  match joinDiscovery a cluster config join with
  | .error h => h
  | .ok (config, join) =>
    match resolveFilesAndRender a w config with
    | .error e => ⟨⟨0⟩, some e, config⟩
    | .ok files =>
      ⟨⟨0⟩, none, { config with status := ⟨true, some (.joinControlPlane join files)⟩ }⟩

structure Outcome where
  result : ReconcileResult
  err : Option GoError
  world : World

/-- The deferred patch of `Reconcile` (and the patch of a config whose data the Machine has
copied): without an error the config is patched, and a failed patch is the call's error. -/
def patchOnSuccess (w : World) (h : Handled) : Outcome :=
  match h.err with
  | some e => ⟨h.result, some e, w⟩
  | none =>
    match a.patch with
    | some e => ⟨h.result, some e, w⟩
    | none => ⟨h.result, none, w.patchConfig h.config⟩

/-- The case of a config whose bootstrap data the Machine has copied. `Status.Ready` is set
before `patch.NewHelper` takes its snapshot, so the patch finds no change to write: the world
stays as it is, and the call returns the patch's error, if any. -/
def markReady (w : World) : Outcome :=
  match a.newHelper with
  | some e => ⟨⟨0⟩, some e, w⟩
  | none => ⟨⟨0⟩, a.patch, w⟩

def refreshBootstrapToken (w : World) : Outcome :=
  match a.remoteClient with
  | some e => ⟨⟨0⟩, some e, w⟩
  | none =>
    match a.refreshToken with
    | some e => ⟨⟨0⟩, some (.wrap "failed to refresh bootstrap token" e), w⟩
    | none => ⟨⟨r.defaultTokenTTL / 2⟩, none, w⟩

/-- The rest of `Reconcile`: init data while the control plane is not initialized, join data
once it is (after an `Unlock` and a default `JoinConfiguration`), then the deferred patch. -/
def generateBootstrapData (w : World) (cluster : Cluster) (machine : Machine)
    (config : KubeadmConfig) : Outcome :=
  match a.newHelper with
  | some e => ⟨⟨0⟩, some e, w⟩
  | none =>
    if !cluster.controlPlaneInitialized then
      let handled := handleClusterNotInitialized r a w cluster machine config
      patchOnSuccess a (w.setInitLockHolder handled.2) handled.1
    else
      let join := config.spec.joinConfiguration.getD .empty
      let config := { config with spec := { config.spec with joinConfiguration := some join } }
      patchOnSuccess a (w.setInitLockHolder none)
        (if machine.isControlPlane then joinControlplane a w cluster config join
         else joinWorker a w cluster config join)

def reconcileConfig (w : World) (cluster : Cluster) (machine : Machine) (config : KubeadmConfig) :
    Outcome :=
  if !cluster.infrastructureReady then ⟨⟨0⟩, none, w⟩
  else if config.status.ready && machine.infrastructureReady then ⟨⟨0⟩, none, w⟩
  else if machine.bootstrap.data.isSome && !config.status.ready then markReady a w
  else if config.status.ready &&
      (config.spec.joinConfiguration.bind (·.discovery.bootstrapToken)).isSome then
    refreshBootstrapToken r a w
  else generateBootstrapData r a w cluster machine config

def reconcile (req : Request) (w : World) : Outcome :=
  match a.getConfig with
  | some e => ⟨⟨0⟩, some e, w⟩
  | none =>
    match w.findConfig req with
    | none => ⟨⟨0⟩, none, w⟩
    | some config =>
      match getOwnerMachine a w config with
      | .error e => ⟨⟨0⟩, some e, w⟩
      | .ok none => ⟨⟨0⟩, none, w⟩
      | .ok (some machine) =>
        match getClusterByName a w machine.«namespace» machine.clusterName with
        | .error e => ⟨⟨0⟩, some e, w⟩
        | .ok none => ⟨⟨0⟩, none, w⟩
        | .ok (some cluster) => reconcileConfig r a w cluster machine config

end

def runReconciles (r : KubeadmConfigReconciler) : List (Request × Answers) → World → List World
  | [], w => [w]
  | (req, a) :: calls, w => w :: runReconciles r calls (reconcile r a req w).world

/-! ## Files -/

section
variable {a : Answers} {w : World} {ns : String}

theorem resolveKeyRef_sentinel {kind resource : String} {ref : KeySelector}
    {getErr : Option GoError} {found : Option (List (String × String))}
    (h : resolveKeyRef kind resource ns ref getErr found =
      .error errOptionalFileContentSourceNotFound) :
    ref.optional = some true := by
  unfold resolveKeyRef at h
  split at h
  · cases h
  · split at h
    · assumption
    · cases h
  · split at h <;> cases h

theorem resolveFileContentSource_sentinel {getErr : Option GoError} {source : FileContentSource}
    (h : resolveFileContentSource w ns getErr source =
      .error errOptionalFileContentSourceNotFound) :
    ∃ ref, (source.configMapKeyRef = some ref ∨ source.secretKeyRef = some ref) ∧
      ref.optional = some true := by
  unfold resolveFileContentSource at h
  split at h
  · rename_i ref href
    exact ⟨ref, .inl href, resolveKeyRef_sentinel h⟩
  split at h
  · rename_i ref href
    exact ⟨ref, .inr href, resolveKeyRef_sentinel h⟩
  · cases h

theorem resolveFiles_cons {i : Nat} {f : File} {fs : List File}
    {r : Except GoError (List CloudInitFile)} (h : resolveFiles a w ns i (f :: fs) = r) :
    (∃ content, r = (resolveFiles a w ns (i + 1) fs).map (f.toCloudInit content :: ·)) ∨
    (f.content = "" ∧ (∃ source, f.contentFrom = some source ∧
        resolveFileContentSource w ns (a.getFileSource i) source =
          .error errOptionalFileContentSourceNotFound) ∧
      r = resolveFiles a w ns (i + 1) fs) ∨
    r = .error (.msg ("files[" ++ toString i ++ "]: missing content or contentFrom")) ∨
    ∃ cause, r = .error (.wrap ("files[" ++ toString i ++ "]: resolving contentFrom reference") cause) := by
  simp only [resolveFiles] at h
  split at h
  · exact .inl ⟨_, h.symm⟩
  rename_i hc
  split at h
  · exact .inr (.inr (.inl h.symm))
  rename_i source hsrc
  split at h
  · split at h
    · rename_i hres he
      subst he
      exact .inr (.inl ⟨by simpa using hc, ⟨source, hsrc, hres⟩, h.symm⟩)
    · exact .inr (.inr (.inr ⟨_, h.symm⟩))
  · exact .inl ⟨_, h.symm⟩

/-- The files `resolveFiles` writes are the config's, in their order. -/
theorem resolveFiles_sublist {i : Nat} {fs : List File} {out : List CloudInitFile}
    (h : resolveFiles a w ns i fs = .ok out) :
    List.Sublist (out.map (·.path)) (fs.map (·.path)) := by
  induction fs generalizing i out with
  | nil => cases h; exact .slnil
  | cons f fs ih =>
    rcases resolveFiles_cons h with ⟨_, hr⟩ | ⟨-, -, hr⟩ | hr | ⟨_, hr⟩
    · obtain ⟨rest, hrest, rfl⟩ := map_eq_ok hr.symm
      exact (ih hrest).cons₂ _
    · exact (ih hr.symm).cons _
    all_goals cases hr

/-- **Only a missing optional source drops a file.** A file with content, or whose source
selectors are all required, is written, with some content. -/
theorem resolveFiles_writes {i : Nat} {fs : List File} {out : List CloudInitFile}
    (h : resolveFiles a w ns i fs = .ok out) {f : File} (hf : f ∈ fs)
    (hreq : f.content = "" → ∀ source ∈ f.contentFrom, ∀ ref,
      (source.configMapKeyRef = some ref ∨ source.secretKeyRef = some ref) →
        ref.optional ≠ some true) :
    ∃ content, f.toCloudInit content ∈ out := by
  induction fs generalizing i out with
  | nil => cases hf
  | cons g fs ih =>
    rcases resolveFiles_cons h with ⟨c, hr⟩ | ⟨hc, ⟨source, hsrc, hres⟩, hr⟩ | hr | ⟨_, hr⟩
    · obtain ⟨rest, hrest, rfl⟩ := map_eq_ok hr.symm
      rcases List.mem_cons.1 hf with rfl | hf
      · exact ⟨c, List.mem_cons_self _ _⟩
      · obtain ⟨c', hc'⟩ := ih hrest hf
        exact ⟨c', List.mem_cons_of_mem _ hc'⟩
    · rcases List.mem_cons.1 hf with rfl | hf
      · obtain ⟨ref, href, hopt⟩ := resolveFileContentSource_sentinel hres
        exact absurd hopt (hreq hc source hsrc ref href)
      · exact ih hr.symm hf
    all_goals cases hr

end

/-! ### Files from a ConfigMap -/

def succeedingAnswers : Answers where
  getConfig := none
  getOwnerMachine := none
  getCluster := none
  remoteClient := none
  refreshToken := none
  newHelper := none
  patch := none
  marshalInit := none
  marshalCluster := none
  marshalJoin := none
  lookupOrGenerate := none
  lookup := none
  ensureAllExist := none
  getFileSource := fun _ => none
  cloudInit := none
  discovery := ⟨.ok ["sha256:0f1e2d"], none, .ok ⟨"abcdef", "0123456789abcdef"⟩⟩

def filesWorld : World :=
  ⟨⟨"capi-quickstart", "default", ⟨"10.0.0.1", 6443⟩, none, true, false⟩, [], [],
    [⟨"files", "default", [("motd", "Welcome")]⟩], [], none⟩

def motdFile : File :=
  ⟨"/etc/motd", "root:root", "0644", "", "", some ⟨some ⟨"files", "motd", none⟩, none⟩⟩

def extraFile : File :=
  ⟨"/etc/extra.conf", "root:root", "0600", "", "", some ⟨none, some ⟨"extra", "conf", some true⟩⟩⟩

theorem filesWorld_motd_written :
    resolveFiles succeedingAnswers filesWorld "default" 0 [motdFile, extraFile] =
        .ok [motdFile.toCloudInit "Welcome"] ∧
      ∃ content, motdFile.toCloudInit content ∈ [motdFile.toCloudInit "Welcome"] := by
  have h : resolveFiles succeedingAnswers filesWorld "default" 0 [motdFile, extraFile] =
      .ok [motdFile.toCloudInit "Welcome"] := rfl
  refine ⟨h, resolveFiles_writes h (List.mem_cons_self _ _) fun _ source hs ref href => ?_⟩
  cases hs
  rcases href with h | h <;> cases h
  nofun

theorem filesWorld_extra_dropped :
    resolveFiles succeedingAnswers filesWorld "default" 0 [motdFile, extraFile] =
        .ok [motdFile.toCloudInit "Welcome"] ∧
      List.Sublist ([motdFile.toCloudInit "Welcome"].map (·.path))
        ([motdFile, extraFile].map (·.path)) := by
  have h : resolveFiles succeedingAnswers filesWorld "default" 0 [motdFile, extraFile] =
      .ok [motdFile.toCloudInit "Welcome"] := rfl
  exact ⟨h, resolveFiles_sublist h⟩

/-! ## Init data stays with the holder of the init lock -/

namespace KubeadmConfig

def hasInitData (c : KubeadmConfig) : Bool :=
  (c.status.bootstrapData.map BootstrapData.isInitControlPlane).getD false

def initReady (c : KubeadmConfig) : Bool := c.status.ready && c.hasInitData

end KubeadmConfig

def SingleInitMachine (w : World) : Prop :=
  ∀ c₁ ∈ w.configs, ∀ c₂ ∈ w.configs, c₁.initReady → c₂.initReady →
    c₁.ownerMachine = c₂.ownerMachine

def InitDataLocked (w : World) : Prop :=
  ∀ c ∈ w.configs, c.hasInitData → ∃ m, c.ownerMachine = some m ∧ w.initLockHolder = some m

/-- A call took the init lock again for the Machine holding it, and freed it, while that
Machine's init data stays persisted. -/
def FreedRetakenLock (L : InitLocker) (w w' : World) : Prop :=
  ∃ m, w.initLockHolder = some m ∧ L.lock (some m) m = true ∧ w'.initLockHolder = none ∧
    ∃ c ∈ w'.configs, c.ownerMachine = some m ∧ c.hasInitData

theorem singleInitMachine_of_initDataLocked {w : World} (h : InitDataLocked w) :
    SingleInitMachine w := by
  intro c₁ h₁ c₂ h₂ r₁ r₂
  obtain ⟨m₁, o₁, l₁⟩ := h c₁ h₁ (by simp_all [KubeadmConfig.initReady])
  obtain ⟨m₂, o₂, l₂⟩ := h c₂ h₂ (by simp_all [KubeadmConfig.initReady])
  rw [o₁, o₂, ← l₁, ← l₂]

theorem initDataLocked_of_lock_granted {L : InitLocker} {w : World} {name : String}
    (hi : InitDataLocked w) (hl : L.lock w.initLockHolder name = true) {c : KubeadmConfig}
    (hc : c ∈ w.configs) (hdi : c.hasInitData) :
    c.ownerMachine = some name ∧ w.initLockHolder = some name := by
  obtain ⟨m, hm, hlock⟩ := hi c hc hdi
  rcases L.mutex _ _ hl with h0 | h0
  · simp [h0] at hlock
  · rw [h0] at hlock ⊢
    obtain rfl := Option.some.inj hlock
    exact ⟨hm, rfl⟩

theorem initDataLocked_patchConfig {w : World} {c : KubeadmConfig} (h : InitDataLocked w)
    (hc : c.hasInitData → ∃ m, c.ownerMachine = some m ∧ w.initLockHolder = some m) :
    InitDataLocked (w.patchConfig c) := by
  intro d hd
  rcases World.mem_patchConfig hd with rfl | hd
  · exact hc
  · exact h d hd

section
variable {r : KubeadmConfigReconciler} {a : Answers}

theorem initDataLocked_patchOnSuccess {w : World} {h : Handled} (hi : InitDataLocked w)
    (hc : h.config.hasInitData → ∃ m, h.config.ownerMachine = some m ∧ w.initLockHolder = some m) :
    InitDataLocked (patchOnSuccess a w h).world := by
  unfold patchOnSuccess
  split
  · exact hi
  split
  · exact hi
  exact initDataLocked_patchConfig hi hc

@[simp] theorem patchOnSuccess_cluster (w : World) (h : Handled) :
    (patchOnSuccess a w h).world.cluster = w.cluster := by
  unfold patchOnSuccess; split <;> (try split) <;> rfl

theorem patchOnSuccess_of_err {w : World} {h : Handled} (he : h.err.isSome) :
    (patchOnSuccess a w h).world = w := by
  obtain ⟨e, he⟩ := Option.isSome_iff_exists.1 he
  simp [patchOnSuccess, he]

theorem initControlPlane_ownerMachine {w : World} {cluster : Cluster} {machine : Machine}
    {config config' : KubeadmConfig} (h : initControlPlane a w cluster machine config = .ok config') :
    config'.ownerMachine = config.ownerMachine := by
  unfold initControlPlane at h
  split at h
  · cases h
  split at h
  · cases h
  · cases h; rfl

theorem handleClusterNotInitialized_cases (w : World) (cluster : Cluster) (machine : Machine)
    (config : KubeadmConfig) :
    let p := handleClusterNotInitialized r a w cluster machine config
    (p.2 = w.initLockHolder ∧ p.1.config = config) ∨
    (r.kubeadmInitLock.lock w.initLockHolder machine.name = true ∧ p.2 = none ∧ p.1.err.isSome) ∨
    (r.kubeadmInitLock.lock w.initLockHolder machine.name = true ∧ p.2 = some machine.name ∧
      p.1.config.ownerMachine = config.ownerMachine) := by
  unfold handleClusterNotInitialized
  split
  · exact .inl ⟨rfl, rfl⟩
  split
  · exact .inl ⟨rfl, rfl⟩
  split
  · exact .inl ⟨rfl, rfl⟩
  rename_i hl
  simp only [Bool.not_eq_true', Bool.not_eq_false] at hl
  split
  · exact .inr (.inl ⟨hl, rfl, rfl⟩)
  · rename_i config' h
    exact .inr (.inr ⟨hl, rfl, initControlPlane_ownerMachine h⟩)

@[simp] theorem markReady_world (w : World) : (markReady a w).world = w := by
  unfold markReady; split <;> rfl

@[simp] theorem refreshBootstrapToken_world (w : World) :
    (refreshBootstrapToken r a w).world = w := by
  unfold refreshBootstrapToken; split <;> (try split) <;> rfl

@[simp] theorem generateBootstrapData_cluster (w : World) (cluster : Cluster) (machine : Machine)
    (config : KubeadmConfig) :
    (generateBootstrapData r a w cluster machine config).world.cluster = w.cluster := by
  unfold generateBootstrapData; split <;> (try split) <;> simp

theorem generateBootstrapData_initDataLocked {w : World} {cluster : Cluster} {machine : Machine}
    {config : KubeadmConfig} (hi : InitDataLocked w)
    (hconfig : config.hasInitData → ∃ m, config.ownerMachine = some m ∧ w.initLockHolder = some m)
    (hown : config.ownerMachine = some machine.name)
    (hc : cluster.controlPlaneInitialized = false) :
    InitDataLocked (generateBootstrapData r a w cluster machine config).world ∨
      FreedRetakenLock r.kubeadmInitLock w
        (generateBootstrapData r a w cluster machine config).world := by
  unfold generateBootstrapData
  split
  · exact .inl hi
  simp only [hc, Bool.not_false, if_true]
  rcases handleClusterNotInitialized_cases (r := r) (a := a) w cluster machine config
    with ⟨hh, hcfg⟩ | ⟨hl, hh, he⟩ | ⟨hl, hh, hcfg⟩
  · refine .inl (initDataLocked_patchOnSuccess ?_ ?_)
    · simpa [hh] using hi
    · simpa [hcfg, hh] using hconfig
  · rw [patchOnSuccess_of_err he]
    by_cases hd : ∃ d ∈ w.configs, d.hasInitData
    · obtain ⟨d, hd, hdi⟩ := hd
      obtain ⟨hm, h0⟩ := initDataLocked_of_lock_granted hi hl hd hdi
      exact .inr ⟨machine.name, h0, h0 ▸ hl, hh, d, hd, hm, hdi⟩
    · exact .inl fun d hd' hdi => absurd ⟨d, hd', hdi⟩ hd
  · have hlocked : InitDataLocked (w.setInitLockHolder (some machine.name)) := fun d hd hdi =>
      ⟨machine.name, (initDataLocked_of_lock_granted hi hl hd hdi).1, rfl⟩
    refine .inl (initDataLocked_patchOnSuccess (by simpa [hh] using hlocked) ?_)
    intro _
    exact ⟨machine.name, by rw [hcfg, hown], by simp [hh]⟩

theorem reconcileConfig_cases (w : World) (cluster : Cluster) (machine : Machine)
    (config : KubeadmConfig) :
    (reconcileConfig r a w cluster machine config).world = w ∨
    reconcileConfig r a w cluster machine config =
      generateBootstrapData r a w cluster machine config := by
  unfold reconcileConfig
  split_ifs
  · exact .inl rfl
  · exact .inl rfl
  · exact .inl (markReady_world _)
  · exact .inl (refreshBootstrapToken_world _)
  · exact .inr rfl

theorem reconcileConfig_initDataLocked {w : World} {cluster : Cluster} {machine : Machine}
    {config : KubeadmConfig} (hi : InitDataLocked w) (hmem : config ∈ w.configs)
    (hown : config.ownerMachine = some machine.name)
    (hc : cluster.controlPlaneInitialized = false) :
    InitDataLocked (reconcileConfig r a w cluster machine config).world ∨
      FreedRetakenLock r.kubeadmInitLock w (reconcileConfig r a w cluster machine config).world := by
  rcases reconcileConfig_cases (r := r) (a := a) w cluster machine config with h | h <;> rw [h]
  · exact .inl hi
  · exact generateBootstrapData_initDataLocked hi (hi config hmem) hown hc

@[simp] theorem reconcileConfig_cluster (w : World) (cluster : Cluster) (machine : Machine)
    (config : KubeadmConfig) : (reconcileConfig r a w cluster machine config).world.cluster =
      w.cluster := by
  rcases reconcileConfig_cases (r := r) (a := a) w cluster machine config with h | h <;> simp [h]

theorem getOwnerMachine_name {w : World} {config : KubeadmConfig} {machine : Machine}
    (h : getOwnerMachine a w config = .ok (some machine)) :
    config.ownerMachine = some machine.name := by
  unfold getOwnerMachine at h
  split at h
  · cases h
  rename_i name hname
  split at h
  · cases h
  split at h
  · rename_i m hm
    cases h
    have := List.find?_some hm
    simp only [Bool.and_eq_true, beq_iff_eq] at this
    rw [hname, this.2]
  · cases h

theorem getClusterByName_eq {w : World} {ns name : String} {cluster : Cluster}
    (h : getClusterByName a w ns name = .ok (some cluster)) : cluster = w.cluster := by
  unfold getClusterByName at h
  split at h
  · cases h
  split at h
  · cases h; rfl
  · cases h

theorem reconcile_cases (req : Request) (w : World) :
    (reconcile r a req w).world = w ∨
    ∃ config ∈ w.configs, ∃ machine, config.ownerMachine = some machine.name ∧
      reconcile r a req w = reconcileConfig r a w w.cluster machine config := by
  unfold reconcile
  split
  · exact .inl rfl
  split
  · exact .inl rfl
  rename_i config hfind
  split
  · exact .inl rfl
  · exact .inl rfl
  rename_i machine hm
  split
  · exact .inl rfl
  · exact .inl rfl
  rename_i cluster hcl
  rw [getClusterByName_eq hcl]
  exact .inr ⟨config, World.findConfig_mem hfind, machine, getOwnerMachine_name hm, rfl⟩

@[simp] theorem reconcile_cluster (req : Request) (w : World) :
    (reconcile r a req w).world.cluster = w.cluster := by
  rcases reconcile_cases (r := r) (a := a) req w with h | ⟨_, _, _, _, h⟩ <;> simp [h]

theorem reconcile_initDataLocked (req : Request) {w : World} (hi : InitDataLocked w)
    (hc : w.cluster.controlPlaneInitialized = false) :
    InitDataLocked (reconcile r a req w).world ∨
      FreedRetakenLock r.kubeadmInitLock w (reconcile r a req w).world := by
  rcases reconcile_cases (r := r) (a := a) req w with h | ⟨config, hmem, machine, hown, h⟩
  · rw [h]; exact .inl hi
  · rw [h]; exact reconcileConfig_initDataLocked hi hmem hown hc

end

/-! ## Runs -/

section
variable {r : KubeadmConfigReconciler}

theorem runReconciles_eq_cons (calls : List (Request × Answers)) (w : World) :
    ∃ l, runReconciles r calls w = w :: l := by
  cases calls with
  | nil => exact ⟨[], rfl⟩
  | cons call calls => exact ⟨_, rfl⟩

theorem runReconciles_initDataLocked {calls : List (Request × Answers)} {w : World}
    (hi : InitDataLocked w) (hc : w.cluster.controlPlaneInitialized = false)
    (hfree : (runReconciles r calls w).Chain' fun w w' => ¬ FreedRetakenLock r.kubeadmInitLock w w') :
    ∀ w' ∈ runReconciles r calls w, InitDataLocked w' := by
  induction calls generalizing w with
  | nil => simpa [runReconciles] using hi
  | cons call calls ih =>
    obtain ⟨req, a⟩ := call
    simp only [runReconciles] at hfree ⊢
    have hnext : InitDataLocked (reconcile r a req w).world := by
      rcases reconcile_initDataLocked req hi hc with h | h
      · exact h
      · obtain ⟨l, hl⟩ := runReconciles_eq_cons (r := r) calls (reconcile r a req w).world
        rw [hl] at hfree
        exact absurd h (List.chain'_cons.1 hfree).1
    intro w' hw'
    rcases List.mem_cons.1 hw' with h | h
    · rw [h]; exact hi
    · exact ih hnext (by rw [reconcile_cluster]; exact hc) hfree.tail w' h

/-- **With a lock that refuses its own holder, one Machine at most gets init data.** From a
world where init data is with the lock holder (no config has init data, say), every run of
`Reconcile` calls on an uninitialized cluster, under any answers of the collaborators, passes
only through worlds where at most one Machine's config has init data and is Ready. -/
theorem runReconciles_singleInitMachine (hL : ∀ m, r.kubeadmInitLock.lock (some m) m = false)
    {calls : List (Request × Answers)} {w : World} (hi : InitDataLocked w)
    (hc : w.cluster.controlPlaneInitialized = false) :
    ∀ w' ∈ runReconciles r calls w, SingleInitMachine w' := by
  have hnever : ∀ w w', ¬ FreedRetakenLock r.kubeadmInitLock w w' := by
    rintro w w' ⟨m, -, hl, -⟩
    rw [hL] at hl
    cases hl
  intro w' hw'
  exact singleInitMachine_of_initDataLocked
    (runReconciles_initDataLocked hi hc (List.pairwise_of_forall hnever).chain' w' hw')

end

/-! ## A lock granted only when it is free -/

def freeInitLocker : InitLocker :=
  ⟨fun holder _ => holder.isNone, by
    intro holder m h
    cases holder with
    | none => exact .inl rfl
    | some _ => cases h⟩

def controlPlaneAndWorker : World :=
  ⟨⟨"capi-quickstart", "default", ⟨"10.0.0.1", 6443⟩, none, true, false⟩,
    [⟨"cp-0", "default", [(clusterLabelName, "capi-quickstart"), (machineControlPlaneLabelName, "")],
        "capi-quickstart", ⟨none, none⟩, some "v1.17.3", false⟩,
      ⟨"md-0", "default", [(clusterLabelName, "capi-quickstart")], "capi-quickstart", ⟨none, none⟩,
        some "v1.17.3", false⟩],
    [⟨"cp-0-config", "default", some "cp-0", ⟨some defaultClusterConfiguration, none, none, []⟩,
        ⟨false, none⟩⟩,
      ⟨"md-0-config", "default", some "md-0", ⟨none, none, some .empty, []⟩, ⟨false, none⟩⟩],
    [], [], none⟩

theorem bootstrapData_controlPlaneAndWorker {c : KubeadmConfig}
    (hc : c ∈ controlPlaneAndWorker.configs) : c.status.bootstrapData = none := by
  simp only [controlPlaneAndWorker, List.mem_cons, List.mem_singleton, List.not_mem_nil,
    or_false] at hc
  rcases hc with rfl | rfl <;> rfl

theorem controlPlaneAndWorker_singleInitMachine :
    SingleInitMachine (reconcile ⟨freeInitLocker, 900⟩ succeedingAnswers ⟨"default", "md-0-config"⟩
      (reconcile ⟨freeInitLocker, 900⟩ succeedingAnswers ⟨"default", "cp-0-config"⟩
        controlPlaneAndWorker).world).world := by
  have hrun : _ ∈ runReconciles ⟨freeInitLocker, 900⟩
      [(⟨"default", "cp-0-config"⟩, succeedingAnswers),
        (⟨"default", "md-0-config"⟩, succeedingAnswers)] controlPlaneAndWorker :=
    List.mem_cons_of_mem _ (List.mem_cons_of_mem _ (List.mem_singleton_self _))
  refine runReconciles_singleInitMachine (r := ⟨freeInitLocker, 900⟩) (fun _ => rfl)
    (fun c hc hd => ?_) rfl _ hrun
  rw [KubeadmConfig.hasInitData, bootstrapData_controlPlaneAndWorker hc] at hd
  cases hd

/-! ## A lock that its holder can retake -/

/-- A mutex that grants the lock again to the Machine holding it. -/
def reentrantInitLocker : InitLocker :=
  ⟨fun holder m => holder.all (· == m), by
    intro holder m h
    cases holder with
    | none => exact .inl rfl
    | some x => exact .inr (by simpa using h)⟩

def controlPlaneMachine (name : String) : Machine :=
  ⟨name, "default", [(clusterLabelName, "capi-quickstart"), (machineControlPlaneLabelName, "")],
    "capi-quickstart", ⟨none, none⟩, some "v1.17.3", false⟩

def controlPlaneConfig (name machine : String) : KubeadmConfig :=
  ⟨name, "default", some machine, ⟨some defaultClusterConfiguration, none, none, []⟩,
    ⟨false, none⟩⟩

def twoControlPlanes : World :=
  ⟨⟨"capi-quickstart", "default", ⟨"10.0.0.1", 6443⟩, none, true, false⟩,
    [controlPlaneMachine "cp-0", controlPlaneMachine "cp-1"],
    [controlPlaneConfig "cp-0-config" "cp-0", controlPlaneConfig "cp-1-config" "cp-1"], [], [],
    none⟩

def allSucceed : Answers where
  getConfig := none
  getOwnerMachine := none
  getCluster := none
  remoteClient := none
  refreshToken := none
  newHelper := none
  patch := none
  marshalInit := none
  marshalCluster := none
  marshalJoin := none
  lookupOrGenerate := none
  lookup := none
  ensureAllExist := none
  getFileSource := fun _ => none
  cloudInit := none
  discovery := ⟨.ok ["sha256:0f1e2d"], none, .ok ⟨"abcdef", "0123456789abcdef"⟩⟩

/-- The `cp-0` config is reconciled and gets init data; it is reconciled again, while its
Machine is not up, and the certificates fail; then the `cp-1` config is reconciled. -/
def failedReReconcile : List (Request × Answers) :=
  [(⟨"default", "cp-0-config"⟩, allSucceed),
    (⟨"default", "cp-0-config"⟩,
      { allSucceed with lookupOrGenerate := some (.msg "etcdserver: request timed out") }),
    (⟨"default", "cp-1-config"⟩, allSucceed)]

/-- With the reentrant lock, the run ends with init data persisted and Ready on both
Machines' configs, on a cluster that stays uninitialized. -/
theorem failedReReconcile_two_init_machines :
    (runReconciles ⟨reentrantInitLocker, 900⟩ failedReReconcile twoControlPlanes).all
        (fun w => !w.cluster.controlPlaneInitialized) ∧
    ((runReconciles ⟨reentrantInitLocker, 900⟩ failedReReconcile twoControlPlanes).getLast?.map
        fun w => (w.configs.filter KubeadmConfig.initReady).map KubeadmConfig.ownerMachine) =
      some [some "cp-0", some "cp-1"] := by
  decide

end ClusterApi
