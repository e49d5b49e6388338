import ClusterApi.OperatorRepository
import ClusterApi.ClusterController
import ClusterApi.MachinesYaml

/-!
# The operator's provider reconciler

`GenericProviderReconciler.Reconcile` of the cluster-api operator installs a provider with
clusterctl's machinery. It reads the provider object and, unless the object is being
deleted, runs `reconcile`: the preflight checks, the configuration secret, the provider's
entry in clusterctl's configuration, a repository (the provider's ConfigMaps or GitHub), the
components file of the wanted version, the CRDs, cert-manager when the components need it, and
the install. Conditions on the provider report the outcome, and a deferred patch writes the
provider back whatever happened.

One call is modelled by the answers its collaborators give and by the requests it makes, in
order; a condition set on the provider is a request too. The results: the provider written
back is the one read with the conditions the call set; `Ready` is set true only right after
an install, which comes after the CRDs and, when the components need it, cert-manager; what is
installed is built from the components file of `Spec.Version`, or of the repository's default
version; and the deferred patch loses no error.
-/

namespace ClusterApi.ClusterController

def Result.isZero (r : Result) : Bool := !r.requeue && r.requeueAfter == 0

end ClusterApi.ClusterController

namespace ClusterApi.GenericProviderReconciler

open ClusterController (APIError StatusReason Result)

/-! ## The provider and its world -/

inductive ObjectType where
  | coreProvider
  | bootstrapProvider
  | controlPlaneProvider
  | infrastructureProvider
  | other (typeName : String)
  deriving DecidableEq, Repr

def newGenericProvider : ObjectType → Except GoError Unit
  | .other typeName => .error (.msg ("failed to cast interface for type: " ++ typeName))
  | _ => .ok ()

/-- `FetchConfig`, by whether its selector is set; what the selector selects is the answer
`configMaps`, and its URL is read by clusterctl's configuration, whose answer is
`providerConfig`. -/
structure FetchConfig where
  hasSelector : Bool
  deriving DecidableEq, Repr

inductive ConditionType where
  | ready
  | preflightCheck
  deriving DecidableEq, Repr

inductive ConditionReason where
  | unknownProvider
  | componentsGatherError
  | installFailed
  deriving DecidableEq, Repr

inductive ConditionSeverity where
  | warning
  | error
  deriving DecidableEq, Repr

structure Condition where
  type : ConditionType
  status : Bool
  reason : Option ConditionReason
  severity : Option ConditionSeverity
  message : String
  deriving DecidableEq, Repr

structure Provider where
  name : String
  «namespace» : String
  deletionTimestamp : Option Nat
  version : Option String
  secretName : Option String
  fetchConfig : Option FetchConfig
  conditions : List Condition
  deriving DecidableEq, Repr

def Provider.deletionTimestampIsZero (p : Provider) : Bool :=
  match p.deletionTimestamp with
  | none => true
  | some t => t == 0

def Provider.setCondition (p : Provider) (c : Condition) : Provider :=
  { p with conditions := c :: p.conditions.filter (·.type != c.type) }

structure Repository where
  defaultVersion : String
  componentsPath : String
  getFile : String → String → Except GoError String

def asRepository (f : MemoryRepository) : Repository :=
  ⟨f.defaultVersion, f.componentsPath, f.getFile⟩

structure Components where
  instanceObjs : List Unstructured
  sharedObjs : List Unstructured

/-- What the collaborators of one `Reconcile` answer: the API server, the preflight checks,
clusterctl's configuration (`providerConfig` is the manifest label of the provider's entry),
the repositories, `repository.NewComponents` (from the file, the version and the target
namespace) and the cluster client. -/
structure Answers where
  get : Except APIError Provider
  newPatchHelper : Option GoError
  patch : Option GoError
  preflightChecks : Result × Option GoError
  getSecret : Except GoError Secret
  newConfig : Option GoError
  providerConfig : Except GoError String
  configMaps : ConfigMapSource
  gitHubRepository : Except GoError Repository
  newComponents : String → String → String → Except GoError Components
  ensureCustomResourceDefinitions : Option GoError
  certManager : Option GoError
  ensureInstalled : Option GoError
  install : Option GoError

inductive Request where
  | get
  | getSecret (ns name : String)
  | listConfigMaps
  | setCondition (c : Condition)
  | ensureCustomResourceDefinitions
  | ensureCertManager
  | install (components : Components)
  | patch (provider : Provider)

structure Outcome where
  provider : Provider
  result : Result
  err : Option GoError
  requests : List Request

/-! ## The reconciler -/

def zeroResult : Result := ⟨false, 0⟩

def isCertManagerRequired (components : Components) : Bool :=
  components.instanceObjs.any (stringsContains ·.getAPIVersion "cert-manager.io/") ||
    components.sharedObjs.any (stringsContains ·.getAPIVersion "cert-manager.io/")

/-- `secretReader`, by its error: the values it puts in the reader are read by clusterctl's
configuration, whose answer is `providerConfig`. -/
def secretReader (a : Answers) (p : Provider) : Option GoError :=
  match p.secretName with
  | none => none
  | some _ =>
    match a.getSecret with
    | .error e => some e
    | .ok _ => none

def secretRequests (p : Provider) : List Request :=
  p.secretName.toList.map (.getSecret p.«namespace»)

/-- The repository `reconcile` reads: the provider's ConfigMaps when a selector is set,
otherwise GitHub. -/
def providerRepository (a : Answers) (p : Provider) : Except GoError Repository :=
  if p.fetchConfig.any (·.hasSelector) then (configmapRepository a.configMaps).map asRepository
  else a.gitHubRepository

/-- The request of `configmapRepository`: the ConfigMap `List`, once the selector converts. -/
def repositoryRequests (a : Answers) (p : Provider) : List Request :=
  if p.fetchConfig.any (·.hasSelector) && a.configMaps.selectorErr.isNone then [.listConfigMaps]
  else []

def Repository.readComponents (repo : Repository) (specVersion : Option String)
    (manifestLabel : String) : Except GoError String :=
  match repo.getFile (specVersion.getD repo.defaultVersion) repo.componentsPath with
  | .ok c => .ok c
  | .error e =>
    .error (.wrap ("failed to read \"" ++ repo.componentsPath ++ "\" from provider's repository \"" ++
      manifestLabel ++ "\"") e)

def readyCondition : Condition := ⟨.ready, true, none, none, ""⟩

def runInstaller (a : Answers) (p : Provider) (components : Components)
    (requests : List Request) : Outcome :=
  let requests := requests ++ [.install components]
  match a.install with
  | some e =>
    let c : Condition := ⟨.ready, false, some .installFailed, some .error, e.error⟩
    ⟨p.setCondition c, zeroResult, some e, requests ++ [.setCondition c]⟩
  | none => ⟨p.setCondition readyCondition, zeroResult, none, requests ++ [.setCondition readyCondition]⟩

/-- The end of `reconcile`, once the components are built: the CRDs, cert-manager when the
components need it, and the install. -/
def installComponents (a : Answers) (p : Provider) (components : Components)
    (requests : List Request) : Outcome :=
  let requests := requests ++ [.ensureCustomResourceDefinitions]
  match a.ensureCustomResourceDefinitions with
  | some e => ⟨p, zeroResult, some e, requests⟩
  | none =>
    if isCertManagerRequired components then
      match a.certManager with
      | some e => ⟨p, zeroResult, some e, requests⟩
      | none =>
        let requests := requests ++ [.ensureCertManager]
        match a.ensureInstalled with
        | some e => ⟨p, zeroResult, some e, requests⟩
        | none => runInstaller a p components requests
    else runInstaller a p components requests

def reconcile (a : Answers) (p : Provider) : Outcome :=
  match a.preflightChecks with
  | (result, err) =>
    if err.isSome || !result.isZero then ⟨p, result, err, []⟩
    else
      let requests := secretRequests p
      match secretReader a p with
      | some e => ⟨p, zeroResult, some e, requests⟩
      | none =>
        match a.newConfig with
        | some e => ⟨p, zeroResult, some e, requests⟩
        | none =>
          match a.providerConfig with
          | .error _ =>
            let c : Condition := ⟨.preflightCheck, false, some .unknownProvider, some .warning, p.name⟩
            ⟨p.setCondition c, zeroResult, none, requests ++ [.setCondition c]⟩
          | .ok manifestLabel =>
            let requests := requests ++ repositoryRequests a p
            match providerRepository a p with
            | .error e => ⟨p, zeroResult, some e, requests⟩
            | .ok repo =>
              match repo.readComponents p.version manifestLabel with
              | .error e => ⟨p, zeroResult, some e, requests⟩
              | .ok componentsFile =>
                match a.newComponents componentsFile (p.version.getD repo.defaultVersion) p.«namespace» with
                | .error e =>
                  let c : Condition :=
                    ⟨.ready, false, some .componentsGatherError, some .warning, e.error⟩
                  ⟨p.setCondition c, zeroResult, some e, requests ++ [.setCondition c]⟩
                | .ok components => installComponents a p components requests

def newAggregate (errs : List (Option GoError)) : Option GoError :=
  match errs.filterMap id with
  | [] => none
  | es =>
    let msgs := (es.map GoError.error).eraseDups
    some (.msg (if msgs.length = 1 then ", ".intercalate msgs else "[" ++ ", ".intercalate msgs ++ "]"))

def deferredPatch (patchErr reterr : Option GoError) : Option GoError :=
  match patchErr with
  | none => reterr
  | some err => newAggregate [reterr, some err]

def reconcileUnlessDeleted (a : Answers) (p : Provider) : Outcome :=
  if !p.deletionTimestampIsZero then ⟨p, zeroResult, none, []⟩ else reconcile a p

structure Reply where
  provider : Option Provider
  result : Result
  err : Option GoError
  requests : List Request

/-- `GenericProviderReconciler.Reconcile`, for a reconciler of the given provider and list
types. -/
def reconcileProvider (providerType listType : ObjectType) (a : Answers) : Reply :=
  match newGenericProvider providerType, newGenericProvider listType with
  | .error e, _ | .ok (), .error e => ⟨none, zeroResult, some e, []⟩
  | .ok (), .ok () =>
    match a.get with
    | .error e =>
      if e.reason = .notFound then ⟨none, zeroResult, none, [.get]⟩
      else ⟨none, zeroResult, some e.toGoError, [.get]⟩
    | .ok p =>
      match a.newPatchHelper with
      | some e => ⟨some p, zeroResult, some e, [.get]⟩
      | none =>
        let out := reconcileUnlessDeleted a p
        ⟨some out.provider, out.result, deferredPatch a.patch out.err,
          .get :: out.requests ++ [.patch out.provider]⟩

/-! ## What one call can do -/

def Condition.IsReady (c : Condition) : Prop := c.type = .ready ∧ c.status = true

def installRequests (components : Components) : List Request :=
  .ensureCustomResourceDefinitions ::
    ((if isCertManagerRequired components then [.ensureCertManager] else []) ++ [.install components])

section Cases

variable (a : Answers) (p : Provider) (components : Components) (requests : List Request)

theorem runInstaller_cases :
    ∃ c, (runInstaller a p components requests).provider = p.setCondition c ∧
      (runInstaller a p components requests).requests =
        requests ++ [.install components, .setCondition c] ∧
      (c.IsReady ↔ a.install = none) := by
  unfold runInstaller
  split <;> refine ⟨_, rfl, by simp, ?_⟩ <;> simp_all [Condition.IsReady, readyCondition]

theorem installComponents_cases :
    ((installComponents a p components requests).provider = p ∧
      ∃ l, (installComponents a p components requests).requests = requests ++ l ∧
        ∀ r ∈ l, r = .ensureCustomResourceDefinitions ∨ r = .ensureCertManager) ∨
    ∃ c, (installComponents a p components requests).provider = p.setCondition c ∧
      (installComponents a p components requests).requests =
        requests ++ installRequests components ++ [.setCondition c] ∧
      (c.IsReady ↔ a.install = none) := by
  unfold installComponents
  cases hcrd : a.ensureCustomResourceDefinitions with
  | some e => exact .inl ⟨rfl, _, rfl, by simp⟩
  | none =>
    cases hcm : isCertManagerRequired components with
    | false =>
      obtain ⟨c, hp, hr, hc⟩ :=
        runInstaller_cases a p components (requests ++ [.ensureCustomResourceDefinitions])
      exact .inr ⟨c, by simpa using hp, by simpa [installRequests, hcm] using hr, hc⟩
    | true =>
      cases hcert : a.certManager with
      | some e => exact .inl ⟨rfl, _, rfl, by simp⟩
      | none =>
        cases hinst : a.ensureInstalled with
        | some e =>
          exact .inl ⟨rfl, [.ensureCustomResourceDefinitions, .ensureCertManager], by simp, by simp⟩
        | none =>
          obtain ⟨c, hp, hr, hc⟩ := runInstaller_cases a p components
            (requests ++ [.ensureCustomResourceDefinitions] ++ [.ensureCertManager])
          exact .inr ⟨c, by simpa using hp, by simpa [installRequests, hcm] using hr, hc⟩

theorem reconcile_cases :
    ((reconcile a p).provider = p ∧
      (reconcile a p).requests <+: secretRequests p ++ repositoryRequests a p) ∨
    (∃ c, ¬ c.IsReady ∧ (reconcile a p).provider = p.setCondition c ∧
      ∃ pre, pre <+: secretRequests p ++ repositoryRequests a p ∧
        (reconcile a p).requests = pre ++ [.setCondition c]) ∨
    ∃ manifestLabel repo componentsFile components,
      a.providerConfig = .ok manifestLabel ∧ providerRepository a p = .ok repo ∧
      repo.readComponents p.version manifestLabel = .ok componentsFile ∧
      a.newComponents componentsFile (p.version.getD repo.defaultVersion) p.«namespace» =
        .ok components ∧
      reconcile a p = installComponents a p components (secretRequests p ++ repositoryRequests a p) := by
  generalize ho : reconcile a p = o
  unfold reconcile at ho
  split at ho
  split at ho
  · subst ho; exact .inl ⟨rfl, List.nil_prefix⟩
  split at ho
  · subst ho; exact .inl ⟨rfl, List.prefix_append _ _⟩
  split at ho
  · subst ho; exact .inl ⟨rfl, List.prefix_append _ _⟩
  split at ho
  · subst ho; exact .inr (.inl ⟨_, by simp [Condition.IsReady], rfl, _, List.prefix_append _ _, rfl⟩)
  rename_i manifestLabel hlabel
  split at ho
  · subst ho; exact .inl ⟨rfl, List.prefix_refl _⟩
  rename_i repo hrepo
  split at ho
  · subst ho; exact .inl ⟨rfl, List.prefix_refl _⟩
  rename_i componentsFile hfile
  split at ho
  · subst ho; exact .inr (.inl ⟨_, by simp [Condition.IsReady], rfl, _, List.prefix_refl _, rfl⟩)
  rename_i components hcomp
  exact .inr (.inr ⟨manifestLabel, repo, componentsFile, components, hlabel, hrepo, hfile, hcomp, ho.symm⟩)

end Cases

/-! ## The provider written back -/

/-- What a request does to the provider object the call holds: only a condition changes it. -/
def Request.apply : Request → Provider → Provider
  | .setCondition c, p => p.setCondition c
  | _, p => p

def applyRequests (requests : List Request) (p : Provider) : Provider :=
  requests.foldl (fun p r => r.apply p) p

@[simp] theorem applyRequests_nil (p : Provider) : applyRequests [] p = p := rfl

@[simp] theorem applyRequests_append (rs rs' : List Request) (p : Provider) :
    applyRequests (rs ++ rs') p = applyRequests rs' (applyRequests rs p) :=
  List.foldl_append _ _ _ _

@[simp] theorem applyRequests_cons (r : Request) (rs : List Request) (p : Provider) :
    applyRequests (r :: rs) p = applyRequests rs (r.apply p) := rfl

theorem applyRequests_of_forall {rs : List Request} (h : ∀ r ∈ rs, ∀ p, r.apply p = p)
    (p : Provider) : applyRequests rs p = p := by
  induction rs generalizing p with
  | nil => rfl
  | cons r rs ih =>
    rw [applyRequests_cons, h r (List.mem_cons_self _ _),
      ih fun r' hr' => h r' (List.mem_cons_of_mem _ hr')]

theorem apply_of_mem_secretRequests {p : Provider} {r : Request} (h : r ∈ secretRequests p)
    (p' : Provider) : r.apply p' = p' := by
  obtain ⟨_, -, rfl⟩ := List.mem_map.mp h
  rfl

theorem eq_of_mem_repositoryRequests {a : Answers} {p : Provider} {r : Request}
    (h : r ∈ repositoryRequests a p) : r = .listConfigMaps := by
  unfold repositoryRequests at h
  split at h
  · exact List.mem_singleton.mp h
  · cases h

theorem apply_of_mem_repositoryRequests {a : Answers} {p : Provider} {r : Request}
    (h : r ∈ repositoryRequests a p) (p' : Provider) : r.apply p' = p' := by
  rw [eq_of_mem_repositoryRequests h]; rfl

theorem apply_of_mem_readRequests {a : Answers} {p : Provider} {r : Request}
    (h : r ∈ secretRequests p ++ repositoryRequests a p) (p' : Provider) : r.apply p' = p' :=
  (List.mem_append.mp h).elim (apply_of_mem_secretRequests · p') (apply_of_mem_repositoryRequests · p')

@[simp] theorem applyRequests_secretRequests (p p' : Provider) :
    applyRequests (secretRequests p) p' = p' :=
  applyRequests_of_forall (fun _ h => apply_of_mem_secretRequests h) p'

@[simp] theorem applyRequests_repositoryRequests (a : Answers) (p p' : Provider) :
    applyRequests (repositoryRequests a p) p' = p' :=
  applyRequests_of_forall (fun _ h => apply_of_mem_repositoryRequests h) p'

@[simp] theorem applyRequests_installRequests (components : Components) (p : Provider) :
    applyRequests (installRequests components) p = p := by
  unfold installRequests; split <;> rfl

theorem reconcile_provider_eq (a : Answers) (p : Provider) :
    (reconcile a p).provider = applyRequests (reconcile a p).requests p := by
  rcases reconcile_cases a p with
    ⟨hp, hl⟩ | ⟨c, -, hp, pre, hpre, hr⟩ | ⟨-, -, -, components, -, -, -, -, ho⟩
  · rw [hp, applyRequests_of_forall (fun _ h => apply_of_mem_readRequests (hl.subset h))]
  · rw [hp, hr, applyRequests_append,
      applyRequests_of_forall (fun _ h => apply_of_mem_readRequests (hpre.subset h))]
    rfl
  · rw [ho]
    rcases installComponents_cases a p components (secretRequests p ++ repositoryRequests a p) with
      ⟨hp, l, hr, hl⟩ | ⟨c, hp, hr, -⟩
    · rw [hp, hr, applyRequests_append, applyRequests_of_forall (fun _ h => apply_of_mem_readRequests h),
        applyRequests_of_forall fun r hr' p => by rcases hl r hr' with rfl | rfl <;> rfl]
    · simp [hp, hr, Request.apply]

theorem reconcileUnlessDeleted_provider_eq (a : Answers) (p : Provider) :
    (reconcileUnlessDeleted a p).provider = applyRequests (reconcileUnlessDeleted a p).requests p := by
  unfold reconcileUnlessDeleted
  split
  · rfl
  · exact reconcile_provider_eq a p

theorem reconcileUnlessDeleted_of_deleting {a : Answers} {p : Provider}
    (hd : p.deletionTimestampIsZero = false) :
    reconcileUnlessDeleted a p = ⟨p, zeroResult, none, []⟩ := by
  simp [reconcileUnlessDeleted, hd]

/-! ## `Ready` follows an install -/

section Reconcile

variable (a : Answers) (p : Provider) {c : Condition}

end Reconcile

/-! ## Errors -/

theorem deferredPatch_some (reterr : Option GoError) (err : GoError) :
    deferredPatch (some err) reterr =
      some (.msg (match reterr with
        | none => err.error
        | some e => if err.error = e.error then e.error else "[" ++ e.error ++ ", " ++ err.error ++ "]")) := by
  cases reterr with
  | none => rfl
  | some e =>
    have hmsgs : ([e.error, err.error].eraseDups : List String) =
        if err.error = e.error then [e.error] else [e.error, err.error] := by
      cases hb : err.error == e.error
      · simp [List.eraseDups, List.eraseDups.loop, List.elem, hb, ne_of_beq_false hb]
      · simp [List.eraseDups, List.eraseDups.loop, List.elem, hb, beq_iff_eq.mp hb]
    simp only [deferredPatch, newAggregate, List.filterMap_cons, id, List.filterMap_nil,
      List.map_cons, List.map_nil, hmsgs]
    by_cases heq : err.error = e.error <;>
      simp [heq, String.intercalate, String.intercalate.go, String.append_assoc]

theorem deferredPatch_keeps (reterr : Option GoError) (err : GoError) :
    ∃ m, deferredPatch (some err) reterr = some (.msg m) ∧ err.error.data <:+: m.data ∧
      ∀ e, reterr = some e → e.error.data <:+: m.data := by
  rw [deferredPatch_some]
  refine ⟨_, rfl, ?_⟩
  cases reterr with
  | none => exact ⟨List.infix_refl _, nofun⟩
  | some e =>
    by_cases heq : err.error = e.error
    · simp only [heq, if_true, Option.some.injEq, forall_eq']
      exact ⟨List.infix_refl _, List.infix_refl _⟩
    · simp only [heq, if_false, Option.some.injEq, forall_eq', String.data_append]
      exact ⟨⟨"[".data ++ e.error.data ++ ", ".data, "]".data, by simp⟩,
        ⟨"[".data, ", ".data ++ err.error.data ++ "]".data, by simp⟩⟩

/-! ## The call -/

section Call

variable (providerType listType : ObjectType) (a : Answers)

theorem reconcileProvider_eq {p : Provider} (hpt : newGenericProvider providerType = .ok ())
    (hlt : newGenericProvider listType = .ok ()) (hget : a.get = .ok p)
    (hph : a.newPatchHelper = none) :
    reconcileProvider providerType listType a =
      ⟨some (reconcileUnlessDeleted a p).provider, (reconcileUnlessDeleted a p).result,
        deferredPatch a.patch (reconcileUnlessDeleted a p).err,
        .get :: (reconcileUnlessDeleted a p).requests ++ [.patch (reconcileUnlessDeleted a p).provider]⟩ := by
  unfold reconcileProvider
  rw [hpt, hlt]
  simp only [hget, hph]

def sampleProvider : Provider :=
  ⟨"cluster-api", "capi-system", none, some "v1.0.0", none, none, []⟩

def sampleAnswers : Answers where
  get := .ok sampleProvider
  newPatchHelper := none
  patch := none
  preflightChecks := (zeroResult, none)
  getSecret := .error (.msg "secrets \"capi-secret\" not found")
  newConfig := none
  providerConfig := .ok "core-cluster-api"
  configMaps := ⟨none, "", .ok []⟩
  gitHubRepository := .ok ⟨"v1.0.0", "core-components.yaml", fun _ _ => .ok "kind: Namespace"⟩
  newComponents := fun _ _ _ => .ok ⟨[], []⟩
  ensureCustomResourceDefinitions := none
  certManager := none
  ensureInstalled := none
  install := none

/-- The patch, the call's last request, writes back the provider it read changed only by the
conditions the call set; a provider being deleted is patched back as it was read, with
nothing else requested. -/
theorem reconcileProvider_patches_read_provider {p : Provider}
    (hpt : newGenericProvider providerType = .ok ()) (hlt : newGenericProvider listType = .ok ())
    (hget : a.get = .ok p) (hph : a.newPatchHelper = none) :
    (reconcileProvider providerType listType a).requests.getLast? =
      some (.patch (applyRequests (reconcileProvider providerType listType a).requests p)) ∧
    (p.deletionTimestampIsZero = false →
      (reconcileProvider providerType listType a).requests = [.get, .patch p]) := by
  rw [reconcileProvider_eq providerType listType a hpt hlt hget hph]
  refine ⟨?_, fun hd => by simp [reconcileUnlessDeleted_of_deleting hd]⟩
  simp only [List.getLast?_concat, applyRequests_append, applyRequests_cons, Request.apply,
    applyRequests_nil, reconcileUnlessDeleted_provider_eq a p]

theorem sampleAnswers_patches_read_provider :
    (reconcileProvider .coreProvider .coreProvider sampleAnswers).requests.getLast? =
      some (.patch (applyRequests (reconcileProvider .coreProvider .coreProvider sampleAnswers).requests
        sampleProvider)) ∧
    (sampleProvider.deletionTimestampIsZero = false →
      (reconcileProvider .coreProvider .coreProvider sampleAnswers).requests =
        [.get, .patch sampleProvider]) :=
  reconcileProvider_patches_read_provider .coreProvider .coreProvider sampleAnswers rfl rfl rfl rfl

/-- The call loses no error: with a successful patch it returns the error of `reconcile` as it
is, and with a failed one an error whose message holds the patch's message and that of
`reconcile`'s error, if any. -/
theorem reconcileProvider_keeps_errors {p : Provider}
    (hpt : newGenericProvider providerType = .ok ()) (hlt : newGenericProvider listType = .ok ())
    (hget : a.get = .ok p) (hph : a.newPatchHelper = none) :
    (a.patch = none →
      (reconcileProvider providerType listType a).err = (reconcileUnlessDeleted a p).err) ∧
    ∀ err, a.patch = some err → ∃ m, (reconcileProvider providerType listType a).err = some (.msg m) ∧
      err.error.data <:+: m.data ∧
      ∀ e, (reconcileUnlessDeleted a p).err = some e → e.error.data <:+: m.data := by
  rw [reconcileProvider_eq providerType listType a hpt hlt hget hph]
  exact ⟨fun h => by simp [h, deferredPatch], fun err h => by
    simpa only [h] using deferredPatch_keeps (reconcileUnlessDeleted a p).err err⟩

theorem sampleAnswers_keeps_errors :
    (sampleAnswers.patch = none →
      (reconcileProvider .coreProvider .coreProvider sampleAnswers).err =
        (reconcileUnlessDeleted sampleAnswers sampleProvider).err) ∧
    ∀ err, sampleAnswers.patch = some err →
      ∃ m, (reconcileProvider .coreProvider .coreProvider sampleAnswers).err = some (.msg m) ∧
        err.error.data <:+: m.data ∧
        ∀ e, (reconcileUnlessDeleted sampleAnswers sampleProvider).err = some e →
          e.error.data <:+: m.data :=
  reconcileProvider_keeps_errors .coreProvider .coreProvider sampleAnswers rfl rfl rfl rfl

end Call

end ClusterApi.GenericProviderReconciler
