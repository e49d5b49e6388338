import ClusterApi.GoError
import ClusterApi.Schema
import ClusterApi.Version

/-!
# The operator's ConfigMap repository

When a provider's `FetchConfig` has a selector, the operator's `GenericProviderReconciler`
builds its components repository from the ConfigMaps the selector finds: each ConfigMap is a
version, named by the version, with its `metadata` and `components`. The repository is the
in-memory `MemoryRepository` of the operator's copy of clusterctl, whose `WithFile` records a
version and a file and whose default version is what `WithDefaultVersion` last set.

`configmapRepository` sets the default version once per ConfigMap, so the default is the
name of the last ConfigMap of the `List`. The code's comment expects the list in name order
to end with the highest version; in string order `v0.10.0` comes before `v0.9.0`.
-/

namespace ClusterApi

/-- `repository.MemoryRepository`; `versions` and `files` are Go maps, as lists without
repeated keys. -/
structure MemoryRepository where
  defaultVersion : String
  rootPath : String
  componentsPath : String
  versions : List String
  files : List (String × String)
  deriving DecidableEq, Repr

def newMemoryRepository : MemoryRepository := ⟨"", "", "", [], []⟩

def vpath (version path : String) : String := version ++ "/" ++ path

def mapSet (m : List (String × String)) (k v : String) : List (String × String) :=
  (k, v) :: m.filter (·.1 != k)

namespace MemoryRepository

def withFile (f : MemoryRepository) (version path content : String) : MemoryRepository :=
  { f with versions := f.versions.insert version, files := mapSet f.files (vpath version path) content }

def withPaths (f : MemoryRepository) (rootPath componentsPath : String) : MemoryRepository :=
  { f with rootPath := rootPath, componentsPath := componentsPath }

def withDefaultVersion (f : MemoryRepository) (version : String) : MemoryRepository :=
  { f with defaultVersion := version }

def getFile (f : MemoryRepository) (version path : String) : Except GoError String :=
  if version ∉ f.versions then .error (.msg ("unable to get files for version " ++ version))
  else match f.files.lookup (vpath version path) with
    | some c => .ok c
    | none => .error (.msg ("unable to get file " ++ path ++ " for version " ++ version))

end MemoryRepository

/-- What `configmapRepository` reads of the provider and the cluster: the error of
`metav1.LabelSelectorAsSelector` on the selector, if any, the selector's `String()`, and the
answer of the ConfigMap `List`. -/
structure ConfigMapSource where
  selectorErr : Option GoError
  selectorText : String
  list : Except GoError (List ConfigMap)

def addConfigMaps (mr : MemoryRepository) : List ConfigMap → Except GoError MemoryRepository
  | [] => .ok mr
  | cm :: rest =>
    match cm.data.lookup "metadata" with
    | none => .error (.msg ("ConfigMap " ++ cm.«namespace» ++ "/" ++ cm.name ++ " has no metadata"))
    | some metadata =>
      let mr := mr.withFile cm.name "metadata.yaml" metadata
      match cm.data.lookup "components" with
      | none =>
        .error (.msg ("ConfigMap " ++ cm.«namespace» ++ "/" ++ cm.name ++ " has no components"))
      | some components =>
        addConfigMaps (((mr.withFile cm.name "components.yaml" components).withPaths ""
          "components.yaml").withDefaultVersion cm.name) rest

def configmapRepository (src : ConfigMapSource) : Except GoError MemoryRepository :=
  match src.selectorErr with
  | some e => .error e
  | none =>
    match src.list with
    | .error e => .error e
    | .ok items =>
      if items.length = 0 then
        .error (.msg ("no ConfigMaps found with selector " ++ src.selectorText))
      else addConfigMaps newMemoryRepository items

/-! ## What the loop builds -/

@[simp] theorem lookup_mapSet (m : List (String × String)) (k v : String) :
    (mapSet m k v).lookup k = some v := by
  simp [mapSet, List.lookup_cons]

/-- Every ConfigMap must carry both keys: the loop fails exactly when one lacks one. -/
theorem addConfigMaps_isOk_iff (mr : MemoryRepository) (items : List ConfigMap) :
    (∃ mr', addConfigMaps mr items = .ok mr') ↔
      ∀ cm ∈ items, (cm.data.lookup "metadata").isSome ∧ (cm.data.lookup "components").isSome := by
  induction items generalizing mr with
  | nil => simp [addConfigMaps]
  | cons cm rest ih =>
    simp only [addConfigMaps, List.mem_cons, forall_eq_or_imp]
    cases cm.data.lookup "metadata" with
    | none => simp
    | some metadata =>
      cases cm.data.lookup "components" with
      | none => simp
      | some components => simp [ih]

theorem addConfigMaps_default {mr mr' : MemoryRepository} {items : List ConfigMap}
    (h : addConfigMaps mr items = .ok mr') (hne : items ≠ []) :
    mr'.defaultVersion = (items.getLast hne).name ∧
    mr'.getFile mr'.defaultVersion "components.yaml" =
      .ok (((items.getLast hne).data.lookup "components").getD "") := by
  induction items generalizing mr with
  | nil => exact absurd rfl hne
  | cons cm rest ih =>
    simp only [addConfigMaps] at h
    split at h
    · cases h
    split at h
    · cases h
    rename_i components hc
    cases rest with
    | nil =>
      cases h
      simp [MemoryRepository.getFile, MemoryRepository.withDefaultVersion,
        MemoryRepository.withPaths, MemoryRepository.withFile, lookup_mapSet, hc]
    | cons cm' rest' => simpa using ih h (List.cons_ne_nil _ _)

theorem configmapRepository_defaultVersion {src : ConfigMapSource} {mr : MemoryRepository}
    (h : configmapRepository src = .ok mr) :
    ∃ items, ∃ hne : items ≠ [], src.list = .ok items ∧
      mr.defaultVersion = (items.getLast hne).name ∧
      mr.getFile mr.defaultVersion "components.yaml" =
        .ok (((items.getLast hne).data.lookup "components").getD "") := by
  unfold configmapRepository at h
  split at h
  · cases h
  split at h
  · cases h
  rename_i items hl
  split at h
  · cases h
  rename_i hlen
  have hne : items ≠ [] := fun he => hlen (by simp [he])
  exact ⟨items, hne, hl, addConfigMaps_default h hne⟩

/-! ## The components the operator installs -/

/-- The components file `GenericProviderReconciler.reconcile` reads from the repository: that
of `Spec.Version` when it is set, otherwise that of the repository's default version. -/
def readComponents (repo : MemoryRepository) (specVersion : Option String)
    (manifestLabel : String) : Except GoError String :=
  match repo.getFile (specVersion.getD repo.defaultVersion) repo.componentsPath with
  | .ok c => .ok c
  | .error e =>
    .error (.wrap ("failed to read \"" ++ repo.componentsPath ++ "\" from provider's repository \"" ++
      manifestLabel ++ "\"") e)

theorem addConfigMaps_componentsPath {mr mr' : MemoryRepository} {items : List ConfigMap}
    (h : addConfigMaps mr items = .ok mr') (hne : items ≠ []) :
    mr'.componentsPath = "components.yaml" := by
  induction items generalizing mr with
  | nil => exact absurd rfl hne
  | cons cm rest ih =>
    simp only [addConfigMaps] at h
    split at h
    · cases h
    split at h
    · cases h
    cases rest with
    | nil => cases h; rfl
    | cons cm' rest' => exact ih h (List.cons_ne_nil _ _)

/-- **Without `Spec.Version`, the operator installs the last ConfigMap listed.** From a
repository `configmapRepository` builds, `reconcile` reads the components of the last
ConfigMap of the `List`. -/
theorem configmapRepository_readComponents {src : ConfigMapSource} {mr : MemoryRepository}
    (h : configmapRepository src = .ok mr) (manifestLabel : String) :
    ∃ items, ∃ hne : items ≠ [], src.list = .ok items ∧
      readComponents mr none manifestLabel =
        .ok (((items.getLast hne).data.lookup "components").getD "") := by
  obtain ⟨items, hne, hl, -, hget⟩ := configmapRepository_defaultVersion h
  refine ⟨items, hne, hl, ?_⟩
  have hpath : mr.componentsPath = "components.yaml" := by
    unfold configmapRepository at h
    simp only [hl] at h
    split at h
    · cases h
    split at h
    · cases h
    exact addConfigMaps_componentsPath h hne
  simp only [readComponents, Option.getD_none, hpath, hget]

def patchReleasesSource : ConfigMapSource :=
  ⟨none, "cluster.x-k8s.io/provider=cluster-api",
    .ok [⟨"v0.3.9", "capi-operator-system", [("metadata", "kind: Metadata"),
        ("components", "# cluster-api components v0.3.9")]⟩,
      ⟨"v0.3.10", "capi-operator-system", [("metadata", "kind: Metadata"),
        ("components", "# cluster-api components v0.3.10")]⟩]⟩

theorem patchReleasesSource_installs_last :
    ∃ mr, configmapRepository patchReleasesSource = .ok mr ∧
      ∃ items, ∃ hne : items ≠ [], patchReleasesSource.list = .ok items ∧
        readComponents mr none "cluster-api" =
          .ok (((items.getLast hne).data.lookup "components").getD "") :=
  have ⟨mr, h⟩ : ∃ mr, configmapRepository patchReleasesSource = .ok mr := ⟨_, rfl⟩
  ⟨mr, h, configmapRepository_readComponents h "cluster-api"⟩

/-! ## Two releases across a digit boundary -/

def releaseConfigMap (version : String) : ConfigMap :=
  ⟨version, "capi-operator-system",
    [("metadata", "apiVersion: clusterctl.cluster.x-k8s.io/v1alpha3\nkind: Metadata"),
      ("components", "# cluster-api components " ++ version)]⟩

def digitBoundarySource : ConfigMapSource :=
  ⟨none, "cluster.x-k8s.io/provider=cluster-api",
    .ok [releaseConfigMap "v0.10.0", releaseConfigMap "v0.9.0"]⟩

/-- With `v0.10.0` and `v0.9.0` listed in name order, the default version is `v0.9.0`, the
lower of the two. -/
theorem configmapRepository_defaults_to_lower_version :
    (releaseConfigMap "v0.10.0").name.toList < (releaseConfigMap "v0.9.0").name.toList ∧
    (configmapRepository digitBoundarySource).map MemoryRepository.defaultVersion =
      .ok "v0.9.0" ∧
    parseSemantic "v0.9.0" = some ⟨0, 9, 0, ""⟩ ∧ parseSemantic "v0.10.0" = some ⟨0, 10, 0, ""⟩ ∧
    SemVer.lessThan ⟨0, 9, 0, ""⟩ ⟨0, 10, 0, ""⟩ = true :=
  ⟨by decide, rfl, by decide, by decide, by decide⟩

end ClusterApi
