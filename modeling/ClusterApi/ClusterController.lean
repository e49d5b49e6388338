import ClusterApi.GoError
import ClusterApi.Schema

/-!
# The v1alpha1 cluster controller

`ReconcileCluster.Reconcile` of `pkg/controller/cluster`: a Cluster that is not being deleted
gets its finalizers and is handed to `actuator.Reconcile`; a Cluster being deleted has its
children (MachineDeployments, MachineSets and Machines that name it as owner) deleted first,
then `actuator.Delete`, and last its `ClusterFinalizer` removed under `RetryOnConflict`.

One call is modelled by the answers the API server and the actuator give to each request it
makes, and by the requests it makes: updates of the Cluster, with whether the server accepted
them, deletes of children, and the actuator's calls. Every answer is free, so the theorems
hold for every Cluster, every listing and every pattern of errors and conflicts.
-/

namespace ClusterApi.ClusterController

def clusterFinalizer : String := "cluster.cluster.k8s.io"

def finalizerDeleteDependents : String := "foregroundDeletion"

def defaultRetrySteps : Nat := 5

namespace Util

def contains (list : List String) (strToSearch : String) : Bool :=
  list.any (· == strToSearch)

def filter (list : List String) (strToFilter : String) : List String :=
  list.filter (· != strToFilter)

@[simp] theorem contains_iff (list : List String) (s : String) :
    contains list s = true ↔ s ∈ list := by
  simp [contains]

end Util

/-- The fields of a v1alpha1 Cluster the controller reads. A time is Go's count of seconds
since January 1 of year 1, so that `0` is the zero `time.Time`. -/
structure Cluster where
  name : String
  «namespace» : String
  uid : String
  deletionTimestamp : Option Nat
  finalizers : List String
  deriving DecidableEq, Repr

def Cluster.deletionTimestampIsZero (c : Cluster) : Bool :=
  match c.deletionTimestamp with
  | none => true
  | some t => t == 0

structure ChildObject where
  apiVersion : String
  kind : String
  name : String
  ownerUIDs : List String
  deletionTimestamp : Option Nat
  deriving DecidableEq, Repr

def gvkString (gvk : GroupVersionKind) : String :=
  gvk.group ++ "/" ++ gvk.version ++ ", Kind=" ++ gvk.kind

inductive StatusReason where
  | notFound
  | conflict
  | other
  deriving DecidableEq, Repr

structure APIError where
  reason : StatusReason
  message : String
  deriving DecidableEq, Repr

def APIError.toGoError (e : APIError) : GoError := .msg e.message

/-- What `pager.List` returns for one kind: the typed list when the server answered in one
page, a `*metainternalversion.List` when it took several. -/
inductive PagedList where
  | onePage (items : List ChildObject)
  | pages (items : List ChildObject)
  deriving DecidableEq, Repr

/-- What the API server and the actuator answer to the requests of one `Reconcile`. The
requests of the deletion loop and of `RetryOnConflict` are indexed by their position. -/
structure Answers where
  get : Except APIError Cluster
  update : Option APIError
  deployments : Except GoError PagedList
  machineSets : Except GoError PagedList
  machines : Except GoError PagedList
  deleteChild : Nat → Option GoError
  actuatorDelete : Option GoError
  retryGet : Nat → Except APIError Cluster
  retryUpdate : Nat → Option APIError
  actuatorReconcile : Option GoError

structure Result where
  requeue : Bool
  requeueAfter : Nat
  deriving DecidableEq, Repr

inductive Call where
  | update (cluster : Cluster) (accepted : Bool)
  | deleteChild (child : ChildObject)
  | actuatorDelete
  | actuatorReconcile
  deriving DecidableEq, Repr

structure Outcome where
  result : Result
  err : Option GoError
  calls : List Call

/-! ## Children -/

def pointsTo (refs : ChildObject) (target : Cluster) : Bool :=
  refs.ownerUIDs.any (· == target.uid)

def listKind (ns : String) (answer : Except GoError PagedList) (listText typeName : String) :
    Except GoError (List ChildObject) :=
  match answer with
  | .error e => .error (.wrap ("Failed to list " ++ listText ++ " in " ++ ns) e)
  | .ok (.onePage items) => .ok items
  | .ok (.pages _) => .error (.msg ("Expected " ++ typeName ++ ", got *internalversion.List"))

def listChildren (a : Answers) (cluster : Cluster) : Except GoError (List ChildObject) := do
  let ns := cluster.«namespace»
  let dlist ← listKind ns a.deployments "MachineDeployments" "MachineDeploymentList"
  let slist ← listKind ns a.machineSets "MachineSets" "MachineSetList"
  let mlist ← listKind ns a.machines "MachineSets" "MachineList"
  pure ((dlist ++ slist ++ mlist).filter (pointsTo · cluster))

/-- The deletion loop over the children, from the one of index `i`: children already being
deleted are skipped; the first failed delete ends the call. -/
def deleteChildren (a : Answers) (name : String) :
    Nat → List ChildObject → List Call → Outcome
  | _, [], calls => ⟨⟨true, 0⟩, none, calls⟩
  | i, child :: rest, calls =>
    match child.deletionTimestamp with
    | some _ => deleteChildren a name (i + 1) rest calls
    | none =>
      match a.deleteChild i with
      | some e =>
        ⟨⟨false, 0⟩, some (.wrap ("deleting cluster " ++ name ++ ": failed to delete " ++
          gvkString (fromAPIVersionAndKind child.apiVersion child.kind) ++ " " ++ child.name) e),
          calls ++ [.deleteChild child]⟩
      | none => deleteChildren a name (i + 1) rest (calls ++ [.deleteChild child])

theorem listChildren_pointsTo {a : Answers} {cluster : Cluster} {children : List ChildObject}
    (h : listChildren a cluster = .ok children) : ∀ c ∈ children, pointsTo c cluster = true := by
  obtain ⟨ds, -, h⟩ := bind_eq_ok h
  obtain ⟨ss, -, h⟩ := bind_eq_ok h
  obtain ⟨ms, -, h⟩ := bind_eq_ok h
  cases h
  exact fun c hc => (List.mem_filter.1 hc).2

/-! ## Removing the finalizer -/

def removeFinalizerAttempt (a : Answers) (i : Nat) (calls : List Call) :
    Option APIError × List Call :=
  match a.retryGet i with
  | .error e => (some e, calls)
  | .ok cluster =>
    let cluster := { cluster with finalizers := Util.filter cluster.finalizers clusterFinalizer }
    match a.retryUpdate i with
    | some e => (some e, calls ++ [.update cluster false])
    | none => (none, calls ++ [.update cluster true])

/-- `retry.RetryOnConflict` with `steps` attempts left, the `i`-th next: an attempt that
conflicts is made again while attempts are left, and then the last conflict is the error. -/
def retryOnConflict (a : Answers) : Nat → Nat → Option APIError → List Call →
    Option APIError × List Call
  | 0, _, lastConflict, calls => (lastConflict, calls)
  | steps + 1, i, _, calls =>
    match removeFinalizerAttempt a i calls with
    | (none, calls) => (none, calls)
    | (some e, calls) =>
      if e.reason = .conflict then retryOnConflict a steps (i + 1) (some e) calls
      else (some e, calls)

/-! ## `Reconcile` -/

def addFinalizers (finalizers : List String) : List String :=
  let fs := if Util.contains finalizers finalizerDeleteDependents then finalizers
    else finalizers ++ [finalizerDeleteDependents]
  if Util.contains fs clusterFinalizer then fs else fs ++ [clusterFinalizer]

def reconcileDelete (a : Answers) (cluster : Cluster) : Outcome :=
  if !Util.contains cluster.finalizers clusterFinalizer then ⟨⟨false, 0⟩, none, []⟩
  else
    match listChildren a cluster with
    | .error e => ⟨⟨false, 0⟩, some e, []⟩
    | .ok children =>
      if children.length > 0 then deleteChildren a cluster.name 0 children []
      else
        match a.actuatorDelete with
        | some e => ⟨⟨false, 0⟩, some e, [.actuatorDelete]⟩
        | none =>
          match retryOnConflict a defaultRetrySteps 0 none [.actuatorDelete] with
          | (some e, calls) => ⟨⟨false, 0⟩, some e.toGoError, calls⟩
          | (none, calls) => ⟨⟨false, 0⟩, none, calls⟩

def reconcileActuator (a : Answers) : Outcome :=
  match a.actuatorReconcile with
  | none => ⟨⟨false, 0⟩, none, [.actuatorReconcile]⟩
  | some e =>
    match e.cause with
    | .requeueAfter s => ⟨⟨true, s⟩, none, [.actuatorReconcile]⟩
    | _ => ⟨⟨false, 0⟩, some e, [.actuatorReconcile]⟩

def reconcile (a : Answers) : Outcome :=
  match a.get with
  | .error e => if e.reason = .notFound then ⟨⟨false, 0⟩, none, []⟩ else ⟨⟨false, 0⟩, some e.toGoError, []⟩
  | .ok cluster =>
    if cluster.deletionTimestampIsZero then
      let finalizers := addFinalizers cluster.finalizers
      if finalizers.length > cluster.finalizers.length then
        let cluster := { cluster with finalizers := finalizers }
        match a.update with
        | some e => ⟨⟨false, 0⟩, some e.toGoError, [.update cluster false]⟩
        | none => ⟨⟨true, 0⟩, none, [.update cluster true]⟩
      else reconcileActuator a
    else reconcileDelete a cluster

/-! ## What a call requests -/

theorem clusterFinalizer_mem_addFinalizers (finalizers : List String) :
    clusterFinalizer ∈ addFinalizers finalizers := by
  simp only [addFinalizers]
  split <;> split <;> simp_all

@[simp] theorem reconcileActuator_calls (a : Answers) :
    (reconcileActuator a).calls = [.actuatorReconcile] := by
  unfold reconcileActuator
  split
  · rfl
  · split <;> rfl

theorem deleteChildren_calls (a : Answers) (name : String) (children : List ChildObject) :
    ∀ (i : Nat) (calls : List Call), ∃ rest,
      (deleteChildren a name i children calls).calls = calls ++ rest ∧
        ∀ x ∈ rest, ∃ child ∈ children, child.deletionTimestamp = none ∧ x = .deleteChild child := by
  induction children with
  | nil => exact fun _ calls => ⟨[], by simp [deleteChildren], by simp⟩
  | cons child children ih =>
    intro i calls
    unfold deleteChildren
    split
    · obtain ⟨rest, h, hr⟩ := ih (i + 1) calls
      refine ⟨rest, h, fun x hx => ?_⟩
      obtain ⟨c, hc, hd, rfl⟩ := hr x hx
      exact ⟨c, .tail _ hc, hd, rfl⟩
    · rename_i hd
      split
      · exact ⟨[.deleteChild child], rfl, by simp [hd]⟩
      · obtain ⟨rest, h, hr⟩ := ih (i + 1) (calls ++ [.deleteChild child])
        refine ⟨.deleteChild child :: rest, by simp [h], fun x hx => ?_⟩
        rcases List.mem_cons.1 hx with rfl | hx
        · exact ⟨child, .head _, hd, rfl⟩
        · obtain ⟨c, hc, hd', rfl⟩ := hr x hx
          exact ⟨c, .tail _ hc, hd', rfl⟩

theorem removeFinalizerAttempt_calls (a : Answers) (i : Nat) (calls : List Call) :
    ∃ rest, (removeFinalizerAttempt a i calls).2 = calls ++ rest ∧
      ∀ x ∈ rest, ∃ c b, x = .update c b := by
  unfold removeFinalizerAttempt
  split
  · exact ⟨[], by simp, by simp⟩
  · split <;> exact ⟨_, rfl, by simp⟩

theorem retryOnConflict_calls (a : Answers) (steps : Nat) :
    ∀ (i : Nat) (last : Option APIError) (calls : List Call), ∃ rest,
      (retryOnConflict a steps i last calls).2 = calls ++ rest ∧
        ∀ x ∈ rest, ∃ c b, x = .update c b := by
  induction steps with
  | zero => exact fun _ _ calls => ⟨[], by simp [retryOnConflict], by simp⟩
  | succ steps ih =>
    intro i last calls
    obtain ⟨r₁, h₁, u₁⟩ := removeFinalizerAttempt_calls a i calls
    simp only [retryOnConflict]
    rcases hatt : removeFinalizerAttempt a i calls with ⟨_ | e, calls'⟩
    all_goals rw [hatt] at h₁; dsimp only at h₁ ⊢
    · exact ⟨r₁, h₁, u₁⟩
    split
    · obtain ⟨r₂, h₂, u₂⟩ := ih (i + 1) (some e) calls'
      refine ⟨r₁ ++ r₂, by rw [h₂, h₁, List.append_assoc], fun x hx => ?_⟩
      exact (List.mem_append.1 hx).elim (u₁ x) (u₂ x)
    · exact ⟨r₁, h₁, u₁⟩

theorem reconcileDelete_cases (a : Answers) (cluster : Cluster) :
    (reconcileDelete a cluster).calls = [] ∨
    (clusterFinalizer ∈ cluster.finalizers ∧ ∃ children, listChildren a cluster = .ok children ∧
      children ≠ [] ∧ ∀ x ∈ (reconcileDelete a cluster).calls,
        ∃ child ∈ children, child.deletionTimestamp = none ∧ x = .deleteChild child) ∨
    (clusterFinalizer ∈ cluster.finalizers ∧ listChildren a cluster = .ok [] ∧
      ((reconcileDelete a cluster).calls = [.actuatorDelete] ∨
        a.actuatorDelete = none ∧ ∃ rest,
          (reconcileDelete a cluster).calls = .actuatorDelete :: rest ∧
            ∀ x ∈ rest, ∃ c b, x = .update c b)) := by
  unfold reconcileDelete
  split
  · exact .inl rfl
  rename_i hfin
  have hmem : clusterFinalizer ∈ cluster.finalizers := by simpa using hfin
  split
  · exact .inl rfl
  rename_i children hl
  split
  · rename_i hlen
    obtain ⟨rest, h, hr⟩ := deleteChildren_calls a cluster.name children 0 []
    refine .inr (.inl ⟨hmem, children, hl, fun hc => by simp [hc] at hlen, ?_⟩)
    rw [h]
    simpa using hr
  rename_i hlen
  obtain rfl : children = [] := List.eq_nil_of_length_eq_zero (by omega)
  split
  · exact .inr (.inr ⟨hmem, hl, .inl rfl⟩)
  rename_i hd
  obtain ⟨rest, h, hr⟩ := retryOnConflict_calls a defaultRetrySteps 0 none [.actuatorDelete]
  split <;> rename_i hres <;> rw [hres] at h <;>
    exact .inr (.inr ⟨hmem, hl, .inr ⟨hd, rest, h, hr⟩⟩)

theorem reconcile_cases (a : Answers) :
    (reconcile a).calls = [] ∨
    (∃ c accepted, (reconcile a).calls = [.update c accepted] ∧
      clusterFinalizer ∈ c.finalizers) ∨
    (∃ cluster children, a.get = .ok cluster ∧ cluster.deletionTimestampIsZero = false ∧
      clusterFinalizer ∈ cluster.finalizers ∧ listChildren a cluster = .ok children ∧
      children ≠ [] ∧ ∀ x ∈ (reconcile a).calls,
        ∃ child ∈ children, child.deletionTimestamp = none ∧ x = .deleteChild child) ∨
    (∃ cluster, a.get = .ok cluster ∧ cluster.deletionTimestampIsZero = false ∧
      clusterFinalizer ∈ cluster.finalizers ∧ listChildren a cluster = .ok [] ∧
      ((reconcile a).calls = [.actuatorDelete] ∨
        a.actuatorDelete = none ∧ ∃ rest, (reconcile a).calls = .actuatorDelete :: rest ∧
          ∀ x ∈ rest, ∃ c b, x = .update c b)) ∨
    (reconcile a).calls = [.actuatorReconcile] := by
  unfold reconcile
  split
  · split <;> exact .inl rfl
  rename_i cluster hg
  split
  · dsimp only
    split
    · split
      · exact .inr (.inl ⟨_, false, rfl, clusterFinalizer_mem_addFinalizers _⟩)
      · exact .inr (.inl ⟨_, true, rfl, clusterFinalizer_mem_addFinalizers _⟩)
    · exact .inr (.inr (.inr (.inr (reconcileActuator_calls a))))
  · rename_i hz
    rcases reconcileDelete_cases a cluster with h | ⟨hmem, children, hl, hne, h⟩ | ⟨hmem, hl, h⟩
    · exact .inl h
    · exact .inr (.inr (.inl ⟨cluster, children, hg, by simpa using hz, hmem, hl, hne, h⟩))
    · exact .inr (.inr (.inr (.inl ⟨cluster, hg, by simpa using hz, hmem, hl, h⟩)))

/-- **`Reconcile` removes the cluster finalizer only after deleting the cluster, and deletes
it only when no child is left.** An update the server accepts without `ClusterFinalizer`
comes from a call that read a Cluster being deleted and carrying the finalizer, listed no
child, and whose `actuator.Delete` returned nil; `actuator.Delete` is called only by a call
that read a Cluster being deleted and listed no child. -/
theorem reconcile_removes_finalizer_only_after_delete (a : Answers) :
    (∀ c, Call.update c true ∈ (reconcile a).calls → clusterFinalizer ∉ c.finalizers →
      ∃ cluster, a.get = .ok cluster ∧ cluster.deletionTimestampIsZero = false ∧
        clusterFinalizer ∈ cluster.finalizers ∧ listChildren a cluster = .ok [] ∧
        a.actuatorDelete = none) ∧
    (Call.actuatorDelete ∈ (reconcile a).calls →
      ∃ cluster, a.get = .ok cluster ∧ cluster.deletionTimestampIsZero = false ∧
        listChildren a cluster = .ok []) := by
  rcases reconcile_cases a with h | ⟨c', b, h, hc'⟩ | ⟨cluster, children, -, -, -, -, -, h⟩ |
    ⟨cluster, hg, hz, hmem, hl, h⟩ | h
  · simp [h]
  · refine ⟨fun c hc hnot => ?_, fun hd => by simp [h] at hd⟩
    rw [h, List.mem_singleton] at hc
    cases hc
    exact absurd hc' hnot
  · refine ⟨fun c hc _ => ?_, fun hd => ?_⟩
    · obtain ⟨_, -, -, h'⟩ := h _ hc
      cases h'
    · obtain ⟨_, -, -, h'⟩ := h _ hd
      cases h'
  · refine ⟨fun c hc _ => ?_, fun _ => ⟨cluster, hg, hz, hl⟩⟩
    rcases h with h | ⟨hd, -, -, -⟩
    · simp [h] at hc
    · exact ⟨cluster, hg, hz, hmem, hl, hd⟩
  · simp [h]

/-- **`Reconcile` deletes only children of the Cluster, while it is being deleted.** A child
is deleted only by a call that read a Cluster being deleted and still carrying
`ClusterFinalizer`, listed the child among those whose owner references carry the Cluster's
UID, and found it not yet being deleted. -/
theorem reconcile_deletes_only_owned_children (a : Answers) (child : ChildObject)
    (h : Call.deleteChild child ∈ (reconcile a).calls) :
    ∃ cluster, a.get = .ok cluster ∧ cluster.deletionTimestampIsZero = false ∧
      clusterFinalizer ∈ cluster.finalizers ∧ pointsTo child cluster = true ∧
      child.deletionTimestamp = none := by
  rcases reconcile_cases a with hc | ⟨c, b, hc, -⟩ | ⟨cluster, children, hg, hz, hmem, hl, -, hc⟩ |
    ⟨cluster, -, -, -, -, hc | ⟨-, rest, hc, hr⟩⟩ | hc
  · simp [hc] at h
  · simp [hc] at h
  · obtain ⟨c, hc', hd, hx⟩ := hc _ h
    cases hx
    exact ⟨cluster, hg, hz, hmem, listChildren_pointsTo hl child hc', hd⟩
  · simp [hc] at h
  · rw [hc, List.mem_cons] at h
    obtain ⟨c, b, hx⟩ := h.resolve_left nofun |> hr _
    cases hx
  · simp [hc] at h

/-! ## A deletion that retries -/

def deletingCluster : Cluster :=
  ⟨"capi-quickstart", "default", "4b1f0c1e-6f1c-4c7e-9d0a-1f2e3d4c5b6a", some 63840000000,
    [finalizerDeleteDependents, clusterFinalizer]⟩

def lastChildGone : Answers where
  get := .ok deletingCluster
  update := none
  deployments := .ok (.onePage [])
  machineSets := .ok (.onePage [])
  machines := .ok (.onePage [⟨"cluster.k8s.io/v1alpha1", "Machine", "capi-quickstart-old-0",
    ["0d9e8f7a-old"], none⟩])
  deleteChild := fun _ => none
  actuatorDelete := none
  retryGet := fun _ => .ok deletingCluster
  retryUpdate := fun i => if i = 0 then some ⟨.conflict, "the object has been modified"⟩ else none
  actuatorReconcile := none

theorem lastChildGone_finalizer_removed :
    Call.update { deletingCluster with finalizers := [finalizerDeleteDependents] } true ∈
        (reconcile lastChildGone).calls ∧
      ∃ cluster, lastChildGone.get = .ok cluster ∧ cluster.deletionTimestampIsZero = false ∧
        clusterFinalizer ∈ cluster.finalizers ∧ listChildren lastChildGone cluster = .ok [] ∧
        lastChildGone.actuatorDelete = none :=
  ⟨by decide, (reconcile_removes_finalizer_only_after_delete lastChildGone).1
    { deletingCluster with finalizers := [finalizerDeleteDependents] } (by decide) (by decide)⟩

/-! ## A deletion with a child left -/

def ownedMachine : ChildObject :=
  ⟨"cluster.k8s.io/v1alpha1", "Machine", "capi-quickstart-controlplane-0",
    ["4b1f0c1e-6f1c-4c7e-9d0a-1f2e3d4c5b6a"], none⟩

def ownedMachineLeft : Answers where
  get := .ok deletingCluster
  update := none
  deployments := .ok (.onePage [])
  machineSets := .ok (.onePage [])
  machines := .ok (.onePage [ownedMachine, ⟨"cluster.k8s.io/v1alpha1", "Machine",
    "capi-quickstart-old-0", ["0d9e8f7a-old"], none⟩])
  deleteChild := fun _ => none
  actuatorDelete := none
  retryGet := fun _ => .ok deletingCluster
  retryUpdate := fun _ => none
  actuatorReconcile := none

theorem ownedMachineLeft_deleted :
    Call.deleteChild ownedMachine ∈ (reconcile ownedMachineLeft).calls ∧
      ∃ cluster, ownedMachineLeft.get = .ok cluster ∧ cluster.deletionTimestampIsZero = false ∧
        clusterFinalizer ∈ cluster.finalizers ∧ pointsTo ownedMachine cluster = true ∧
        ownedMachine.deletionTimestamp = none :=
  ⟨by decide, reconcile_deletes_only_owned_children ownedMachineLeft ownedMachine (by decide)⟩

end ClusterApi.ClusterController
