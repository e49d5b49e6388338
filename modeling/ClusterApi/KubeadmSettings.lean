import Mathlib.Data.List.Basic
import ClusterApi.KubeadmTypes

/-!
# Settings the kubeadm controller fills in

`reconcileTopLevelObjectSettings` copies values of the Cluster and the Machine into a
ClusterConfiguration where the user left them empty, and `reconcileDiscovery` completes the
join discovery of a JoinConfiguration. Both keep every value the user set.
-/

namespace ClusterApi

def goJoin : List String → String → String
  | [], _ => ""
  | [e], _ => e
  | e :: es, sep => e ++ sep ++ goJoin es sep

def goSplit (s : String) (sep : Char) : List String := (s.toList.splitOn sep).map String.mk

def setCIDRBlocks : Option NetworkRanges → Option (List String)
  | some r => if r.cidrBlocks.length > 0 then some r.cidrBlocks else none
  | none => none

/-- An empty subnet takes the CIDR blocks of the cluster's range, joined as the source
joins them. -/
def fillSubnet (subnet : String) (ranges : Option NetworkRanges) : String :=
  match setCIDRBlocks ranges with
  | some blocks => if subnet = "" then goJoin blocks "" else subnet
  | none => subnet

def reconcileNetworking (net : ClusterNetwork) (n : Networking) : Networking :=
  ⟨if n.dnsDomain = "" ∧ net.serviceDomain ≠ "" then net.serviceDomain else n.dnsDomain,
    fillSubnet n.serviceSubnet net.services, fillSubnet n.podSubnet net.pods⟩

/-- `reconcileTopLevelObjectSettings` on `config.Spec.ClusterConfiguration`, the only part of
the config it reads or writes. -/
def reconcileTopLevelObjectSettings (cluster : Cluster) (machine : Machine)
    (cc : ClusterConfiguration) : ClusterConfiguration :=
  let cc := if cc.controlPlaneEndpoint = "" ∧ !cluster.controlPlaneEndpoint.isZero then
    { cc with controlPlaneEndpoint := cluster.controlPlaneEndpoint.toString } else cc
  let cc := if cc.clusterName = "" then { cc with clusterName := cluster.name } else cc
  let cc := match cluster.clusterNetwork with
    | some net => { cc with networking := reconcileNetworking net cc.networking }
    | none => cc
  match machine.version with
  | some v => if cc.kubernetesVersion = "" then { cc with kubernetesVersion := v } else cc
  | none => cc

/-! ## Joining CIDR blocks -/

theorem networking_reconcileTopLevelObjectSettings (cluster : Cluster) (machine : Machine)
    (cc : ClusterConfiguration) :
    (reconcileTopLevelObjectSettings cluster machine cc).networking =
      (cluster.clusterNetwork.map (reconcileNetworking · cc.networking)).getD cc.networking := by
  unfold reconcileTopLevelObjectSettings
  cases machine.version <;> cases cluster.clusterNetwork <;>
    simp only [apply_ite ClusterConfiguration.networking, ite_self, Option.map_some', Option.map_none',
      Option.getD_some, Option.getD_none]

theorem fillSubnet_of_blocks {blocks : List String} (hb : blocks ≠ []) :
    fillSubnet "" (some ⟨blocks⟩) = goJoin blocks "" := by
  simp [fillSubnet, setCIDRBlocks, List.length_pos.mpr hb]

theorem toList_goJoin_empty (blocks : List String) :
    (goJoin blocks "").toList = blocks.flatMap String.toList := by
  induction blocks with
  | nil => rfl
  | cons b bs ih =>
    cases bs with
    | nil => simp [goJoin]
    | cons b' bs' =>
      simp only [goJoin, String.toList, String.data_append] at ih ⊢
      simp [ih]

theorem goSplit_goJoin_empty {blocks : List String} (h : ∀ b ∈ blocks, ',' ∉ b.toList) :
    goSplit (goJoin blocks "") ',' = [goJoin blocks ""] := by
  unfold goSplit List.splitOn
  rw [List.splitOnP_eq_single]
  · rfl
  · intro c hc
    rw [toList_goJoin_empty, List.mem_flatMap] at hc
    obtain ⟨b, hb, hcb⟩ := hc
    simpa using fun hcomma : c = ',' => h b hb (hcomma ▸ hcb)

/-- A dual-stack cluster: two service blocks and two pod blocks. -/
def dualStackCluster : Cluster :=
  ⟨"dual-stack", "default", ⟨"", 0⟩,
    some ⟨some ⟨["10.96.0.0/12", "fd00:10:96::/112"]⟩,
      some ⟨["192.168.0.0/16", "fd00:10:244::/56"]⟩, ""⟩, true, false⟩

def dualStackMachine : Machine :=
  ⟨"dual-stack-control-plane", "default", [(machineControlPlaneLabelName, "")], "dual-stack",
    ⟨none, none⟩, some "v1.21.1", false⟩

def defaultClusterConfiguration : ClusterConfiguration :=
  ⟨"kubeadm.k8s.io/v1beta1", "ClusterConfiguration", "", "", ⟨"", "", ""⟩, ""⟩

/-- On the dual-stack cluster both subnets lose the boundary between their blocks: split at
`,` each is one string, where the cluster has two blocks. -/
theorem dualStack_subnets_joined :
    goSplit (reconcileTopLevelObjectSettings dualStackCluster dualStackMachine
        defaultClusterConfiguration).networking.serviceSubnet ',' =
      ["10.96.0.0/12fd00:10:96::/112"] ∧
    goSplit (reconcileTopLevelObjectSettings dualStackCluster dualStackMachine
        defaultClusterConfiguration).networking.podSubnet ',' =
      ["192.168.0.0/16fd00:10:244::/56"] := by
  simp only [networking_reconcileTopLevelObjectSettings, dualStackCluster,
    defaultClusterConfiguration, Option.map_some', Option.getD_some, reconcileNetworking,
    fillSubnet_of_blocks (List.cons_ne_nil _ _)]
  rw [goSplit_goJoin_empty (by decide), goSplit_goJoin_empty (by decide)]
  exact ⟨rfl, rfl⟩

/-! ## Join discovery -/

/-- A token `createToken` (token.go, not in the sources) returns: kubeadm's `id.secret`. -/
structure BootstrapToken where
  tokenID : String
  tokenSecret : String
  deriving DecidableEq, Repr

def BootstrapToken.render (t : BootstrapToken) : String := t.tokenID ++ "." ++ t.tokenSecret

structure DiscoveryCollaborators where
  caCertHashes : Except GoError (List String)
  remoteClient : Option GoError
  createToken : Except GoError BootstrapToken

structure DiscoveryOutcome where
  discovery : Discovery
  err : Option GoError
  createTokenCalled : Bool
  deriving DecidableEq

section
variable (d : DiscoveryCollaborators)

def fillCACertHashes (bt : BootstrapTokenDiscovery) : Except GoError BootstrapTokenDiscovery :=
  if bt.caCertHashes.length = 0 then d.caCertHashes.map ({ bt with caCertHashes := · })
  else .ok bt

def fillAPIServerEndpoint (cluster : Cluster) (bt : BootstrapTokenDiscovery) :
    Except GoError BootstrapTokenDiscovery :=
  if bt.apiServerEndpoint = "" then
    if cluster.controlPlaneEndpoint.isZero then
      .error (.wrap "Waiting for Cluster Controller to set Cluster.Spec.ControlPlaneEndpoint"
        (.requeueAfter 10))
    else .ok { bt with apiServerEndpoint := cluster.controlPlaneEndpoint.toString }
  else .ok bt

def fillToken (bt : BootstrapTokenDiscovery) : Except GoError BootstrapTokenDiscovery × Bool :=
  if bt.token = "" then
    match d.remoteClient with
    | some e => (.error e, false)
    | none =>
      match d.createToken with
      | .error e => (.error (.wrap "failed to create new bootstrap token" e), true)
      | .ok t => (.ok { bt with token := t.render }, true)
  else (.ok bt, false)

def skipCAVerificationIfNoHashes (bt : BootstrapTokenDiscovery) : BootstrapTokenDiscovery :=
  if bt.caCertHashes.length = 0 then { bt with unsafeSkipCAVerification := true } else bt

/-- `reconcileDiscovery` on `config.Spec.JoinConfiguration.Discovery`, the only part of the
config it reads or writes. The steps it completed before an error stay in the result. -/
def reconcileDiscovery (cluster : Cluster) (discovery : Discovery) : DiscoveryOutcome :=
  if discovery.file.isSome then ⟨discovery, none, false⟩
  else
    let withToken := fun bt => { discovery with bootstrapToken := some bt }
    let bt := discovery.bootstrapToken.getD .empty
    match fillCACertHashes d bt with
    | .error e => ⟨withToken bt, some e, false⟩
    | .ok bt =>
      match fillAPIServerEndpoint cluster bt with
      | .error e => ⟨withToken bt, some e, false⟩
      | .ok bt =>
        match fillToken d bt with
        | (.error e, called) => ⟨withToken bt, some e, called⟩
        | (.ok bt, called) => ⟨withToken (skipCAVerificationIfNoHashes bt), none, called⟩

/-! ### Each step keeps what the user set, and is done once it has run -/

theorem fillCACertHashes_ok {bt bt' : BootstrapTokenDiscovery}
    (h : fillCACertHashes d bt = .ok bt') :
    bt'.token = bt.token ∧ bt'.apiServerEndpoint = bt.apiServerEndpoint ∧
      bt'.unsafeSkipCAVerification = bt.unsafeSkipCAVerification ∧
      (bt.caCertHashes ≠ [] → bt'.caCertHashes = bt.caCertHashes) ∧
      (bt'.caCertHashes = [] → d.caCertHashes = .ok []) := by
  unfold fillCACertHashes at h
  split at h
  · cases hd : d.caCertHashes with
    | error e => simp [hd, Except.map] at h
    | ok hs =>
      simp only [hd, Except.map, Except.ok.injEq] at h
      subst h
      simp_all
  · cases h
    simp_all

theorem fillCACertHashes_of_ok {bt bt' x : BootstrapTokenDiscovery}
    (h : fillCACertHashes d bt = .ok bt') (hx : x.caCertHashes = bt'.caCertHashes) :
    fillCACertHashes d x = .ok x := by
  by_cases he : x.caCertHashes = []
  · have hd := (fillCACertHashes_ok d h).2.2.2.2 (hx ▸ he)
    simp [fillCACertHashes, he, hd, Except.map]
    rw [← he]
  · simp [fillCACertHashes, he]

theorem joinHostPort_ne_empty (host port : String) : joinHostPort host port ≠ "" := by
  have h₁ : "]:".length = 2 := rfl
  have h₂ : ":".length = 1 := rfl
  unfold joinHostPort
  split <;> intro h <;> have := congrArg String.length h <;>
    simp [String.length_append, h₁, h₂] at this

theorem fillAPIServerEndpoint_ok {cluster : Cluster} {bt bt' : BootstrapTokenDiscovery}
    (h : fillAPIServerEndpoint cluster bt = .ok bt') :
    bt'.token = bt.token ∧ bt'.caCertHashes = bt.caCertHashes ∧
      bt'.unsafeSkipCAVerification = bt.unsafeSkipCAVerification ∧
      bt'.apiServerEndpoint ≠ "" ∧
      (bt.apiServerEndpoint ≠ "" → bt'.apiServerEndpoint = bt.apiServerEndpoint) := by
  unfold fillAPIServerEndpoint at h
  split at h
  · split at h
    · cases h
    · cases h
      simp [APIEndpoint.toString, joinHostPort_ne_empty, *]
  · cases h
    simp_all

theorem fillAPIServerEndpoint_of_ne {cluster : Cluster} {x : BootstrapTokenDiscovery}
    (hx : x.apiServerEndpoint ≠ "") : fillAPIServerEndpoint cluster x = .ok x := by
  simp [fillAPIServerEndpoint, hx]

theorem render_ne_empty (t : BootstrapToken) : t.render ≠ "" := by
  have h₁ : ".".length = 1 := rfl
  intro h
  have := congrArg String.length h
  simp [BootstrapToken.render, String.length_append, h₁] at this

theorem fillToken_ok {bt bt' : BootstrapTokenDiscovery} {called : Bool}
    (h : fillToken d bt = (.ok bt', called)) :
    bt'.apiServerEndpoint = bt.apiServerEndpoint ∧ bt'.caCertHashes = bt.caCertHashes ∧
      bt'.unsafeSkipCAVerification = bt.unsafeSkipCAVerification ∧ bt'.token ≠ "" ∧
      (bt.token ≠ "" → bt'.token = bt.token ∧ called = false) := by
  unfold fillToken at h
  split at h
  · split at h
    · cases h
    · split at h
      · cases h
      · simp only [Prod.mk.injEq, Except.ok.injEq] at h
        obtain ⟨rfl, rfl⟩ := h
        simp [render_ne_empty, *]
  · simp only [Prod.mk.injEq, Except.ok.injEq] at h
    obtain ⟨rfl, rfl⟩ := h
    simp_all

theorem fillToken_of_ne {x : BootstrapTokenDiscovery} (hx : x.token ≠ "") :
    fillToken d x = (.ok x, false) := by
  simp [fillToken, hx]

@[simp] theorem skipCAVerificationIfNoHashes_caCertHashes (bt : BootstrapTokenDiscovery) :
    (skipCAVerificationIfNoHashes bt).caCertHashes = bt.caCertHashes := by
  unfold skipCAVerificationIfNoHashes; split <;> rfl

@[simp] theorem skipCAVerificationIfNoHashes_token (bt : BootstrapTokenDiscovery) :
    (skipCAVerificationIfNoHashes bt).token = bt.token := by
  unfold skipCAVerificationIfNoHashes; split <;> rfl

@[simp] theorem skipCAVerificationIfNoHashes_apiServerEndpoint (bt : BootstrapTokenDiscovery) :
    (skipCAVerificationIfNoHashes bt).apiServerEndpoint = bt.apiServerEndpoint := by
  unfold skipCAVerificationIfNoHashes; split <;> rfl

theorem skipCAVerificationIfNoHashes_keeps {bt : BootstrapTokenDiscovery}
    (h : bt.unsafeSkipCAVerification = true) :
    (skipCAVerificationIfNoHashes bt).unsafeSkipCAVerification = true := by
  unfold skipCAVerificationIfNoHashes; split <;> simp [h]

theorem skipCAVerificationIfNoHashes_idem (bt : BootstrapTokenDiscovery) :
    skipCAVerificationIfNoHashes (skipCAVerificationIfNoHashes bt) =
      skipCAVerificationIfNoHashes bt := by
  unfold skipCAVerificationIfNoHashes; split <;> simp_all

theorem fillCACertHashes_congr {d' : DiscoveryCollaborators}
    (hd : d'.caCertHashes = d.caCertHashes) : fillCACertHashes d' = fillCACertHashes d := by
  funext bt; simp [fillCACertHashes, hd]

theorem reconcileDiscovery_ok {cluster : Cluster} {discovery : Discovery}
    (h : (reconcileDiscovery d cluster discovery).err = none) :
    (discovery.file.isSome ∧ reconcileDiscovery d cluster discovery = ⟨discovery, none, false⟩) ∨
    (discovery.file = none ∧ ∃ bt₁ bt₂ bt₃ called,
      fillCACertHashes d (discovery.bootstrapToken.getD .empty) = .ok bt₁ ∧
      fillAPIServerEndpoint cluster bt₁ = .ok bt₂ ∧ fillToken d bt₂ = (.ok bt₃, called) ∧
      reconcileDiscovery d cluster discovery =
        ⟨{ discovery with bootstrapToken := some (skipCAVerificationIfNoHashes bt₃) }, none,
          called⟩) := by
  unfold reconcileDiscovery at h ⊢
  by_cases hf : discovery.file.isSome
  · exact .inl ⟨hf, by simp [hf]⟩
  refine .inr ⟨by simpa using hf, ?_⟩
  rw [if_neg hf] at h ⊢
  dsimp only at h ⊢
  split at h
  · cases h
  rename_i bt₁ h₁
  split at h
  · cases h
  rename_i bt₂ h₂
  split at h
  · cases h
  rename_i bt₃ called h₃
  exact ⟨bt₁, bt₂, bt₃, called, h₁, h₂, h₃, by simp [h₁, h₂, h₃]⟩

/-- **`reconcileDiscovery` keeps what the user set, and a second run changes nothing.** When
it returns nil, a file discovery is left untouched, and set CA cert hashes, API server
endpoint and token, and a skipped CA verification, keep their values; run again with the
same cluster and certificates, it returns nil, leaves the discovery as it is and does not
call `createToken`, whatever the workload cluster answers. -/
theorem reconcileDiscovery_respects_user_idempotent (cluster : Cluster) (discovery : Discovery)
    (h : (reconcileDiscovery d cluster discovery).err = none) (d' : DiscoveryCollaborators)
    (hd : d'.caCertHashes = d.caCertHashes) :
    let r := (reconcileDiscovery d cluster discovery).discovery
    (discovery.file.isSome → r = discovery) ∧
    (∀ bt ∈ discovery.bootstrapToken, ∃ bt' ∈ r.bootstrapToken,
      (bt.caCertHashes ≠ [] → bt'.caCertHashes = bt.caCertHashes) ∧
      (bt.apiServerEndpoint ≠ "" → bt'.apiServerEndpoint = bt.apiServerEndpoint) ∧
      (bt.token ≠ "" → bt'.token = bt.token) ∧
      (bt.unsafeSkipCAVerification = true → bt'.unsafeSkipCAVerification = true)) ∧
    reconcileDiscovery d' cluster r = ⟨r, none, false⟩ := by
  dsimp only
  rcases reconcileDiscovery_ok d h with ⟨hf, hr⟩ | ⟨hf, bt₁, bt₂, bt₃, called, h₁, h₂, h₃, hr⟩
  · rw [hr]
    exact ⟨fun _ => rfl, fun bt hb => ⟨bt, hb, by simp⟩, by simp [reconcileDiscovery, hf]⟩
  obtain ⟨t₁, e₁, u₁, k₁, z₁⟩ := fillCACertHashes_ok d h₁
  obtain ⟨t₂, c₂, u₂, n₂, k₂⟩ := fillAPIServerEndpoint_ok h₂
  obtain ⟨e₃, c₃, u₃, n₃, k₃⟩ := fillToken_ok d h₃
  rw [hr]
  refine ⟨fun h' => by simp [hf] at h', fun bt hb => ⟨_, rfl, ?_⟩, ?_⟩
  · simp only [Option.mem_def] at hb
    simp only [hb, Option.getD_some] at t₁ e₁ u₁ k₁
    refine ⟨fun hne => by simp [c₃, c₂, k₁ hne], fun hne => ?_, fun hne => ?_, fun hs => ?_⟩
    · simp [e₃, k₂ (e₁ ▸ hne), e₁]
    · simp [(k₃ (by rw [t₂, t₁]; exact hne)).1, t₂, t₁]
    · exact skipCAVerificationIfNoHashes_keeps (by rw [u₃, u₂, u₁]; exact hs)
  · simp only [reconcileDiscovery, hf, Option.isSome_none, Bool.false_eq_true, if_false,
      Option.getD_some, fillCACertHashes_congr d hd]
    rw [fillCACertHashes_of_ok d h₁ (by simp [c₃, c₂])]
    dsimp only
    rw [fillAPIServerEndpoint_of_ne (by simpa [e₃] using n₂)]
    dsimp only
    rw [fillToken_of_ne d' (by simpa using n₃)]
    dsimp only
    rw [skipCAVerificationIfNoHashes_idem]

end

def endpointCluster : Cluster :=
  { dualStackCluster with controlPlaneEndpoint := ⟨"10.0.0.1", 6443⟩ }

def tokenCollaborators : DiscoveryCollaborators :=
  ⟨.ok ["sha256:0f1e2d"], none, .ok ⟨"abcdef", "0123456789abcdef"⟩⟩

def unreachableCollaborators : DiscoveryCollaborators :=
  ⟨.ok ["sha256:0f1e2d"], some (.msg "workload cluster unreachable"),
    .error (.msg "workload cluster unreachable")⟩

theorem reconcileDiscovery_second_run_offline :
    (reconcileDiscovery tokenCollaborators endpointCluster ⟨none, none⟩).err = none ∧
    reconcileDiscovery unreachableCollaborators endpointCluster
        (reconcileDiscovery tokenCollaborators endpointCluster ⟨none, none⟩).discovery =
      ⟨(reconcileDiscovery tokenCollaborators endpointCluster ⟨none, none⟩).discovery, none,
        false⟩ :=
  ⟨by decide, (reconcileDiscovery_respects_user_idempotent tokenCollaborators endpointCluster
    ⟨none, none⟩ (by decide) unreachableCollaborators rfl).2.2⟩

end ClusterApi
