import ClusterApi.GoError
import ClusterApi.Schema

/-!
# Clusters, machines and kubeadm configs

The objects the kubeadm bootstrap controller (`KubeadmConfigReconciler`) reads and writes,
with the fields its functions use: the `Cluster` and `Machine` of `api/v1alpha3`, the
`KubeadmConfig` of the bootstrap API, and the kubeadm `v1beta1` configurations it embeds.
-/

namespace ClusterApi

def joinHostPort (host port : String) : String :=
  if ':' ∈ host.toList then "[" ++ host ++ "]:" ++ port else host ++ ":" ++ port

structure APIEndpoint where
  host : String
  port : Int
  deriving DecidableEq, Repr

def APIEndpoint.isZero (e : APIEndpoint) : Bool := e.host == "" && e.port == 0

def APIEndpoint.toString (e : APIEndpoint) : String := joinHostPort e.host (ToString.toString e.port)

structure NetworkRanges where
  cidrBlocks : List String
  deriving DecidableEq, Repr

structure ClusterNetwork where
  services : Option NetworkRanges
  pods : Option NetworkRanges
  serviceDomain : String
  deriving DecidableEq, Repr

structure Cluster where
  name : String
  «namespace» : String
  controlPlaneEndpoint : APIEndpoint
  clusterNetwork : Option ClusterNetwork
  infrastructureReady : Bool
  controlPlaneInitialized : Bool
  deriving DecidableEq, Repr

def machineControlPlaneLabelName : String := "cluster.x-k8s.io/control-plane"

def clusterLabelName : String := "cluster.x-k8s.io/cluster-name"

structure Bootstrap where
  configRef : Option ObjectReference
  data : Option String
  deriving DecidableEq, Repr

structure Machine where
  name : String
  «namespace» : String
  labels : List (String × String)
  clusterName : String
  bootstrap : Bootstrap
  version : Option String
  infrastructureReady : Bool
  deriving DecidableEq, Repr

def Machine.isControlPlane (m : Machine) : Bool :=
  (m.labels.lookup machineControlPlaneLabelName).isSome

structure Networking where
  dnsDomain : String
  serviceSubnet : String
  podSubnet : String
  deriving DecidableEq, Repr

structure ClusterConfiguration where
  apiVersion : String
  kind : String
  controlPlaneEndpoint : String
  clusterName : String
  networking : Networking
  kubernetesVersion : String
  deriving DecidableEq, Repr

structure InitConfiguration where
  apiVersion : String
  kind : String
  deriving DecidableEq, Repr

structure BootstrapTokenDiscovery where
  token : String
  apiServerEndpoint : String
  caCertHashes : List String
  unsafeSkipCAVerification : Bool
  deriving DecidableEq, Repr

def BootstrapTokenDiscovery.empty : BootstrapTokenDiscovery := ⟨"", "", [], false⟩

structure FileDiscovery where
  kubeConfigPath : String
  deriving DecidableEq, Repr

structure Discovery where
  bootstrapToken : Option BootstrapTokenDiscovery
  file : Option FileDiscovery
  deriving DecidableEq, Repr

structure JoinControlPlane where
  advertiseAddress : String
  deriving DecidableEq, Repr

structure JoinConfiguration where
  caCertPath : String
  discovery : Discovery
  controlPlane : Option JoinControlPlane
  deriving DecidableEq, Repr

def JoinConfiguration.empty : JoinConfiguration := ⟨"", ⟨none, none⟩, none⟩

structure KeySelector where
  name : String
  key : String
  optional : Option Bool
  deriving DecidableEq, Repr

structure FileContentSource where
  configMapKeyRef : Option KeySelector
  secretKeyRef : Option KeySelector
  deriving DecidableEq, Repr

structure File where
  path : String
  owner : String
  permissions : String
  encoding : String
  content : String
  contentFrom : Option FileContentSource
  deriving DecidableEq, Repr

structure CloudInitFile where
  path : String
  owner : String
  permissions : String
  encoding : String
  content : String
  deriving DecidableEq, Repr

structure KubeadmConfigSpec where
  clusterConfiguration : Option ClusterConfiguration
  initConfiguration : Option InitConfiguration
  joinConfiguration : Option JoinConfiguration
  files : List File
  deriving DecidableEq, Repr

/-- The bootstrap data the cloud-init generators render, by the generator that produced it,
the kubeadm configurations whose YAML it embeds, and the files it writes besides the
certificates. -/
inductive BootstrapData where
  | initControlPlane (initConfiguration : InitConfiguration)
      (clusterConfiguration : ClusterConfiguration) (files : List CloudInitFile)
  | joinControlPlane (joinConfiguration : JoinConfiguration) (files : List CloudInitFile)
  | node (joinConfiguration : JoinConfiguration) (files : List CloudInitFile)
  deriving DecidableEq, Repr

def BootstrapData.isInitControlPlane : BootstrapData → Bool
  | .initControlPlane _ _ _ => true
  | _ => false

/-- `KubeadmConfigStatus`; `bootstrapData` is `none` while the `[]byte` is nil. -/
structure KubeadmConfigStatus where
  ready : Bool
  bootstrapData : Option BootstrapData
  deriving DecidableEq, Repr

/-- A `KubeadmConfig`; `ownerMachine` is the Machine its owner references name, if any. -/
structure KubeadmConfig where
  name : String
  «namespace» : String
  ownerMachine : Option String
  spec : KubeadmConfigSpec
  status : KubeadmConfigStatus
  deriving DecidableEq, Repr

end ClusterApi
