import ClusterApi.Provider
import ClusterApi.Version
import ClusterApi.DoUpgrade
import ClusterApi.Plan
import ClusterApi.CustomPlan
import ClusterApi.OperatorRepository
import ClusterApi.ClusterClass
import ClusterApi.KubeadmSettings
import ClusterApi.KubeadmMappers
import ClusterApi.KubeadmReconcile
import ClusterApi.Unstructured
import ClusterApi.ClusterController
import ClusterApi.JsonDecoder
import ClusterApi.MachinesYaml
import ClusterApi.MachineControllerPhases
import ClusterApi.Predicates
import ClusterApi.ProviderReconciler
import ClusterApi.KubeadmStatus
