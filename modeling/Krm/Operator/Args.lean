import Krm.Lib.Flags
import Krm.Operator.Operands

/-! # The command lines that the operator gives the controllers

A KRMConfig is taken after the operator has set its defaults, so that what the builders dereference is there. -/

open Krm.Lib

namespace Krm.Operator

/-! ## What a KRMConfig says -/

structure GlobalSettings where
  defaultNodePoolName : String
  nodePoolLabelKey : Option String
  queueLabelKey : Option String
  namespaceProjectLabelKey : Option String
  projectLabelKey : Option String
  enforceSchedulerAnnotationKey : Option String
  schedulerName : Option String
  finalizerDomain : Option String
  allowExternalQueues : Option Bool
  openshift : Option Bool
  leaderElection : Option Bool
deriving Inhabited

structure K8sClientConfig where
  qps : Option Int64
  burst : Option Int64
deriving Inhabited

structure NodePoolControllerArgs where
  schedulerNamespace : Option String
  metricsNamespace : Option String
  dcgmExporterNamespace : Option String
  schedulingShardArgs : Option String
  excludedNodepoolName : Option String
  managedNodesConfigName : Option String
  toExcludeLabel : Option String
  unschedulableLabel : Option String
  groveTopologyAnnotation : Option String
  groveTopologyResourceVersionAnnotation : Option String
  debug : Option Bool
  leaderElect : Option Bool
deriving Inhabited

structure NodePoolControllerSpec where
  replicas : Option Int32
  metricsTargetPort : Int32
  webhookTargetPort : Int32
  enableNodePoolValidation : Option Bool
  args : NodePoolControllerArgs
  k8sClientConfig : Option K8sClientConfig
  extraArgs : List String
deriving Inhabited

structure PodGroupAssignerArgs where
  unexistingNodepoolSentinel : Option String
  annotationNodepoolsKey : Option String
  debug : Option Bool
  leaderElect : Option Bool
deriving Inhabited

structure PodGroupAssignerSpec where
  replicas : Option Int32
  webhookTargetPort : Int32
  enablePodWebhook : Option Bool
  args : PodGroupAssignerArgs
  k8sClientConfig : Option K8sClientConfig
  extraArgs : List String
deriving Inhabited

structure ProjectControllerArgs where
  projectNamePrefix : Option String
  projectIDLabelKey : Option String
  queueDepartmentNameLabelKey : Option String
  namespaceVersionLabelKey : Option String
  resourceManualOverrideLabelKey : Option String
  limitRangeName : Option String
  debug : Option Bool
  leaderElect : Option Bool
deriving Inhabited

structure ProjectControllerSpec where
  replicas : Option Int32
  metricsTargetPort : Int32
  webhookTargetPort : Int32
  profilingEnabled : Option Bool
  profilingAPIPort : Int32
  enableProjectValidation : Option Bool
  enableDepartmentValidation : Option Bool
  createNamespaces : Option Bool
  createRoleBindings : Option Bool
  limitRange : Option Bool
  roleBindingsConfigMapName : Option String
  args : ProjectControllerArgs
  k8sClientConfig : Option K8sClientConfig
  extraArgs : List String
deriving Inhabited

structure Settings where
  namespaceName : String
  global : GlobalSettings
  nodePoolController : NodePoolControllerSpec
  podGroupAssigner : PodGroupAssignerSpec
  projectController : ProjectControllerSpec
deriving Inhabited

/-! ## Building a command line -/

/-- Empty counts as unset. -/
def appendStringArg (args : List String) (flag : String) (value : Option String) : List String :=
  match value with
  | none => args
  | some v => if v = "" then args else args ++ [flag, v]

def appendSwitch (args : List String) (flag : String) (enabled : Option Bool) : List String :=
  if enabled.getD false then args ++ [flag] else args

def addK8sClientConfigToArgs (k8sClientConfig : Option K8sClientConfig) (args : List String) : List String :=
  match k8sClientConfig with
  | none => args
  | some client =>
    let args := match client.qps with
      | none => args
      | some qps => args ++ ["--qps", toString qps.toInt]
    match client.burst with
    | none => args
    | some burst => args ++ ["--burst", toString burst.toInt]

/-- The service's setting first; several replicas elect a leader anyway. -/
def leaderElect (override : Option Bool) (replicas : Option Int32) (global : GlobalSettings) : Bool :=
  match override with
  | some elect => elect
  | none => global.leaderElection.getD false || replicas.any fun n => n.toInt > 1

namespace NodePoolControllerSpec

def webhookEnabled (spec : NodePoolControllerSpec) : Bool := spec.enableNodePoolValidation.getD true

end NodePoolControllerSpec

def schedulerNamespace (krmConfig : Settings) : String :=
  let namespaceName := krmConfig.nodePoolController.args.schedulerNamespace.getD ""
  if namespaceName ≠ "" then namespaceName else krmConfig.namespaceName

def nodePoolControllerArgs (krmConfig : Settings) : List String :=
  let config := krmConfig.nodePoolController
  let global := krmConfig.global
  let args := ["--metrics-port", toString config.metricsTargetPort.toInt,
    "--scheduler-namespace", schedulerNamespace krmConfig,
    "--enable-nodepool-validation-webhook=" ++ formatBool config.webhookEnabled,
    "--default-nodepool-name", global.defaultNodePoolName]
  let args := if config.webhookEnabled then args ++ ["--webhook-port", toString config.webhookTargetPort.toInt] else args
  let args := appendStringArg args "--nodepool-label-key" global.nodePoolLabelKey
  let args := appendStringArg args "--scheduler-name" global.schedulerName
  let args := appendStringArg args "--finalizer-domain" global.finalizerDomain
  let args := appendStringArg args "--metrics-namespace" config.args.metricsNamespace
  let args := appendStringArg args "--dcgm-exporter-namespace" config.args.dcgmExporterNamespace
  let args := appendStringArg args "--scheduling-shard-args" config.args.schedulingShardArgs
  let args := appendStringArg args "--excluded-nodepool-name" config.args.excludedNodepoolName
  let args := appendStringArg args "--managed-nodes-config-name" config.args.managedNodesConfigName
  let args := appendStringArg args "--to-exclude-label" config.args.toExcludeLabel
  let args := appendStringArg args "--unschedulable-label" config.args.unschedulableLabel
  let args := appendStringArg args "--grove-topology-annotation" config.args.groveTopologyAnnotation
  let args := appendStringArg args "--grove-topology-resource-version-annotation"
    config.args.groveTopologyResourceVersionAnnotation
  let args := appendSwitch args "--debug" config.args.debug
  let args := appendSwitch args "--leader-elect" (some (leaderElect config.args.leaderElect config.replicas global))
  let args := addK8sClientConfigToArgs config.k8sClientConfig args
  args ++ config.extraArgs

def podGroupAssignerArgs (krmConfig : Settings) : List String :=
  let config := krmConfig.podGroupAssigner
  let global := krmConfig.global
  let args := ["--webhook-port", toString config.webhookTargetPort.toInt,
    "--enable-pod-webhook=" ++ formatBool (config.enablePodWebhook.getD true)]
  let args := appendStringArg args "--nodepool-label-key" global.nodePoolLabelKey
  let args := appendStringArg args "--queue-label-key" global.queueLabelKey
  let args := appendStringArg args "--default-nodepool-name" (some global.defaultNodePoolName)
  let args := appendStringArg args "--scheduler-name" global.schedulerName
  let args := appendStringArg args "--namespace-project-label-key" global.namespaceProjectLabelKey
  let args := appendStringArg args "--project-label-key" global.projectLabelKey
  let args := appendStringArg args "--enforce-scheduler-annotation-key" global.enforceSchedulerAnnotationKey
  let args := appendSwitch args "--allow-external-queues" global.allowExternalQueues
  let args := appendStringArg args "--unexisting-nodepool-sentinel" config.args.unexistingNodepoolSentinel
  let args := appendStringArg args "--annotation-nodepools-key" config.args.annotationNodepoolsKey
  let args := appendSwitch args "--debug" config.args.debug
  let args := appendSwitch args "--leader-elect" (some (leaderElect config.args.leaderElect config.replicas global))
  let args := addK8sClientConfigToArgs config.k8sClientConfig args
  args ++ config.extraArgs

def projectControllerArgs (krmConfig : Settings) : List String :=
  let config := krmConfig.projectController
  let global := krmConfig.global
  let namespaceName := krmConfig.namespaceName
  let args := ["--metrics-port", toString config.metricsTargetPort.toInt,
    "--profiler-api-port", toString config.profilingAPIPort.toInt,
    "--rolebindings-configmap-name", roleBindingsConfigMapNameFor config.roleBindingsConfigMapName,
    "--rolebindings-configmap-namespace", namespaceName,
    "--project-delete-blockers-namespace", namespaceName,
    "--install-namespace", namespaceName,
    "--default-nodepool-name", global.defaultNodePoolName,
    "--enable-project-validation-webhook=" ++ formatBool (config.enableProjectValidation.getD true),
    "--enable-department-validation-webhook=" ++ formatBool (config.enableDepartmentValidation.getD true)]
  let args :=
    if webhooksEnabled config.enableProjectValidation config.enableDepartmentValidation global.allowExternalQueues then
      args ++ ["--webhook-port", toString config.webhookTargetPort.toInt]
    else args
  let args := appendStringArg args "--nodepool-label-key" global.nodePoolLabelKey
  let args := appendStringArg args "--queue-label-key" global.queueLabelKey
  let args := appendStringArg args "--enforce-scheduler-annotation-key" global.enforceSchedulerAnnotationKey
  let args := appendStringArg args "--finalizer-domain" global.finalizerDomain
  let args := appendStringArg args "--namespace-project-label-key" global.namespaceProjectLabelKey
  let args := appendStringArg args "--project-label-key" global.projectLabelKey
  let args := appendStringArg args "--project-name-prefix" config.args.projectNamePrefix
  let args := appendStringArg args "--project-id-label-key" config.args.projectIDLabelKey
  let args := appendStringArg args "--queue-department-name-label-key" config.args.queueDepartmentNameLabelKey
  let args := appendStringArg args "--namespace-version-label-key" config.args.namespaceVersionLabelKey
  let args := appendStringArg args "--resource-manual-override-label-key" config.args.resourceManualOverrideLabelKey
  let args := appendStringArg args "--limit-range-name" config.args.limitRangeName
  let args := appendSwitch args "--openshift" global.openshift
  let args := appendSwitch args "--allow-external-queues" global.allowExternalQueues
  let args := appendSwitch args "--namespaces" config.createNamespaces
  let args := appendSwitch args "--role-bindings" config.createRoleBindings
  let args := appendSwitch args "--limit-range" config.limitRange
  let args := appendSwitch args "--enable-profiling" config.profilingEnabled
  let args := appendSwitch args "--debug" config.args.debug
  let args := appendSwitch args "--leader-elect" (some (leaderElect config.args.leaderElect config.replicas global))
  let args := addK8sClientConfigToArgs config.k8sClientConfig args
  args ++ config.extraArgs

/-! ## What the flags make of it -/

/-- A setting that is given and not empty. -/
def given (value : Option String) (default : String) : String :=
  match value with
  | none => default
  | some v => if v = "" then default else v

def K8sClientConfig.qpsOr (client : Option K8sClientConfig) (default : Int) : Int :=
  match client with
  | some ⟨some qps, _⟩ => qps.toInt
  | _ => default

def K8sClientConfig.burstOr (client : Option K8sClientConfig) (default : Int) : Int :=
  match client with
  | some ⟨_, some burst⟩ => burst.toInt
  | _ => default

section

variable {γ : Type} {formal : List (String × Flag γ)} {args : List String} {g g' : γ} {flag name : String}

theorem consumes_stringArg {v : Var γ String} (hword : word flag = .flag name none)
    (hflag : formal.lookup name = some (stringVar v)) (h : Consumes formal args g g') (value : Option String) :
    Consumes formal (appendStringArg args flag value) g (v.set (given value (v.get g')) g') := by
  unfold appendStringArg given
  cases value with
  | none => exact (v.set_get g').symm ▸ h
  | some text =>
    dsimp only
    split_ifs
    · exact (v.set_get g').symm ▸ h
    · exact h.append (.string hword hflag (.nil _))

theorem consumes_switchArg {v : Var γ Bool} (hword : word flag = .flag name none)
    (hflag : formal.lookup name = some (boolVar v)) (h : Consumes formal args g g') (hget : v.get g' = false)
    (enabled : Option Bool) :
    Consumes formal (appendSwitch args flag enabled) g (v.set (enabled.getD false) g') := by
  unfold appendSwitch
  split_ifs with henabled
  · rw [henabled]
    exact h.append (.switch hword hflag (.nil _))
  · rw [Bool.not_eq_true] at henabled
    rw [henabled, ← hget, v.set_get]
    exact h

theorem consumes_portIf {v : Var γ Int} (hword : word flag = .flag name none)
    (hflag : formal.lookup name = some (intVar v)) (h : Consumes formal args g g') (enabled : Bool) (port : Int32) :
    Consumes formal (if enabled then args ++ [flag, toString port.toInt] else args) g
      (v.set (if enabled then port.toInt else v.get g') g') := by
  cases enabled with
  | false => exact (v.set_get g').symm ▸ h
  | true => exact h.append (.int32 hword hflag (.nil _))

theorem consumes_k8sClientConfig {qps burst : Var γ Int} (hqps : formal.lookup "qps" = some (intVar qps))
    (hburst : formal.lookup "burst" = some (intVar burst)) (hother : ∀ n g, burst.get (qps.set n g) = burst.get g)
    (h : Consumes formal args g g') (client : Option K8sClientConfig) :
    Consumes formal (addK8sClientConfigToArgs client args) g
      (burst.set (K8sClientConfig.burstOr client (burst.get g')) (qps.set (K8sClientConfig.qpsOr client (qps.get g')) g')) := by
  have hqpsWord : word "--qps" = .flag "qps" none := by decide
  have hburstWord : word "--burst" = .flag "burst" none := by decide
  have hsame : burst.set (burst.get g') (qps.set (qps.get g') g') = g' := by rw [qps.set_get, burst.set_get]
  match client with
  | none => exact hsame.symm ▸ h
  | some ⟨none, none⟩ => exact hsame.symm ▸ h
  | some ⟨none, some n⟩ =>
    dsimp only [K8sClientConfig.qpsOr]
    rw [qps.set_get]
    exact h.append (.int64 hburstWord hburst (.nil _))
  | some ⟨some n, none⟩ =>
    dsimp only [K8sClientConfig.qpsOr, K8sClientConfig.burstOr]
    rw [← hother n.toInt g', burst.set_get]
    exact h.append (.int64 hqpsWord hqps (.nil _))
  | some ⟨some n, some m⟩ =>
    exact (h.append (.int64 hqpsWord hqps (.nil _))).append (.int64 hburstWord hburst (.nil _))

end

end Krm.Operator
