import Krm.Operator.Args

/-! # The controllers read from their command lines what the KRMConfig says -/

open Krm.Lib

namespace Krm.Operator

/-- Names that the scheduler's own packages define. -/
structure KaiConstants where
  defaultNodePoolLabelKey : String
  defaultNodePoolName : String
  defaultSchedulerName : String
  defaultKAINamespace : String
  defaultMetricsNamespace : String
  defaultCPUWorkerNodeLabelKey : String
  defaultGPUWorkerNodeLabelKey : String
  defaultMIGWorkerNodeLabelKey : String
  defaultQueueLabel : String
  namespaceProjectLabelKey : String
  projectLabelKey : String
deriving Inhabited

variable (k : KaiConstants)

/-! ## The node-pool controller -/

structure NodePoolControllerOptions where
  debugLogLevel : Bool := false
  dcgmExporterNamespace : String := "gpu-operator"
  restrictNodeScheduling : Bool := false
  metricsPort : String := "9400"
  k8sClientConfigQPS : Int := 50
  k8sClientConfigBurst : Int := 300
  enableLeaderElection : Bool := false
  enableNodepoolValidationWebhook : Bool := true
  webhookPort : Int := 8443
  webhookCertDir : String := "/etc/webhook/certs"
  nodePoolNameLabel : String
  defaultNodepoolName : String
  schedulerName : String
  schedulerNamespace : String
  metricsNamespace : String
  finalizerDomain : String := "kai.scheduler"
  schedulingShardArgsStr : String := ""
  managedNodesConfigName : String := "kai-managed-nodes-config"
  excludedNodepoolName : String := "kai-excluded-nodes"
  shouldBeExcludedLabelKey : String := "kai.scheduler/to-exclude"
  unschedulableLabelKey : String := "kai.scheduler/unschedulable"
  groveTopologyAnnotation : String := "kai.scheduler/grove-topology-name"
  groveTopologyResourceVersionAnnotation : String := "kai.scheduler/grove-topology-resource-version"
  uninstallDetectionRefStr : String := ""
  cpuWorkerNodeLabelKey : String
  gpuWorkerNodeLabelKey : String
  migWorkerNodeLabelKey : String

namespace NodePoolControllerOptions

def default : NodePoolControllerOptions where
  nodePoolNameLabel := k.defaultNodePoolLabelKey
  defaultNodepoolName := k.defaultNodePoolName
  schedulerName := k.defaultSchedulerName
  schedulerNamespace := k.defaultKAINamespace
  metricsNamespace := k.defaultMetricsNamespace
  cpuWorkerNodeLabelKey := k.defaultCPUWorkerNodeLabelKey
  gpuWorkerNodeLabelKey := k.defaultGPUWorkerNodeLabelKey
  migWorkerNodeLabelKey := k.defaultMIGWorkerNodeLabelKey

/-- `BindFlags` and `AddLabelFlags`. -/
def flags : List (String × Flag NodePoolControllerOptions) :=
  [("debug", boolVar (.mk debugLogLevel fun v o => { o with debugLogLevel := v })),
    ("dcgm-exporter-namespace", stringVar (.mk dcgmExporterNamespace fun v o => { o with dcgmExporterNamespace := v })),
    ("restrict-node-scheduling", boolVar (.mk restrictNodeScheduling fun v o => { o with restrictNodeScheduling := v })),
    ("metrics-port", stringVar (.mk metricsPort fun v o => { o with metricsPort := v })),
    ("qps", intVar (.mk k8sClientConfigQPS fun v o => { o with k8sClientConfigQPS := v })),
    ("burst", intVar (.mk k8sClientConfigBurst fun v o => { o with k8sClientConfigBurst := v })),
    ("leader-elect", boolVar (.mk enableLeaderElection fun v o => { o with enableLeaderElection := v })),
    ("enable-nodepool-validation-webhook",
      boolVar (.mk enableNodepoolValidationWebhook fun v o => { o with enableNodepoolValidationWebhook := v })),
    ("webhook-port", intVar (.mk webhookPort fun v o => { o with webhookPort := v })),
    ("cert-dir", stringVar (.mk webhookCertDir fun v o => { o with webhookCertDir := v })),
    ("nodepool-label-key", stringVar (.mk nodePoolNameLabel fun v o => { o with nodePoolNameLabel := v })),
    ("default-nodepool-name", stringVar (.mk defaultNodepoolName fun v o => { o with defaultNodepoolName := v })),
    ("scheduler-name", stringVar (.mk schedulerName fun v o => { o with schedulerName := v })),
    ("scheduler-namespace", stringVar (.mk schedulerNamespace fun v o => { o with schedulerNamespace := v })),
    ("metrics-namespace", stringVar (.mk metricsNamespace fun v o => { o with metricsNamespace := v })),
    ("finalizer-domain", stringVar (.mk finalizerDomain fun v o => { o with finalizerDomain := v })),
    ("scheduling-shard-args", stringVar (.mk schedulingShardArgsStr fun v o => { o with schedulingShardArgsStr := v })),
    ("managed-nodes-config-name", stringVar (.mk managedNodesConfigName fun v o => { o with managedNodesConfigName := v })),
    ("excluded-nodepool-name", stringVar (.mk excludedNodepoolName fun v o => { o with excludedNodepoolName := v })),
    ("to-exclude-label", stringVar (.mk shouldBeExcludedLabelKey fun v o => { o with shouldBeExcludedLabelKey := v })),
    ("unschedulable-label", stringVar (.mk unschedulableLabelKey fun v o => { o with unschedulableLabelKey := v })),
    ("grove-topology-annotation",
      stringVar (.mk groveTopologyAnnotation fun v o => { o with groveTopologyAnnotation := v })),
    ("grove-topology-resource-version-annotation",
      stringVar (.mk groveTopologyResourceVersionAnnotation fun v o => { o with groveTopologyResourceVersionAnnotation := v })),
    ("uninstall-detection-ref",
      stringVar (.mk uninstallDetectionRefStr fun v o => { o with uninstallDetectionRefStr := v })),
    ("cpu-worker-node-label-key", stringVar (.mk cpuWorkerNodeLabelKey fun v o => { o with cpuWorkerNodeLabelKey := v })),
    ("gpu-worker-node-label-key", stringVar (.mk gpuWorkerNodeLabelKey fun v o => { o with gpuWorkerNodeLabelKey := v })),
    ("mig-worker-node-label-key", stringVar (.mk migWorkerNodeLabelKey fun v o => { o with migWorkerNodeLabelKey := v }))]

/-- The options that the KRMConfig asks for. -/
def wanted (krmConfig : Settings) : NodePoolControllerOptions :=
  let config := krmConfig.nodePoolController
  let args := config.args
  let global := krmConfig.global
  let unset := default k
  { unset with
    debugLogLevel := args.debug.getD false
    dcgmExporterNamespace := given args.dcgmExporterNamespace unset.dcgmExporterNamespace
    metricsPort := toString config.metricsTargetPort.toInt
    k8sClientConfigQPS := K8sClientConfig.qpsOr config.k8sClientConfig unset.k8sClientConfigQPS
    k8sClientConfigBurst := K8sClientConfig.burstOr config.k8sClientConfig unset.k8sClientConfigBurst
    enableLeaderElection := leaderElect args.leaderElect config.replicas global
    enableNodepoolValidationWebhook := config.webhookEnabled
    webhookPort := if config.webhookEnabled then config.webhookTargetPort.toInt else unset.webhookPort
    nodePoolNameLabel := given global.nodePoolLabelKey unset.nodePoolNameLabel
    defaultNodepoolName := global.defaultNodePoolName
    schedulerName := given global.schedulerName unset.schedulerName
    schedulerNamespace := Operator.schedulerNamespace krmConfig
    metricsNamespace := given args.metricsNamespace unset.metricsNamespace
    finalizerDomain := given global.finalizerDomain unset.finalizerDomain
    schedulingShardArgsStr := given args.schedulingShardArgs unset.schedulingShardArgsStr
    managedNodesConfigName := given args.managedNodesConfigName unset.managedNodesConfigName
    excludedNodepoolName := given args.excludedNodepoolName unset.excludedNodepoolName
    shouldBeExcludedLabelKey := given args.toExcludeLabel unset.shouldBeExcludedLabelKey
    unschedulableLabelKey := given args.unschedulableLabel unset.unschedulableLabelKey
    groveTopologyAnnotation := given args.groveTopologyAnnotation unset.groveTopologyAnnotation
    groveTopologyResourceVersionAnnotation :=
      given args.groveTopologyResourceVersionAnnotation unset.groveTopologyResourceVersionAnnotation }

variable {k} {others : List (String × Flag NodePoolControllerOptions)}

theorem consumes_wanted (krmConfig : Settings) : ∃ args, nodePoolControllerArgs krmConfig =
    args ++ krmConfig.nodePoolController.extraArgs ∧ Consumes (flags ++ others) args (default k) (wanted k krmConfig) := by
  have hvalidation : ∀ b, word ("--enable-nodepool-validation-webhook=" ++ formatBool b) =
      .flag "enable-nodepool-validation-webhook" (some (formatBool b)) := by decide
  refine ⟨_, rfl, ?_⟩
  apply Consumes.to
  · -- from the last argument back: each word is read, and its flag looked up
    apply consumes_k8sClientConfig
    · rfl
    · rfl
    · exact fun _ _ => rfl
    iterate 2
      apply consumes_switchArg
      · rfl
      · rfl
    iterate 12
      apply consumes_stringArg
      · rfl
      · rfl
    apply consumes_portIf
    · rfl
    · rfl
    exact .string rfl rfl (.string rfl rfl (.bool (hvalidation _) rfl (.string rfl rfl (.nil _))))
    all_goals rfl
  · rfl

end NodePoolControllerOptions

/-! ## The pod-group assigner -/

structure PodGroupAssignerOptions where
  useDebugLogLevel : Bool := false
  certDir : String := "/etc/webhook/certs"
  webhookPort : Int := 8443
  enableProfiler : Bool := false
  profilerApiPort : String := "8182"
  k8sClientConfigQPS : Int := 50
  k8sClientConfigBurst : Int := 300
  enableLeaderElection : Bool := false
  enablePodWebhook : Bool := true
  nodePoolLabelKey : String
  queueLabelKey : String
  namespaceProjectLabelKey : String
  projectLabelKey : String
  unexistingNodepoolSentinel : String := "kai-unexisting-node-pool"
  defaultNodepoolName : String
  annotationNodepoolsKey : String := "kai.scheduler/node-pools"
  enforceSchedulerAnnotationKey : String := "kai.resources/enforce-scheduler-name"
  schedulerName : String
  allowExternalQueues : Bool := false

namespace PodGroupAssignerOptions

def default : PodGroupAssignerOptions where
  nodePoolLabelKey := k.defaultNodePoolLabelKey
  queueLabelKey := k.defaultQueueLabel
  namespaceProjectLabelKey := k.namespaceProjectLabelKey
  projectLabelKey := k.projectLabelKey
  defaultNodepoolName := k.defaultNodePoolName
  schedulerName := k.defaultSchedulerName

/-- The flags of `init` and `AddLabelFlags`. -/
def flags : List (String × Flag PodGroupAssignerOptions) :=
  [("debug", boolVar (.mk useDebugLogLevel fun v o => { o with useDebugLogLevel := v })),
    ("nodepool-label-key", stringVar (.mk nodePoolLabelKey fun v o => { o with nodePoolLabelKey := v })),
    ("queue-label-key", stringVar (.mk queueLabelKey fun v o => { o with queueLabelKey := v })),
    ("namespace-project-label-key",
      stringVar (.mk namespaceProjectLabelKey fun v o => { o with namespaceProjectLabelKey := v })),
    ("project-label-key", stringVar (.mk projectLabelKey fun v o => { o with projectLabelKey := v })),
    ("unexisting-nodepool-sentinel",
      stringVar (.mk unexistingNodepoolSentinel fun v o => { o with unexistingNodepoolSentinel := v })),
    ("default-nodepool-name", stringVar (.mk defaultNodepoolName fun v o => { o with defaultNodepoolName := v })),
    ("annotation-nodepools-key", stringVar (.mk annotationNodepoolsKey fun v o => { o with annotationNodepoolsKey := v })),
    ("enforce-scheduler-annotation-key",
      stringVar (.mk enforceSchedulerAnnotationKey fun v o => { o with enforceSchedulerAnnotationKey := v })),
    ("scheduler-name", stringVar (.mk schedulerName fun v o => { o with schedulerName := v })),
    ("allow-external-queues", boolVar (.mk allowExternalQueues fun v o => { o with allowExternalQueues := v })),
    ("cert-dir", stringVar (.mk certDir fun v o => { o with certDir := v })),
    ("webhook-port", intVar (.mk webhookPort fun v o => { o with webhookPort := v })),
    ("enable-profiling", boolVar (.mk enableProfiler fun v o => { o with enableProfiler := v })),
    ("profiler-api-port", stringVar (.mk profilerApiPort fun v o => { o with profilerApiPort := v })),
    ("qps", intVar (.mk k8sClientConfigQPS fun v o => { o with k8sClientConfigQPS := v })),
    ("burst", intVar (.mk k8sClientConfigBurst fun v o => { o with k8sClientConfigBurst := v })),
    ("leader-elect", boolVar (.mk enableLeaderElection fun v o => { o with enableLeaderElection := v })),
    ("enable-pod-webhook", boolVar (.mk enablePodWebhook fun v o => { o with enablePodWebhook := v }))]

def wanted (krmConfig : Settings) : PodGroupAssignerOptions :=
  let config := krmConfig.podGroupAssigner
  let global := krmConfig.global
  let unset := default k
  { unset with
    useDebugLogLevel := config.args.debug.getD false
    webhookPort := config.webhookTargetPort.toInt
    k8sClientConfigQPS := K8sClientConfig.qpsOr config.k8sClientConfig unset.k8sClientConfigQPS
    k8sClientConfigBurst := K8sClientConfig.burstOr config.k8sClientConfig unset.k8sClientConfigBurst
    enableLeaderElection := leaderElect config.args.leaderElect config.replicas global
    enablePodWebhook := config.enablePodWebhook.getD true
    nodePoolLabelKey := given global.nodePoolLabelKey unset.nodePoolLabelKey
    queueLabelKey := given global.queueLabelKey unset.queueLabelKey
    namespaceProjectLabelKey := given global.namespaceProjectLabelKey unset.namespaceProjectLabelKey
    projectLabelKey := given global.projectLabelKey unset.projectLabelKey
    unexistingNodepoolSentinel := given config.args.unexistingNodepoolSentinel unset.unexistingNodepoolSentinel
    defaultNodepoolName := given (some global.defaultNodePoolName) unset.defaultNodepoolName
    annotationNodepoolsKey := given config.args.annotationNodepoolsKey unset.annotationNodepoolsKey
    enforceSchedulerAnnotationKey := given global.enforceSchedulerAnnotationKey unset.enforceSchedulerAnnotationKey
    schedulerName := given global.schedulerName unset.schedulerName
    allowExternalQueues := global.allowExternalQueues.getD false }

variable {k} {others : List (String × Flag PodGroupAssignerOptions)}

theorem consumes_wanted (krmConfig : Settings) : ∃ args, podGroupAssignerArgs krmConfig =
    args ++ krmConfig.podGroupAssigner.extraArgs ∧ Consumes (flags ++ others) args (default k) (wanted k krmConfig) := by
  have hwebhook : ∀ b, word ("--enable-pod-webhook=" ++ formatBool b) =
      .flag "enable-pod-webhook" (some (formatBool b)) := by decide
  refine ⟨_, rfl, ?_⟩
  apply Consumes.to
  · apply consumes_k8sClientConfig
    · rfl
    · rfl
    · exact fun _ _ => rfl
    iterate 2
      apply consumes_switchArg
      · rfl
      · rfl
    iterate 2
      apply consumes_stringArg
      · rfl
      · rfl
    apply consumes_switchArg
    · rfl
    · rfl
    iterate 7
      apply consumes_stringArg
      · rfl
      · rfl
    exact .int32 rfl rfl (.bool (hwebhook _) rfl (.nil _))
    all_goals rfl
  · rfl

end PodGroupAssignerOptions

/-! ## The project controller -/

structure ProjectControllerOptions where
  metricsPort : String := "9400"
  enableLeaderElection : Bool := false
  createNamespaces : Bool := false
  createRoleBindings : Bool := false
  debug : Bool := false
  roleBindingsCm : String := ""
  roleBindingsCmNamespace : String := ""
  limitRange : Bool := false
  isOpenshift : Bool := false
  limitRangeName : String := "kai-limit-range"
  gvkDeleteBlockersNamespace : String := ""
  nodePoolLabelKey : String
  defaultNodepoolName : String
  queueLabelKey : String
  namespaceProjectLabelKey : String
  projectLabelKey : String
  projectIdLabelKey : String := "kai.resources/project-id"
  queueDepartmentNameLabelKey : String := "kai.resources/department-name"
  namespaceVersionLabelKey : String := "kai.resources/namespace-version"
  enforceSchedulerAnnotationKey : String := "kai.resources/enforce-scheduler-name"
  finalizerDomain : String := "kai.resources"
  installNamespace : String := ""
  projectNamePrefix : String := "kai"
  resourceManualOverrideLabelKey : String := "kai.resources/resource-manual-override"
  allowExternalQueues : Bool := false
  enableProjectValidationWebhook : Bool := true
  enableDepartmentValidationWebhook : Bool := true
  webhookPort : Int := 8443
  webhookCertDir : String := "/etc/webhook/certs"
  enableProfiler : Bool := false
  profilerApiPort : String := "8182"
  k8sClientConfigQPS : Int := 50
  k8sClientConfigBurst : Int := 300

namespace ProjectControllerOptions

def default : ProjectControllerOptions where
  nodePoolLabelKey := k.defaultNodePoolLabelKey
  defaultNodepoolName := k.defaultNodePoolName
  queueLabelKey := k.defaultQueueLabel
  namespaceProjectLabelKey := k.namespaceProjectLabelKey
  projectLabelKey := k.projectLabelKey

/-- The flags of `parseCommandLineArgs`. -/
def flags : List (String × Flag ProjectControllerOptions) :=
  [("metrics-port", stringVar (.mk metricsPort fun v o => { o with metricsPort := v })),
    ("leader-elect", boolVar (.mk enableLeaderElection fun v o => { o with enableLeaderElection := v })),
    ("namespaces", boolVar (.mk createNamespaces fun v o => { o with createNamespaces := v })),
    ("role-bindings", boolVar (.mk createRoleBindings fun v o => { o with createRoleBindings := v })),
    ("debug", boolVar (.mk debug fun v o => { o with debug := v })),
    ("rolebindings-configmap-name", stringVar (.mk roleBindingsCm fun v o => { o with roleBindingsCm := v })),
    ("rolebindings-configmap-namespace",
      stringVar (.mk roleBindingsCmNamespace fun v o => { o with roleBindingsCmNamespace := v })),
    ("limit-range", boolVar (.mk limitRange fun v o => { o with limitRange := v })),
    ("openshift", boolVar (.mk isOpenshift fun v o => { o with isOpenshift := v })),
    ("limit-range-name", stringVar (.mk limitRangeName fun v o => { o with limitRangeName := v })),
    ("project-delete-blockers-namespace",
      stringVar (.mk gvkDeleteBlockersNamespace fun v o => { o with gvkDeleteBlockersNamespace := v })),
    ("nodepool-label-key", stringVar (.mk nodePoolLabelKey fun v o => { o with nodePoolLabelKey := v })),
    ("default-nodepool-name", stringVar (.mk defaultNodepoolName fun v o => { o with defaultNodepoolName := v })),
    ("queue-label-key", stringVar (.mk queueLabelKey fun v o => { o with queueLabelKey := v })),
    ("namespace-project-label-key",
      stringVar (.mk namespaceProjectLabelKey fun v o => { o with namespaceProjectLabelKey := v })),
    ("project-label-key", stringVar (.mk projectLabelKey fun v o => { o with projectLabelKey := v })),
    ("project-id-label-key", stringVar (.mk projectIdLabelKey fun v o => { o with projectIdLabelKey := v })),
    ("queue-department-name-label-key",
      stringVar (.mk queueDepartmentNameLabelKey fun v o => { o with queueDepartmentNameLabelKey := v })),
    ("namespace-version-label-key",
      stringVar (.mk namespaceVersionLabelKey fun v o => { o with namespaceVersionLabelKey := v })),
    ("enforce-scheduler-annotation-key",
      stringVar (.mk enforceSchedulerAnnotationKey fun v o => { o with enforceSchedulerAnnotationKey := v })),
    ("finalizer-domain", stringVar (.mk finalizerDomain fun v o => { o with finalizerDomain := v })),
    ("install-namespace", stringVar (.mk installNamespace fun v o => { o with installNamespace := v })),
    ("project-name-prefix", stringVar (.mk projectNamePrefix fun v o => { o with projectNamePrefix := v })),
    ("resource-manual-override-label-key",
      stringVar (.mk resourceManualOverrideLabelKey fun v o => { o with resourceManualOverrideLabelKey := v })),
    ("allow-external-queues", boolVar (.mk allowExternalQueues fun v o => { o with allowExternalQueues := v })),
    ("enable-project-validation-webhook",
      boolVar (.mk enableProjectValidationWebhook fun v o => { o with enableProjectValidationWebhook := v })),
    ("enable-department-validation-webhook",
      boolVar (.mk enableDepartmentValidationWebhook fun v o => { o with enableDepartmentValidationWebhook := v })),
    ("webhook-port", intVar (.mk webhookPort fun v o => { o with webhookPort := v })),
    ("cert-dir", stringVar (.mk webhookCertDir fun v o => { o with webhookCertDir := v })),
    ("enable-profiling", boolVar (.mk enableProfiler fun v o => { o with enableProfiler := v })),
    ("profiler-api-port", stringVar (.mk profilerApiPort fun v o => { o with profilerApiPort := v })),
    ("qps", intVar (.mk k8sClientConfigQPS fun v o => { o with k8sClientConfigQPS := v })),
    ("burst", intVar (.mk k8sClientConfigBurst fun v o => { o with k8sClientConfigBurst := v }))]

def wanted (krmConfig : Settings) : ProjectControllerOptions :=
  let config := krmConfig.projectController
  let args := config.args
  let global := krmConfig.global
  let unset := default k
  { unset with
    metricsPort := toString config.metricsTargetPort.toInt
    enableLeaderElection := leaderElect args.leaderElect config.replicas global
    createNamespaces := config.createNamespaces.getD false
    createRoleBindings := config.createRoleBindings.getD false
    debug := args.debug.getD false
    roleBindingsCm := roleBindingsConfigMapNameFor config.roleBindingsConfigMapName
    roleBindingsCmNamespace := krmConfig.namespaceName
    limitRange := config.limitRange.getD false
    isOpenshift := global.openshift.getD false
    limitRangeName := given args.limitRangeName unset.limitRangeName
    gvkDeleteBlockersNamespace := krmConfig.namespaceName
    nodePoolLabelKey := given global.nodePoolLabelKey unset.nodePoolLabelKey
    defaultNodepoolName := global.defaultNodePoolName
    queueLabelKey := given global.queueLabelKey unset.queueLabelKey
    namespaceProjectLabelKey := given global.namespaceProjectLabelKey unset.namespaceProjectLabelKey
    projectLabelKey := given global.projectLabelKey unset.projectLabelKey
    projectIdLabelKey := given args.projectIDLabelKey unset.projectIdLabelKey
    queueDepartmentNameLabelKey := given args.queueDepartmentNameLabelKey unset.queueDepartmentNameLabelKey
    namespaceVersionLabelKey := given args.namespaceVersionLabelKey unset.namespaceVersionLabelKey
    enforceSchedulerAnnotationKey := given global.enforceSchedulerAnnotationKey unset.enforceSchedulerAnnotationKey
    finalizerDomain := given global.finalizerDomain unset.finalizerDomain
    installNamespace := krmConfig.namespaceName
    projectNamePrefix := given args.projectNamePrefix unset.projectNamePrefix
    resourceManualOverrideLabelKey :=
      given args.resourceManualOverrideLabelKey unset.resourceManualOverrideLabelKey
    allowExternalQueues := global.allowExternalQueues.getD false
    enableProjectValidationWebhook := config.enableProjectValidation.getD true
    enableDepartmentValidationWebhook := config.enableDepartmentValidation.getD true
    webhookPort :=
      if webhooksEnabled config.enableProjectValidation config.enableDepartmentValidation global.allowExternalQueues then
        config.webhookTargetPort.toInt
      else unset.webhookPort
    enableProfiler := config.profilingEnabled.getD false
    profilerApiPort := toString config.profilingAPIPort.toInt
    k8sClientConfigQPS := K8sClientConfig.qpsOr config.k8sClientConfig unset.k8sClientConfigQPS
    k8sClientConfigBurst := K8sClientConfig.burstOr config.k8sClientConfig unset.k8sClientConfigBurst }

variable {k} {others : List (String × Flag ProjectControllerOptions)}

theorem consumes_wanted (krmConfig : Settings) : ∃ args, projectControllerArgs krmConfig =
    args ++ krmConfig.projectController.extraArgs ∧ Consumes (flags ++ others) args (default k) (wanted k krmConfig) := by
  have hproject : ∀ b, word ("--enable-project-validation-webhook=" ++ formatBool b) =
      .flag "enable-project-validation-webhook" (some (formatBool b)) := by decide
  have hdepartment : ∀ b, word ("--enable-department-validation-webhook=" ++ formatBool b) =
      .flag "enable-department-validation-webhook" (some (formatBool b)) := by decide
  refine ⟨_, rfl, ?_⟩
  apply Consumes.to
  · apply consumes_k8sClientConfig
    · rfl
    · rfl
    · exact fun _ _ => rfl
    iterate 8
      apply consumes_switchArg
      · rfl
      · rfl
    iterate 12
      apply consumes_stringArg
      · rfl
      · rfl
    apply consumes_portIf
    · rfl
    · rfl
    iterate 7
      apply Consumes.string
      · rfl
      · rfl
    exact .bool (hproject _) rfl (.bool (hdepartment _) rfl (.nil _))
    all_goals rfl
  · rfl

end ProjectControllerOptions

/-! ## All three -/

section

variable (nodePoolFlags : List (String × Flag NodePoolControllerOptions))
  (assignerFlags : List (String × Flag PodGroupAssignerOptions))
  (projectFlags : List (String × Flag ProjectControllerOptions)) (krmConfig : Settings)

/-- The controllers read their command lines as the KRMConfig says. -/
theorem controllers_read_their_settings :
    parse (NodePoolControllerOptions.flags ++ nodePoolFlags) (nodePoolControllerArgs krmConfig) (.default k) =
        parse (NodePoolControllerOptions.flags ++ nodePoolFlags) krmConfig.nodePoolController.extraArgs
          (.wanted k krmConfig) ∧
      parse (PodGroupAssignerOptions.flags ++ assignerFlags) (podGroupAssignerArgs krmConfig) (.default k) =
        parse (PodGroupAssignerOptions.flags ++ assignerFlags) krmConfig.podGroupAssigner.extraArgs
          (.wanted k krmConfig) ∧
      parse (ProjectControllerOptions.flags ++ projectFlags) (projectControllerArgs krmConfig) (.default k) =
        parse (ProjectControllerOptions.flags ++ projectFlags) krmConfig.projectController.extraArgs
          (.wanted k krmConfig) := by
  obtain ⟨nodePoolArgs, hnodePool, hnodePoolReads⟩ := NodePoolControllerOptions.consumes_wanted krmConfig
  obtain ⟨assignerArgs, hassigner, hassignerReads⟩ := PodGroupAssignerOptions.consumes_wanted krmConfig
  obtain ⟨projectArgs, hproject, hprojectReads⟩ := ProjectControllerOptions.consumes_wanted krmConfig
  rw [hnodePool, hassigner, hproject]
  exact ⟨hnodePoolReads _, hassignerReads _, hprojectReads _⟩

/-- The controllers as their command lines start them. -/
structure Running where
  nodePool : NodePoolControllerOptions
  assigner : PodGroupAssignerOptions
  project : ProjectControllerOptions
  nodePool_reads : parse (NodePoolControllerOptions.flags ++ nodePoolFlags) (nodePoolControllerArgs krmConfig)
    (.default k) = .ok (nodePool, [])
  assigner_reads : parse (PodGroupAssignerOptions.flags ++ assignerFlags) (podGroupAssignerArgs krmConfig)
    (.default k) = .ok (assigner, [])
  project_reads : parse (ProjectControllerOptions.flags ++ projectFlags) (projectControllerArgs krmConfig)
    (.default k) = .ok (project, [])

/-- No arguments besides those that the operator builds. -/
structure Settings.Plain (krmConfig : Settings) : Prop where
  nodePool : krmConfig.nodePoolController.extraArgs = []
  assigner : krmConfig.podGroupAssigner.extraArgs = []
  project : krmConfig.projectController.extraArgs = []

variable {k nodePoolFlags assignerFlags projectFlags krmConfig}

theorem parse_plain {γ : Type} {formal : List (String × Flag γ)} {args extra : List String} {g g' : γ}
    (h : ∃ built, args = built ++ extra ∧ Consumes formal built g g') (hextra : extra = []) :
    parse formal args g = .ok (g', []) := by
  obtain ⟨built, rfl, hreads⟩ := h
  rw [hextra, hreads]
  rfl

def Running.wanted (h : krmConfig.Plain) : Running k nodePoolFlags assignerFlags projectFlags krmConfig where
  nodePool := .wanted k krmConfig
  assigner := .wanted k krmConfig
  project := .wanted k krmConfig
  nodePool_reads := parse_plain (NodePoolControllerOptions.consumes_wanted krmConfig) h.nodePool
  assigner_reads := parse_plain (PodGroupAssignerOptions.consumes_wanted krmConfig) h.assigner
  project_reads := parse_plain (ProjectControllerOptions.consumes_wanted krmConfig) h.project

variable (r : Running k nodePoolFlags assignerFlags projectFlags krmConfig)

theorem Running.unique : ∀ r r' : Running k nodePoolFlags assignerFlags projectFlags krmConfig, r = r'
  | ⟨_, _, _, hn, ha, hp⟩, ⟨_, _, _, hn', ha', hp'⟩ => by
    cases hn.symm.trans hn'
    cases ha.symm.trans ha'
    cases hp.symm.trans hp'
    rfl

/-- What one controller writes and another one reads is called the same. -/
structure Running.Agree : Prop where
  nodePoolLabelKey : r.nodePool.nodePoolNameLabel = r.project.nodePoolLabelKey ∧
    r.assigner.nodePoolLabelKey = r.project.nodePoolLabelKey
  queueLabelKey : r.assigner.queueLabelKey = r.project.queueLabelKey
  namespaceProjectLabelKey : r.assigner.namespaceProjectLabelKey = r.project.namespaceProjectLabelKey
  projectLabelKey : r.assigner.projectLabelKey = r.project.projectLabelKey
  enforceSchedulerAnnotationKey : r.assigner.enforceSchedulerAnnotationKey = r.project.enforceSchedulerAnnotationKey
  allowExternalQueues : r.assigner.allowExternalQueues = r.project.allowExternalQueues
  schedulerName : r.nodePool.schedulerName = r.assigner.schedulerName
  defaultNodepoolName : r.nodePool.defaultNodepoolName = r.project.defaultNodepoolName

/-- The controllers agree, an empty name of the default NodePool apart. -/
theorem controllers_agree (h : krmConfig.Plain) :
    r.Agree ∧ (r.assigner.defaultNodepoolName = r.project.defaultNodepoolName ↔
      krmConfig.global.defaultNodePoolName ≠ "" ∨ k.defaultNodePoolName = "") := by
  rw [r.unique (.wanted h)]
  refine ⟨⟨⟨rfl, rfl⟩, rfl, rfl, rfl, rfl, rfl, rfl, rfl⟩, ?_⟩
  show given (some krmConfig.global.defaultNodePoolName) k.defaultNodePoolName = krmConfig.global.defaultNodePoolName ↔ _
  by_cases hname : krmConfig.global.defaultNodePoolName = ""
  · simp [given, hname]
  · simp [given, hname]

end

theorem empty_default_name_not_shared :
    let r : Running { (default : KaiConstants) with defaultNodePoolName := "default" } [] [] [] default :=
      .wanted ⟨rfl, rfl, rfl⟩
    r.Agree ∧ r.assigner.defaultNodepoolName ≠ r.project.defaultNodepoolName := by
  -- With an empty name, the assigner alone uses the default NodePool's usual name.
  intro r
  obtain ⟨hagree, hname⟩ := controllers_agree r ⟨rfl, rfl, rfl⟩
  exact ⟨hagree, fun heq => absurd (hname.1 heq) (by decide)⟩

end Krm.Operator
