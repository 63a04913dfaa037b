import Krm.Operator.Objects

/-! # The services that the operator installs -/

namespace Krm.Operator

structure ServiceSpec (γ : Type) where
  enabled : Bool
  vpa : Option γ

structure ServiceMonitorSpec where
  enabled : Bool
  accounting : Bool

/-- What decides a service's objects; `σ` is the builders' part. -/
structure InstallSpec (σ γ : Type) where
  nodePoolController : ServiceSpec γ
  projectController : ServiceSpec γ
  podGroupAssigner : ServiceSpec γ
  roleBindingsConfigMapName : Option String
  serviceMonitor : Option ServiceMonitorSpec
  rest : σ

def roleBindingsConfigMapName : String := "project-controller-rolebindings-plugin"

def roleBindingsConfigMapNameFor (configured : Option String) : String :=
  match configured with
  | none => roleBindingsConfigMapName
  | some name => if name ≠ "" then name else roleBindingsConfigMapName

/-- The Queue webhook is served whenever external queues are allowed. -/
def webhooksEnabled (enableProjectValidation enableDepartmentValidation allowExternalQueues : Option Bool) : Bool :=
  enableProjectValidation.getD true || enableDepartmentValidation.getD true || allowExternalQueues.getD false

section

variable {σ γ : Type}

namespace InstallSpec

def monitored (spec : InstallSpec σ γ) : Bool := spec.serviceMonitor.any ServiceMonitorSpec.enabled

def accounted (spec : InstallSpec σ γ) : Bool := spec.serviceMonitor.any ServiceMonitorSpec.accounting

end InstallSpec

-- What each service makes of the contents of an object of a kind and a name.
variable (builder : Kind → String → InstallSpec σ γ → Contents γ → Contents γ)

def resourceFunc (kind : Kind) (name : InstallSpec σ γ → Option String) : ResourceFunc (InstallSpec σ γ) γ where
  kind := kind
  name := name
  fill := fun spec contents => ((name spec).map fun name => builder kind name spec contents).getD contents

def nodePoolController : Operand (InstallSpec σ γ) γ where
  name := "NodePoolController"
  enabled := fun spec => spec.nodePoolController.enabled
  resourceFuncs := [
    resourceFunc builder .serviceAccount fun _ => some "nodepool-controller",
    resourceFunc builder .deployment fun _ => some "nodepool-controller",
    resourceFunc builder .service fun _ => some "nodepool-controller",
    resourceFunc builder .serviceMonitor fun spec => if spec.monitored then some "nodepool-controller" else none,
    resourceFunc builder .serviceMonitor fun spec =>
      if spec.accounted && spec.monitored then some "nodepool-controller-accounting" else none]
  vpa := fun spec => spec.nodePoolController.vpa
  requirements := [⟨"schedulingshards.kai.scheduler", "v1"⟩, ⟨"topologies.kai.scheduler", "v1alpha1"⟩,
    ⟨"podgroups.scheduling.run.ai", "v2alpha2"⟩]

def projectController : Operand (InstallSpec σ γ) γ where
  name := "ProjectController"
  enabled := fun spec => spec.projectController.enabled
  resourceFuncs := [
    resourceFunc builder .serviceAccount fun _ => some "project-controller",
    resourceFunc builder .configMap fun spec => some (roleBindingsConfigMapNameFor spec.roleBindingsConfigMapName),
    resourceFunc builder .configMap fun _ => some "project-delete-blockers",
    resourceFunc builder .deployment fun _ => some "project-controller",
    resourceFunc builder .service fun _ => some "project-controller",
    resourceFunc builder .serviceMonitor fun spec => if spec.monitored then some "project-controller" else none]
  vpa := fun spec => spec.projectController.vpa
  requirements := [⟨"queues.scheduling.run.ai", "v2"⟩]

def podGroupAssigner : Operand (InstallSpec σ γ) γ where
  name := "PodGroupAssigner"
  enabled := fun spec => spec.podGroupAssigner.enabled
  resourceFuncs := [
    resourceFunc builder .serviceAccount fun _ => some "pod-group-assigner",
    resourceFunc builder .deployment fun _ => some "pod-group-assigner",
    resourceFunc builder .service fun _ => some "pod-group-assigner"]
  vpa := fun spec => spec.podGroupAssigner.vpa
  requirements := [⟨"queues.scheduling.run.ai", "v2"⟩, ⟨"podgroups.scheduling.run.ai", "v2alpha2"⟩,
    ⟨"topologies.kai.scheduler", "v1alpha1"⟩]

def krmConfigReconcilerOperands : List (Operand (InstallSpec σ γ) γ) :=
  [nodePoolController builder, projectController builder, podGroupAssigner builder]

/-- Each service as the operator starts. -/
def freshOperands : List (Installed (InstallSpec σ γ) γ) :=
  (krmConfigReconcilerOperands builder).map fun operand => ⟨operand, []⟩

end

end Krm.Operator
