import Krm.Lib.Flags
import Krm.PodGroups.Assigner

/-! # The webhook that mutates pods when they are created

Reads are of the cluster that the assigner works in. The errors that the webhook only logs are left out of its results. -/

open Krm.Lib

namespace Krm.PodGroups

structure PodMutatorConfig extends PodGroupAssignerConfig where
  enforceSchedulerAnnotationKey : String
  schedulerName : String
  /-- The pod grouper's label of a pod's project. -/
  podProjectLabelKey : String

structure SubmittedPod extends Pod where
  labels : Labels
  schedulerName : String
deriving DecidableEq

/-- The calls of one request, each by its place in the code. -/
inductive MutatorCall where
  | enforcementNamespace
  | labelNamespace
  | affinityNamespace
  | project
  | nodePoolsMapping
  | nodePoolFields (name : String)
deriving DecidableEq, Repr

structure PodMutator where
  config : PodMutatorConfig
  cluster : Cluster
  namespaceAnnotations : String → Labels
  defaultNodePools : String → List String
  fault : MutatorCall → Option String

namespace PodMutator

/-- The cluster, as one call finds it. -/
def reading (pm : PodMutator) (call : MutatorCall) : Cluster := { pm.cluster with fault := fun _ => pm.fault call }

variable (pm : PodMutator)

/-! ## The scheduler and the project's label -/

def isSchedulerEnforcedForNamespace (namespaceName : String) : Except RunError Bool :=
  match (pm.reading .enforcementNamespace).getNamespace .projectNamespace namespaceName with
  | .error e => .error (.wrapped ("failed to get namespace <" ++ namespaceName ++ ">, error: ") e "")
  | .ok _ =>
    match (pm.namespaceAnnotations namespaceName).lookup pm.config.enforceSchedulerAnnotationKey with
    | none => .ok false
    | some enforce => .ok ((parseBool enforce).getD false)

def mutateSchedulerName (pod : SubmittedPod) : SubmittedPod :=
  if pod.schedulerName = pm.config.schedulerName then pod else { pod with schedulerName := pm.config.schedulerName }

def mutateProjectNameLabel (pod : SubmittedPod) (name : String) : SubmittedPod :=
  match pod.labels.lookup pm.config.podProjectLabelKey with
  | some _ => pod
  | none =>
    match getProjectNameOfNamespace pm.config.toPodGroupAssignerConfig (pm.reading .labelNamespace) name with
    | .error _ => pod
    | .ok projectName => { pod with labels := pod.labels.insert pm.config.podProjectLabelKey projectName }

/-! ## Node affinity -/

/-- The required terms; a missing affinity or selector has none. -/
def nodeSelectorTerms (affinity : Option Affinity) : List NodeSelectorTerm :=
  ((affinity.bind Affinity.nodeAffinity).bind NodeAffinity.requiredDuringSchedulingIgnoredDuringExecution).getD []

/-- Replaces the expressions on its key in every term, or makes a term. -/
def addNodeAffinityToPodSpec (affinity : Option Affinity) (matchExpressionsToAdd : List NodeSelectorRequirement) :
    Affinity :=
  let terms := nodeSelectorTerms affinity
  let updatedTerms :=
    if terms.isEmpty then matchExpressionsToAdd.map fun matchExpressionToAdd => ⟨[matchExpressionToAdd], []⟩
    else
      matchExpressionsToAdd.flatMap fun matchExpressionToAdd =>
        terms.map fun term =>
          { term with
            matchExpressions :=
              term.matchExpressions.filter (fun expr => expr.key ≠ matchExpressionToAdd.key) ++ [matchExpressionToAdd] }
  ⟨some ⟨some (if updatedTerms.isEmpty then terms else updatedTerms)⟩⟩

def createMatchExpressionForNodePool (nodePoolName : String) : Except RunError (Option NodeSelectorRequirement) :=
  if nodePoolName = pm.config.defaultNodepoolName then .ok (some ⟨pm.config.nodePoolLabelKey, .doesNotExist, []⟩)
  else
    match (pm.reading (.nodePoolFields nodePoolName)).getNodePool .currentNodePool nodePoolName with
    | .error e => if e.isNotFound then .error (.message ("node pool " ++ nodePoolName ++ " does not exist")) else .error e
    | .ok nodePool =>
      if nodePool.phase = .deleting then .ok none
      else .ok (some ⟨nodePool.labelKey, .in, [nodePool.labelValue]⟩)

def setNodeAffinityForNodePools (pod : SubmittedPod) (nodePoolsNames : List String) : Except RunError SubmittedPod := do
  let matchExpressionsToAdd ← nodePoolsNames.mapM pm.createMatchExpressionForNodePool
  if matchExpressionsToAdd.reduceOption.isEmpty then .ok pod
  else .ok { pod with affinity := some (addNodeAffinityToPodSpec pod.affinity matchExpressionsToAdd.reduceOption) }

def getNodePoolsMapping : Except RunError (List (String × String)) := do
  let nodePools ← (pm.reading .nodePoolsMapping).attempt .affinityNodePools (.ok pm.cluster.nodePools.items)
  .ok ((nodePools.filter fun nodePool => nodePool.name ≠ pm.config.defaultNodepoolName).map fun nodePool =>
    (nodePool.labelKey, nodePool.labelValue))

def hasNodePoolInNodeAffinity (terms : List NodeSelectorTerm) (nodePoolsMapping : List (String × String)) : Bool :=
  terms.any fun term => term.matchExpressions.any fun matchExpression =>
    if matchExpression.operator ≠ .in then
      matchExpression.operator = .doesNotExist && matchExpression.key = pm.config.nodePoolLabelKey
    else matchExpression.values.any fun value => (matchExpression.key, value) ∈ nodePoolsMapping

def hasNodePoolInPodsNodeAffinity (pod : SubmittedPod) : Except RunError Bool :=
  let terms := nodeSelectorTerms pod.affinity
  if terms.isEmpty then .ok false
  else do
    let nodePoolsMapping ← pm.getNodePoolsMapping
    .ok (pm.hasNodePoolInNodeAffinity terms nodePoolsMapping)

/-- A pod's label wins over the defaults. A failure leaves the pod. -/
def mutateNodeAffinityForDefaultNodePools (pod : SubmittedPod) (name : String) : SubmittedPod :=
  match getProjectNameOfNamespace pm.config.toPodGroupAssignerConfig (pm.reading .affinityNamespace) name with
  | .error _ => pod
  | .ok projectName =>
    match pod.labels.lookup pm.config.nodePoolLabelKey with
    | some nodePoolName => (pm.setNodeAffinityForNodePools pod [nodePoolName]).toOption.getD pod
    | none =>
      match (pm.reading .project).getProject .externalProject projectName with
      | .error _ => pod
      | .ok _ =>
        let defaultNodePools := pm.defaultNodePools projectName
        if defaultNodePools.isEmpty then pod
        else
          match pm.hasNodePoolInPodsNodeAffinity pod with
          | .error _ => pod
          | .ok true => pod
          | .ok false => (pm.setNodeAffinityForNodePools pod defaultNodePools).toOption.getD pod

/-! ## A request -/

inductive Response where
  | errored (e : RunError)
  | allowed (reason : String)
  | patched (pod : SubmittedPod)

def mutate (pod : SubmittedPod) (name : String) : SubmittedPod :=
  pm.mutateNodeAffinityForDefaultNodePools (pm.mutateProjectNameLabel (pm.mutateSchedulerName pod) name) name

/-- The request's namespace goes before the pod's own. -/
def handle (requestNamespace : String) (pod : SubmittedPod) : Response :=
  let name := if requestNamespace = "" then pod.namespaceName else requestNamespace
  if pod.schedulerName = pm.config.schedulerName then .patched (pm.mutate pod name)
  else
    match pm.isSchedulerEnforcedForNamespace name with
    | .error e => .errored e
    | .ok false => .allowed "pod is not managed by the resource-management package"
    | .ok true => .patched (pm.mutate pod name)

end PodMutator

end Krm.PodGroups
