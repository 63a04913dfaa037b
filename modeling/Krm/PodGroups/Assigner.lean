import Krm.Nodes.NodeHandler
import Krm.PodGroups.Params

/-! # One run of the pod-group assigner

The pod group in hand is the stored one: reads are fresh, and a patch answers with what is stored after it. -/

open Krm.Lib

namespace Krm.PodGroups

def podGroupAnnotationForPod : String := "pod-group-name"
def topologySourceAnnotationKey : String := "topology.kai/source"
def topologySourceSystem : String := "system"

def getPodGroupNamespacedName (podGroup : PodGroup) : String := podGroup.namespaceName ++ "/" ++ podGroup.name

section

variable (cfg : PodGroupAssignerConfig)

def getAssignedNodePool (podGroup : PodGroup) : String :=
  getNodePoolNameFromLabels podGroup.labels cfg.nodePoolLabelKey cfg.defaultNodepoolName

/-- The check by which the scheduler takes a pod group up. -/
def isPodGroupUpForScheduler (podGroup : PodGroup) : Bool :=
  if getSchedulingBackoffValue podGroup.schedulingBackoff = noSchedulingBackoff then true
  else
    match getLastSchedulingCondition podGroup with
    | none => true
    | some last => last.nodePool ≠ getAssignedNodePool cfg podGroup

variable (c : Cluster)

/-! ## Projects and queues -/

def isExternalNamespace (name : String) : Except RunError Bool :=
  if !cfg.allowExternalQueues then .ok false
  else
    match c.getNamespace .externalNamespace name with
    | .error e => if e.isNotFound then .ok true else .error (.wrapped ("failed to get namespace <" ++ name ++ ">: ") e "")
    | .ok namespaceObj =>
      let projectName := namespaceObj.labels.value cfg.namespaceProjectLabelKey
      if projectName = "" then .ok true
      else
        match c.getProject .externalProject projectName with
        | .error e =>
          if e.isNotFound then .ok true
          else .error (.wrapped ("failed to get project <" ++ projectName ++ "> of namespace <" ++ name ++ ">: ") e "")
        | .ok _ => .ok false

def getProjectNameOfNamespace (name : String) : Except RunError String :=
  match c.getNamespace .projectNamespace name with
  | .error e => .error (.wrapped ("failed to get namespace <" ++ name ++ ">, error: ") e "")
  | .ok namespaceObj =>
    match namespaceObj.labels.lookup cfg.namespaceProjectLabelKey with
    | some projectName => .ok projectName
    | none => .error (.message ("can't find project label for namespace <" ++ name ++ ">"))

def newRequirement (key : String) (op : Operator) (values : List String) : Except RunError Requirement :=
  match Nodes.newRequirement key op values with
  | .ok r => .ok r
  | .error e => .error (.api e)

def createRequirementsForQueuesList (projectName nodepoolName : String) : Except RunError Selector :=
  if projectName = "" ∨ nodepoolName = "" then
    .error (.message ("wrong params for createRequirementsForQueuesList - projectName " ++ projectName ++
      ", nodepoolName " ++ nodepoolName))
  else do
    let projectNameRequirement ← newRequirement cfg.projectLabelKey .doubleEquals [projectName]
    let nodePoolRequirement ←
      if nodepoolName = cfg.defaultNodepoolName then newRequirement cfg.nodePoolLabelKey .doesNotExist []
      else newRequirement cfg.nodePoolLabelKey .doubleEquals [nodepoolName]
    .ok [projectNameRequirement, nodePoolRequirement]

def ownedByProjectOrDepartment (queues : List Queue) : List Queue :=
  queues.filter fun queue => queue.ownerReferences.any fun owner => owner.kind = projectKind || owner.kind = departmentKind

def getExistingQueueByLabels (projectName nodePoolName : String) : Except RunError Queue := do
  let labelSelector ← createRequirementsForQueuesList cfg projectName nodePoolName
  let queues ← c.attempt .queues (.ok (c.queues.filter fun queue => labelSelector.Matches queue.labels))
  let queues := if cfg.allowExternalQueues then ownedByProjectOrDepartment queues else queues
  match queues with
  | [] => .error (.api (.notFound (projectName ++ "/" ++ nodePoolName)))
  | queue :: _ => .ok queue

def getQueueNameOfNodePool (projectName nodePoolName : String) : Except RunError String := do
  let queue ← getExistingQueueByLabels cfg c projectName nodePoolName
  .ok queue.name

def calculatePodGroupQueueNameOfNodePool (podGroup : PodGroup) (nodePoolName : String) : Except RunError String := do
  let projectName ←
    match podGroup.labels.lookup cfg.projectLabelKey with
    | some projectName => .ok projectName
    | none =>
      match getProjectNameOfNamespace cfg c podGroup.namespaceName with
      | .ok projectName => .ok projectName
      | .error e => .error (.wrapped "" e ("; for podgroup <" ++ getPodGroupNamespacedName podGroup ++ ">"))
  getQueueNameOfNodePool cfg c projectName nodePoolName

/-! ## Network topology -/

def isTopologyConstraintEmpty (constraint : TopologyConstraint) : Bool := constraint = .empty

def isSystemSourced (podGroup : PodGroup) : Bool :=
  podGroup.annotations.value topologySourceAnnotationKey = topologySourceSystem

def getNodePoolPreferredNetworkTopologyName (nodePoolName : String) : Except RunError String := do
  let nodePool ← c.getNodePool .preferredTopology nodePoolName
  .ok nodePool.preferredNetworkTopologyName

def getNetworkTopologyLowestLevel (networkTopologyName : String) : Except RunError String := do
  let topology ← c.getTopology .topology networkTopologyName
  match topology.levels.getLast? with
  | some level => .ok level
  | none => .error (.message ("topology <" ++ networkTopologyName ++ "> has no levels"))

/-- The constraint on the node pool, and whether it is the assigner's. -/
def desiredNetworkTopology (podGroup : PodGroup) (nodePoolName : String) : Except RunError (TopologyConstraint × Bool) :=
  let previousConstraint := podGroup.topologyConstraint
  let previousSystemSourced := isSystemSourced podGroup
  if !isTopologyConstraintEmpty previousConstraint && !previousSystemSourced then .ok (previousConstraint, false)
  else do
    let networkTopologyName ← getNodePoolPreferredNetworkTopologyName c nodePoolName
    if networkTopologyName ≠ "" then
      let lowestLevel ← getNetworkTopologyLowestLevel c networkTopologyName
      .ok (⟨networkTopologyName, lowestLevel, ""⟩, true)
    else if previousSystemSourced then .ok (.empty, false)
    else .ok (previousConstraint, false)

def applyTopologyToPodGroup (podGroup : PodGroup) (constraint : TopologyConstraint) (systemSourced : Bool) : PodGroup :=
  { podGroup with
    topologyConstraint := constraint
    annotations :=
      if systemSourced then podGroup.annotations.insert topologySourceAnnotationKey topologySourceSystem
      else podGroup.annotations.erase topologySourceAnnotationKey }

/-! ## Eligibility -/

/-- Whether to act, and the last scheduling condition. -/
def isEligibleForNodePoolAssignment (podGroup : PodGroup) : Except RunError (Bool × Option SchedulingCondition) :=
  if getSchedulingBackoffValue podGroup.schedulingBackoff = noSchedulingBackoff then .ok (false, none)
  else
    match getLastSchedulingCondition podGroup with
    | none => .ok (true, none)
    | some last =>
      let currentNodePoolName := getAssignedNodePool cfg podGroup
      if last.nodePool ≠ currentNodePoolName then do
        -- The scheduler of the current node pool is at work, unless the node pool is not available.
        let isNodePoolAvailable ← isNodePoolAvailableForScheduling c .currentNodePool currentNodePoolName
        .ok (!isNodePoolAvailable, some last)
      else .ok (true, some last)

def podByPodGroupIndexer (pod : Pod) : String := pod.annotations.value podGroupAnnotationForPod

def podsOfGroup (podGroup : PodGroup) : List Pod :=
  c.pods.filter fun pod => pod.namespaceName = podGroup.namespaceName && podByPodGroupIndexer pod = podGroup.name

def getPodGroupPods (podGroup : PodGroup) : Except RunError (List Pod) := c.attempt .pods (.ok (podsOfGroup c podGroup))

def isPodBoundToNode (pod : Pod) : Bool :=
  pod.nodeName ≠ "" || pod.phase = .running || pod.phase = .succeeded || pod.phase = .failed

def isEligibleForAssignmentByPods (podGroupPods : List Pod) : Bool := podGroupPods.any fun pod => !isPodBoundToNode pod

/-! ## Assignment -/

/-- The requested node pools found before, by the pod group's UID. -/
abbrev NodePoolLists := String → Option (List String)

def getRequestedNodePoolsForPodGroup (podGroupsNodePoolList : NodePoolLists) (podGroup : PodGroup)
    (podGroupPods : List Pod) : Except RunError (List String) × NodePoolLists :=
  match podGroupsNodePoolList podGroup.uid with
  | some requestedNodePools => (.ok requestedNodePools, podGroupsNodePoolList)
  | none =>
    match getRequestedNodePoolsOfPods cfg c podGroup podGroupPods with
    | .error e => (.error e, podGroupsNodePoolList)
    | .ok requestedNodePools =>
      (.ok requestedNodePools, Function.update podGroupsNodePoolList podGroup.uid (some requestedNodePools))

structure FullNodePoolAssignmentParams extends NodePoolAssignmentParams where
  queue : String
  networkTopologyConstraint : TopologyConstraint
  networkTopologySystemSourced : Bool
deriving DecidableEq, Repr

def updateLabelsWithNodePoolAssignment (labels : Labels) (nodePoolName : String) : Labels :=
  if nodePoolName = cfg.defaultNodepoolName then labels.erase cfg.nodePoolLabelKey
  else labels.insert cfg.nodePoolLabelKey nodePoolName

def mutatePodGroupObjForAssignment (podGroup : PodGroup) (next : FullNodePoolAssignmentParams) : PodGroup :=
  applyTopologyToPodGroup
    { podGroup with
      markUnschedulable := some next.markUnschedulable
      schedulingBackoff := some next.schedulingBackoff
      queue := next.queue
      labels := updateLabelsWithNodePoolAssignment cfg (podGroup.labels.insert cfg.queueLabelKey next.queue)
        next.nodePoolName }
    next.networkTopologyConstraint next.networkTopologySystemSourced

def removeUnschedulableOnNodePoolSchedulingConditionFromStatus (podGroup : PodGroup) : Except RunError PodGroup :=
  c.attempt .patchStatus <| .ok
    { podGroup with
      schedulingConditions := podGroup.schedulingConditions.filter fun condition =>
        condition.type ≠ .unschedulableOnNodePool }

/-- What the pod group says now, in the terms of an assignment. -/
def previousParams (podGroup : PodGroup) (next : NodePoolAssignmentParams) : FullNodePoolAssignmentParams where
  nodePoolName := getAssignedNodePool cfg podGroup
  markUnschedulable := getMarkUnschedulableValue podGroup.markUnschedulable
  schedulingBackoff := getSchedulingBackoffValue podGroup.schedulingBackoff
  removeUnschedulableOnNodePoolSchedulingCondition := next.removeUnschedulableOnNodePoolSchedulingCondition
  queue := podGroup.queue
  networkTopologyConstraint := podGroup.topologyConstraint
  networkTopologySystemSourced := isSystemSourced podGroup

/-- The patch of spec and metadata, left out when it would change nothing. -/
def patchAssignment (podGroup : PodGroup) (params : NodePoolAssignmentParams) (queue : String) :
    Except RunError PodGroup := do
  let (desiredTopology, topologySystemSourced) ← desiredNetworkTopology c podGroup params.nodePoolName
  let next : FullNodePoolAssignmentParams := { params with
    queue := queue
    networkTopologyConstraint := desiredTopology
    networkTopologySystemSourced := topologySystemSourced }
  if previousParams cfg podGroup params = next then .ok podGroup
  else c.attempt .patch (.ok (mutatePodGroupObjForAssignment cfg podGroup next))

abbrev Update := Except RunError Unit × PodGroup

def Update.ofWrite (podGroup : PodGroup) : Except RunError PodGroup → Update
  | .ok after => (.ok (), after)
  | .error e => (.error e, podGroup)

/-- The status patch stays when the second patch fails. -/
def updatePodGroupWithAssignment (podGroup : PodGroup) (params : NodePoolAssignmentParams) (queue : String) : Update :=
  if params.removeUnschedulableOnNodePoolSchedulingCondition then
    match removeUnschedulableOnNodePoolSchedulingConditionFromStatus c podGroup with
    | .error e => (.error e, podGroup)
    | .ok podGroup => .ofWrite podGroup (patchAssignment cfg c podGroup params queue)
  else .ofWrite podGroup (patchAssignment cfg c podGroup params queue)

def assignToNodePool (podGroup : PodGroup) (params : NodePoolAssignmentParams) : Update :=
  match calculatePodGroupQueueNameOfNodePool cfg c podGroup params.nodePoolName with
  | .error e => (.error e, podGroup)
  | .ok podGroupQueue => updatePodGroupWithAssignment cfg c podGroup params podGroupQueue

def handleNodePoolAssignment (podGroupsNodePoolList : NodePoolLists) (podGroup : PodGroup)
    (lastSchedulingCondition : Option SchedulingCondition) (podGroupPods : List Pod) : Update × NodePoolLists :=
  match getRequestedNodePoolsForPodGroup cfg c podGroupsNodePoolList podGroup podGroupPods with
  | (.error e, lists) => ((.error e, podGroup), lists)
  | (.ok requestedNodePools, lists) =>
    match getNodePoolAssignmentParams c podGroup.markUnschedulable lastSchedulingCondition
        (getAssignedNodePool cfg podGroup) requestedNodePools with
    | .error e => ((.error e, podGroup), lists)
    | .ok params => (assignToNodePool cfg c podGroup params, lists)

/-- The pods to act for, and the last condition; none if nothing is to do. -/
def upForAssignment (podGroup : PodGroup) : Except RunError (Option (List Pod × Option SchedulingCondition)) := do
  if ← isExternalNamespace cfg c podGroup.namespaceName then return none
  let (isUpForAssignment, lastSchedulingCondition) ← isEligibleForNodePoolAssignment cfg c podGroup
  if !isUpForAssignment then return none
  let podGroupPods ← getPodGroupPods c podGroup
  if podGroupPods.isEmpty then
    throw (.message ("didn't find any pods for pod group <" ++ getPodGroupNamespacedName podGroup ++ ">"))
  if !isEligibleForAssignmentByPods podGroupPods then return none
  return some (podGroupPods, lastSchedulingCondition)

def run (podGroupsNodePoolList : NodePoolLists) (podGroup : PodGroup) : Update × NodePoolLists :=
  match upForAssignment cfg c podGroup with
  | .error e => ((.error e, podGroup), podGroupsNodePoolList)
  | .ok none => ((.ok (), podGroup), podGroupsNodePoolList)
  | .ok (some (podGroupPods, lastSchedulingCondition)) =>
    handleNodePoolAssignment cfg c podGroupsNodePoolList podGroup lastSchedulingCondition podGroupPods

end

end Krm.PodGroups
