import Krm.Nodes.Managed
import Mathlib.Data.List.Sort

/-! # The status of a NodePool, and what its reconcile writes on the nodes apart from label and cordon -/

open Krm.Lib

namespace Krm.Nodes

/-! ## Annotations and conditions of nodes -/

inductive ConditionStatus where
  | isTrue
  | isFalse
  | unknown
deriving DecidableEq, Repr

structure NodeCondition where
  type : String
  status : ConditionStatus
  reason : String
  message : String
deriving DecidableEq, Repr

/-- What a node carries besides its labels and its cordon. -/
structure NodeDetails where
  annotations : Labels
  conditions : List NodeCondition

abbrev Details := String → NodeDetails

structure NodeResourceTopology where
  zoneTypes : List String
  attributes : List (String × String)
deriving DecidableEq, Repr

def findNodeCondition (conditions : List NodeCondition) (type : String) : Option NodeCondition :=
  conditions.find? fun condition => condition.type = type

def isNodeReady (node : Node) (conditions : List NodeCondition) : Bool :=
  !node.unschedulable && conditions.any fun condition => condition.status = .isTrue && condition.type = "Ready"

/-! ## Node pools -/

inductive NodeInNodePoolStatus where
  | ready
  | unschedulable
  | missingNrtHealthyPrerequisite
deriving DecidableEq, Repr

structure NodeInNodePool where
  name : String
  status : NodeInNodePoolStatus
  topologyMismatch : Bool
deriving DecidableEq, Repr

inductive NodePoolConditionType where
  | nodeTopologyMismatch
  | missingNrtHealthyPrerequisite
  | projectReferencesExist
deriving DecidableEq, Repr

structure NodePoolCondition where
  type : NodePoolConditionType
  status : Bool
  message : String
deriving DecidableEq, Repr

structure NodePoolStatus where
  phase : NodePoolPhase
  message : String
  nodes : List NodeInNodePool
  conditions : List NodePoolCondition
deriving DecidableEq, Repr

/-- A stored NodePool; the phase is that of `NodePool`. -/
structure StoredNodePool extends NodePool where
  annotations : Labels
  numaEnabled : Option Bool
  preferredNetworkTopologyName : String
  message : String
  nodes : List NodeInNodePool
  conditions : List NodePoolCondition

namespace StoredNodePool

def status (nodePool : StoredNodePool) : NodePoolStatus :=
  ⟨nodePool.phase, nodePool.message, nodePool.nodes, nodePool.conditions⟩

def withStatus (nodePool : StoredNodePool) (status : NodePoolStatus) : StoredNodePool :=
  { nodePool with
    phase := status.phase, message := status.message, nodes := status.nodes, conditions := status.conditions }

def withFinalizers (nodePool : StoredNodePool) (finalizers : List String) : StoredNodePool :=
  { nodePool with finalizers := finalizers }

@[simp] theorem withFinalizers_name (nodePool : StoredNodePool) (finalizers : List String) :
    (nodePool.withFinalizers finalizers).name = nodePool.name := rfl

end StoredNodePool

/-- A false condition is updated, not added. -/
def setNodePoolCondition (conditions : List NodePoolCondition) (condition : NodePoolCondition) :
    List NodePoolCondition :=
  if conditions.any (fun c => c.type = condition.type) then
    conditions.map fun c => if c.type = condition.type then condition else c
  else if condition.status then conditions ++ [condition]
  else conditions

/-! ## What else a reconcile reads -/

inductive PoolCall where
  | getNodePool
  | getNodeResourceTopology (node : String)
  | getTopology (name : String)
  | listProjects
  | patchAnnotations (node : String)
  | patchNodeStatus (node : String)
  | patchStatus
  | patchNodePoolAnnotations
deriving DecidableEq, Repr

inductive SchedulerError where
  | unresolvable (message : String)
  | failed (e : ApiError)
deriving DecidableEq, Repr

structure SchedulerStatus where
  ready : Bool
  reasons : List String
deriving DecidableEq, Repr

/-- The scheduler operand's results, the status's reads, the failing calls. -/
structure Surroundings where
  reconcileScheduler : List ApiError
  schedulerStatus : Except SchedulerError SchedulerStatus
  nrtEnabled : Bool
  nodeResourceTopology : String → Option NodeResourceTopology
  topologyLevels : String → Option (List String)
  projects : List Project
  fault : PoolCall → Option ApiError

def Surroundings.attempt {α : Type} (env : Surroundings) (call : PoolCall) (result : α) : Except ApiError α :=
  match env.fault call with
  | some e => .error e
  | none => .ok result

/-! ## NodeResourceTopology -/

def nrtHealthyConditionType : String := "MissingNrtHealthyPrerequisite"

def nrtHealthReasonMissing : String := "Missing"
def nrtHealthReasonPolicyNotEnforcing : String := "PolicyNotEnforcing"
def nrtHealthReasonNoNumaZones : String := "NoNumaZones"

def nrtMissingItemNoObject : String := "NodeResourceTopology custom resource missing"
def nrtMissingItemNoNumaZones : String := "NodeResourceTopology custom resource invalid"
def nrtMissingItemPolicy : String := "Kubelet Topology Manager Policy misconfigured"

def nrtPrereqMessage (missingItem : String) : String :=
  "The following prerequisites are not met on the node: " ++ missingItem ++
    ". As a result, NUMA-aware scheduling may be impacted."

def nrtNodePoolPrereqMessage (missingItems : List String) : String :=
  if missingItems.isEmpty then ""
  else
    "The following prerequisites are not met on one or more nodes in the node pool: " ++
      ", ".intercalate missingItems ++ ". As a result, NUMA-aware scheduling may be impacted."

def nrtNodePoolMissingItemForReason (reason : String) : String :=
  if reason = nrtHealthReasonMissing then nrtMissingItemNoObject
  else if reason = nrtHealthReasonNoNumaZones then nrtMissingItemNoNumaZones
  else if reason = nrtHealthReasonPolicyNotEnforcing then nrtMissingItemPolicy
  else ""

def isNumaEnabled (nodePool : StoredNodePool) : Bool := nodePool.numaEnabled = some true

def hasNumaNodeZone (nrt : NodeResourceTopology) : Bool := "Node" ∈ nrt.zoneTypes

def topologyManagerPolicy (nrt : NodeResourceTopology) : Option String :=
  (nrt.attributes.find? fun attr => attr.1 = "topologyManagerPolicy").map fun attr => attr.2.toLower

def isPolicyEnforcing (nrt : NodeResourceTopology) : Bool :=
  match topologyManagerPolicy nrt with
  | some policy => policy ≠ "none"
  | none => false

/-- The reason and message of what is wrong, none when the node is healthy. -/
def evaluateNrtHealth : Option NodeResourceTopology → Option (String × String)
  | none => some (nrtHealthReasonMissing, nrtPrereqMessage nrtMissingItemNoObject)
  | some nrt =>
    if !hasNumaNodeZone nrt then some (nrtHealthReasonNoNumaZones, nrtPrereqMessage nrtMissingItemNoNumaZones)
    else if !isPolicyEnforcing nrt then
      some (nrtHealthReasonPolicyNotEnforcing, nrtPrereqMessage nrtMissingItemPolicy)
    else none

def upsertNodeCondition (conditions : List NodeCondition) (condition : NodeCondition) : List NodeCondition :=
  match conditions.findIdx? fun c => c.type = condition.type with
  | some i => conditions.set i condition
  | none => conditions ++ [condition]

def deleteNodeCondition (conditions : List NodeCondition) (type : String) : List NodeCondition :=
  conditions.eraseP fun c => c.type = type

/-! ## Nodes of the node pool -/

def mnnvlLabel : String := "nvidia.com/gpu.clique"

def gpuNetworkAccelerationLabelKey : String := "gpuNetworkAccelerationLabelKey"
def topologyManagerPolicyKey : String := "kai.resources/topology-manager-policy"
def detectionKey : String := "kai/gpu-network-acceleration-detection"
def labelKeyKey : String := "kai/gpu-network-acceleration-label-key"
def detectedKey : String := "kai/gpu-network-acceleration-detected"

def getGPUNetworkAccelerationDetection (nodePool : StoredNodePool) : String := nodePool.annotations.value detectionKey

def getGPUNetworkAccelerationLabelKey (nodePool : StoredNodePool) : String :=
  let labelKey := nodePool.annotations.value labelKeyKey
  if labelKey ≠ "" then labelKey else mnnvlLabel

def nvlinkAnnotationValue (nodePool : StoredNodePool) : String :=
  if getGPUNetworkAccelerationDetection nodePool = "Auto" then getGPUNetworkAccelerationLabelKey nodePool else ""

def nilIfEmpty (s : String) : Option String := if s = "" then none else some s

def annotationsUpToDate (annotations : Labels) (desired : List (String × Option String)) : Bool :=
  desired.all fun kv => annotations.lookup kv.1 = kv.2

def patchedAnnotations (annotations : Labels) (desired : List (String × Option String)) : Labels :=
  desired.foldl
    (fun as kv =>
      match kv.2 with
      | some v => as.insert kv.1 v
      | none => as.erase kv.1)
    annotations

section

variable (cfg : NodePoolControllerConfig) (c : Cluster) (env : Surroundings)

def getNodeResourceTopology (nodeName : String) : Except ApiError (Option NodeResourceTopology) :=
  match env.fault (.getNodeResourceTopology nodeName) with
  | some e => if e.isNotFound then .ok none else .error e
  | none => .ok (env.nodeResourceTopology nodeName)

def getTopologyManagerPolicyFromNodeNRT (nodeName : String) (nodePool : StoredNodePool) : Except ApiError String :=
  if !isNumaEnabled nodePool || !env.nrtEnabled then .ok ""
  else
    (getNodeResourceTopology env nodeName).map fun nrt =>
      match nrt with
      | some nrt => (topologyManagerPolicy nrt).getD ""
      | none => ""

def reconcileNodeAnnotations (nodeName : String) (details : NodeDetails) (nodePool : StoredNodePool) :
    Option ApiError × NodeDetails :=
  match getTopologyManagerPolicyFromNodeNRT env nodeName nodePool with
  | .error e => (some e, details)
  | .ok policy =>
    let desired := [(gpuNetworkAccelerationLabelKey, nilIfEmpty (nvlinkAnnotationValue nodePool)),
      (topologyManagerPolicyKey, nilIfEmpty policy)]
    if annotationsUpToDate details.annotations desired then (none, details)
    else
      match env.fault (.patchAnnotations nodeName) with
      | some e => (some e, details)
      | none => (none, { details with annotations := patchedAnnotations details.annotations desired })

def ensureNrtCondition (nodeName : String) (details : NodeDetails) (reason message : String) :
    Option ApiError × NodeDetails :=
  let condition : NodeCondition := ⟨nrtHealthyConditionType, .isTrue, reason, message⟩
  if findNodeCondition details.conditions nrtHealthyConditionType = some condition then (none, details)
  else
    match env.fault (.patchNodeStatus nodeName) with
    | some e => (some e, details)
    | none => (none, { details with conditions := upsertNodeCondition details.conditions condition })

def removeNrtCondition (nodeName : String) (details : NodeDetails) : Option ApiError × NodeDetails :=
  if (findNodeCondition details.conditions nrtHealthyConditionType).isNone then (none, details)
  else
    match env.fault (.patchNodeStatus nodeName) with
    | some e => (some e, details)
    | none => (none, { details with conditions := deleteNodeCondition details.conditions nrtHealthyConditionType })

def reconcileNrtHealthCondition (nodeName : String) (details : NodeDetails) (nodePool : StoredNodePool) :
    Option ApiError × NodeDetails :=
  if !isNumaEnabled nodePool then removeNrtCondition env nodeName details
  else if !env.nrtEnabled then
    ensureNrtCondition env nodeName details nrtHealthReasonMissing (nrtPrereqMessage nrtMissingItemNoObject)
  else
    match getNodeResourceTopology env nodeName with
    | .error e => (some e, details)
    | .ok nrt =>
      match evaluateNrtHealth nrt with
      | some (reason, message) => ensureNrtCondition env nodeName details reason message
      | none => removeNrtCondition env nodeName details

/-- Of two copies of one node the later one stays. -/
def filterNodePoolNodes (alteredNodes : List Node) (nodePoolName : String) : List Node :=
  let nodes := alteredNodes.filter fun node => getNodePoolNameFromLabels cfg node.labels = nodePoolName
  nodes.foldr (fun node rest => if rest.any (fun other => other.name = node.name) then rest else node :: rest) []

def handleNodesOfNodePool (nodePool : StoredNodePool) (alteredNodes : List Node) (details : Details) :
    List Node × List ApiError × Details :=
  let nodes := filterNodePoolNodes cfg alteredNodes nodePool.name
  let (errs, details) := nodes.foldl
    (fun (acc : List ApiError × Details) node =>
      let (annotationErr, own) := reconcileNodeAnnotations env node.name (acc.2 node.name) nodePool
      let (conditionErr, own) := reconcileNrtHealthCondition env node.name own nodePool
      (acc.1 ++ annotationErr.toList ++ conditionErr.toList, Function.update acc.2 node.name own))
    ([], details)
  (nodes, errs, details)

/-! ## The situation of the nodes -/

def sortNames (names : List String) : List String := names.insertionSort (· ≤ ·)

structure NodesSituation where
  unschedulableNodes : List String
  missingNrtPrerequisiteItems : List String
  nodesInNodePool : List NodeInNodePool
  atLeastOneNodeReady : Bool
  atLeastOneNodeUnschedulable : Bool

def missingNrtPrerequisite (details : NodeDetails) : Option String :=
  (findNodeCondition details.conditions nrtHealthyConditionType).bind fun condition =>
    if condition.status = .isTrue then some condition.reason else none

def nodeInNodePool (details : Details) (node : Node) : NodeInNodePool where
  name := node.name
  status :=
    if !isNodeReady node (details node.name).conditions then .unschedulable
    else if (missingNrtPrerequisite (details node.name)).isSome then .missingNrtHealthyPrerequisite
    else .ready
  topologyMismatch := false

def getNodesSituation (details : Details) (nodes : List Node) : NodesSituation where
  unschedulableNodes :=
    sortNames ((nodes.filter fun node => !isNodeReady node (details node.name).conditions).map Node.name)
  missingNrtPrerequisiteItems :=
    sortNames ((nodes.filterMap fun node => (missingNrtPrerequisite (details node.name)).bind fun reason =>
      nilIfEmpty (nrtNodePoolMissingItemForReason reason)).dedup)
  nodesInNodePool := (nodes.map (nodeInNodePool details)).insertionSort fun a b => a.name ≤ b.name
  atLeastOneNodeReady := nodes.any fun node => isNodeReady node (details node.name).conditions
  atLeastOneNodeUnschedulable := nodes.any fun node => !isNodeReady node (details node.name).conditions

def nodePoolPhaseForNodeSituation (atLeastOneNodeReady atLeastOneNodeUnschedulable missingNrtPrerequisite : Bool) :
    NodePoolPhase :=
  let nodePoolPhase : NodePoolPhase :=
    if atLeastOneNodeReady then .ready else if atLeastOneNodeUnschedulable then .unschedulable else .empty
  if missingNrtPrerequisite && nodePoolPhase ≠ .unschedulable then .missingPrerequisites else nodePoolPhase

def markedUnschedulableByNodePoolControllerLabelValue : String := "true"

/-- Nodes that match the pair, are not in the pool, and were cordoned. -/
def getNodesAssignedToNodePoolWaitingForDrain (nodePool : NodePool) (nodes : NodeStore) :
    Except ApiError (List String) := do
  let matchNotNodePoolNameLabel ← getNotNodePoolLabelSelector cfg nodePool.name
  let matchUnschedulableByUsLabel ← requirementNodePoolLabelMatching cfg.unschedulableLabelKey
    markedUnschedulableByNodePoolControllerLabelValue
  let matchNodePoolLabel ←
    if nodePool.labelKey ≠ "" ∧ nodePool.labelValue ≠ "" then
      (requirementNodePoolLabelMatching nodePool.labelKey nodePool.labelValue).map fun r => [r]
    else .ok []
  let listed ← listNodesWithRequirements c nodes
    ([matchNotNodePoolNameLabel, matchUnschedulableByUsLabel] ++ matchNodePoolLabel)
  return (listed.filter Node.unschedulable).map Node.name

/-- The names of nodes that the phase message tells. -/
structure PhaseMessageNodes where
  assignedToNodePoolWaitingForDrain : List String
  unschedulableByUs : List String
  notReady : List String

def getNodesFullSituationForFullPhaseMessage (nodePool : NodePool) (nodePoolNodes : List Node) (nodes : NodeStore)
    (details : Details) : Except ApiError PhaseMessageNodes := do
  let allWaiting ← getNodesAssignedToNodePoolWaitingForDrain cfg c nodePool nodes
  let byUs (node : Node) := (node.labels.lookup cfg.unschedulableLabelKey).isSome && node.unschedulable
  return {
    assignedToNodePoolWaitingForDrain :=
      sortNames (allWaiting.filter fun name => name ∉ nodePoolNodes.map Node.name)
    unschedulableByUs := sortNames ((nodePoolNodes.filter byUs).map Node.name)
    notReady := sortNames ((nodePoolNodes.filter fun node =>
      !byUs node && !isNodeReady node (details node.name).conditions).map Node.name) }

def PhaseMessageNodes.text (names : PhaseMessageNodes) : String :=
  let part (messagePrefix : String) (names : List String) : List String :=
    if names.isEmpty then [] else [messagePrefix ++ ", ".intercalate names]
  "\n\n".intercalate
    (part "The following node(s) are assigned to this node pool and will be added once they finish draining: "
        names.assignedToNodePoolWaitingForDrain ++
      part ("The following node(s) within the node pool aren't ready because they are assigned to a different node " ++
        "pool but haven't been drained yet: ") names.unschedulableByUs ++
      part "The following node(s) within the node pool aren't ready: " names.notReady)

def joinNodePoolStatusMessages (messages : List String) : String := "\n".intercalate (messages.filter (· ≠ ""))

end

end Krm.Nodes
