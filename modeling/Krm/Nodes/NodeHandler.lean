import Krm.Nodes.Objects

/-! # What the controllers do with one node

A patch answers with the node as it is stored, which takes the place of the caller's copy. Reads are fresh, so that
the copy in hand is the stored node from the moment it was listed until the work on it is done. -/

open Krm.Lib

namespace Krm.Nodes

/-! ## Selectors -/

def newRequirement (key : String) (op : Operator) (vals : List String) : Except ApiError Requirement :=
  match Lib.newRequirement key op vals with
  | some r => if isLabelKey key then .ok r else .error (.invalidRequirement key (vals.headD ""))
  | none => .error (.invalidRequirement key (vals.headD ""))

def requirementNodePoolName (nodePoolName nodePoolAssignmentLabelKey : String) (matching exist : Bool) :
    Except ApiError Requirement :=
  if exist then newRequirement nodePoolAssignmentLabelKey (if matching then .doubleEquals else .notEquals) [nodePoolName]
  else newRequirement nodePoolAssignmentLabelKey .doesNotExist []

def requirementNodePoolLabel (labelKey labelValue : String) (matching : Bool) : Except ApiError Requirement :=
  newRequirement labelKey (if matching then .doubleEquals else .notEquals) [labelValue]

def requirementNodePoolLabelMatching (labelKey labelValue : String) : Except ApiError Requirement :=
  requirementNodePoolLabel labelKey labelValue true

def requirementNodePoolLabelNotMatching (labelKey labelValue : String) : Except ApiError Requirement :=
  requirementNodePoolLabel labelKey labelValue false

section

variable (cfg : NodePoolControllerConfig)

/-- The empty label counts as the default pool here; selectors want it absent. -/
def getNodePoolNameFromLabels (labels : Labels) : String :=
  match labels.lookup cfg.nodePoolNameLabel with
  | some nodePoolName => if nodePoolName = "" then cfg.defaultNodepoolName else nodePoolName
  | none => cfg.defaultNodepoolName

def requirementNodePoolNameMatching (nodePoolName : String) : Except ApiError Requirement :=
  requirementNodePoolName nodePoolName cfg.nodePoolNameLabel true true

def getNodePoolLabelSelector (nodePoolName : String) : Except ApiError Requirement :=
  if nodePoolName = cfg.defaultNodepoolName then requirementNodePoolName "" cfg.nodePoolNameLabel false false
  else requirementNodePoolNameMatching cfg nodePoolName

def getNotNodePoolLabelSelector (nodePoolName : String) : Except ApiError Requirement :=
  if nodePoolName = cfg.defaultNodepoolName then newRequirement cfg.nodePoolNameLabel .exists []
  else newRequirement cfg.nodePoolNameLabel .notIn [nodePoolName]

/-! ## Running pods -/

def isPodBoundToNode (pod : Pod) : Bool :=
  pod.phase = .running || (pod.phase = .pending && pod.nodeName ≠ "")

/-- None for other schedulers' pods and those that do not run. -/
def podRunningWithKaiSchedulerNodeName (pod : Pod) : String :=
  if pod.schedulerName = cfg.schedulerName && isPodBoundToNode pod then pod.nodeName else ""

variable (c : Cluster)

def listPodsWithSelectors (nodeName : String) (requirement : Requirement) : Except ApiError (List Pod) :=
  c.attempt (.listPods nodeName) (c.pods.filter fun pod =>
    podRunningWithKaiSchedulerNodeName cfg pod = nodeName && requirement.Matches pod.labels)

def getPodGroup (namespaceName name : String) : Except ApiError PodGroup :=
  match c.fault (.getPodGroup namespaceName name) with
  | some e => .error e
  | none =>
    match c.podGroups.get (namespaceName, name) with
    | some podGroup => .ok podGroup
    | none => .error (.notFound name)

/-- The same node-pool label, or none on either. -/
def sameNodePoolLabel (pod : Pod) (podGroup : PodGroup) : Bool :=
  (pod.labels.lookup cfg.nodePoolNameLabel).isSome = (podGroup.labels.lookup cfg.nodePoolNameLabel).isSome &&
    pod.labels.value cfg.nodePoolNameLabel = podGroup.labels.value cfg.nodePoolNameLabel

/-- One PodGroup judges a group: that of the first pod's namespace. -/
def filterGroup (podGroupName : String) : List Pod → List Pod
  | [] => []
  | first :: rest =>
    match getPodGroup c first.namespaceName podGroupName with
    | .error _ => []
    | .ok podGroup => (first :: rest).filter (sameNodePoolLabel cfg · podGroup)

def filterPodsWithIncorrectNodepoolLabel (pods : List Pod) : List Pod :=
  (pods.filterMap Pod.podGroupAnnotation).dedup.flatMap fun podGroupName =>
    filterGroup cfg c podGroupName (pods.filter fun pod => pod.podGroupAnnotation = some podGroupName)

def getRunningPodsWithNodePoolOnNode (nodeName nodePoolName : String) (sameNodePool : Bool) :
    Except ApiError (List Pod) := do
  let matchNodePool ←
    if sameNodePool then getNodePoolLabelSelector cfg nodePoolName
    else getNotNodePoolLabelSelector cfg nodePoolName
  let pods ← listPodsWithSelectors cfg c nodeName matchNodePool
  return filterPodsWithIncorrectNodepoolLabel cfg c pods

def arePodsRunningWithNodePool (nodeName nodePoolName : String) (sameNodePool : Bool) : Except ApiError Bool := do
  let pods ← getRunningPodsWithNodePoolOnNode cfg c nodeName nodePoolName sameNodePool
  return !pods.isEmpty

def arePodsRunningWithSameNodePool (nodeName nodePoolName : String) : Except ApiError Bool :=
  arePodsRunningWithNodePool cfg c nodeName nodePoolName true

def arePodsRunningWithDifferentNodePool (nodeName nodePoolName : String) : Except ApiError Bool :=
  arePodsRunningWithNodePool cfg c nodeName nodePoolName false

/-! ## Patches -/

def patchedLabels (labels : Labels) (add : List (String × String)) (remove : List String) : Labels :=
  remove.foldl (fun ls k => ls.erase k) (add.foldl (fun ls kv => ls.insert kv.1 kv.2) labels)

def updateNodeLabels (node : Node) (add : List (String × String)) (remove : List String) : Option ApiError × Node :=
  match c.fault (.patchLabels node.name add remove) with
  | some e => (some e, node)
  | none => (none, { node with labels := patchedLabels node.labels add remove })

def patchNodeUnschedulable (node : Node) (unschedulable : Bool) : Option ApiError × Node :=
  match c.fault (.patchUnschedulable node.name unschedulable) with
  | some e => (some e, node)
  | none =>
    (none, { node with
      unschedulable := unschedulable
      labels :=
        if unschedulable then node.labels.insert cfg.unschedulableLabelKey "true"
        else node.labels.erase cfg.unschedulableLabelKey })

def validateNodeLabeledWithUnschedulable (node : Node) (unschedulable : Bool) : Option ApiError × Node :=
  if unschedulable then
    if (node.labels.lookup cfg.unschedulableLabelKey).isSome then (none, node)
    else updateNodeLabels c node [(cfg.unschedulableLabelKey, "true")] []
  else
    if (node.labels.lookup cfg.unschedulableLabelKey).isNone then (none, node)
    else updateNodeLabels c node [] [cfg.unschedulableLabelKey]

/-- Only a node that the controller cordoned is made schedulable. -/
def updateNodeUnschedulableIfNeeded (node : Node) (unschedulable : Bool) : Option ApiError × Node :=
  if node.unschedulable = unschedulable then
    -- A failure to sync the label is only logged.
    (none, (validateNodeLabeledWithUnschedulable cfg c node unschedulable).2)
  else if !unschedulable && (node.labels.lookup cfg.unschedulableLabelKey).isNone then (none, node)
  else patchNodeUnschedulable cfg c node unschedulable

/-! ## The cordon -/

/-- The result of the work on a node, and the stored node. -/
structure Outcome where
  schedulable : Bool
  err : Option ApiError
  node : Node

def validateNodeStatus (arePodsRunning : Except ApiError Bool) (node : Node) : Outcome :=
  match arePodsRunning with
  | .error e => ⟨false, some e, node⟩
  | .ok true =>
    let (err, node) := updateNodeUnschedulableIfNeeded cfg c node true
    ⟨false, err, node⟩
  | .ok false =>
    match updateNodeUnschedulableIfNeeded cfg c node false with
    | (some e, node) => ⟨false, some e, node⟩
    | (none, node) => ⟨true, none, node⟩

def validateNodeStatusWhenChangingNodePool (node : Node) (oldNodePoolName : String) : Outcome :=
  validateNodeStatus cfg c (arePodsRunningWithSameNodePool cfg c node.name oldNodePoolName) node

def validateNodeStatusInNodePool (node : Node) (nodesNodePoolName : String) : Outcome :=
  validateNodeStatus cfg c (arePodsRunningWithDifferentNodePool cfg c node.name nodesNodePoolName) node

/-! ## The node-pool label -/

def findMatchingNodePoolFromList (node : Node) (allNodePools : List NodePool) : String :=
  match allNodePools.find? fun nodePool => node.labels.lookup nodePool.labelKey = some nodePool.labelValue with
  | some nodePool => nodePool.name
  | none => cfg.defaultNodepoolName

def updateNodeWithNodePoolNameIfNeeded (node : Node) (nodePoolName : String) : Option ApiError × Node :=
  if nodePoolName = cfg.defaultNodepoolName then
    if (node.labels.lookup cfg.nodePoolNameLabel).isNone then (none, node)
    else updateNodeLabels c node [] [cfg.nodePoolNameLabel]
  else if node.labels.lookup cfg.nodePoolNameLabel = some nodePoolName then (none, node)
  else updateNodeLabels c node [(cfg.nodePoolNameLabel, nodePoolName)] []

def validateDefaultNodePoolLabel (node : Node) : Option ApiError × Node :=
  updateNodeWithNodePoolNameIfNeeded cfg c node cfg.defaultNodepoolName

/-- Moves a drained node to the given pool, or the first available one it matches. -/
def changeNodePoolForNodeGeneric (node : Node) (newNodePoolName oldNodePoolName : String)
    (availableNodePools : List NodePool) : Outcome :=
  let validated := validateNodeStatusWhenChangingNodePool cfg c node oldNodePoolName
  if validated.err = none ∧ validated.schedulable then
    let newNodePoolName :=
      if newNodePoolName = "" then findMatchingNodePoolFromList cfg validated.node availableNodePools
      else newNodePoolName
    let (err, node) := updateNodeWithNodePoolNameIfNeeded cfg c validated.node newNodePoolName
    ⟨true, err, node⟩
  else validated

def findAndChangeNodePoolForNode (node : Node) (oldNodePoolName : String) (availableNodePools : List NodePool) :
    Outcome :=
  changeNodePoolForNodeGeneric cfg c node "" oldNodePoolName availableNodePools

def changeNodePoolForNode (node : Node) (newNodePoolName oldNodePoolName : String) : Outcome :=
  changeNodePoolForNodeGeneric cfg c node newNodePoolName oldNodePoolName []

end

end Krm.Nodes
