import Krm.Nodes.NodeHandler

/-! # NodePool reconciles, as far as they touch nodes -/

open Krm.Lib

namespace Krm.Nodes

/-! ## Unmanaged shards -/

def ignoreShardLabelKey : String := "kai/ignore-shard-for-krm"

def isNodePoolReference (owner : OwnerReference) : Bool :=
  owner.kind = "NodePool" &&
    match owner.apiVersion.toList.splitOn '/' with
    | [group, _] => group = "kai.resources".toList
    | _ => false

def owningNodePoolName (shard : SchedulingShard) : String :=
  match shard.ownerReferences.find? fun owner => owner.controller = some true with
  | some owner => if isNodePoolReference owner then owner.name else ""
  | none => ""

def isUnmanaged (shard : SchedulingShard) : Bool :=
  shard.labels.value ignoreShardLabelKey = "true" && shard.partitionLabelValue ≠ "" && owningNodePoolName shard = ""

def listPartitionLabelValues (c : Cluster) : Except ApiError (List String) := do
  let shards ← c.attempt .listShards
    (c.shards.filter fun shard => (shard.labels.lookup ignoreShardLabelKey).isSome)
  return (shards.filter isUnmanaged).map SchedulingShard.partitionLabelValue

/-! ## Loops over listed nodes -/

/-- The nodes after a pass, those it handled, and its errors. -/
structure Pass where
  nodes : NodeStore
  resultNodes : List Node
  errs : List ApiError

def Pass.andThen (first : Pass) (next : NodeStore → Pass) : Pass :=
  let second := next first.nodes
  ⟨second.nodes, first.resultNodes ++ second.resultNodes, first.errs ++ second.errs⟩

def forNodes (nodes : NodeStore) (listed : List Node) (handle : Node → List ApiError × Node) : Pass :=
  listed.foldl
    (fun acc node =>
      let (errs, node) := handle node
      ⟨acc.nodes.replace node, acc.resultNodes ++ [node], acc.errs ++ errs⟩)
    ⟨nodes, [], []⟩

/-- Lists the nodes, reads only if there are any, handles one by one. -/
def reconcileListed {α : Type} (nodes : NodeStore) (listed : Except ApiError (List Node)) (needed : Except ApiError α)
    (handle : α → Node → List ApiError × Node) : Pass :=
  match listed with
  | .error e => ⟨nodes, [], [e]⟩
  | .ok [] => ⟨nodes, [], []⟩
  | .ok listed =>
    match needed with
    | .error e => ⟨nodes, [], [e]⟩
    | .ok a => forNodes nodes listed (handle a)

def nodeUnschedulableErr (node : Node) : ApiError := .failed ("node <" ++ node.name ++ "> is unschedulable")

/-- A node that stays unschedulable is reported as an error of its own. -/
def Outcome.reported (o : Outcome) : List ApiError × Node :=
  (o.err.toList ++ (if o.schedulable then [] else [nodeUnschedulableErr o.node]), o.node)

section

variable (cfg : NodePoolControllerConfig) (c : Cluster)

def isDeleting (nodePool : NodePool) : Bool := nodePool.deleted || nodePool.phase = .deleting

def getAvailableNodePools : Except ApiError (List NodePool) :=
  c.attempt .listNodePools (c.nodePools.filter fun nodePool => !isDeleting nodePool)

def listNodesWithRequirements (nodes : NodeStore) (requirements : Selector) : Except ApiError (List Node) :=
  c.attempt .listNodes (nodes.list fun node => requirements.Matches node.labels)

def validateNodeStatusInNodePoolWrapper (node : Node) (nodesNodePoolName : String) : List ApiError × Node :=
  let o := validateNodeStatusInNodePool cfg c node nodesNodePoolName
  match o.err with
  | some e => ([e], o.node)
  | none => o.reported

/-! ## The passes for a node pool other than the default one -/

def getNodesMatchingNodePoolNameNoLabel (nodePool : NodePool) (nodes : NodeStore) : Except ApiError (List Node) := do
  let matchNodePoolName ← requirementNodePoolNameMatching cfg nodePool.name
  let noNodePoolLabel ← requirementNodePoolLabelNotMatching nodePool.labelKey nodePool.labelValue
  listNodesWithRequirements c nodes [matchNodePoolName, noNodePoolLabel]

def reconcileNodesMatchingNodePoolNameNoLabel (nodePool : NodePool) (nodes : NodeStore) : Pass :=
  reconcileListed nodes (getNodesMatchingNodePoolNameNoLabel cfg c nodePool nodes) (getAvailableNodePools c)
    fun nodePools node => (findAndChangeNodePoolForNode cfg c node nodePool.name nodePools).reported

def getNodesInDefaultNodePoolMatchingOtherNodePoolLabel (nodePool : NodePool) (nodes : NodeStore) :
    Except ApiError (List Node) := do
  let matchDefaultNodePool ← getNodePoolLabelSelector cfg cfg.defaultNodepoolName
  let matchNodePoolLabel ← requirementNodePoolLabelMatching nodePool.labelKey nodePool.labelValue
  listNodesWithRequirements c nodes [matchDefaultNodePool, matchNodePoolLabel]

def reconcileNodesInDefaultNodePoolMatchingOtherNodePoolLabel (nodePool : NodePool) (nodes : NodeStore) : Pass :=
  reconcileListed nodes (getNodesInDefaultNodePoolMatchingOtherNodePoolLabel cfg c nodePool nodes) (.ok ())
    fun _ node => (changeNodePoolForNode cfg c node nodePool.name cfg.defaultNodepoolName).reported

def getNodesMatchingNodePoolNameAndLabel (nodePool : NodePool) (nodes : NodeStore) : Except ApiError (List Node) := do
  let matchNodePoolName ← requirementNodePoolNameMatching cfg nodePool.name
  let matchNodePoolLabel ← requirementNodePoolLabelMatching nodePool.labelKey nodePool.labelValue
  listNodesWithRequirements c nodes [matchNodePoolName, matchNodePoolLabel]

def reconcileNodesMatchingNodePoolNameAndLabel (nodePool : NodePool) (nodes : NodeStore) : Pass :=
  reconcileListed nodes (getNodesMatchingNodePoolNameAndLabel cfg c nodePool nodes) (.ok ())
    fun _ node => validateNodeStatusInNodePoolWrapper cfg c node nodePool.name

/-! ## The passes for the default node pool -/

def getNodePoolNodes (nodePoolName : String) (nodes : NodeStore) : Except ApiError (List Node) := do
  let matchNodePool ← getNodePoolLabelSelector cfg nodePoolName
  listNodesWithRequirements c nodes [matchNodePool]

def getDefaultNodePoolNodes (nodes : NodeStore) : Except ApiError (List Node) :=
  getNodePoolNodes cfg c cfg.defaultNodepoolName nodes

def handleNodeInDefaultNodePool (nodePools : List NodePool) (node : Node) : List ApiError × Node :=
  let foundNodePoolName := findMatchingNodePoolFromList cfg node nodePools
  if foundNodePoolName = cfg.defaultNodepoolName then
    let (labelErr, node) := validateDefaultNodePoolLabel cfg c node
    let (errs, node) := validateNodeStatusInNodePoolWrapper cfg c node cfg.defaultNodepoolName
    (labelErr.toList ++ errs, node)
  else (changeNodePoolForNode cfg c node foundNodePoolName cfg.defaultNodepoolName).reported

def reconcileNodesInDefaultNodePool (nodes : NodeStore) : Pass :=
  reconcileListed nodes (getDefaultNodePoolNodes cfg c nodes) (getAvailableNodePools c)
    (handleNodeInDefaultNodePool cfg c)

def getNodesNotInDefaultNodePool (nodes : NodeStore) : Except ApiError (List Node) := do
  let matchNotDefaultNodePool ← getNotNodePoolLabelSelector cfg cfg.defaultNodepoolName
  listNodesWithRequirements c nodes [matchNotDefaultNodePool]

/-- The available node pools, and the names that are left alone. -/
def availableNodePoolsMap : Except ApiError (List NodePool × List String) := do
  let nodePools ← getAvailableNodePools c
  let unmanagedPartitionLabelValues ← listPartitionLabelValues c
  return (nodePools, cfg.excludedNodepoolName :: unmanagedPartitionLabelValues ++ nodePools.map NodePool.name)

def handleNodeNotInDefaultNodePool (available : List NodePool × List String) (node : Node) : List ApiError × Node :=
  let nodeAssignedNodePool := getNodePoolNameFromLabels cfg node.labels
  if nodeAssignedNodePool ∈ available.2 then ([], node)
  else (findAndChangeNodePoolForNode cfg c node nodeAssignedNodePool available.1).reported

def reconcileNodesNotInDefaultNodePool (nodes : NodeStore) : Pass :=
  reconcileListed nodes (getNodesNotInDefaultNodePool cfg c nodes) (availableNodePoolsMap cfg c)
    (handleNodeNotInDefaultNodePool cfg c)

def reconcileNodes (nodePool : NodePool) (nodes : NodeStore) : Pass :=
  if nodePool.name ≠ cfg.defaultNodepoolName then
    ((reconcileNodesMatchingNodePoolNameNoLabel cfg c nodePool nodes).andThen
      (reconcileNodesInDefaultNodePoolMatchingOtherNodePoolLabel cfg c nodePool)).andThen
      (reconcileNodesMatchingNodePoolNameAndLabel cfg c nodePool)
  else (reconcileNodesInDefaultNodePool cfg c nodes).andThen (reconcileNodesNotInDefaultNodePool cfg c)

/-! ## Deletion of a node pool -/

def reassignNodeForDeletingNodePool (nodePool : NodePool) (nodes : NodeStore) : Pass :=
  reconcileListed nodes (getNodePoolNodes cfg c nodePool.name nodes)
    ((getAvailableNodePools c).map fun nodePools => nodePools.filter fun other => other.name ≠ nodePool.name)
    fun nodePools node =>
      let o := findAndChangeNodePoolForNode cfg c node nodePool.name nodePools
      (o.err.toList, o.node)

/-- On uninstall the nodes only lose the pool's label. -/
def cleanupDeletedNodePool (nodePool : NodePool) (nodes : NodeStore) : Pass :=
  reconcileListed nodes (getNodePoolNodes cfg c nodePool.name nodes) (.ok ()) fun _ node =>
    let (err, node) := updateNodeLabels c node [] [cfg.nodePoolNameLabel]
    (err.toList, node)

def finalize (nodePool : NodePool) (nodes : NodeStore) : Pass :=
  if cfg.finalizerName ∉ nodePool.finalizers then ⟨nodes, [], []⟩
  else if c.uninstalling then ⟨(cleanupDeletedNodePool cfg c nodePool nodes).nodes, [], []⟩
  else reassignNodeForDeletingNodePool cfg c nodePool nodes

def reconcile (name : String) (nodes : NodeStore) : Pass :=
  match c.nodePools.find? fun nodePool => nodePool.name = name with
  | none => ⟨nodes, [], []⟩
  | some nodePool =>
    if nodePool.deleted then finalize cfg c nodePool nodes
    else if cfg.finalizerName ∈ nodePool.finalizers then reconcileNodes cfg c nodePool nodes
    else
      match c.fault (.patchFinalizers nodePool.name) with
      | some e => ⟨nodes, [], [e]⟩
      | none => reconcileNodes cfg c nodePool nodes

end

end Krm.Nodes
