import Krm.Nodes.Reconcile

/-! # ManagedNodesConfig reconciles, as far as they touch nodes -/

open Krm.Lib

namespace Krm.Nodes

/-- A term that cannot be read is an error only if no other matches. -/
def matchNodeSelectorTerms (terms : List NodeSelectorTerm) (node : Node) : Except (List String) Bool :=
  let answers := terms.map fun term => term node
  if answers.any (fun answer => answer matches .ok true) then .ok true
  else
    match answers.filterMap (fun answer => match answer with | .error e => some e | .ok _ => none) with
    | [] => .ok false
    | errs => .error errs

/-- An error counts as a match. -/
def isIncluded (terms : List NodeSelectorTerm) (node : Node) : Bool :=
  match matchNodeSelectorTerms terms node with
  | .ok isMatch => isMatch
  | .error _ => true

def filterNodesBasedOnNodeSelector (nodes : List Node) (terms : List NodeSelectorTerm) (keepNodesThatMatch : Bool) :
    List Node :=
  if terms.isEmpty then if keepNodesThatMatch then nodes else []
  else nodes.filter fun node => isIncluded terms node = keepNodesThatMatch

/-- The nodes after a loop, those that wait, and the errors so far. -/
structure Exclusion where
  nodes : NodeStore
  toBeExcludedNodes : List Node
  errs : List ApiError

section

variable (cfg : NodePoolControllerConfig) (c : Cluster)

/-- Nodes of unmanaged partitions are in neither list. -/
def splitNodeToIncludedExcluded (nodes : List Node) : Except ApiError (List Node × List Node) := do
  let unmanagedPartitionLabelValues ← listPartitionLabelValues c
  let managed := nodes.filter fun node => node.labels.value cfg.nodePoolNameLabel ∉ unmanagedPartitionLabelValues
  return (managed.filter fun node => node.labels.value cfg.nodePoolNameLabel ≠ cfg.excludedNodepoolName,
    managed.filter fun node => node.labels.value cfg.nodePoolNameLabel = cfg.excludedNodepoolName)

/-- The mark is written only while no node has failed. -/
def excludeNode (clean : Bool) (node : Node) : Option Node × List ApiError × Node :=
  let o := changeNodePoolForNode cfg c node cfg.excludedNodepoolName (getNodePoolNameFromLabels cfg node.labels)
  if clean && o.err.isNone then
    if !o.schedulable then
      let (err, node) := updateNodeLabels c o.node [(cfg.shouldBeExcludedLabelKey, "true")] []
      (some o.node, err.toList, node)
    else if (o.node.labels.lookup cfg.shouldBeExcludedLabelKey).isSome then
      let (err, node) := updateNodeLabels c o.node [] [cfg.shouldBeExcludedLabelKey]
      (none, err.toList, node)
    else (none, [], o.node)
  else (none, o.err.toList, o.node)

def reconcileIncludedNodesThatShouldBeExcluded (includedNodes : List Node) (nodes : NodeStore) : Exclusion :=
  (filterNodesBasedOnNodeSelector includedNodes c.inclusionCriteria false).foldl
    (fun acc node =>
      let (waiting, errs, node) := excludeNode cfg c acc.errs.isEmpty node
      ⟨acc.nodes.replace node, acc.toBeExcludedNodes ++ waiting.toList, acc.errs ++ errs⟩)
    ⟨nodes, [], []⟩

/-- The error is reported once more where there is no marker. -/
def includeNode (node : Node) : List ApiError × Node :=
  let o := changeNodePoolForNode cfg c node cfg.defaultNodepoolName cfg.excludedNodepoolName
  let (err, node) :=
    if (o.node.labels.lookup cfg.shouldBeExcludedLabelKey).isSome then
      updateNodeLabels c o.node [] [cfg.shouldBeExcludedLabelKey]
    else (o.err, o.node)
  (o.err.toList ++ err.toList, node)

def reconcileExcludedNodesThatShouldBeIncluded (excludedNodes : List Node) (nodes : NodeStore) : Pass :=
  forNodes nodes (filterNodesBasedOnNodeSelector excludedNodes c.inclusionCriteria true) (includeNode cfg c)

def revertNode (node : Node) : List ApiError × Node :=
  if (node.labels.lookup cfg.shouldBeExcludedLabelKey).isSome then
    let (err, node) := updateNodeLabels c node [] [cfg.shouldBeExcludedLabelKey]
    (err.toList, node)
  else ([], node)

def reconcileMarkedToBeExcludedAndRevertedToBeIncluded (includedNodes : List Node) (nodes : NodeStore) : Pass :=
  forNodes nodes (filterNodesBasedOnNodeSelector includedNodes c.inclusionCriteria true) (revertNode cfg c)

def reconcileManagedNodesConfig (nodes : NodeStore) : Exclusion :=
  match c.attempt .listNodes nodes.items with
  | .error e => ⟨nodes, [], [e]⟩
  | .ok allNodes =>
    match splitNodeToIncludedExcluded cfg c allNodes with
    | .error e => ⟨nodes, [], [e]⟩
    | .ok (includedNodes, excludedNodes) =>
      let excluded := reconcileIncludedNodesThatShouldBeExcluded cfg c includedNodes nodes
      let included := reconcileExcludedNodesThatShouldBeIncluded cfg c excludedNodes excluded.nodes
      let reverted := reconcileMarkedToBeExcludedAndRevertedToBeIncluded cfg c includedNodes included.nodes
      ⟨reverted.nodes, excluded.toBeExcludedNodes, excluded.errs ++ included.errs ++ reverted.errs⟩

def reconcileNode (name : String) (nodes : NodeStore) : Exclusion :=
  match c.fault (.getNode name), nodes.get name with
  | some e, _ => ⟨nodes, [], [e]⟩
  | none, none => ⟨nodes, [], [.notFound name]⟩
  | none, some node =>
    match splitNodeToIncludedExcluded cfg c [node] with
    | .error e => ⟨nodes, [], [e]⟩
    | .ok (includedNodes, excludedNodes) =>
      let excluded := reconcileIncludedNodesThatShouldBeExcluded cfg c includedNodes nodes
      let included := reconcileExcludedNodesThatShouldBeIncluded cfg c excludedNodes excluded.nodes
      ⟨included.nodes, [], excluded.errs ++ included.errs⟩

def reconcileManaged (request : Option String) (nodes : NodeStore) : Exclusion :=
  match c.fault .getManagedNodesConfig with
  | some e => ⟨nodes, [], [e]⟩
  | none =>
    match request with
    | some name => reconcileNode cfg c name nodes
    | none => reconcileManagedNodesConfig cfg c nodes

end

end Krm.Nodes
