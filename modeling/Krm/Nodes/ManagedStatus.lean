import Krm.Nodes.PoolStatus

/-! # The ManagedNodesConfig and its status -/

open Krm.Lib

namespace Krm.Nodes

inductive MNCConditionType where
  | applied
  | other (type : String)
deriving DecidableEq, Repr

inductive MNCConditionReason where
  | allNodesIncludedCorrectly
  | toBeExcludedNodes
  | other (reason : String)
deriving DecidableEq, Repr

structure MNCCondition where
  type : MNCConditionType
  status : ConditionStatus
  reason : MNCConditionReason
  message : String
deriving DecidableEq, Repr

structure ManagedNodesConfig where
  name : String
  generation : Nat
  inclusionCriteria : List NodeSelectorTerm
  conditions : List MNCCondition
  observedGeneration : Nat

namespace ManagedNodesConfigController

/-- A nameless config without criteria stands in for one that is not found. -/
def getManagedNodesConfig (c : Cluster) (stored : Option ManagedNodesConfig) : Except ApiError ManagedNodesConfig :=
  match c.fault .getManagedNodesConfig with
  | some e => if e.isNotFound then .ok ⟨"", 0, [], [], 0⟩ else .error e
  | none => .ok (stored.getD ⟨"", 0, [], [], 0⟩)

/-- A change is one of the reason or the status. -/
def setCondition (condition : MNCCondition) : List MNCCondition → Bool × List MNCCondition
  | [] => (true, [condition])
  | existCondition :: conditions =>
    if existCondition.type = condition.type then
      (existCondition.reason ≠ condition.reason || existCondition.status ≠ condition.status, condition :: conditions)
    else
      let (changed, conditions) := setCondition condition conditions
      (changed, existCondition :: conditions)

/-- The loop over the nodes from the given index on. -/
def addNodeNames (total : Nat) : Nat → List Node → String → String
  | _, [], nodeNames => nodeNames
  | i, node :: nodes, nodeNames =>
    if i = 5 then nodeNames ++ (" and " ++ toString (total - 5) ++ " more")
    else addNodeNames total (i + 1) nodes (nodeNames ++ ("," ++ node.name))

def appliedCondition (nodes : List Node) : MNCCondition :=
  if nodes.length = 0 then ⟨.applied, .isTrue, .allNodesIncludedCorrectly, ""⟩
  else
    let nodeNames := String.ofList ((addNodeNames nodes.length 0 nodes "").toList.drop 1)
    ⟨.applied, .isFalse, .toBeExcludedNodes,
      "Some nodes need to be drained before gracefull exclusion: " ++ nodeNames⟩

section

variable (cfg : NodePoolControllerConfig) (c : Cluster) (updateFault : Option ApiError)

/-- A full request reports what waits, a node's request what is marked. -/
def nodesOfStatus (request : Option String) (toBeExcludedNodes : List Node) (nodes : NodeStore) :
    Except ApiError (List Node) :=
  match request with
  | none => .ok toBeExcludedNodes
  | some _ => do
    -- `selection.Equals` selects as `selection.DoubleEquals` does.
    let toBeExcludedRequirement ← newRequirement cfg.shouldBeExcludedLabelKey .doubleEquals ["true"]
    listNodesWithRequirements c nodes [toBeExcludedRequirement]

def calculateStatus (request : Option String) (mnc : ManagedNodesConfig) (toBeExcludedNodes : List Node)
    (nodes : NodeStore) : Except ApiError (Bool × ManagedNodesConfig) := do
  let toBeExcludedNodes ← nodesOfStatus cfg c request toBeExcludedNodes nodes
  let (changed, conditions) := setCondition (appliedCondition toBeExcludedNodes) mnc.conditions
  return (changed || mnc.observedGeneration ≠ mnc.generation,
    { mnc with conditions := conditions, observedGeneration := mnc.generation })

/-- The error, and the config as it is stored if that is new. -/
def updateStatus (mnc : ManagedNodesConfig) : Option ApiError × Option ManagedNodesConfig :=
  match updateFault with
  | some e => (some e, none)
  | none => (none, some mnc)

def reconcileStatus (request : Option String) (mnc : ManagedNodesConfig) (toBeExcludedNodes : List Node)
    (nodes : NodeStore) : Option ApiError × Option ManagedNodesConfig :=
  if mnc.name = "" then (none, none)
  else
    match calculateStatus cfg c request mnc toBeExcludedNodes nodes with
    | .error e => (some e, none)
    | .ok (changed, mnc) => if changed then updateStatus updateFault mnc else (none, none)

def withCriteria (mnc : ManagedNodesConfig) : Cluster := { c with inclusionCriteria := mnc.inclusionCriteria }

structure Reconciled where
  nodes : NodeStore
  stored : Option ManagedNodesConfig
  errs : List ApiError

/-- The status is reconciled also after an error. -/
def reconcile (request : Option String) (stored : Option ManagedNodesConfig) (nodes : NodeStore) : Reconciled :=
  match getManagedNodesConfig c stored with
  | .error e => ⟨nodes, stored, [e]⟩
  | .ok mnc =>
    let c := withCriteria c mnc
    let after :=
      match request with
      | some name => reconcileNode cfg c name nodes
      | none => reconcileManagedNodesConfig cfg c nodes
    let (err, written) := reconcileStatus cfg c updateFault request mnc after.toBeExcludedNodes after.nodes
    ⟨after.nodes, written.or stored, after.errs ++ err.toList⟩

end

end ManagedNodesConfigController

end Krm.Nodes
