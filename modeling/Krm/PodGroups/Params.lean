import Krm.PodGroups.Converter

/-! # Which node pool a pod group is assigned to next -/

open Krm.Lib

namespace Krm.PodGroups

def noSchedulingBackoff : Int := -1
def singleSchedulingBackoff : Int := 1
def defaultMarkUnschedulable : Bool := true
def defaultSchedulingBackoff : Int := noSchedulingBackoff

def getMarkUnschedulableValue (markUnschedulable : Option Bool) : Bool := markUnschedulable.getD defaultMarkUnschedulable

def getSchedulingBackoffValue (schedulingBackoff : Option Int) : Int := schedulingBackoff.getD defaultSchedulingBackoff

def getLastSchedulingCondition (podGroup : PodGroup) : Option SchedulingCondition :=
  podGroup.schedulingConditions.getLast?

/-- The place of the first occurrence, -1 when there is none. -/
def indexOfItemInList (list : List String) (item : String) : Int :=
  match list.idxOf? item with
  | some i => i
  | none => -1

/-! ## Availability -/

def isAvailablePhase (phase : Nodes.NodePoolPhase) : Bool :=
  phase ≠ .unset && phase ≠ .deleting && phase ≠ .unschedulable

section

variable (c : Cluster)

def isNodePoolAvailableForScheduling (call : Call) (nodePoolName : String) : Except RunError Bool := do
  let nodePool ← c.getNodePool call nodePoolName
  .ok (isAvailablePhase nodePool.phase)

/-! ## Assignment -/

structure NodePoolAssignmentParams where
  nodePoolName : String
  markUnschedulable : Bool
  schedulingBackoff : Int
  removeUnschedulableOnNodePoolSchedulingCondition : Bool
deriving DecidableEq, Repr

def getSchedulingBackoff (requestedNodePools : List String) : Int :=
  if requestedNodePools.length = 1 then noSchedulingBackoff else singleSchedulingBackoff

/-- An element of a slice; an index that is out of range panics. -/
def elementAt (list : List String) (index : Nat) : Except RunError String :=
  match list[index]? with
  | some item => .ok item
  | none => .error (.panicked "runtime error: index out of range")

/-- The remainder of indices, which panics for an empty list. -/
def roundRobin (index : Int) (list : List String) : Except RunError Nat :=
  if list.length = 0 then .error (.panicked "runtime error: integer divide by zero")
  else .ok (index % list.length).toNat

def getInitialNodePoolAssignmentParams (currentMarkUnschedulableForPodGroup : Option Bool)
    (lastSchedulingCondition : Option SchedulingCondition) (assignedNodePool : String)
    (requestedNodePools : List String) : Except RunError NodePoolAssignmentParams := do
  let schedulingBackoff := getSchedulingBackoff requestedNodePools
  match lastSchedulingCondition with
  | none =>
    let first ← elementAt requestedNodePools 0
    let nodePoolName := if indexOfItemInList requestedNodePools assignedNodePool ≥ 0 then assignedNodePool else first
    let markUnschedulable := requestedNodePools.length = 1 || currentMarkUnschedulableForPodGroup = some true
    .ok ⟨nodePoolName, markUnschedulable, schedulingBackoff, false⟩
  | some last =>
    let previousNodePoolIndex := indexOfItemInList requestedNodePools last.nodePool
    let nextNodePoolIndex ← roundRobin (previousNodePoolIndex + 1) requestedNodePools
    let markUnschedulable := getMarkUnschedulableValue currentMarkUnschedulableForPodGroup ||
      nextNodePoolIndex = requestedNodePools.length - 1
    let nodePoolName ← elementAt requestedNodePools nextNodePoolIndex
    .ok ⟨nodePoolName, markUnschedulable, schedulingBackoff, false⟩

def findNextNodePoolFrom (requestedNodePools : List String) (params : NodePoolAssignmentParams)
    (previousNodePoolIndex : Int) : List Nat → Except RunError NodePoolAssignmentParams
  | [] => .error (.message ("failed finding node pool for assigning - all node pools from options are non available: <[" ++
      " ".intercalate requestedNodePools ++ "]>"))
  | index :: indices => do
    let nextNodePoolIndex ← roundRobin (previousNodePoolIndex + index) requestedNodePools
    let nextNodePoolName ← elementAt requestedNodePools nextNodePoolIndex
    if ← isNodePoolAvailableForScheduling c (.candidate index) nextNodePoolName then
      let isLast := nextNodePoolIndex = requestedNodePools.length - 1 || (nextNodePoolIndex : Int) < previousNodePoolIndex
      .ok { params with nodePoolName := nextNodePoolName, markUnschedulable := params.markUnschedulable || isLast }
    else findNextNodePoolFrom requestedNodePools params previousNodePoolIndex indices

def findNextNodePoolAvailableForScheduling (requestedNodePools : List String) (params : NodePoolAssignmentParams) :
    Except RunError NodePoolAssignmentParams :=
  findNextNodePoolFrom c requestedNodePools params (indexOfItemInList requestedNodePools params.nodePoolName)
    (List.range' 1 (requestedNodePools.length - 1))

def calculateNodePoolAssignmentParams (currentMarkUnschedulableForPodGroup : Option Bool)
    (lastSchedulingCondition : Option SchedulingCondition) (assignedNodePool : String)
    (requestedNodePools : List String) : Except RunError NodePoolAssignmentParams := do
  let params ← getInitialNodePoolAssignmentParams currentMarkUnschedulableForPodGroup lastSchedulingCondition
    assignedNodePool requestedNodePools
  if ← isNodePoolAvailableForScheduling c (.candidate 0) params.nodePoolName then .ok params
  else findNextNodePoolAvailableForScheduling c requestedNodePools params

/-- The same node pool again resets the conditions. -/
def getNodePoolAssignmentParams (currentMarkUnschedulableForPodGroup : Option Bool)
    (lastSchedulingCondition : Option SchedulingCondition) (assignedNodePool : String)
    (requestedNodePools : List String) : Except RunError NodePoolAssignmentParams := do
  let params ← calculateNodePoolAssignmentParams c currentMarkUnschedulableForPodGroup lastSchedulingCondition
    assignedNodePool requestedNodePools
  if requestedNodePools.length > 1 ∧ lastSchedulingCondition.any (fun last => params.nodePoolName = last.nodePool) then
    .ok { params with removeUnschedulableOnNodePoolSchedulingCondition := true }
  else .ok params

end

end Krm.PodGroups
