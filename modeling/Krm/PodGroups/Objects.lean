import Krm.Lib.Runs
import Krm.Nodes.Objects

/-! # Pod groups, their pods, and what the pod-group assigner reads -/

open Krm.Lib

namespace Krm.PodGroups

structure PodGroupAssignerConfig where
  nodePoolLabelKey : String
  queueLabelKey : String
  namespaceProjectLabelKey : String
  projectLabelKey : String
  unexistingNodepoolSentinel : String
  defaultNodepoolName : String
  annotationNodepoolsKey : String
  allowExternalQueues : Bool

def PodGroupAssignerConfig.default (allowExternalQueues : Bool) : PodGroupAssignerConfig where
  nodePoolLabelKey := "kai.scheduler/node-pool"
  queueLabelKey := "kai.scheduler/queue"
  namespaceProjectLabelKey := "kai/project"
  projectLabelKey := "project"
  unexistingNodepoolSentinel := "kai-unexisting-node-pool"
  defaultNodepoolName := "default"
  annotationNodepoolsKey := "kai.scheduler/node-pools"
  allowExternalQueues := allowExternalQueues

/-! ## Pods -/

inductive NodeSelectorOperator where
  | in
  | notIn
  | exists
  | doesNotExist
  | gt
  | lt
deriving DecidableEq, Repr

structure NodeSelectorRequirement where
  key : String
  operator : NodeSelectorOperator
  values : List String
deriving DecidableEq, Repr

structure NodeSelectorTerm where
  matchExpressions : List NodeSelectorRequirement
  matchFields : List NodeSelectorRequirement
deriving DecidableEq, Repr

structure NodeAffinity where
  requiredDuringSchedulingIgnoredDuringExecution : Option (List NodeSelectorTerm)
deriving DecidableEq, Repr

structure Affinity where
  nodeAffinity : Option NodeAffinity
deriving DecidableEq, Repr

structure Pod where
  namespaceName : String
  name : String
  annotations : Labels
  affinity : Option Affinity
  nodeName : String
  phase : Nodes.PodPhase
deriving DecidableEq

/-! ## Pod groups -/

inductive SchedulingConditionType where
  | unschedulableOnNodePool
  | other (name : String)
deriving DecidableEq, Repr

structure SchedulingCondition where
  type : SchedulingConditionType
  nodePool : String
deriving DecidableEq, Repr

structure TopologyConstraint where
  topology : String
  preferredTopologyLevel : String
  requiredTopologyLevel : String
deriving DecidableEq, Repr

def TopologyConstraint.empty : TopologyConstraint := ⟨"", "", ""⟩

structure PodGroup where
  namespaceName : String
  name : String
  uid : String
  labels : Labels
  annotations : Labels
  queue : String
  markUnschedulable : Option Bool
  schedulingBackoff : Option Int
  topologyConstraint : TopologyConstraint
  schedulingConditions : List SchedulingCondition
deriving DecidableEq

/-! ## The cluster -/

structure NodePool where
  name : String
  labelKey : String
  labelValue : String
  phase : Nodes.NodePoolPhase
  preferredNetworkTopologyName : String
  name_ne : name ≠ ""

structure Topology where
  name : String
  /-- The node labels of the levels, the highest level first. -/
  levels : List String
deriving DecidableEq, Repr

/-- The calls of one run, each by its place in the code. -/
inductive Call where
  | externalNamespace
  | externalProject
  | currentNodePool
  | pods
  | affinityNodePools
  /-- The node pool that is tried after `index` others. -/
  | candidate (index : Nat)
  | projectNamespace
  | queues
  | patchStatus
  | preferredTopology
  | topology
  | patch
deriving DecidableEq, Repr

/-- All else that a run reads, and the text of each failing call. -/
structure Cluster where
  namespaces : Store Namespace.name
  projects : List String
  nodePools : Store NodePool.name
  topologies : Store Topology.name
  queues : List Queue
  pods : List Pod
  fault : Call → Option String

inductive RunError where
  | api (e : ApiError)
  | message (text : String)
  | wrapped (before : String) (e : RunError) (after : String)
  | nodeAffinityConversion (e : RunError)
  | panicked (text : String)
deriving DecidableEq, Repr

namespace Cluster

def attempt {α : Type} (c : Cluster) (call : Call) (result : Except RunError α) : Except RunError α :=
  match c.fault call with
  | some message => .error (.api (.failed message))
  | none => result

def found {α : Type} (name : String) : Option α → Except RunError α := Lib.found (.api (.notFound name))

def getNodePool (c : Cluster) (call : Call) (name : String) : Except RunError NodePool :=
  c.attempt call (found name (c.nodePools.get name))

def getNamespace (c : Cluster) (call : Call) (name : String) : Except RunError Namespace :=
  c.attempt call (found name (c.namespaces.get name))

def getProject (c : Cluster) (call : Call) (name : String) : Except RunError Unit :=
  c.attempt call (found name (if name ∈ c.projects then some () else none))

def getTopology (c : Cluster) (call : Call) (name : String) : Except RunError Topology :=
  c.attempt call (found name (c.topologies.get name))

end Cluster

def RunError.isNotFound : RunError → Bool
  | .api e => e.isNotFound
  | _ => false

end Krm.PodGroups
