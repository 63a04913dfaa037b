import Krm.Objects

/-! # Nodes, pods and node pools, and the node-pool controller's configuration -/

open Krm.Lib

namespace Krm.Nodes

structure NodePoolControllerConfig where
  nodePoolNameLabel : String
  defaultNodepoolName : String
  excludedNodepoolName : String
  shouldBeExcludedLabelKey : String
  unschedulableLabelKey : String
  schedulerName : String
  finalizerDomain : String
  keys_nodup : [nodePoolNameLabel, shouldBeExcludedLabelKey, unschedulableLabelKey].Nodup
  key_valid : isLabelKey nodePoolNameLabel
  /-- The excluded pool is a pool of its own. -/
  excluded_reserved : excludedNodepoolName ∉ ["", defaultNodepoolName]

namespace NodePoolControllerConfig

def default : NodePoolControllerConfig where
  nodePoolNameLabel := "kai.scheduler/node-pool"
  defaultNodepoolName := "default"
  excludedNodepoolName := "kai-excluded-nodes"
  shouldBeExcludedLabelKey := "kai.scheduler/to-exclude"
  unschedulableLabelKey := "kai.scheduler/unschedulable"
  schedulerName := "kai-scheduler"
  finalizerDomain := "kai.scheduler"
  keys_nodup := by decide
  key_valid := by decide
  excluded_reserved := by decide

def finalizerName (cfg : NodePoolControllerConfig) : String := "nodepool." ++ cfg.finalizerDomain ++ "/finalize"

end NodePoolControllerConfig

structure Node where
  name : String
  labels : Labels
  unschedulable : Bool
deriving DecidableEq

inductive PodPhase where
  | pending
  | running
  | succeeded
  | failed
  | unknown
deriving DecidableEq, Repr

structure Pod where
  namespaceName : String
  name : String
  labels : Labels
  /-- The annotation that names the pod's PodGroup. -/
  podGroupAnnotation : Option String
  schedulerName : String
  nodeName : String
  phase : PodPhase
deriving DecidableEq

structure PodGroup where
  namespaceName : String
  name : String
  labels : Labels
deriving DecidableEq

def PodGroup.key (podGroup : PodGroup) : String × String := (podGroup.namespaceName, podGroup.name)

inductive NodePoolPhase where
  | unset
  | ready
  | empty
  | unschedulable
  | missingPrerequisites
  | deleting
deriving DecidableEq, Repr

structure NodePool where
  name : String
  labelKey : String
  labelValue : String
  deleted : Bool
  phase : NodePoolPhase
  finalizers : List String
  name_ne : name ≠ ""
deriving DecidableEq, Repr

structure SchedulingShard where
  name : String
  labels : Labels
  ownerReferences : List OwnerReference
  partitionLabelValue : String
deriving DecidableEq

/-- A criteria term, by the selector helper's answer for a node. -/
abbrev NodeSelectorTerm := Node → Except String Bool

abbrev NodeStore := Store Node.name

/-! ## The API -/

inductive Call where
  | listNodes
  | getNode (name : String)
  | listNodePools
  | listShards
  | getManagedNodesConfig
  | listPods (nodeName : String)
  | getPodGroup (namespaceName name : String)
  | patchUnschedulable (node : String) (unschedulable : Bool)
  | patchLabels (node : String) (add : List (String × String)) (remove : List String)
  | patchFinalizers (nodePool : String)
deriving DecidableEq, Repr

def Call.isRead : Call → Bool
  | .patchUnschedulable .. => false
  | .patchLabels .. => false
  | .patchFinalizers _ => false
  | _ => true

/-- All else that the reconciles of nodes read, and the failing calls. -/
structure Cluster where
  pods : List Pod
  podGroups : Store PodGroup.key
  nodePools : List NodePool
  shards : List SchedulingShard
  inclusionCriteria : List NodeSelectorTerm
  /-- Whether the resource named for uninstall detection is gone or going. -/
  uninstalling : Bool
  fault : Call → Option ApiError

def Cluster.attempt {α : Type} (c : Cluster) (call : Call) (result : α) : Except ApiError α :=
  match c.fault call with
  | some e => .error e
  | none => .ok result

end Krm.Nodes
