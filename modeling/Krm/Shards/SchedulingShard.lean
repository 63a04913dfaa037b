import Krm.Departments.Webhook
import Krm.Lib.TrackedMerge
import Krm.Lib.Upsert
import Krm.Nodes.Reconcile
import Mathlib.Data.Finset.Sort
import Mathlib.Data.String.Basic

/-! # The SchedulingShard of a NodePool -/

open Krm.Lib Krm.Nodes
open Krm.Departments (quoted)

namespace Krm.Shards

structure NodePoolControllerParams where
  schedulingShardArgs : Labels
  cpuWorkerNodeLabelKey : String
  gpuWorkerNodeLabelKey : String
  migWorkerNodeLabelKey : String

/-- The settings are all that the shard takes over besides the args. -/
structure SchedulingShardConfig (σ : Type) where
  args : Labels
  settings : σ
deriving DecidableEq

structure ConfiguredNodePool (σ : Type) extends NodePool where
  uid : String
  schedulingShardConfig : Option (SchedulingShardConfig σ)
deriving DecidableEq

structure StoredShard (σ : Type) extends SchedulingShard where
  annotations : Labels
  args : Labels
  settings : σ
deriving DecidableEq

abbrev ShardStore (σ : Type) := Store fun shard : StoredShard σ => shard.name

/-- The places where a step calls the API. -/
inductive Place where
  | listByPartition
  | getNamed
  | getExisting
  | write
  | webhookListShards
  | webhookGetNodePool
  | webhookListNodePools
deriving DecidableEq, Repr

abbrev Faults := Place → Option ApiError

def noFaults : Faults := fun _ => none

inductive ShardError where
  | api (e : ApiError)
  | wrapped (context : String) (e : ShardError)
  | unresolvable (message : String)
  | alreadyOwned (message : String)
  | refused (message : String)
deriving DecidableEq, Repr

/-! ## Partitions and owners -/

def partitionLabelValueForNodePool (cfg : NodePoolControllerConfig) (nodePoolName : String) : String :=
  if nodePoolName = cfg.defaultNodepoolName then "" else nodePoolName

def nodePoolNameForPartitionLabelValue (cfg : NodePoolControllerConfig) (partitionLabelValue : String) : String :=
  if partitionLabelValue = "" then cfg.defaultNodepoolName else partitionLabelValue

def nodePoolKind : String := "NodePool"

def controllerOf (shard : SchedulingShard) : Option OwnerReference :=
  shard.ownerReferences.find? fun owner => owner.controller = some true

variable {σ : Type}

def isControlledBy (shard : SchedulingShard) (nodePool : ConfiguredNodePool σ) : Bool :=
  (controllerOf shard).any fun owner => owner.uid = nodePool.uid

/-! ## Which shard is the node pool's -/

section Resolve

variable (cfg : NodePoolControllerConfig) (fault : Faults) (shards : ShardStore σ) (nodePool : ConfiguredNodePool σ)

def listShardsWithPartitionLabelValue (place : Place) (partitionLabelValue : String) :
    Except ShardError (List (StoredShard σ)) :=
  match fault place with
  | some e =>
    .error (.wrapped ("listing scheduling shards with partitionLabelValue " ++ quoted partitionLabelValue ++ ": ") (.api e))
  | none => .ok (shards.list fun shard => shard.partitionLabelValue = partitionLabelValue)

def resolveShardForNodePool : Except ShardError (Option (StoredShard σ)) :=
  let partitionLabelValue := partitionLabelValueForNodePool cfg nodePool.name
  let served := "partitionLabelValue " ++ quoted partitionLabelValue ++ " of node pool " ++ nodePool.name ++
    " is served by "
  match listShardsWithPartitionLabelValue fault shards .listByPartition partitionLabelValue with
  | .error e => .error (.wrapped ("node pool " ++ nodePool.name ++ ": ") e)
  | .ok [] => .ok none
  | .ok [shard] =>
    if isUnmanaged shard.toSchedulingShard then
      .error (.unresolvable (served ++ "scheduling shard " ++ shard.name ++ ", labelled " ++ ignoreShardLabelKey))
    else .ok (some shard)
  | .ok found =>
    let names := (found.map fun shard => shard.name).insertionSort (· ≤ ·)
    .error (.unresolvable (served ++ "more than one scheduling shard [" ++ " ".intercalate names ++ "]"))

/-- Only a controlled shard is written; the migration hook adopts others. -/
def resolveOwnedShardForNodePool : Except ShardError (Option (StoredShard σ)) :=
  match resolveShardForNodePool cfg fault shards nodePool with
  | .error e => .error e
  | .ok none => .ok none
  | .ok (some shard) =>
    if isControlledBy shard.toSchedulingShard nodePool then .ok (some shard)
    else
      let served := "partitionLabelValue " ++ quoted (partitionLabelValueForNodePool cfg nodePool.name) ++
        " of node pool " ++ nodePool.name ++ " is served by scheduling shard " ++ shard.name
      let owner := owningNodePoolName shard.toSchedulingShard
      if owner ≠ "" then
        .error (.unresolvable (served ++ ", owned by node pool " ++ owner ++ "; wait for node pool " ++ owner ++
          " to be deleted, or delete it"))
      else
        .error (.unresolvable (served ++
          ", which KRM did not create; re-run the KRM upgrade so it takes the shard over, or delete the shard"))

/-- A shard that is not saved yet. -/
def newShard [Inhabited σ] (name : String) : StoredShard σ where
  name := name
  labels := ∅
  ownerReferences := []
  partitionLabelValue := ""
  annotations := ∅
  args := ∅
  settings := default

def getOrInitShardNamedAfterNodePool [Inhabited σ] : Except ShardError (StoredShard σ) :=
  let unsaved : Except ShardError (StoredShard σ) := .ok (newShard nodePool.name)
  match fault .getNamed with
  | some e => if e.isNotFound then unsaved else .error (.api e)
  | none =>
    match shards.get nodePool.name with
    | none => unsaved
    | some shard =>
      if isControlledBy shard.toSchedulingShard nodePool then .ok shard
      else
        .error (.unresolvable ("scheduling shard " ++ shard.name ++ " serves partitionLabelValue " ++
          quoted shard.partitionLabelValue ++ " and is not owned by node pool " ++ nodePool.name ++
          ", which needs its name for partitionLabelValue " ++
          quoted (partitionLabelValueForNodePool cfg nodePool.name)))

end Resolve

/-! ## Its args -/

def managedShardArgsKey : String := "kai.resources/managed-shard-args"

def cpuWorkerNodeLabelKeyArg : String := "cpu-worker-node-label-key"
def gpuWorkerNodeLabelKeyArg : String := "gpu-worker-node-label-key"
def migWorkerNodeLabelKeyArg : String := "mig-worker-node-label-key"

def buildShardArgs (params : NodePoolControllerParams) (config : Option (SchedulingShardConfig σ)) : Labels :=
  let args := params.schedulingShardArgs ∪ (config.elim ∅ SchedulingShardConfig.args)
  ((args.insert cpuWorkerNodeLabelKeyArg params.cpuWorkerNodeLabelKey).insert
    gpuWorkerNodeLabelKeyArg params.gpuWorkerNodeLabelKey).insert migWorkerNodeLabelKeyArg params.migWorkerNodeLabelKey

def joinKeys (keys : Finset String) : String := ",".intercalate (keys.sort (· ≤ ·))

def sortedKeys (args : Labels) : List String := args.keys.sort (· ≤ ·)

def splitKeys (managed : String) : Finset String := ((managed.toList.splitOn ',').map String.ofList).toFinset

/-- The args of the shard, and its annotations. -/
def mergeShardArgs (shard : StoredShard σ) (desired : Labels) : Labels × Labels :=
  let kept : Labels :=
    match shard.annotations.lookup managedShardArgsKey with
    | some managed => Entries.without shard.args (splitKeys managed)
    | none => ∅
  (desired ∪ kept, shard.annotations.insert managedShardArgsKey (joinKeys desired.keys))

/-- The shard with all that it takes from the node pool. -/
def fillShard [Inhabited σ] (cfg : NodePoolControllerConfig) (params : NodePoolControllerParams)
    (nodePool : ConfiguredNodePool σ) (shard : StoredShard σ) : StoredShard σ :=
  let config := nodePool.schedulingShardConfig
  let merged := mergeShardArgs shard (buildShardArgs params config)
  { shard with
    labels := shard.labels.insert "app" cfg.schedulerName
    annotations := merged.2
    args := merged.1
    settings := config.elim default SchedulingShardConfig.settings
    partitionLabelValue := partitionLabelValueForNodePool cfg nodePool.name }

def schedulingShardForNodePool [Inhabited σ] (cfg : NodePoolControllerConfig) (params : NodePoolControllerParams)
    (fault : Faults) (shards : ShardStore σ) (nodePool : ConfiguredNodePool σ) : Except ShardError (StoredShard σ) := do
  let resolved ← resolveOwnedShardForNodePool cfg fault shards nodePool
  let shard ←
    match resolved with
    | some shard => .ok shard
    | none => getOrInitShardNamedAfterNodePool cfg fault shards nodePool
  return fillShard cfg params nodePool shard

/-! ## Its owner reference -/

def nodePoolReference (nodePool : ConfiguredNodePool σ) : OwnerReference :=
  ⟨groupVersion, nodePoolKind, nodePool.name, nodePool.uid, some true, some true⟩

/-- The reference names the node pool, whatever its version and UID. -/
def refersTo (nodePool : ConfiguredNodePool σ) (owner : OwnerReference) : Bool :=
  isNodePoolReference owner && owner.name = nodePool.name

def upsertOwnerRef (nodePool : ConfiguredNodePool σ) (owners : List OwnerReference) : List OwnerReference :=
  upsert (refersTo nodePool) (nodePoolReference nodePool) owners

def setControllerReference (nodePool : ConfiguredNodePool σ) (shard : StoredShard σ) :
    Except ShardError (StoredShard σ) :=
  match (controllerOf shard.toSchedulingShard).filter fun owner => !refersTo nodePool owner with
  | some owner =>
    .error (.alreadyOwned ("Object /" ++ shard.name ++ " is already owned by another " ++ owner.kind ++
      " controller " ++ owner.name))
  | none => .ok { shard with ownerReferences := upsertOwnerRef nodePool shard.ownerReferences }

def specsDiffer [DecidableEq σ] (existing desired : StoredShard σ) : Bool :=
  existing.args ≠ desired.args || existing.partitionLabelValue ≠ desired.partitionLabelValue ||
    existing.settings ≠ desired.settings

/-! ## What the owner reference does -/

theorem isNodePoolReference_nodePoolReference (nodePool : ConfiguredNodePool σ) :
    isNodePoolReference (nodePoolReference nodePool) := by
  have hsplit : groupVersion.toList.splitOn '/' = ["kai.resources".toList, "v1alpha1".toList] := by decide
  simp [isNodePoolReference, nodePoolReference, nodePoolKind, hsplit]

variable {nodePool : ConfiguredNodePool σ}

theorem setControllerReference_controllerOf {shard owned : StoredShard σ}
    (h : setControllerReference nodePool shard = .ok owned) :
    controllerOf owned.toSchedulingShard = some (nodePoolReference nodePool) := by
  unfold setControllerReference at h
  split at h
  · cases h
  · rename_i hnone
    cases h
    refine find_upsert_self (by simp [nodePoolReference]) ?_
    intro owner howner
    rw [controllerOf, howner] at hnone
    simpa [Option.filter] using hnone

theorem owningNodePoolName_of_controllerOf {shard : SchedulingShard}
    (h : controllerOf shard = some (nodePoolReference nodePool)) : owningNodePoolName shard = nodePool.name := by
  unfold owningNodePoolName
  rw [← controllerOf, h]
  exact if_pos (isNodePoolReference_nodePoolReference nodePool)

theorem isUnmanaged_of_controllerOf {shard : SchedulingShard}
    (h : controllerOf shard = some (nodePoolReference nodePool)) : isUnmanaged shard = false := by
  simp [isUnmanaged, owningNodePoolName_of_controllerOf h, nodePool.name_ne]

end Krm.Shards
