import Krm.Lib.Runs
import Krm.Shards.SchedulingShard

/-! # Admission of NodePools and SchedulingShards, and the controller's writes -/

open Krm.Lib Krm.Nodes
open Krm.Departments (quoted)

namespace Krm.Shards

structure Cluster (σ : Type) where
  nodePools : Store fun nodePool : ConfiguredNodePool σ => nodePool.name
  shards : ShardStore σ

def Cluster.empty {σ : Type} : Cluster σ := ⟨Store.empty, Store.empty⟩

section

variable {σ : Type} (cfg : NodePoolControllerConfig) (fault : Faults) (c : Cluster σ)

/-! ## The webhook of SchedulingShards -/

def requireNodePool (shard : StoredShard σ) : Except ShardError Unit :=
  let nodePoolName := nodePoolNameForPartitionLabelValue cfg shard.partitionLabelValue
  match fault .webhookGetNodePool, c.nodePools.get nodePoolName with
  | none, some _ => .ok ()
  | some e, _ =>
    if e.isNotFound then refused nodePoolName
    else
      .error (.refused ("failed to validate scheduling shard " ++ quoted shard.name ++ ": could not get nodepool " ++
        quoted nodePoolName))
  | none, none => refused nodePoolName
where
  refused (nodePoolName : String) : Except ShardError Unit :=
    let labelHint :=
      if shard.partitionLabelValue ≠ "" then
        ", or label the shard " ++ ignoreShardLabelKey ++ "=true to leave its nodes to another scheduler"
      else ""
    .error (.refused ("scheduling shard " ++ quoted shard.name ++ " cannot use partitionLabelValue " ++
      quoted shard.partitionLabelValue ++ ": no nodepool " ++ quoted nodePoolName ++ " exists for it; create that nodepool" ++
      labelHint))

def validateShardCreate (shard : StoredShard σ) : Except ShardError Unit :=
  let partitionLabelValue := shard.partitionLabelValue
  match listShardsWithPartitionLabelValue fault c.shards .webhookListShards partitionLabelValue with
  | .error _ =>
    .error (.refused ("failed to validate scheduling shard " ++ quoted shard.name ++
      ": could not list existing scheduling shards"))
  | .ok others =>
    match others.find? fun other => other.name ≠ shard.name with
    | some other =>
      .error (.refused ("scheduling shard " ++ quoted shard.name ++ " cannot use partitionLabelValue " ++
        quoted partitionLabelValue ++ ": scheduling shard " ++ quoted other.name ++ " already has it"))
    | none => if isUnmanaged shard.toSchedulingShard then .ok () else requireNodePool cfg fault c shard

def validateShardUpdate (oldShard newShard : StoredShard σ) : Except ShardError Unit := do
  let oldLabel := oldShard.labels.lookup ignoreShardLabelKey
  let newLabel := newShard.labels.lookup ignoreShardLabelKey
  refuseIf (oldShard.partitionLabelValue ≠ newShard.partitionLabelValue)
    (.refused ("scheduling shard " ++ quoted newShard.name ++ " cannot change partitionLabelValue from " ++
      quoted oldShard.partitionLabelValue ++ " to " ++ quoted newShard.partitionLabelValue ++
      "; create a new shard instead"))
  refuseIf (newShard.partitionLabelValue ≠ "" && oldLabel ≠ newLabel)
    (.refused ("scheduling shard " ++ quoted newShard.name ++ " with partitionLabelValue " ++
      quoted newShard.partitionLabelValue ++ " cannot add, change or remove its " ++ ignoreShardLabelKey ++
      " label after creation"))

/-- What is refused: a write of a shard, over any stored one. -/
structure Admission (σ : Type) where
  review : Option (StoredShard σ) → StoredShard σ → Except ShardError Unit
  refuses : ∀ old shard e, review old shard = .error e → ∃ message, e = .refused message

def Admission.none : Admission σ := ⟨fun _ _ => .ok (), nofun⟩

variable {cfg fault c} {e : ShardError}

theorem requireNodePool_error {shard : StoredShard σ} (h : requireNodePool cfg fault c shard = .error e) :
    ∃ message, e = .refused message := by
  unfold requireNodePool requireNodePool.refused at h
  dsimp only at h
  split at h
  · cases h
  · split_ifs at h <;> exact ⟨_, (Except.error.inj h).symm⟩
  · exact ⟨_, (Except.error.inj h).symm⟩

theorem validateShardCreate_error {shard : StoredShard σ} (h : validateShardCreate cfg fault c shard = .error e) :
    ∃ message, e = .refused message := by
  unfold validateShardCreate at h
  dsimp only at h
  split at h
  · exact ⟨_, (Except.error.inj h).symm⟩
  · split at h
    · exact ⟨_, (Except.error.inj h).symm⟩
    · split_ifs at h
      exact requireNodePool_error h

theorem validateShardUpdate_error {old shard : StoredShard σ} (h : validateShardUpdate old shard = .error e) :
    ∃ message, e = .refused message := by
  obtain hpartition | ⟨_, -, hlabel⟩ := bind_error h
  · exact ⟨_, refuseIf_error hpartition⟩
  · exact ⟨_, refuseIf_error hlabel⟩

variable (cfg fault c)

def webhooks : Admission σ where
  review
    | none, shard => validateShardCreate cfg fault c shard
    | some old, shard => validateShardUpdate old shard
  refuses
    | none, _, _ => validateShardCreate_error
    | some _, _, _ => validateShardUpdate_error

/-! ## The webhook of NodePools -/

def validateLabels (nodePool : ConfiguredNodePool σ) : Except ShardError Unit :=
  if nodePool.name = cfg.defaultNodepoolName then
    refuseIf (nodePool.labelKey ≠ "" || nodePool.labelValue ≠ "")
      (.refused ("the " ++ quoted cfg.defaultNodepoolName ++ " nodepool must not set labelKey or labelValue"))
  else if nodePool.labelKey = "" || nodePool.labelValue = "" then
    .error (.refused ("nodepool " ++ quoted nodePool.name ++
      " must set a non-empty labelKey and labelValue; only the " ++ quoted cfg.defaultNodepoolName ++
      " nodepool may leave them empty"))
  else
    match fault .webhookListNodePools with
    | some _ =>
      .error (.refused ("failed to validate nodepool " ++ quoted nodePool.name ++ ": could not list existing nodepools"))
    | none =>
      match c.nodePools.items.find? fun other => other.name ≠ nodePool.name &&
          (other.labelKey = nodePool.labelKey && other.labelValue = nodePool.labelValue) with
      | some other =>
        .error (.refused ("nodepool " ++ quoted nodePool.name ++ " labelKey " ++ quoted nodePool.labelKey ++
          " / labelValue " ++ quoted nodePool.labelValue ++ " duplicates existing nodepool " ++ quoted other.name))
      | none => .ok ()

/-- The pool is admitted only when the controller could reconcile it. -/
def validatePartitionLabelValue [Inhabited σ] (nodePool : ConfiguredNodePool σ) : Except ShardError Unit :=
  let cannot := ShardError.wrapped ("nodepool " ++ quoted nodePool.name ++ " cannot be created: ")
  match resolveShardForNodePool cfg fault c.shards nodePool with
  | .error e => .error (cannot e)
  | .ok none =>
    match getOrInitShardNamedAfterNodePool cfg fault c.shards nodePool with
    | .error e => .error (cannot e)
    | .ok _ => .ok ()
  | .ok (some shard) =>
    let owner := owningNodePoolName shard.toSchedulingShard
    refuseIf (owner ≠ "") (.refused ("nodepool " ++ quoted nodePool.name ++ " cannot use partitionLabelValue " ++
      quoted shard.partitionLabelValue ++ ": scheduling shard " ++ quoted shard.name ++ " already has it, for nodepool " ++
      quoted owner))

def validateNodePoolCreate [Inhabited σ] (nodePool : ConfiguredNodePool σ) : Except ShardError Unit := do
  validateLabels cfg fault c nodePool
  validatePartitionLabelValue cfg fault c nodePool

def validateNodePoolDelete (nodePool : ConfiguredNodePool σ) : Except ShardError Unit :=
  refuseIf (nodePool.name = cfg.defaultNodepoolName) (.refused ("the " ++ quoted cfg.defaultNodepoolName ++
    " nodepool cannot be deleted; it is the catch-all for nodes no other nodepool claims"))

end

/-! ## The API server -/

section

variable {σ : Type} (cfg : NodePoolControllerConfig) (admission : Admission σ) (fault : Faults) (c : Cluster σ)

/-- A write is lost when the call fails, whatever the webhooks say. -/
def callWrite : Except ShardError Unit :=
  match fault .write with
  | some e => .error (.api e)
  | none => .ok ()

def found {α : Type} (name : String) : Option α → Except ShardError α := Lib.found (.api (.notFound name))

def createAdmitted (shard : StoredShard σ) : Except ShardError (Cluster σ) := do
  callWrite fault
  admission.review none shard
  match c.shards.get shard.name with
  | some _ => .error (.api (.alreadyExists shard.name))
  | none => .ok { c with shards := c.shards.insert shard }

def updateAdmitted (shard : StoredShard σ) : Except ShardError (Cluster σ) := do
  callWrite fault
  let old ← found shard.name (c.shards.get shard.name)
  admission.review (some old) shard
  return { c with shards := c.shards.replace shard }

def createShard : StoredShard σ → Except ShardError (Cluster σ) := createAdmitted (webhooks cfg fault c) fault c

def updateShard : StoredShard σ → Except ShardError (Cluster σ) := updateAdmitted (webhooks cfg fault c) fault c

def deleteShard (name : String) : Except ShardError (Cluster σ) := do
  callWrite fault
  return { c with shards := c.shards.remove name }

def createNodePool [Inhabited σ] (nodePool : ConfiguredNodePool σ) : Except ShardError (Cluster σ) := do
  callWrite fault
  validateNodePoolCreate cfg fault c nodePool
  match c.nodePools.get nodePool.name with
  | some _ => .error (.api (.alreadyExists nodePool.name))
  | none => .ok { c with nodePools := c.nodePools.insert nodePool }

/-- Keeps the UID and the deletion mark. The label pair is immutable. -/
def updateNodePool (nodePool : ConfiguredNodePool σ) : Except ShardError (Cluster σ) := do
  callWrite fault
  let old ← found nodePool.name (c.nodePools.get nodePool.name)
  refuseIf (old.labelKey ≠ nodePool.labelKey || old.labelValue ≠ nodePool.labelValue)
    (.refused "labelKey and labelValue are immutable")
  if old.deleted && nodePool.finalizers.isEmpty then return { c with nodePools := c.nodePools.remove nodePool.name }
  else return { c with nodePools := c.nodePools.replace { nodePool with uid := old.uid, deleted := old.deleted } }

def deleteNodePool (name : String) : Except ShardError (Cluster σ) := do
  callWrite fault
  let old ← found name (c.nodePools.get name)
  validateNodePoolDelete cfg old
  if old.finalizers.isEmpty then return { c with nodePools := c.nodePools.remove name }
  else return { c with nodePools := c.nodePools.replace { old with deleted := true } }

/-! ## The controller -/

def createOrUpdateIfNeeded [DecidableEq σ] (resource : StoredShard σ) : Except ShardError (Cluster σ) :=
  match fault .getExisting, c.shards.get resource.name with
  | some e, _ => if e.isNotFound then createAdmitted admission fault c resource else .error (.api e)
  | none, none => createAdmitted admission fault c resource
  | none, some existing => if specsDiffer existing resource then updateAdmitted admission fault c resource else .ok c

def createOrUpdateResource [DecidableEq σ] (nodePool : ConfiguredNodePool σ) (resource : StoredShard σ) :
    Except ShardError (Cluster σ) := do
  let owned ← setControllerReference nodePool resource
  match createOrUpdateIfNeeded admission fault c owned with
  | .error (.api (.alreadyExists _)) => .ok c
  | result => result

def reconcileAdmitted [DecidableEq σ] [Inhabited σ] (params : NodePoolControllerParams) (nodePool : ConfiguredNodePool σ) :
    Except ShardError (Cluster σ) := do
  let shard ← schedulingShardForNodePool cfg params fault c.shards nodePool
  createOrUpdateResource admission fault c nodePool shard

def reconcileScheduler [DecidableEq σ] [Inhabited σ] :
    NodePoolControllerParams → ConfiguredNodePool σ → Except ShardError (Cluster σ) :=
  reconcileAdmitted cfg (webhooks cfg fault c) fault c

end

/-! ## Requests -/

inductive Request (σ : Type) where
  | createNodePool (nodePool : ConfiguredNodePool σ)
  | updateNodePool (nodePool : ConfiguredNodePool σ)
  | deleteNodePool (name : String)
  | createShard (shard : StoredShard σ)
  | updateShard (shard : StoredShard σ)
  | deleteShard (name : String)
  | reconcile (name : String)

section

variable {σ : Type} [DecidableEq σ] [Inhabited σ] (cfg : NodePoolControllerConfig) (params : NodePoolControllerParams)

/-- A pool that is being deleted is drained and not reconciled. -/
def reconcile (fault : Faults) (c : Cluster σ) (name : String) : Except ShardError (Cluster σ) := do
  let nodePool ← found name (c.nodePools.get name)
  if nodePool.deleted then return c else reconcileScheduler cfg fault c params nodePool

def serve (fault : Faults) (c : Cluster σ) : Request σ → Except ShardError (Cluster σ)
  | .createNodePool nodePool => createNodePool cfg fault c nodePool
  | .updateNodePool nodePool => updateNodePool fault c nodePool
  | .deleteNodePool name => deleteNodePool cfg fault c name
  | .createShard shard => createShard cfg fault c shard
  | .updateShard shard => updateShard cfg fault c shard
  | .deleteShard name => deleteShard fault c name
  | .reconcile name => reconcile cfg params fault c name

/-- What fails or is refused changes nothing. -/
def step (c : Cluster σ) (event : Faults × Request σ) : Cluster σ := ((serve cfg params event.1 c event.2).toOption).getD c

end

/-! ## A node pool -/

def workerParams : NodePoolControllerParams where
  schedulingShardArgs := ∅
  cpuWorkerNodeLabelKey := "node-role.kubernetes.io/cpu-worker"
  gpuWorkerNodeLabelKey := "node-role.kubernetes.io/gpu-worker"
  migWorkerNodeLabelKey := "node-role.kubernetes.io/mig-enabled"

def gpuPool (uid : String) (args : Option Labels) : ConfiguredNodePool Unit where
  name := "gpu"
  labelKey := "accelerator"
  labelValue := "gpu"
  deleted := false
  phase := .unset
  finalizers := []
  name_ne := by decide
  uid := uid
  schedulingShardConfig := args.map fun args => ⟨args, ()⟩

end Krm.Shards
