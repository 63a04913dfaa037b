import Krm.Operator.Deploy
import Krm.Shards.Admission

/-! # The hook that hands existing SchedulingShards to NodePools -/

open Krm.Lib
open Krm.Nodes (isUnmanaged ignoreShardLabelKey)
open Krm.Shards (Cluster ConfiguredNodePool StoredShard SchedulingShardConfig ShardError setControllerReference)
open Krm.Departments (quoted)
open Krm.Operator (isNoMatchError)

namespace Krm.HelmHooks

def adoptionLabelKey : String := "kai.resources/adoption"
def adoptionLabelValue : String := "adopted"

structure NodePoolSpec (σ : Type) where
  labelKey : String
  labelValue : String
  schedulingShardConfig : Option (SchedulingShardConfig σ)

structure MigrateShardsOptions (σ : Type) where
  partitionLabelKey : String
  defaultNodePoolName : String
  schedulingShardArgs : Labels
  ensureDefaultNodePool : Bool
  defaultNodePoolSpec : NodePoolSpec σ

/-- The API calls of the hook. -/
inductive Place where
  | listShards
  | getKaiConfig
  | getNodePool (name : String)
  | createNodePool (name : String)
  | patchNodePool (name : String)
  | patchShard (name : String)
  | getDefaultNodePool
  | createDefaultNodePool
deriving DecidableEq, Repr

abbrev Faults := Place → Option ApiError

def noFaults : Faults := fun _ => none

/-- What stays from run to run: options, the Config's label key, the server's UIDs, how settings are read. -/
structure Installation (σ : Type) where
  opts : MigrateShardsOptions σ
  kaiConfig : Option (Option String)
  assignedUID : String → String
  settingsFromShard : String → σ → Except String σ

inductive CheckError where
  | refused (message : String)
  | failed (context : String) (cause : ApiError)
deriving DecidableEq, Repr

inductive MigrateError where
  | plan (context : String) (errs : List CheckError)
  | call (e : CheckError)
  | owner (context : String) (cause : ShardError)
deriving DecidableEq, Repr

section

variable {σ : Type} (env : Installation σ) (fault : Faults)

/-! ## Checks -/

def defaultKAIConfigSingletonInstanceName : String := "kai-config"
def defaultNodePoolLabelKey : String := "kai.scheduler/node-pool"

def checkPartitionLabelKey : Except CheckError Unit :=
  match fault .getKaiConfig, env.kaiConfig with
  | some e, _ =>
    if e.isNotFound || isNoMatchError e then .ok ()
    else .error (.failed ("failed to read KAI Scheduler Config " ++ quoted defaultKAIConfigSingletonInstanceName ++ ": ") e)
  | none, none => .ok ()
  | none, some nodePoolLabelKey =>
    let kaiLabelKey := if nodePoolLabelKey.getD "" ≠ "" then nodePoolLabelKey.getD "" else defaultNodePoolLabelKey
    refuseIf (kaiLabelKey ≠ env.opts.partitionLabelKey)
      (.refused ("KAI Scheduler reads node pools from label " ++ quoted kaiLabelKey ++ " but KRM would use " ++
        quoted env.opts.partitionLabelKey ++ "; set the chart value kai-scheduler.global.nodePoolLabelKey=" ++ kaiLabelKey))

def dns1123SubdomainProblems (name : String) : List String :=
  (if name.toList.length > 253 then ["must be no more than 253 characters"] else []) ++
    (if (name.toList.splitOn '.').all isDNS1123Label then []
    else
      ["a lowercase RFC 1123 subdomain must consist of lower case alphanumeric characters, '-' or '.', and must start " ++
        "and end with an alphanumeric character (e.g. 'example.com', regex used for validation is " ++
        "'[a-z0-9]([-a-z0-9]*[a-z0-9])?(\\.[a-z0-9]([-a-z0-9]*[a-z0-9])?)*')"])

def checkNodePoolName (shard : StoredShard σ) (nodePoolName : String) : Except CheckError Unit :=
  let serves := "SchedulingShard " ++ shard.name ++ " serves partition " ++ quoted nodePoolName
  if shard.partitionLabelValue = "" then .ok ()
  else if nodePoolName = env.opts.defaultNodePoolName then
    .error (.refused (serves ++ ", which is the default NodePool's name; move its nodes to a partition with another name"))
  else
    let problems := dns1123SubdomainProblems nodePoolName
    refuseIf (!problems.isEmpty) (.refused (serves ++ ", which cannot be a NodePool name (" ++ "; ".intercalate problems ++
      "); move its nodes to a partition with a lowercase name"))

/-- The args that the controller sets, of the cluster or by default. -/
def controllerArgs : Labels :=
  env.opts.schedulingShardArgs ∪
    (((∅ : Labels).insert Shards.cpuWorkerNodeLabelKeyArg "node-role.kubernetes.io/cpu-worker").insert
      Shards.gpuWorkerNodeLabelKeyArg "node-role.kubernetes.io/gpu-worker").insert
        Shards.migWorkerNodeLabelKeyArg "node-role.kubernetes.io/mig-enabled"

def argConflict (shard : StoredShard σ) (key : String) : Option String :=
  (shard.args.lookup key).bind fun value =>
    ((controllerArgs env).lookup key).bind fun want =>
      if want ≠ value then some (key ++ "=" ++ quoted value ++ " (KRM sets " ++ quoted want ++ ")") else none

def checkShardArgs (shard : StoredShard σ) : Except CheckError Unit :=
  if ∀ key ∈ shard.args.keys, argConflict env shard key = none then .ok ()
  else
    let conflicts := ((Shards.sortedKeys shard.args).filterMap (argConflict env shard)).insertionSort (· ≤ ·)
    .error (.refused ("SchedulingShard " ++ shard.name ++ " sets args KRM overwrites with other values: " ++
      ", ".intercalate conflicts ++ "; set them in nodePoolController.args.schedulingShardArgs instead"))

def schedulingShardConfigFromShard (shard : StoredShard σ) : Except CheckError (SchedulingShardConfig σ) :=
  match env.settingsFromShard shard.name shard.settings with
  | .error message => .error (.refused message)
  | .ok settings => .ok ⟨shard.args, settings⟩

/-- The client refuses to read an object without a name. -/
def emptyName : CheckError := .failed "failed to read NodePool : " (.failed "resource name may not be empty")

def getNodePool (c : Cluster σ) (place : Place) (name : String) : Except CheckError (Option (ConfiguredNodePool σ)) :=
  match fault place with
  | some e => if e.isNotFound then .ok none else .error (.failed ("failed to read NodePool " ++ name ++ ": ") e)
  | none => .ok (c.nodePools.get name)

def checkNodePoolSelectsPartition (nodePool : ConfiguredNodePool σ) (shard : StoredShard σ) : Except CheckError Unit :=
  let partitionLabelValue := shard.partitionLabelValue
  let partition := env.opts.partitionLabelKey ++ "=" ++ partitionLabelValue
  if partitionLabelValue = "" ||
      (nodePool.labelKey = env.opts.partitionLabelKey && nodePool.labelValue = partitionLabelValue) then .ok ()
  else
    .error (.refused ("NodePool " ++ nodePool.name ++ " already exists and selects nodes labelled " ++ nodePool.labelKey ++
      "=" ++ nodePool.labelValue ++ ", but SchedulingShard " ++ shard.name ++ " serves the nodes labelled " ++ partition ++
      "; taking it over would move nodes between schedulers, so either select " ++ partition ++
      " in the NodePool, rename the NodePool, or move the shard and its nodes to another partitionLabelValue"))

/-! ## The plan -/

structure ShardMigration (σ : Type) where
  shard : StoredShard σ
  nodePoolName : String
  shardConfig : SchedulingShardConfig σ
  existingNodePool : Option (ConfiguredNodePool σ)
  name_ne : nodePoolName ≠ ""

/-- A shard with a controller, or excluded by an admin, stays. -/
def isPending (shard : StoredShard σ) : Bool :=
  (Shards.controllerOf shard.toSchedulingShard).isNone && !isUnmanaged shard.toSchedulingShard

def shardsToMigrate (shards : List (StoredShard σ)) : List (StoredShard σ) :=
  (shards.filter isPending).insertionSort fun a b => a.name ≤ b.name

def nodePoolNameFor (shard : StoredShard σ) : String :=
  if shard.partitionLabelValue = "" then env.opts.defaultNodePoolName else shard.partitionLabelValue

/-- What of a shard is checked before its NodePool is looked up. -/
def checkShard (all : List (StoredShard σ)) (shard : StoredShard σ) : Except CheckError (SchedulingShardConfig σ) := do
  let partitionLabelValue := shard.partitionLabelValue
  refuseIf (partitionLabelValue = "" && !env.opts.ensureDefaultNodePool)
    (.refused ("SchedulingShard " ++ shard.name ++ " serves the default partition, but defaultNodePool.enabled=false leaves it no " ++
      "NodePool; enable defaultNodePool"))
  let shardNames := (all.filter fun other => other.partitionLabelValue = partitionLabelValue).map fun other => other.name
  refuseIf (shardNames.length > 1)
    (.refused ("SchedulingShards [" ++ " ".intercalate shardNames ++ "] all serve partition " ++ quoted partitionLabelValue ++
      "; a partition can belong to only one NodePool, so delete or relabel all but one"))
  checkNodePoolName env shard (nodePoolNameFor env shard)
  checkShardArgs env shard
  schedulingShardConfigFromShard env shard

def planMigration (c : Cluster σ) (all : List (StoredShard σ)) (shard : StoredShard σ) :
    Except CheckError (ShardMigration σ) := do
  let shardConfig ← checkShard env all shard
  let nodePoolName := nodePoolNameFor env shard
  if h : nodePoolName = "" then .error emptyName
  else
    let existingNodePool ← getNodePool fault c (.getNodePool nodePoolName) nodePoolName
    match existingNodePool with
    | some nodePool => checkNodePoolSelectsPartition env nodePool shard
    | none => .ok ()
    return ⟨shard, nodePoolName, shardConfig, existingNodePool, h⟩

def errorOf {ε α : Type} : Except ε α → Option ε
  | .error e => some e
  | .ok _ => none

def planMigrations (c : Cluster σ) (all pending : List (StoredShard σ)) : Except MigrateError (List (ShardMigration σ)) :=
  if pending.isEmpty then .ok []
  else
    let planned := pending.map (planMigration env fault c all)
    let errs := (errorOf (checkPartitionLabelKey env fault)).toList ++ planned.filterMap errorOf
    if errs.isEmpty then .ok (planned.filterMap Except.toOption)
    else
      .error (.plan "cannot migrate the existing SchedulingShards into NodePools, nothing was changed: " errs)

/-! ## The writes -/

/-- The error of a part of the hook, the cluster, and its write calls. -/
structure Run (σ : Type) where
  err : Option MigrateError
  cluster : Cluster σ
  writes : List Place

def Run.andThen (first : Run σ) (next : Cluster σ → Run σ) : Run σ :=
  match first.err with
  | some _ => first
  | none => { next first.cluster with writes := first.writes ++ (next first.cluster).writes }

def writeCall (c : Cluster σ) (place : Place) (context : String) (result : Except ApiError (Cluster σ)) : Run σ :=
  match fault place, result with
  | some e, _ => ⟨some (.call (.failed context e)), c, [place]⟩
  | none, .error e => ⟨some (.call (.failed context e)), c, [place]⟩
  | none, .ok c' => ⟨none, c', [place]⟩

def createdNodePool (c : Cluster σ) (nodePool : ConfiguredNodePool σ) : Except ApiError (Cluster σ) :=
  match c.nodePools.get nodePool.name with
  | some _ => .error (.alreadyExists nodePool.name)
  | none => .ok { c with nodePools := c.nodePools.insert nodePool }

def patchedNodePool (c : Cluster σ) (nodePool : ConfiguredNodePool σ) : Except ApiError (Cluster σ) :=
  match c.nodePools.get nodePool.name with
  | none => .error (.notFound nodePool.name)
  | some _ => .ok { c with nodePools := c.nodePools.replace nodePool }

def patchedShard (c : Cluster σ) (shard : StoredShard σ) : Except ApiError (Cluster σ) :=
  match c.shards.get shard.name with
  | none => .error (.notFound shard.name)
  | some _ => .ok { c with shards := c.shards.replace shard }

/-- A NodePool as it is created, with the UID that the API server gives it. -/
def newNodePool (name : String) (h : name ≠ "") (spec : NodePoolSpec σ) : ConfiguredNodePool σ where
  name := name
  labelKey := spec.labelKey
  labelValue := spec.labelValue
  deleted := false
  phase := .unset
  finalizers := []
  name_ne := h
  uid := env.assignedUID name
  schedulingShardConfig := spec.schedulingShardConfig

def ShardMigration.newSpec (migration : ShardMigration σ) : NodePoolSpec σ :=
  if migration.shard.partitionLabelValue ≠ "" then
    ⟨env.opts.partitionLabelKey, migration.shard.partitionLabelValue, some migration.shardConfig⟩
  else ⟨"", "", some migration.shardConfig⟩

/-- The shard's NodePool, and the call that creates or updates it. -/
def nodePoolForShard [DecidableEq σ] (c : Cluster σ) (migration : ShardMigration σ) : ConfiguredNodePool σ × Run σ :=
  match migration.existingNodePool with
  | some nodePool =>
    if nodePool.schedulingShardConfig = some migration.shardConfig then (nodePool, ⟨none, c, []⟩)
    else
      let nodePool := { nodePool with schedulingShardConfig := some migration.shardConfig }
      (nodePool, writeCall fault c (.patchNodePool nodePool.name) ("failed to update NodePool " ++ nodePool.name ++
        " to SchedulingShard " ++ migration.shard.name ++ "'s settings: ") (patchedNodePool c nodePool))
  | none =>
    let nodePool := newNodePool env migration.nodePoolName migration.name_ne (migration.newSpec env)
    (nodePool, writeCall fault c (.createNodePool nodePool.name) ("failed to create NodePool " ++ nodePool.name ++
      " for SchedulingShard " ++ migration.shard.name ++ ": ") (createdNodePool c nodePool))

/-- The default partition cannot stay excluded. -/
def adoptedLabels (shard : StoredShard σ) : Labels :=
  let labels := shard.labels.insert adoptionLabelKey adoptionLabelValue
  if shard.partitionLabelValue = "" then labels.erase ignoreShardLabelKey else labels

def migrate [DecidableEq σ] (c : Cluster σ) (migration : ShardMigration σ) : Run σ :=
  let (nodePool, written) := nodePoolForShard env fault c migration
  let shard := migration.shard
  written.andThen fun c =>
    match setControllerReference nodePool shard with
    | .error e =>
      ⟨some (.owner ("failed to make NodePool " ++ nodePool.name ++ " the owner of SchedulingShard " ++ shard.name ++ ": ") e),
        c, []⟩
    | .ok owned =>
      writeCall fault c (.patchShard shard.name) ("failed to hand SchedulingShard " ++ shard.name ++ " to NodePool " ++
        nodePool.name ++ ": ") (patchedShard c { owned with labels := adoptedLabels shard })

def migrateAll [DecidableEq σ] (c : Cluster σ) : List (ShardMigration σ) → Run σ
  | [] => ⟨none, c, []⟩
  | migration :: migrations => (migrate env fault c migration).andThen fun c => migrateAll c migrations

def ensureDefaultNodePool (c : Cluster σ) : Run σ :=
  let name := env.opts.defaultNodePoolName
  if h : name = "" then ⟨some (.call emptyName), c, []⟩
  else
    match getNodePool fault c .getDefaultNodePool name with
    | .error e => ⟨some (.call e), c, []⟩
    | .ok (some _) => ⟨none, c, []⟩
    | .ok none =>
      writeCall fault c .createDefaultNodePool ("failed to create the default NodePool " ++ name ++ ": ")
        (createdNodePool c (newNodePool env name h env.opts.defaultNodePoolSpec))

def migrateShards [DecidableEq σ] (c : Cluster σ) : Run σ :=
  match fault .listShards with
  | some e =>
    if isNoMatchError e then ⟨none, c, []⟩
    else ⟨some (.call (.failed "failed to list SchedulingShards: " e)), c, []⟩
  | none =>
    match planMigrations env fault c c.shards.items (shardsToMigrate c.shards.items) with
    | .error e => ⟨some e, c, []⟩
    | .ok migrations =>
      (migrateAll env fault c migrations).andThen fun c =>
        if env.opts.ensureDefaultNodePool then ensureDefaultNodePool env fault c else ⟨none, c, []⟩

end

/-! ## An installation -/

def exampleInstallation (defaultNodePoolName : String) : Installation Unit where
  opts := ⟨defaultNodePoolLabelKey, defaultNodePoolName, ∅, true, ⟨"", "", none⟩⟩
  kaiConfig := none
  assignedUID := fun name => "uid-of-" ++ name
  settingsFromShard := fun _ settings => .ok settings

end Krm.HelmHooks
