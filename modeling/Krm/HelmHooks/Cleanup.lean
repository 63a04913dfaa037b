import Krm.HelmHooks.MigrateShards

/-! # The hook that cleans up after an uninstall

The hook runs beside users, the garbage collector and, at first, the controllers that it stops. One step of it is one
call to the API server. -/

open Krm.Lib
open Krm.Nodes (isNodePoolReference)
open Krm.Shards (Cluster ConfiguredNodePool StoredShard)
open Krm.Operator (isNoMatchError)

namespace Krm.HelmHooks

structure CleanupOptions where
  namespaceName : String
  configName : String
  releaseAdoptedSchedulingShards : Bool
  nodePoolFinalizer : String

inductive Propagation where
  | background
  | foreground
deriving DecidableEq, Repr

/-- A Deployment, with how it is being deleted once it is. -/
structure Deployment where
  namespaceName : String
  name : String
  labels : Labels
  uid : String
  deletion : Option Propagation

def Deployment.key (deployment : Deployment) : String × String := (deployment.namespaceName, deployment.name)

structure ConfigObject where
  name : String
  uid : String
  deleted : Bool

def operatorManagedByLabelKey : String := "app.kubernetes.io/managed-by"
def operatorManagedByLabelValue : String := "krm-operator"

def isOperatorManaged (opts : CleanupOptions) (deployment : Deployment) : Bool :=
  deployment.namespaceName = opts.namespaceName &&
    deployment.labels.lookup operatorManagedByLabelKey = some operatorManagedByLabelValue

/-! ## Releasing a shard -/

section Release

variable {σ : Type}

def krmMetadataPrefix : String := "kai.resources/"

def isKRMMetadata (key : String) : Bool := krmMetadataPrefix.toList.isPrefixOf key.toList

def krmKeys (metadata : Labels) : Finset String := metadata.keys.filter fun key => isKRMMetadata key

def withoutKRM (metadata : Labels) : Labels := Entries.without metadata (krmKeys metadata)

/-- The shard without what KRM put on it, and whether that differs. -/
def releaseSchedulingShard (shard : StoredShard σ) : StoredShard σ × Bool :=
  ({ shard with
      ownerReferences := shard.ownerReferences.filter fun owner => !isNodePoolReference owner
      labels := withoutKRM shard.labels
      annotations := withoutKRM shard.annotations },
    shard.ownerReferences.any isNodePoolReference || !decide (krmKeys shard.labels = ∅) ||
      !decide (krmKeys shard.annotations = ∅))

def released (shard : StoredShard σ) : StoredShard σ := (releaseSchedulingShard shard).1

/-- A map that was emptied is left out, so the patch removes it whole. -/
def mergeMetadata (original modified current : Labels) : Labels :=
  if modified = ∅ ∧ original ≠ ∅ then ∅ else Entries.without current (original.keys \ modified.keys)

/-- The patch that drops metadata, on what is stored by now. Lists are carried whole. -/
def mergeShard (original modified current : StoredShard σ) : StoredShard σ :=
  { current with
    ownerReferences :=
      if modified.ownerReferences = original.ownerReferences then current.ownerReferences else modified.ownerReferences
    labels := mergeMetadata original.labels modified.labels current.labels
    annotations := mergeMetadata original.annotations modified.annotations current.annotations }

def isAdopted (shard : StoredShard σ) : Bool := shard.labels.lookup adoptionLabelKey = some adoptionLabelValue

def setFinalizers (nodePool : Nodes.NodePool) (finalizers : List String) : Nodes.NodePool :=
  { nodePool with finalizers := finalizers }

def setDeleted (nodePool : Nodes.NodePool) : Nodes.NodePool := { nodePool with deleted := true }

/-- The NodePool without the finalizer, and whether that differs. -/
def removeFinalizer (finalizer : String) (nodePool : ConfiguredNodePool σ) : ConfiguredNodePool σ × Bool :=
  ({ nodePool with toNodePool := setFinalizers nodePool.toNodePool (nodePool.finalizers.filter (· ≠ finalizer)) },
    finalizer ∈ nodePool.finalizers)

def mergeNodePool (original modified current : ConfiguredNodePool σ) : ConfiguredNodePool σ :=
  { current with
    toNodePool := setFinalizers current.toNodePool
      (if modified.finalizers = original.finalizers then current.finalizers else modified.finalizers) }

end Release

/-! ## The hook -/

/-- Where `deleteAndWait` is; it waits for the object that it read. -/
inductive Deletion where
  | get
  | delete (uid : String)
  | wait (uid : String)
deriving DecidableEq, Repr

inductive Progress where
  | next (deletion : Deletion)
  | gone
  | failed (e : ApiError)
deriving DecidableEq, Repr

/-- One call, with the UID of the object that it met. -/
def deleteAndWait : Deletion → Except ApiError String → Progress
  | _, .error e => if e.isNotFound then .gone else .failed e
  | .get, .ok uid => .next (.delete uid)
  | .delete uid, .ok _ => .next (.wait uid)
  | .wait uid, .ok current => if current ≠ uid then .gone else .next (.wait uid)

/-- What the hook does next. -/
inductive Hook (σ : Type) where
  | listDeployments
  | deployments (deletion : Deletion) (name : String) (names : List String)
  | listShards
  | shards (shard : StoredShard σ) (todo : List (StoredShard σ))
  | listNodePools
  | nodePools (nodePool : ConfiguredNodePool σ) (todo : List (ConfiguredNodePool σ))
  | config (deletion : Deletion)
  | returned (err : Option CheckError)

/-- A refused call has no effect, one whose answer is lost has. -/
inductive Answer where
  | served
  | refused (e : ApiError)
  | lost (e : ApiError)
deriving DecidableEq, Repr

def Answer.error : Answer → Option ApiError
  | served => none
  | refused e => some e
  | lost e => some e

def Answer.takesEffect : Answer → Bool
  | refused _ => false
  | _ => true

/-- The cluster while the hook runs; controllers by the UIDs of their Deployments. -/
structure Uninstall (σ : Type) where
  cluster : Cluster σ
  deployments : Store Deployment.key
  controllers : List String
  configs : Store ConfigObject.name
  hook : Hook σ

section Steps

variable {σ : Type} (opts : CleanupOptions)

def deletePropagation : Propagation :=
  if opts.releaseAdoptedSchedulingShards || opts.nodePoolFinalizer ≠ "" then .foreground else .background

def afterNodePools : Hook σ := if opts.configName = "" then .returned none else .config .get

def nextNodePool : List (ConfiguredNodePool σ) → Hook σ
  | [] => afterNodePools opts
  | nodePool :: todo => .nodePools nodePool todo

def afterShards : Hook σ := if opts.nodePoolFinalizer ≠ "" then .listNodePools else afterNodePools opts

def nextShard : List (StoredShard σ) → Hook σ
  | [] => afterShards opts
  | shard :: todo => .shards shard todo

def afterDeployments : Hook σ := if opts.releaseAdoptedSchedulingShards then .listShards else afterShards opts

def nextDeployment : List String → Hook σ
  | [] => afterDeployments opts
  | name :: names => .deployments .get name names

def failedWith (context : String) (e : ApiError) : Hook σ := .returned (some (.failed context e))

def deletionResult (answer : Answer) (name : String) (stored : Option String) : Except ApiError String :=
  match answer.error, stored with
  | some e, _ => .error e
  | none, none => .error (.notFound name)
  | none, some uid => .ok uid

variable (s : Uninstall σ) (answer : Answer)

def listDeployments : Uninstall σ :=
  match answer.error with
  | some e =>
    { s with hook := failedWith ("failed to list operator-managed deployments in " ++ opts.namespaceName ++ ": ") e }
  | none =>
    { s with hook := nextDeployment opts ((s.deployments.list (isOperatorManaged opts)).map fun deployment =>
        deployment.name) }

def markDeployment (key : String × String) : Store Deployment.key :=
  match s.deployments.get key with
  | none => s.deployments
  | some deployment =>
    s.deployments.replace { deployment with deletion := some (deployment.deletion.getD (deletePropagation opts)) }

def deleteDeployment (deletion : Deletion) (name : String) (names : List String) : Uninstall σ :=
  let key := (opts.namespaceName, name)
  let stored := (s.deployments.get key).map fun deployment => deployment.uid
  let deployments :=
    match deletion with
    | .delete _ => if answer.takesEffect then markDeployment opts s key else s.deployments
    | _ => s.deployments
  let hook :=
    match deleteAndWait deletion (deletionResult answer name stored) with
    | .next deletion => .deployments deletion name names
    | .gone => nextDeployment opts names
    | .failed e => failedWith ("failed to delete deployment " ++ opts.namespaceName ++ "/" ++ name ++ ": ") e
  { s with deployments := deployments, hook := hook }

def listAdoptedShards : Uninstall σ :=
  match answer.error with
  | some e =>
    if isNoMatchError e then { s with hook := afterShards opts }
    else { s with hook := failedWith "failed to list adopted scheduling shards: " e }
  | none => { s with hook := nextShard opts (s.cluster.shards.list isAdopted) }

def patchShard (shard : StoredShard σ) : Cluster σ :=
  match s.cluster.shards.get shard.name with
  | none => s.cluster
  | some current => { s.cluster with shards := s.cluster.shards.replace (mergeShard shard (released shard) current) }

/-- An object that is gone needs no patch. -/
def afterPatch (context : String) (next : Hook σ) : Hook σ :=
  match answer.error with
  | some e => if e.isNotFound then next else failedWith context e
  | none => next

def releaseAdoptedShard (shard : StoredShard σ) (todo : List (StoredShard σ)) : Uninstall σ :=
  if (releaseSchedulingShard shard).2 then
    { s with
      cluster := if answer.takesEffect then patchShard s shard else s.cluster
      hook := afterPatch answer ("failed to release scheduling shard " ++ shard.name ++ ": ") (nextShard opts todo) }
  else { s with hook := nextShard opts todo }

def listNodePools : Uninstall σ :=
  match answer.error with
  | some e =>
    if isNoMatchError e then { s with hook := afterNodePools opts }
    else { s with hook := failedWith "failed to list node pools: " e }
  | none =>
    { s with hook := nextNodePool opts (s.cluster.nodePools.items.filter fun nodePool =>
        opts.nodePoolFinalizer ∈ nodePool.finalizers) }

/-- The API server drops a deleted object with its last finalizer. -/
def storeNodePool (c : Cluster σ) (nodePool : ConfiguredNodePool σ) : Cluster σ :=
  if nodePool.deleted && nodePool.finalizers.isEmpty then { c with nodePools := c.nodePools.remove nodePool.name }
  else { c with nodePools := c.nodePools.replace nodePool }

def patchNodePool (nodePool : ConfiguredNodePool σ) : Cluster σ :=
  match s.cluster.nodePools.get nodePool.name with
  | none => s.cluster
  | some current =>
    storeNodePool s.cluster (mergeNodePool nodePool (removeFinalizer opts.nodePoolFinalizer nodePool).1 current)

def stripNodePoolFinalizer (nodePool : ConfiguredNodePool σ) (todo : List (ConfiguredNodePool σ)) : Uninstall σ :=
  { s with
    cluster := if answer.takesEffect then patchNodePool opts s nodePool else s.cluster
    hook := afterPatch answer ("failed to remove finalizer " ++ opts.nodePoolFinalizer ++ " from node pool " ++
      nodePool.name ++ ": ") (nextNodePool opts todo) }

def deleteConfig (deletion : Deletion) : Uninstall σ :=
  let stored := s.configs.get opts.configName
  let configs :=
    match deletion, stored with
    | .delete _, some config => if answer.takesEffect then s.configs.replace { config with deleted := true } else s.configs
    | _, _ => s.configs
  let hook :=
    match deleteAndWait deletion (deletionResult answer opts.configName (stored.map fun config => config.uid)) with
    | .next deletion => .config deletion
    | .gone => .returned none
    | .failed e =>
      if isNoMatchError e then .returned none
      else failedWith ("failed to delete KRMConfig " ++ opts.configName ++ ": ") e
  { s with configs := configs, hook := hook }

def cleanup : Uninstall σ :=
  match s.hook with
  | .listDeployments => listDeployments opts s answer
  | .deployments deletion name names => deleteDeployment opts s answer deletion name names
  | .listShards => listAdoptedShards opts s answer
  | .shards shard todo => releaseAdoptedShard opts s answer shard todo
  | .listNodePools => listNodePools opts s answer
  | .nodePools nodePool todo => stripNodePoolFinalizer opts s answer nodePool todo
  | .config deletion => deleteConfig opts s answer deletion
  | .returned _ => s

end Steps

/-! ## Its surroundings -/

/-- What others may change about a shard while the hook runs. -/
inductive ShardEdit (σ : Type) where
  | setLabel (key value : String)
  | dropLabel (key : String)
  | setAnnotation (key value : String)
  | dropAnnotation (key : String)
  | setArgs (args : Labels)
  | setSettings (settings : σ)

def ShardEdit.apply {σ : Type} (shard : StoredShard σ) : ShardEdit σ → StoredShard σ
  | setLabel key value => { shard with labels := shard.labels.insert key value }
  | dropLabel key => { shard with labels := shard.labels.erase key }
  | setAnnotation key value => { shard with annotations := shard.annotations.insert key value }
  | dropAnnotation key => { shard with annotations := shard.annotations.erase key }
  | setArgs args => { shard with args := args }
  | setSettings settings => { shard with settings := settings }

/-- The edit leaves KRM's own metadata alone. -/
def ShardEdit.isForeign {σ : Type} : ShardEdit σ → Bool
  | setLabel key _ => !isKRMMetadata key
  | dropLabel key => !isKRMMetadata key
  | setAnnotation key _ => !isKRMMetadata key
  | dropAnnotation key => !isKRMMetadata key
  | setArgs _ => true
  | setSettings _ => true

inductive Event (σ : Type) where
  | hook (answer : Answer)
  /-- The Job starts the hook again. -/
  | restarted
  | deploymentCreated (deployment : Deployment)
  | podsEnded (uid : String)
  | deploymentGone (key : String × String)
  | controllerWrote (cluster : Cluster σ)
  | nodePoolCreated (nodePool : ConfiguredNodePool σ)
  | nodePoolDeleted (name : String)
  | shardEdited (name : String) (edit : ShardEdit σ)
  | shardCollected (name : String)
  | configGone (name : String)

section Surroundings

variable {σ : Type} (outside : OwnerReference → Bool) (opts : CleanupOptions)

/-- A NodePool of the cluster, or an object outside of KRM. -/
def ownerExists (c : Cluster σ) (owner : OwnerReference) : Bool :=
  if isNodePoolReference owner then
    c.nodePools.items.any fun nodePool => nodePool.name = owner.name && nodePool.uid = owner.uid
  else outside owner

/-- The garbage collector deletes what had owners and has none. -/
def isOrphan (c : Cluster σ) (shard : StoredShard σ) : Bool :=
  !shard.ownerReferences.isEmpty && shard.ownerReferences.all fun owner => !ownerExists outside c owner

def Uninstall.collect (s : Uninstall σ) (name : String) : Uninstall σ :=
  match s.cluster.shards.get name with
  | none => s
  | some shard =>
    if isOrphan outside s.cluster shard then { s with cluster := { s.cluster with shards := s.cluster.shards.remove name } }
    else s

def Uninstall.deleteNodePool (s : Uninstall σ) (name : String) : Uninstall σ :=
  match s.cluster.nodePools.get name with
  | none => s
  | some nodePool => { s with cluster := storeNodePool s.cluster { nodePool with toNodePool := setDeleted nodePool.toNodePool } }

def Uninstall.editShard (s : Uninstall σ) (name : String) (edit : ShardEdit σ) : Uninstall σ :=
  match s.cluster.shards.get name with
  | none => s
  | some shard => { s with cluster := { s.cluster with shards := s.cluster.shards.replace (edit.apply shard) } }

def Uninstall.step (s : Uninstall σ) : Event σ → Uninstall σ
  | .hook answer => cleanup opts s answer
  | .restarted => { s with hook := .listDeployments }
  | .deploymentCreated deployment => { s with deployments := s.deployments.insert deployment }
  | .podsEnded uid => { s with controllers := s.controllers.filter (· ≠ uid) }
  | .deploymentGone key => { s with deployments := s.deployments.remove key }
  | .controllerWrote cluster => { s with cluster := cluster }
  | .nodePoolCreated nodePool => { s with cluster := { s.cluster with nodePools := s.cluster.nodePools.insert nodePool } }
  | .nodePoolDeleted name => s.deleteNodePool name
  | .shardEdited name edit => s.editShard name edit
  | .shardCollected name => s.collect outside name
  | .configGone name => { s with configs := s.configs.remove name }

/-- There are no objects of the kind that the hook is about to list. -/
def Uninstall.lacksKind (s : Uninstall σ) : Bool :=
  match s.hook with
  | .listShards => s.cluster.shards.items.isEmpty
  | .listNodePools => s.cluster.nodePools.items.isEmpty
  | _ => true

/-- The API server says that an object or a kind is missing only if it is. -/
def Answer.isHonest (s : Uninstall σ) (answer : Answer) : Bool :=
  answer.error.all fun e => !e.isNotFound && (!isNoMatchError e || s.lacksKind)

/-- No controller is started again, and Deployments deleted in the foreground go after their pods. -/
def Uninstall.allows (s : Uninstall σ) : Event σ → Bool
  | .hook answer => answer.isHonest s
  | .deploymentCreated deployment => deployment.uid ∉ s.controllers
  | .podsEnded uid => s.deployments.items.all fun deployment => deployment.uid ≠ uid || deployment.deletion.isSome
  | .deploymentGone key => (s.deployments.get key).all fun deployment =>
      deployment.deletion = some .background ||
        (deployment.deletion = some .foreground && deployment.uid ∉ s.controllers)
  | .controllerWrote _ => !s.controllers.isEmpty
  | .nodePoolCreated nodePool => opts.nodePoolFinalizer ∉ nodePool.finalizers
  | .shardEdited _ edit => edit.isForeign
  | _ => true

/-- The hook's run with all that can happen beside it. -/
abbrev Uninstall.Along (s : Uninstall σ) (events : List (Event σ)) : Prop :=
  Lib.Along (Uninstall.step outside opts) (fun s event => s.allows opts event) s events

abbrev Uninstall.run (s : Uninstall σ) (events : List (Event σ)) : Uninstall σ :=
  Lib.run (Uninstall.step outside opts) s events

end Surroundings

end Krm.HelmHooks
