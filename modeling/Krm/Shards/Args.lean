import Krm.Shards.Admission

/-! # The args of a shard over a history of edits and reconciles

The controller knows its own args by an annotation. The annotation is written with the spec, and so only when the spec
changes; and a key in it stays the controller's until then, whoever sets it. -/

open Krm.Lib Krm.Nodes

namespace Krm.Shards

/-! ## The record of keys -/

/-- No key has the comma that separates the keys in the annotation. -/
def PlainKeys (args : Labels) : Prop := ∀ k ∈ args, ',' ∉ k.toList

theorem splitKeys_joinKeys {keys : Finset String} (hne : keys.Nonempty) (hplain : ∀ k ∈ keys, ',' ∉ k.toList) :
    splitKeys (joinKeys keys) = keys := by
  have hjoin : (joinKeys keys).toList = [','].intercalate ((keys.sort (· ≤ ·)).map String.toList) :=
    String.toList_intercalate
  have hsplit : (joinKeys keys).toList.splitOn ',' = (keys.sort (· ≤ ·)).map String.toList := by
    rw [hjoin]
    apply List.splitOn_intercalate
    · intro l hl
      obtain ⟨k, hk, rfl⟩ := List.mem_map.1 hl
      exact hplain k ((Finset.mem_sort _).1 hk)
    · intro hnil
      have hempty : (keys.sort (· ≤ ·)).toFinset = ∅ := by
        rw [List.map_eq_nil_iff.1 hnil]
        rfl
      rw [Finset.sort_toFinset] at hempty
      exact hne.ne_empty hempty
  have hid : ((keys.sort (· ≤ ·)).map String.toList).map String.ofList = keys.sort (· ≤ ·) := by
    rw [List.map_map]
    conv_rhs => rw [← List.map_id (keys.sort (· ≤ ·))]
    exact List.map_congr_left fun k _ => String.ofList_toList
  rw [splitKeys, hsplit, hid, Finset.sort_toFinset]

section

variable {σ : Type} {params : NodePoolControllerParams} {config : Option (SchedulingShardConfig σ)}

theorem buildShardArgs_nonempty : (buildShardArgs params config).keys.Nonempty :=
  ⟨migWorkerNodeLabelKeyArg, Finmap.mem_keys.2 (Finmap.mem_insert.2 (.inl rfl))⟩

theorem buildShardArgs_plain (hparams : PlainKeys params.schedulingShardArgs)
    (hconfig : ∀ conf ∈ config, PlainKeys conf.args) : PlainKeys (buildShardArgs params config) := by
  intro k hk
  simp only [buildShardArgs, Finmap.mem_insert, Finmap.mem_union] at hk
  rcases hk with rfl | rfl | rfl | hk | hk
  · decide
  · decide
  · decide
  · exact hparams k hk
  · cases config with
    | none => exact absurd hk Finmap.notMem_empty
    | some conf => exact hconfig conf rfl k hk

variable (params config) in
theorem lookup_buildShardArgs (k : String) :
    (buildShardArgs params config).lookup k =
      if k = migWorkerNodeLabelKeyArg then some params.migWorkerNodeLabelKey
      else if k = gpuWorkerNodeLabelKeyArg then some params.gpuWorkerNodeLabelKey
      else if k = cpuWorkerNodeLabelKeyArg then some params.cpuWorkerNodeLabelKey
      else (params.schedulingShardArgs.lookup k).or ((config.elim ∅ SchedulingShardConfig.args).lookup k) := by
  unfold buildShardArgs
  split_ifs with hmig hgpu hcpu
  · rw [hmig, Finmap.lookup_insert]
  · rw [Finmap.lookup_insert_of_ne _ hmig, hgpu, Finmap.lookup_insert]
  · rw [Finmap.lookup_insert_of_ne _ hmig, Finmap.lookup_insert_of_ne _ hgpu, hcpu, Finmap.lookup_insert]
  · rw [Finmap.lookup_insert_of_ne _ hmig, Finmap.lookup_insert_of_ne _ hgpu, Finmap.lookup_insert_of_ne _ hcpu,
      Entries.lookup_union]

end

/-! ## Histories -/

inductive ArgEvent (σ : Type) where
  | editNodePool (config : Option (SchedulingShardConfig σ))
  | handEdit (edit : Edit String String)
  | reconcile

def ArgEvent.Plain {σ : Type} : ArgEvent σ → Prop
  | .editNodePool config => ∀ conf ∈ config, PlainKeys conf.args
  | _ => True

/-- A cluster, the args set by hand, and the keys desired when the shard was last written. -/
structure Observed (σ : Type) where
  cluster : Cluster σ
  byHand : Labels
  written : Finset String

section

variable {σ : Type} [DecidableEq σ] [Inhabited σ] (cfg : NodePoolControllerConfig) (params : NodePoolControllerParams)
  (name : String)

def ArgEvent.request (c : Cluster σ) : ArgEvent σ → Option (Request σ)
  | .editNodePool config =>
    (c.nodePools.get name).map fun nodePool => .updateNodePool { nodePool with schedulingShardConfig := config }
  | .handEdit edit => (c.shards.get name).map fun shard => .updateShard { shard with args := edit.apply shard.args }
  | .reconcile => some (.reconcile name)

def serveArgEvent (c : Cluster σ) (event : ArgEvent σ) : Cluster σ :=
  (event.request name c).elim c fun request => step cfg params c (noFaults, request)

def desiredArgs (c : Cluster σ) : Labels :=
  (c.nodePools.get name).elim ∅ fun nodePool => buildShardArgs params nodePool.schedulingShardConfig

def observe (o : Observed σ) (event : ArgEvent σ) : Observed σ :=
  let cluster := serveArgEvent cfg params name o.cluster event
  match event with
  | .editNodePool _ => { o with cluster := cluster }
  | .handEdit edit =>
    { o with cluster := cluster, byHand := if (o.cluster.shards.get name).isSome then edit.apply o.byHand else o.byHand }
  | .reconcile =>
    let desired := (desiredArgs params name o.cluster).keys
    ⟨cluster, Entries.without o.byHand desired,
      if cluster.shards.get name = o.cluster.shards.get name then o.written else desired⟩

def ledger (o : Observed σ) : Ledger String String :=
  ⟨(o.cluster.shards.get name).elim ∅ StoredShard.args, o.written, o.byHand⟩

/-- One shard, with the desired args and, for other keys, those set by hand. -/
def ArgsRight (o : Observed σ) : Prop :=
  ∃ shard, o.cluster.shards.items = [shard] ∧ shard.args = desiredArgs params name o.cluster ∪ o.byHand

def HasDesired (o : Observed σ) : Prop :=
  ∃ shard, o.cluster.shards.items = [shard] ∧
    ∀ k v, (desiredArgs params name o.cluster).lookup k = some v → shard.args.lookup k = some v

/-- Undesired args were set by hand exactly if the last write did not desire them. -/
def HandKeysKnown (o : Observed σ) : Prop := (ledger name o).ToldApart (desiredArgs params name o.cluster)

def startArgs (nodePool : ConfiguredNodePool σ) : Observed σ := ⟨⟨Store.single nodePool, Store.empty⟩, ∅, ∅⟩

end

/-! ## One reconcile -/

section

variable {σ : Type} {cfg : NodePoolControllerConfig} {params : NodePoolControllerParams} {nodePool : ConfiguredNodePool σ}
  {shard : StoredShard σ} {shards : ShardStore σ}

@[simp] theorem callWrite_noFaults : callWrite noFaults = .ok () := rfl

theorem nodePoolName_of_partition (cfg : NodePoolControllerConfig) {name : String} (hname : name ≠ "") :
    nodePoolNameForPartitionLabelValue cfg (partitionLabelValueForNodePool cfg name) = name := by
  unfold partitionLabelValueForNodePool nodePoolNameForPartitionLabelValue
  by_cases hdefault : name = cfg.defaultNodepoolName
  · rw [if_pos hdefault, if_pos rfl, hdefault]
  · rw [if_neg hdefault, if_neg hname]

/-- The shard is the one that the controller made for the node pool. -/
structure MadeFor (cfg : NodePoolControllerConfig) (nodePool : ConfiguredNodePool σ) (shard : StoredShard σ) : Prop where
  name : shard.name = nodePool.name
  partition : shard.partitionLabelValue = partitionLabelValueForNodePool cfg nodePool.name
  owners : shard.ownerReferences = [nodePoolReference nodePool]

theorem MadeFor.controllerOf (h : MadeFor cfg nodePool shard) :
    controllerOf shard.toSchedulingShard = some (nodePoolReference nodePool) := by
  rw [Shards.controllerOf, h.owners]
  rfl

/-- The annotation of the shard names the keys. -/
def Records (shard : StoredShard σ) (keys : Finset String) : Prop :=
  ∃ managed, shard.annotations.lookup managedShardArgsKey = some managed ∧ splitKeys managed = keys

theorem mergeShardArgs_of_records {keys : Finset String} (h : Records shard keys) (desired : Labels) :
    (mergeShardArgs shard desired).1 = desired ∪ Entries.without shard.args keys := by
  obtain ⟨managed, hmanaged, rfl⟩ := h
  simp only [mergeShardArgs, hmanaged]

theorem list_of_items_nil (h : shards.items = []) (place : Place) (partitionLabelValue : String) :
    listShardsWithPartitionLabelValue noFaults shards place partitionLabelValue = .ok [] := by
  simp [listShardsWithPartitionLabelValue, noFaults, Store.list, h]

theorem list_of_items_single (h : shards.items = [shard]) (hmade : MadeFor cfg nodePool shard) (place : Place) :
    listShardsWithPartitionLabelValue noFaults shards place (partitionLabelValueForNodePool cfg nodePool.name) =
      .ok [shard] := by
  simp [listShardsWithPartitionLabelValue, noFaults, Store.list, h, hmade.partition]

theorem get_of_items_nil (h : shards.items = []) (name : String) : shards.get name = none := by
  simp [Store.get, h]

theorem get_of_items_single (h : shards.items = [shard]) : shards.get shard.name = some shard := by
  simp [Store.get, h]

theorem resolveOwned_of_items_nil (h : shards.items = []) :
    resolveOwnedShardForNodePool cfg noFaults shards nodePool = .ok none := by
  simp [resolveOwnedShardForNodePool, resolveShardForNodePool, list_of_items_nil h]

theorem resolveOwned_of_items_single (h : shards.items = [shard]) (hmade : MadeFor cfg nodePool shard) :
    resolveOwnedShardForNodePool cfg noFaults shards nodePool = .ok (some shard) := by
  have hcontrolled : isControlledBy shard.toSchedulingShard nodePool := by
    simp [isControlledBy, hmade.controllerOf, nodePoolReference]
  simp [resolveOwnedShardForNodePool, resolveShardForNodePool, list_of_items_single h hmade,
    isUnmanaged_of_controllerOf hmade.controllerOf, hcontrolled]

theorem setControllerReference_of_none (h : shard.ownerReferences = []) :
    setControllerReference nodePool shard = .ok { shard with ownerReferences := [nodePoolReference nodePool] } := by
  simp [setControllerReference, controllerOf, h, upsertOwnerRef, upsert]

theorem refersTo_nodePoolReference : refersTo nodePool (nodePoolReference nodePool) := by
  rw [refersTo, isNodePoolReference_nodePoolReference]
  simp [nodePoolReference]

theorem setControllerReference_of_own (h : shard.ownerReferences = [nodePoolReference nodePool]) :
    setControllerReference nodePool shard = .ok { shard with ownerReferences := [nodePoolReference nodePool] } := by
  have hcontroller : controllerOf shard.toSchedulingShard = some (nodePoolReference nodePool) := by
    rw [controllerOf, h]
    rfl
  simp [setControllerReference, hcontroller, Option.filter, refersTo_nodePoolReference, upsertOwnerRef, upsert, h]

variable [Inhabited σ]

def madeShard (cfg : NodePoolControllerConfig) (params : NodePoolControllerParams) (nodePool : ConfiguredNodePool σ)
    (shard : StoredShard σ) : StoredShard σ :=
  { fillShard cfg params nodePool shard with ownerReferences := [nodePoolReference nodePool] }

theorem madeShard_madeFor (hname : shard.name = nodePool.name) :
    MadeFor cfg nodePool (madeShard cfg params nodePool shard) :=
  ⟨hname, rfl, rfl⟩

theorem madeShard_records (hparams : PlainKeys params.schedulingShardArgs)
    (hconfig : ∀ conf ∈ nodePool.schedulingShardConfig, PlainKeys conf.args) :
    Records (madeShard cfg params nodePool shard) (buildShardArgs params nodePool.schedulingShardConfig).keys := by
  refine ⟨_, Finmap.lookup_insert _, splitKeys_joinKeys buildShardArgs_nonempty ?_⟩
  intro k hk
  exact buildShardArgs_plain hparams hconfig k (Finmap.mem_keys.1 hk)

theorem validateShardUpdate_madeShard (hmade : MadeFor cfg nodePool shard) :
    validateShardUpdate shard (madeShard cfg params nodePool shard) = .ok () := by
  have hpartition : shard.partitionLabelValue = (madeShard cfg params nodePool shard).partitionLabelValue := hmade.partition
  have hlabel : shard.labels.lookup ignoreShardLabelKey =
      (madeShard cfg params nodePool shard).labels.lookup ignoreShardLabelKey :=
    (Finmap.lookup_insert_of_ne _ (by decide)).symm
  simp [validateShardUpdate, refuseIf, ← hpartition, ← hlabel, bind, Except.bind]

variable [DecidableEq σ] {c : Cluster σ}

variable (params) in
theorem reconcileScheduler_creates (hstored : c.nodePools.get nodePool.name = some nodePool) (h : c.shards.items = [])
    {made : StoredShard σ} (heq : madeShard cfg params nodePool (newShard nodePool.name) = made) :
    reconcileScheduler cfg noFaults c params nodePool = .ok { c with shards := c.shards.insert made } := by
  have hshard : schedulingShardForNodePool cfg params noFaults c.shards nodePool =
      .ok (fillShard cfg params nodePool (newShard nodePool.name)) := by
    simp [schedulingShardForNodePool, resolveOwned_of_items_nil h, getOrInitShardNamedAfterNodePool, noFaults,
      get_of_items_nil h, bind, Except.bind, pure, Except.pure]
  have howner : setControllerReference nodePool (fillShard cfg params nodePool (newShard nodePool.name)) = .ok made :=
    heq ▸ setControllerReference_of_none rfl
  have hmade : MadeFor cfg nodePool made := heq ▸ madeShard_madeFor rfl
  have hrequire : requireNodePool cfg noFaults c made = .ok () := by
    simp [requireNodePool, hmade.partition, nodePoolName_of_partition cfg nodePool.name_ne, noFaults, hstored]
  have hvalid : validateShardCreate cfg noFaults c made = .ok () := by
    simp [validateShardCreate, list_of_items_nil h, isUnmanaged_of_controllerOf hmade.controllerOf, hrequire]
  simp [reconcileScheduler, reconcileAdmitted, hshard, createOrUpdateResource, howner, createOrUpdateIfNeeded,
    noFaults, get_of_items_nil h, createAdmitted, webhooks, hvalid, bind, Except.bind]

variable (params) in
theorem reconcileScheduler_updates (h : c.shards.items = [shard]) (hmade : MadeFor cfg nodePool shard)
    {made : StoredShard σ} (heq : madeShard cfg params nodePool shard = made) :
    reconcileScheduler cfg noFaults c params nodePool =
      .ok (if specsDiffer shard made then { c with shards := c.shards.replace made } else c) := by
  have hshard : schedulingShardForNodePool cfg params noFaults c.shards nodePool =
      .ok (fillShard cfg params nodePool shard) := by
    simp [schedulingShardForNodePool, resolveOwned_of_items_single h hmade, bind, Except.bind, pure, Except.pure]
  have howner : setControllerReference nodePool (fillShard cfg params nodePool shard) = .ok made :=
    heq ▸ setControllerReference_of_own hmade.owners
  have hget : c.shards.get made.name = some shard := heq ▸ get_of_items_single h
  have hvalid : validateShardUpdate shard made = .ok () := heq ▸ validateShardUpdate_madeShard hmade
  have hwrite : createOrUpdateIfNeeded (webhooks cfg noFaults c) noFaults c made =
      .ok (if specsDiffer shard made then { c with shards := c.shards.replace made } else c) := by
    simp only [createOrUpdateIfNeeded, noFaults, hget]
    split_ifs
    · simp [updateAdmitted, hget, found, Lib.found, webhooks, hvalid, bind, Except.bind, pure, Except.pure]
    · rfl
  simp [reconcileScheduler, reconcileAdmitted, hshard, createOrUpdateResource, howner, hwrite, bind, Except.bind]

/-! ## What each event does to the history -/

/-- The node pool is there, and at most its shard, with its record. -/
structure Tracks (cfg : NodePoolControllerConfig) (nodePool : ConfiguredNodePool σ) (o : Observed σ) : Prop where
  stored : o.cluster.nodePools.get nodePool.name = some nodePool
  live : nodePool.deleted = false
  plain : ∀ conf ∈ nodePool.schedulingShardConfig, PlainKeys conf.args
  shards : (o.cluster.shards.items = [] ∧ o.written = ∅ ∧ o.byHand = ∅) ∨
    ∃ shard, o.cluster.shards.items = [shard] ∧ MadeFor cfg nodePool shard ∧ Records shard o.written

abbrev reconciled (cfg : NodePoolControllerConfig) (params : NodePoolControllerParams) (nodePool : ConfiguredNodePool σ)
    (o : Observed σ) : Observed σ := observe cfg params nodePool.name o .reconcile

variable {o : Observed σ}

omit [DecidableEq σ] [Inhabited σ] in
theorem desiredArgs_eq (h : Tracks cfg nodePool o) :
    desiredArgs params nodePool.name o.cluster = buildShardArgs params nodePool.schedulingShardConfig := by
  rw [desiredArgs, h.stored]
  rfl

theorem step_reconcile (h : Tracks cfg nodePool o) {c' : Cluster σ}
    (hc : reconcileScheduler cfg noFaults o.cluster params nodePool = .ok c') :
    serveArgEvent cfg params nodePool.name o.cluster .reconcile = c' := by
  simp [serveArgEvent, ArgEvent.request, step, serve, reconcile, h.stored, found, Lib.found, h.live, hc, bind, Except.bind,
    Except.toOption]

theorem reconciled_unwritten (h : Tracks cfg nodePool o) {shard : StoredShard σ}
    (hitems : o.cluster.shards.items = [shard]) (hmade : MadeFor cfg nodePool shard)
    (hsame : specsDiffer shard (madeShard cfg params nodePool shard) = false) :
    reconciled cfg params nodePool o =
      { o with byHand := Entries.without o.byHand (desiredArgs params nodePool.name o.cluster).keys } := by
  have hstep := step_reconcile h (reconcileScheduler_updates params hitems hmade rfl)
  rw [if_neg (by simp [hsame])] at hstep
  simp only [reconciled, observe, hstep, if_true]

variable (params) in
theorem observe_editNodePool (h : Tracks cfg nodePool o) {config : Option (SchedulingShardConfig σ)}
    (hplain : ∀ conf ∈ config, PlainKeys conf.args) :
    Tracks cfg { nodePool with schedulingShardConfig := config }
        (observe cfg params nodePool.name o (.editNodePool config)) ∧
      ledger nodePool.name (observe cfg params nodePool.name o (.editNodePool config)) = ledger nodePool.name o := by
  have hobserve : observe cfg params nodePool.name o (.editNodePool config) =
      { o with cluster := { o.cluster with
        nodePools := o.cluster.nodePools.replace { nodePool with schedulingShardConfig := config } } } := by
    simp [observe, serveArgEvent, ArgEvent.request, h.stored, step, serve, updateNodePool, found, Lib.found, refuseIf,
      h.live, bind, Except.bind, pure, Except.pure, Except.toOption]
    rw [← h.live]
  rw [hobserve]
  refine ⟨⟨Store.get_replace_self _ _ rfl (by simp [h.stored]), h.live, hplain, ?_⟩, rfl⟩
  rcases h.shards with hnone | ⟨shard, hitems, hmade, hrecords⟩
  · exact .inl hnone
  · exact .inr ⟨shard, hitems, ⟨hmade.name, hmade.partition, hmade.owners⟩, hrecords⟩

variable (params) in
theorem observe_handEdit (h : Tracks cfg nodePool o) (edit : Edit String String) :
    Tracks cfg nodePool (observe cfg params nodePool.name o (.handEdit edit)) ∧
      ledger nodePool.name (observe cfg params nodePool.name o (.handEdit edit)) =
        if (o.cluster.shards.get nodePool.name).isSome then (ledger nodePool.name o).edit edit
        else ledger nodePool.name o := by
  rcases h.shards with ⟨hitems, hwritten, hhand⟩ | ⟨shard, hitems, hmade, hrecords⟩
  · have hnone := get_of_items_nil hitems nodePool.name
    have hobserve : observe cfg params nodePool.name o (.handEdit edit) = o := by
      simp [observe, serveArgEvent, ArgEvent.request, hnone]
    rw [hobserve, hnone]
    exact ⟨h, rfl⟩
  · have hget : o.cluster.shards.get nodePool.name = some shard := hmade.name ▸ get_of_items_single hitems
    have hget' : o.cluster.shards.get shard.name = some shard := get_of_items_single hitems
    have hobserve : observe cfg params nodePool.name o (.handEdit edit) =
        ⟨{ o.cluster with shards := o.cluster.shards.replace { shard with args := edit.apply shard.args } },
          edit.apply o.byHand, o.written⟩ := by
      simp [observe, serveArgEvent, ArgEvent.request, hget, hget', step, serve, updateShard, updateAdmitted, webhooks,
        found, Lib.found, validateShardUpdate, refuseIf, bind, Except.bind, pure, Except.pure, Except.toOption]
    have hitems' : (o.cluster.shards.replace { shard with args := edit.apply shard.args }).items =
        [{ shard with args := edit.apply shard.args }] := by
      simp [Store.replace, hitems]
    have hget'' : (o.cluster.shards.replace { shard with args := edit.apply shard.args }).get nodePool.name =
        some { shard with args := edit.apply shard.args } :=
      Store.get_replace_self _ _ hmade.name (by simp [hget])
    rw [hobserve]
    refine ⟨⟨h.stored, h.live, h.plain, .inr ⟨_, hitems', ⟨hmade.name, hmade.partition, hmade.owners⟩, hrecords⟩⟩, ?_⟩
    simp only [ledger, Ledger.edit, hget'', hget, Option.elim, Option.isSome_some, if_true]

omit [DecidableEq σ] [Inhabited σ] in
theorem startArgs_tracks (hlive : nodePool.deleted = false)
    (hconfig : ∀ conf ∈ nodePool.schedulingShardConfig, PlainKeys conf.args) : Tracks cfg nodePool (startArgs nodePool) :=
  ⟨by simp [startArgs, Store.get, Store.single], hlive, hconfig, .inl ⟨rfl, rfl, rfl⟩⟩

section

variable (hparams : PlainKeys params.schedulingShardArgs) (h : Tracks cfg nodePool o)
include hparams h

/-- One shard is left, with the merged args and their record. -/
theorem reconcile_shard :
    ∃ shard c', serveArgEvent cfg params nodePool.name o.cluster .reconcile = c' ∧ c'.nodePools = o.cluster.nodePools ∧
      c'.shards.items = [shard] ∧ MadeFor cfg nodePool shard ∧
      shard.args = (ledger nodePool.name o).merged (buildShardArgs params nodePool.schedulingShardConfig) ∧
      Records shard (if c'.shards.get nodePool.name = o.cluster.shards.get nodePool.name then o.written
        else (buildShardArgs params nodePool.schedulingShardConfig).keys) := by
  rcases h.shards with ⟨hitems, hwritten, -⟩ | ⟨shard, hitems, hmade, hrecords⟩
  · have hnone := get_of_items_nil hitems nodePool.name
    obtain ⟨made, heq⟩ : ∃ made, madeShard cfg params nodePool (newShard nodePool.name) = made := ⟨_, rfl⟩
    have hcreated := step_reconcile h (reconcileScheduler_creates params h.stored hitems heq)
    have hmade : MadeFor cfg nodePool made := heq ▸ madeShard_madeFor rfl
    have hrecords : Records made _ := heq ▸ madeShard_records hparams h.plain
    have hargs : made.args = (ledger nodePool.name o).merged (buildShardArgs params nodePool.schedulingShardConfig) := by
      simp only [Ledger.merged, ledger, hnone, hwritten, ← heq]
      rfl
    have hfree : o.cluster.shards.get made.name = none := hmade.name ▸ hnone
    have hget : (o.cluster.shards.insert made).get nodePool.name = some made :=
      Store.get_insert_self _ _ hmade.name hnone
    refine ⟨made, _, hcreated, rfl, (Store.insert_items _ _ hfree).trans (by rw [hitems]; rfl), hmade, hargs, ?_⟩
    dsimp only
    rw [hget, hnone, if_neg (Option.some_ne_none _)]
    exact hrecords
  · have hname := hmade.name
    have hget : o.cluster.shards.get nodePool.name = some shard := hname ▸ get_of_items_single hitems
    obtain ⟨made, heq⟩ : ∃ made, madeShard cfg params nodePool shard = made := ⟨_, rfl⟩
    have hmade' : MadeFor cfg nodePool made := heq ▸ madeShard_madeFor hname
    have hmerged : made.args = (ledger nodePool.name o).merged (buildShardArgs params nodePool.schedulingShardConfig) := by
      simp only [Ledger.merged, ledger, hget, ← heq]
      exact mergeShardArgs_of_records hrecords _
    have hstep := step_reconcile h (reconcileScheduler_updates params hitems hmade heq)
    by_cases hdiffer : specsDiffer shard made
    · rw [if_pos hdiffer] at hstep
      have hget' : (o.cluster.shards.replace made).get nodePool.name = some made :=
        Store.get_replace_self _ _ hmade'.name (by simp [hget])
      have hwrote : some made ≠ some shard := by
        intro hsame
        rw [Option.some.inj hsame] at hdiffer
        simp [specsDiffer] at hdiffer
      refine ⟨made, _, hstep, rfl, ?_, hmade', hmerged, ?_⟩
      · simp [Store.replace, hitems, hmade'.name, hname]
      · dsimp only
        rw [hget', hget, if_neg hwrote]
        exact heq ▸ madeShard_records hparams h.plain
    · -- nothing is written: the shard has the merged arguments already
      rw [if_neg hdiffer] at hstep
      refine ⟨shard, _, hstep, rfl, hitems, hmade, ?_, ?_⟩
      · simp only [specsDiffer, Bool.or_eq_true, decide_eq_true_eq, not_or, not_not] at hdiffer
        exact hdiffer.1.1.trans hmerged
      · rw [if_pos rfl]
        exact hrecords

theorem observe_reconcile {o' : Observed σ} (ho : reconciled cfg params nodePool o = o') :
    Tracks cfg nodePool o' ∧
      (∃ shard, o'.cluster.shards.items = [shard] ∧ shard.args = (ledger nodePool.name o').entries) ∧
      (o'.cluster.shards.get nodePool.name).isSome ∧
      ledger nodePool.name o' = (ledger nodePool.name o).merge (desiredArgs params nodePool.name o.cluster)
        (!decide (o'.cluster.shards.get nodePool.name = o.cluster.shards.get nodePool.name)) := by
  obtain ⟨shard, c', hstep, hpools, hitems, hmade, hargs, hrecords⟩ := reconcile_shard hparams h
  have hget : c'.shards.get nodePool.name = some shard := hmade.name ▸ get_of_items_single hitems
  have hobserve : o' = ⟨c',
      Entries.without o.byHand (desiredArgs params nodePool.name o.cluster).keys,
      if c'.shards.get nodePool.name = o.cluster.shards.get nodePool.name then o.written
      else (desiredArgs params nodePool.name o.cluster).keys⟩ := by
    rw [← ho, ← hstep]
    rfl
  rw [← desiredArgs_eq h] at hargs hrecords
  rw [hobserve]
  refine ⟨⟨by rw [hpools]; exact h.stored, h.live, h.plain, .inr ⟨shard, hitems, hmade, hrecords⟩⟩,
    ⟨shard, hitems, by simp only [ledger, hget, Option.elim]⟩, by simp only [hget, Option.isSome_some], ?_⟩
  simp only [ledger, Ledger.merge, hget, Option.elim, hargs]
  by_cases hsame : some shard = o.cluster.shards.get nodePool.name
  · simp [hsame]
  · simp [hsame]

/-! ## Whole histories -/

theorem tracks_observe {event : ArgEvent σ} (hevent : event.Plain) :
    ∃ nodePool' : ConfiguredNodePool σ, nodePool'.name = nodePool.name ∧
      Tracks cfg nodePool' (observe cfg params nodePool.name o event) := by
  cases event with
  | editNodePool config =>
    exact ⟨{ nodePool with schedulingShardConfig := config }, rfl, (observe_editNodePool params h hevent).1⟩
  | handEdit edit => exact ⟨nodePool, rfl, (observe_handEdit params h edit).1⟩
  | reconcile => exact ⟨nodePool, rfl, (observe_reconcile hparams h rfl).1⟩

theorem argsRight_iff_right :
    ArgsRight params nodePool.name (reconciled cfg params nodePool o) ↔
      (ledger nodePool.name (reconciled cfg params nodePool o)).Right (desiredArgs params nodePool.name o.cluster) := by
  obtain ⟨htracks, ⟨shard, hitems, hargs⟩, -⟩ := observe_reconcile hparams h rfl
  unfold ArgsRight Ledger.Right
  rw [desiredArgs_eq htracks, desiredArgs_eq h, ← hargs, hitems]
  constructor
  · rintro ⟨shard', hshard, hright⟩
    rw [List.singleton_inj.1 hshard]
    exact hright
  · intro hright
    exact ⟨shard, rfl, hright⟩

theorem argsRight_iff (hstands : (ledger nodePool.name o).Stands) :
    ArgsRight params nodePool.name (reconciled cfg params nodePool o) ↔ HandKeysKnown params nodePool.name o := by
  rw [argsRight_iff_right hparams h, (observe_reconcile hparams h rfl).2.2.2]
  exact Ledger.merge_right_iff hstands _ _

theorem stands_observe (hstands : (ledger nodePool.name o).Stands) {event : ArgEvent σ} (hevent : event.Plain)
    (hright : event = .reconcile → ArgsRight params nodePool.name (observe cfg params nodePool.name o event)) :
    (ledger nodePool.name (observe cfg params nodePool.name o event)).Stands := by
  cases event with
  | editNodePool config =>
    rw [(observe_editNodePool params h hevent).2]
    exact hstands
  | handEdit edit =>
    rw [(observe_handEdit params h edit).2]
    split_ifs
    · exact hstands.edit edit
    · exact hstands
  | reconcile =>
    have hright' := (argsRight_iff_right hparams h).1 (hright rfl)
    rw [(observe_reconcile hparams h rfl).2.2.2] at hright' ⊢
    exact Ledger.Stands.merge hright'

end

/-- The args are right exactly when the keys set by hand are always known. -/
theorem shard_args_right_iff (cfg : NodePoolControllerConfig) (params : NodePoolControllerParams)
    (nodePool : ConfiguredNodePool σ) (events : List (ArgEvent σ)) (hlive : nodePool.deleted = false)
    (hparams : PlainKeys params.schedulingShardArgs)
    (hconfig : ∀ conf ∈ nodePool.schedulingShardConfig, PlainKeys conf.args) (hevents : ∀ event ∈ events, event.Plain) :
    Along (observe cfg params nodePool.name)
        (fun o event => event = .reconcile → HasDesired params nodePool.name (observe cfg params nodePool.name o event))
        (startArgs nodePool) events ∧
      (Along (observe cfg params nodePool.name)
          (fun o event => event = .reconcile → ArgsRight params nodePool.name (observe cfg params nodePool.name o event))
          (startArgs nodePool) events ↔
        Along (observe cfg params nodePool.name) (fun o event => event = .reconcile → HandKeysKnown params nodePool.name o)
          (startArgs nodePool) events) := by
  have htracks : Tracks cfg nodePool (startArgs nodePool) := startArgs_tracks hlive hconfig
  constructor
  · refine Along.of_invariant (P := fun o => ∃ np : ConfiguredNodePool σ, np.name = nodePool.name ∧ Tracks cfg np o) ?_ ?_
      ⟨nodePool, rfl, htracks⟩
    · rintro o event hevent ⟨np, hname, hnp⟩
      rw [← hname]
      exact tracks_observe hparams hnp (hevents event hevent)
    · rintro o event - ⟨np, hname, hnp⟩ rfl
      rw [← hname]
      obtain ⟨hafter, ⟨shard, hitems, hargs⟩, -, hledger⟩ := observe_reconcile hparams hnp rfl
      refine ⟨shard, hitems, fun k v hk => ?_⟩
      rw [hargs, hledger]
      rw [desiredArgs_eq hafter, ← desiredArgs_eq hnp] at hk
      exact Ledger.merge_wanted _ _ _ hk
  · refine Along.congr_invariant (P := fun o => ∃ np : ConfiguredNodePool σ, np.name = nodePool.name ∧ Tracks cfg np o ∧
      (ledger nodePool.name o).Stands) ?_ ?_ ⟨nodePool, rfl, htracks, Ledger.stands_empty⟩
    · rintro o event hevent ⟨np, hname, hnp, hstands⟩ hright
      rw [← hname] at hstands hright ⊢
      obtain ⟨np', hname', hnp'⟩ := tracks_observe hparams hnp (hevents event hevent)
      exact ⟨np', hname', hnp', stands_observe hparams hnp hstands (hevents event hevent) hright⟩
    · rintro o event - ⟨np, hname, hnp, hstands⟩
      rw [← hname] at hstands ⊢
      refine forall_congr' ?_
      rintro rfl
      exact argsRight_iff hparams hnp hstands

end

/-! ## Two histories -/

section

variable {cfg : NodePoolControllerConfig} {params : NodePoolControllerParams} {nodePool : ConfiguredNodePool Unit}
  {o : Observed Unit}

theorem ledger_created (hparams : PlainKeys params.schedulingShardArgs) (h : Tracks cfg nodePool o)
    (hnone : o.cluster.shards.get nodePool.name = none) :
    ledger nodePool.name (reconciled cfg params nodePool o) =
      (ledger nodePool.name o).merge (buildShardArgs params nodePool.schedulingShardConfig) true := by
  obtain ⟨-, -, hsome, hledger⟩ := observe_reconcile hparams h rfl
  have hwrote : (reconciled cfg params nodePool o).cluster.shards.get nodePool.name ≠ none := by
    intro hgone
    simp [hgone] at hsome
  rw [hledger, desiredArgs_eq h, hnone, decide_eq_false hwrote]
  rfl

variable (params) in
theorem ledger_unwritten (h : Tracks cfg nodePool o) (hothers : (ledger nodePool.name o).others ≠ ∅)
    (hsame : (ledger nodePool.name o).merged (buildShardArgs params nodePool.schedulingShardConfig) =
      (ledger nodePool.name o).entries) :
    ledger nodePool.name (reconciled cfg params nodePool o) =
      (ledger nodePool.name o).merge (buildShardArgs params nodePool.schedulingShardConfig) false := by
  -- The shard is as it would be written, so the record of its keys stays.
  rcases h.shards with ⟨-, -, hnone⟩ | ⟨shard, hitems, hmade, hrecords⟩
  · exact absurd hnone hothers
  · have hget : o.cluster.shards.get nodePool.name = some shard := hmade.name ▸ get_of_items_single hitems
    have hentries : (ledger nodePool.name o).entries = shard.args := by simp only [ledger, hget, Option.elim]
    have hargs : (madeShard cfg params nodePool shard).args = shard.args := by
      refine (mergeShardArgs_of_records hrecords _).trans ?_
      rw [← hentries]
      exact hsame
    have hpartition : (madeShard cfg params nodePool shard).partitionLabelValue = shard.partitionLabelValue :=
      hmade.partition.symm
    rw [reconciled_unwritten h hitems hmade (by simp [specsDiffer, hargs, hpartition]), desiredArgs_eq h, Ledger.merge, hsame]
    rfl

end

theorem workerParams_plain : PlainKeys workerParams.schedulingShardArgs := fun _ hk => absurd hk Finmap.notMem_empty

def workerArgs : Labels := buildShardArgs (σ := Unit) workerParams none

theorem ledger_handEdited {nodePool : ConfiguredNodePool Unit} (hpool : nodePool = gpuPool "u" none) {o : Observed Unit}
    (ho : observe .default workerParams nodePool.name (reconciled .default workerParams nodePool (startArgs nodePool))
      (.handEdit (.set "verbosity" "5")) = o) :
    Tracks .default nodePool o ∧ ledger nodePool.name o =
      ⟨workerArgs.insert "verbosity" "5", workerArgs.keys, (∅ : Labels).insert "verbosity" "5"⟩ := by
  have hstart : Tracks .default nodePool (startArgs nodePool) := by
    rw [hpool]
    exact startArgs_tracks rfl (by simp [gpuPool])
  obtain ⟨htracks, -, hsome, -⟩ := observe_reconcile workerParams_plain hstart rfl
  obtain ⟨hedited, hledger⟩ := observe_handEdit workerParams htracks (.set "verbosity" "5")
  rw [if_pos hsome, ledger_created workerParams_plain hstart rfl] at hledger
  rw [← ho]
  exact ⟨hedited, hledger.trans (by rw [hpool]; congr 1)⟩

theorem hand_set_arg_stays :
    Along (observe .default workerParams "gpu")
      (fun o event => event = .reconcile → ArgsRight workerParams "gpu" (observe .default workerParams "gpu" o event))
      (startArgs (gpuPool "u" none)) [.reconcile, .handEdit (.set "verbosity" "5"), .reconcile] := by
  -- An arg that is set by hand stays at the next reconcile.
  have hiff := (shard_args_right_iff .default workerParams (gpuPool "u" none)
    [.reconcile, .handEdit (.set "verbosity" "5"), .reconcile] rfl workerParams_plain (by simp [gpuPool])
    (by simp [ArgEvent.Plain])).2
  refine hiff.2 ⟨?_, ?_, ?_, trivial⟩
  · intro _ k hk
    exact absurd hk Finmap.notMem_empty
  · simp
  · intro _
    obtain ⟨htracks, hledger⟩ := ledger_handEdited rfl rfl
    rw [HandKeysKnown, hledger, desiredArgs_eq htracks]
    intro k hk hwanted
    rcases Finmap.mem_insert.1 hk with rfl | hk
    · decide
    · exact absurd hk hwanted

theorem taken_over_arg_stays :
    ∃ o, run (observe .default workerParams "gpu") (startArgs (gpuPool "u" none))
        [.reconcile, .handEdit (.set "verbosity" "5"),
          .editNodePool (some ⟨(∅ : Labels).insert "verbosity" "5", ()⟩), .reconcile,
          .editNodePool none, .reconcile] = o ∧
      ¬ ArgsRight workerParams "gpu" o ∧ (∃ shard, o.cluster.shards.items = [shard] ∧ shard.args.lookup "verbosity" = some "5") ∧
      (desiredArgs workerParams "gpu" o.cluster).lookup "verbosity" = none ∧ o.byHand.lookup "verbosity" = none := by
  -- An arg is set by hand, taken over by the node pool with the same value, and dropped by it: it stays on the
  -- shard.
  obtain ⟨h₂, hledger₂⟩ := ledger_handEdited rfl rfl
  have hplain : ∀ conf ∈ some (⟨(∅ : Labels).insert "verbosity" "5", ()⟩ : SchedulingShardConfig Unit),
      PlainKeys conf.args := by
    rintro conf ⟨⟩ k hk
    rcases Finmap.mem_insert.1 hk with rfl | hk
    · decide
    · exact absurd hk Finmap.notMem_empty
  obtain ⟨h₃, hledger₃⟩ := observe_editNodePool workerParams h₂ hplain
  have hledger₃ := hledger₃.trans hledger₂
  have hledger₄ := ledger_unwritten workerParams h₃ (by rw [hledger₃]; decide) (by rw [hledger₃]; decide)
  have h₄ := (observe_reconcile workerParams_plain h₃ rfl).1
  have hnone : ∀ conf ∈ (none : Option (SchedulingShardConfig Unit)), PlainKeys conf.args := by simp
  obtain ⟨h₅, hledger₅⟩ := observe_editNodePool workerParams h₄ hnone
  obtain ⟨h₆, ⟨shard, hitems, hargs⟩, -, hledger₆⟩ := observe_reconcile workerParams_plain h₅ rfl
  rw [hledger₅, hledger₄, hledger₃, desiredArgs_eq h₅] at hledger₆
  have hstays : shard.args.lookup "verbosity" = some "5" := by
    rw [hargs, hledger₆]
    decide
  have hdropped : (desiredArgs workerParams _ _).lookup "verbosity" = none :=
    congrArg (Finmap.lookup "verbosity") (desiredArgs_eq h₆)
  have hbyHand := congrArg (fun ledger => ledger.others.lookup "verbosity") hledger₆
  refine ⟨_, rfl, ?_, ⟨shard, hitems, hstays⟩, hdropped, hbyHand⟩
  rintro ⟨shard', hitems', hright⟩
  rw [List.singleton_inj.1 (hitems.symm.trans hitems'), hright, Entries.lookup_union] at hstays
  exact absurd ((congrArg₂ Option.or hdropped hbyHand).symm.trans hstays) (by decide)

end Krm.Shards
