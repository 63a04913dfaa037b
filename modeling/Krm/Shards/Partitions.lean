import Krm.Shards.Admission

/-! # One partition, one shard

The webhook of SchedulingShards keeps the partitions of shards distinct. That a node pool's partition is not left to
another scheduler is checked when the pool is created, but not when the shard is. -/

open Krm.Lib Krm.Nodes

namespace Krm.Shards

section

variable {σ : Type} {cfg : NodePoolControllerConfig} {fault : Faults} {c c' : Cluster σ} {shard : StoredShard σ}
  {nodePool : ConfiguredNodePool σ}

/-! ## What an admitted request does -/

theorem list_ok {shards : ShardStore σ} {place : Place} {partitionLabelValue : String} {listed : List (StoredShard σ)}
    (h : listShardsWithPartitionLabelValue fault shards place partitionLabelValue = .ok listed) :
    ∀ shard, shard ∈ listed ↔ shard ∈ shards.items ∧ shard.partitionLabelValue = partitionLabelValue := by
  unfold listShardsWithPartitionLabelValue at h
  split at h
  · cases h
  · cases h
    simp [Store.list]

theorem validateShardCreate_ok {u : Unit} (h : validateShardCreate cfg fault c shard = .ok u) :
    ∀ other ∈ c.shards.items, other.partitionLabelValue = shard.partitionLabelValue → other.name = shard.name := by
  unfold validateShardCreate at h
  dsimp only at h
  split at h
  · cases h
  · rename_i others hlist
    split at h
    · cases h
    · rename_i hnone
      intro other hother hpartition
      have hmem := (list_ok hlist other).2 ⟨hother, hpartition⟩
      simpa using List.find?_eq_none.1 hnone other hmem

theorem createShard_ok (h : createShard cfg fault c shard = .ok c') :
    c.shards.get shard.name = none ∧ c' = { c with shards := c.shards.insert shard } ∧
      ∀ other ∈ c.shards.items, other.partitionLabelValue ≠ shard.partitionLabelValue := by
  obtain ⟨_, -, h⟩ := bind_ok h
  obtain ⟨_, hvalid, h⟩ := bind_ok h
  split at h
  · cases h
  · rename_i hget
    refine ⟨hget, (Except.ok.inj h).symm, ?_⟩
    intro other hother hpartition
    exact (Store.get_eq_none_iff _ _).1 hget other hother (validateShardCreate_ok hvalid other hother hpartition)

theorem updateShard_ok (h : updateShard cfg fault c shard = .ok c') :
    ∃ old, c.shards.get shard.name = some old ∧ old.partitionLabelValue = shard.partitionLabelValue ∧
      c' = { c with shards := c.shards.replace shard } := by
  obtain ⟨_, -, h⟩ := bind_ok h
  obtain ⟨old, hold, h⟩ := bind_ok h
  obtain ⟨_, hvalid, h⟩ := bind_ok h
  obtain ⟨_, hpartition, -⟩ := bind_ok hvalid
  have hsame := refuseIf_ok hpartition
  refine ⟨old, found_ok hold, by simpa using hsame, (Except.ok.inj h).symm⟩

theorem deleteShard_ok {name : String} (h : deleteShard fault c name = .ok c') :
    c' = { c with shards := c.shards.remove name } := by
  obtain ⟨_, -, h⟩ := bind_ok h
  exact (Except.ok.inj h).symm

theorem resolveShardForNodePool_ok {resolved : Option (StoredShard σ)}
    (h : resolveShardForNodePool cfg fault c.shards nodePool = .ok resolved) :
    ∀ shard ∈ c.shards.items, shard.partitionLabelValue = partitionLabelValueForNodePool cfg nodePool.name →
      isUnmanaged shard.toSchedulingShard = false := by
  unfold resolveShardForNodePool at h
  dsimp only at h
  intro shard hshard hpartition
  split at h
  · cases h
  · rename_i hlist
    exact absurd ((list_ok hlist shard).2 ⟨hshard, hpartition⟩) List.not_mem_nil
  · rename_i only hlist
    have hmem := (list_ok hlist shard).2 ⟨hshard, hpartition⟩
    split_ifs at h with hunmanaged
    rw [List.mem_singleton.1 hmem]
    simpa using hunmanaged
  · cases h

theorem createNodePool_ok [Inhabited σ] (h : createNodePool cfg fault c nodePool = .ok c') :
    c.nodePools.get nodePool.name = none ∧ c' = { c with nodePools := c.nodePools.insert nodePool } ∧
      ∀ shard ∈ c.shards.items, shard.partitionLabelValue = partitionLabelValueForNodePool cfg nodePool.name →
        isUnmanaged shard.toSchedulingShard = false := by
  obtain ⟨_, -, h⟩ := bind_ok h
  obtain ⟨_, hvalid, h⟩ := bind_ok h
  obtain ⟨_, -, hpartition⟩ := bind_ok hvalid
  have hresolved : ∃ resolved, resolveShardForNodePool cfg fault c.shards nodePool = .ok resolved := by
    unfold validatePartitionLabelValue at hpartition
    dsimp only at hpartition
    split at hpartition
    · cases hpartition
    · exact ⟨_, ‹_›⟩
    · exact ⟨_, ‹_›⟩
  obtain ⟨resolved, hresolved⟩ := hresolved
  split at h
  · cases h
  · rename_i hget
    exact ⟨hget, (Except.ok.inj h).symm, resolveShardForNodePool_ok hresolved⟩

/-- No pool of a new name has come. -/
def PoolsFrom (c c' : Cluster σ) : Prop :=
  c'.shards = c.shards ∧ ∀ pool ∈ c'.nodePools.items, ∃ pool' ∈ c.nodePools.items, pool'.name = pool.name

theorem poolsFrom_remove (name : String) : PoolsFrom c { c with nodePools := c.nodePools.remove name } :=
  ⟨rfl, fun pool hpool => ⟨pool, ((Store.mem_remove _ _ _).1 hpool).1, rfl⟩⟩

theorem poolsFrom_replace (nodePool : ConfiguredNodePool σ) {old : ConfiguredNodePool σ} (hold : c.nodePools.get nodePool.name = some old) :
    PoolsFrom c { c with nodePools := c.nodePools.replace nodePool } := by
  refine ⟨rfl, fun pool hpool => ?_⟩
  rcases (Store.mem_replace _ _ _ rfl (by simp [hold])).1 hpool with rfl | ⟨hpool, -⟩
  · exact ⟨old, Store.get_mem hold, ((Store.get_eq_some_iff _ _ _).1 hold).2⟩
  · exact ⟨pool, hpool, rfl⟩

theorem updateNodePool_ok (h : updateNodePool fault c nodePool = .ok c') : PoolsFrom c c' := by
  obtain ⟨_, -, h⟩ := bind_ok h
  obtain ⟨old, hold, h⟩ := bind_ok h
  obtain ⟨_, -, h⟩ := bind_ok h
  split_ifs at h
  · cases h
    exact poolsFrom_remove _
  · cases h
    exact poolsFrom_replace { nodePool with uid := old.uid, deleted := old.deleted } (found_ok hold)

theorem deleteNodePool_ok {name : String} (h : deleteNodePool cfg fault c name = .ok c') : PoolsFrom c c' := by
  obtain ⟨_, -, h⟩ := bind_ok h
  obtain ⟨old, hold, h⟩ := bind_ok h
  obtain ⟨_, -, h⟩ := bind_ok h
  have hget := found_ok hold
  split_ifs at h
  · cases h
    exact poolsFrom_remove _
  · cases h
    have hname : old.name = name := ((Store.get_eq_some_iff _ _ _).1 hget).2
    subst hname
    exact poolsFrom_replace { old with deleted := true } hget

/-! ## The two properties -/

def PartitionsDistinct (c : Cluster σ) : Prop :=
  ∀ shard ∈ c.shards.items, ∀ other ∈ c.shards.items, other.partitionLabelValue = shard.partitionLabelValue → other = shard

/-- No unmanaged shard serves the partition of a node pool. -/
def PoolsServed (cfg : NodePoolControllerConfig) (c : Cluster σ) : Prop :=
  ∀ pool ∈ c.nodePools.items, ∀ shard ∈ c.shards.items,
    shard.partitionLabelValue = partitionLabelValueForNodePool cfg pool.name → isUnmanaged shard.toSchedulingShard = false

def HasNodePool (cfg : NodePoolControllerConfig) (c : Cluster σ) (partitionLabelValue : String) : Prop :=
  ∃ pool ∈ c.nodePools.items, partitionLabelValueForNodePool cfg pool.name = partitionLabelValue

/-- One shard is written under its name, and no other has its partition. -/
structure ShardWritten (c c' : Cluster σ) (shard : StoredShard σ) : Prop where
  pools : c'.nodePools = c.nodePools
  mem : shard ∈ c'.shards.items
  others : ∀ other ∈ c'.shards.items, other = shard ∨ (other ∈ c.shards.items ∧ other.name ≠ shard.name)
  partition : ∀ other ∈ c.shards.items, other.partitionLabelValue = shard.partitionLabelValue → other.name = shard.name

theorem createShard_written (h : createShard cfg fault c shard = .ok c') : ShardWritten c c' shard := by
  obtain ⟨hget, rfl, hfree⟩ := createShard_ok h
  have hmem := fun other => Store.mem_insert c.shards shard other hget
  refine ⟨rfl, (hmem shard).2 (.inl rfl), fun other hother => ?_, fun other hother hpartition => ?_⟩
  · refine ((hmem other).1 hother).imp_right fun hother => ⟨hother, ?_⟩
    exact (Store.get_eq_none_iff _ _).1 hget other hother
  · exact absurd hpartition (hfree other hother)

theorem updateShard_written (hdistinct : PartitionsDistinct c) (h : updateShard cfg fault c shard = .ok c') :
    ShardWritten c c' shard := by
  obtain ⟨old, hget, hpartition, rfl⟩ := updateShard_ok h
  have hmem := fun other => Store.mem_replace c.shards shard other rfl (by simp [hget])
  refine ⟨rfl, (hmem shard).2 (.inl rfl), fun other hother => (hmem other).1 hother, fun other hother hsame => ?_⟩
  rw [hdistinct old (Store.get_mem hget) other hother (hsame.trans hpartition.symm)]
  exact ((Store.get_eq_some_iff _ _ _).1 hget).2

theorem ShardWritten.distinct (h : ShardWritten c c' shard) (hdistinct : PartitionsDistinct c) :
    PartitionsDistinct c' := by
  intro a ha b hb hpartition
  rcases h.others a ha with rfl | ⟨ha, hnameA⟩ <;> rcases h.others b hb with rfl | ⟨hb, hnameB⟩
  · rfl
  · exact absurd (h.partition b hb hpartition) hnameB
  · exact absurd (h.partition a ha hpartition.symm) hnameA
  · exact hdistinct a ha b hb hpartition

theorem ShardWritten.served_iff (h : ShardWritten c c' shard) (hserved : PoolsServed cfg c) :
    PoolsServed cfg c' ↔ ¬ (isUnmanaged shard.toSchedulingShard ∧ HasNodePool cfg c shard.partitionLabelValue) := by
  constructor
  · rintro hserved' ⟨hunmanaged, pool, hpool, hpartition⟩
    rw [← h.pools] at hpool
    rw [hserved' pool hpool shard h.mem hpartition.symm] at hunmanaged
    cases hunmanaged
  · intro hnot pool hpool other hother hpartition
    rw [h.pools] at hpool
    rcases h.others other hother with rfl | ⟨hother, -⟩
    · exact Bool.eq_false_iff.2 fun hunmanaged => hnot ⟨hunmanaged, pool, hpool, hpartition.symm⟩
    · exact hserved pool hpool other hother hpartition

theorem PoolsFrom.served (h : PoolsFrom c c') (hserved : PoolsServed cfg c) : PoolsServed cfg c' := by
  intro pool hpool other hother hpartition
  obtain ⟨pool', hpool', hname⟩ := h.2 pool hpool
  rw [h.1] at hother
  rw [← hname] at hpartition
  exact hserved pool' hpool' other hother hpartition

/-! ## The controller's writes -/

variable [DecidableEq σ]

theorem createOrUpdateIfNeeded_ok (h : createOrUpdateIfNeeded (webhooks cfg fault c) fault c shard = .ok c') :
    c' = c ∨ createShard cfg fault c shard = .ok c' ∨ updateShard cfg fault c shard = .ok c' := by
  unfold createOrUpdateIfNeeded at h
  split at h
  · split_ifs at h
    exact .inr (.inl h)
  · exact .inr (.inl h)
  · split_ifs at h
    · exact .inr (.inr h)
    · exact .inl (Except.ok.inj h).symm

variable [Inhabited σ] {params : NodePoolControllerParams}

theorem reconcile_ok {name : String} (h : reconcile cfg params fault c name = .ok c') :
    c' = c ∨ ∃ shard : StoredShard σ, isUnmanaged shard.toSchedulingShard = false ∧
      (createShard cfg fault c shard = .ok c' ∨ updateShard cfg fault c shard = .ok c') := by
  obtain ⟨nodePool, -, h⟩ := bind_ok h
  split_ifs at h
  · exact .inl (Except.ok.inj h).symm
  · obtain ⟨shard, -, h⟩ := bind_ok h
    obtain ⟨owned, howned, h⟩ := bind_ok h
    have hmanaged := isUnmanaged_of_controllerOf (setControllerReference_controllerOf howned)
    split at h
    · exact .inl (Except.ok.inj h).symm
    · exact (createOrUpdateIfNeeded_ok h).imp_right fun hwrite => ⟨owned, hmanaged, hwrite⟩

/-- The request puts an unmanaged shard into an existing node pool's partition. -/
def Exposes (cfg : NodePoolControllerConfig) (params : NodePoolControllerParams) (c : Cluster σ)
    (event : Faults × Request σ) : Prop :=
  (∃ c', serve cfg params event.1 c event.2 = .ok c') ∧
    match event.2 with
    | .createShard shard => isUnmanaged shard.toSchedulingShard ∧ HasNodePool cfg c shard.partitionLabelValue
    | .updateShard shard =>
      isUnmanaged shard.toSchedulingShard ∧ HasNodePool cfg c shard.partitionLabelValue ∧
        ∃ old, c.shards.get shard.name = some old ∧ isUnmanaged old.toSchedulingShard = false
    | _ => False

/-! ## Every step, and every run -/

theorem serve_distinct {request : Request σ} (h : serve cfg params fault c request = .ok c')
    (hdistinct : PartitionsDistinct c) : PartitionsDistinct c' := by
  cases request with
  | createNodePool nodePool =>
    obtain ⟨-, rfl, -⟩ := createNodePool_ok h
    exact hdistinct
  | updateNodePool nodePool =>
    rw [PartitionsDistinct, (updateNodePool_ok h).1]
    exact hdistinct
  | deleteNodePool name =>
    rw [PartitionsDistinct, (deleteNodePool_ok h).1]
    exact hdistinct
  | createShard shard => exact (createShard_written h).distinct hdistinct
  | updateShard shard => exact (updateShard_written hdistinct h).distinct hdistinct
  | deleteShard name =>
    rw [deleteShard_ok h]
    intro a ha b hb
    exact hdistinct a ((Store.mem_remove _ _ _).1 ha).1 b ((Store.mem_remove _ _ _).1 hb).1
  | reconcile name =>
    rcases reconcile_ok h with rfl | ⟨shard, -, hcreate | hupdate⟩
    · exact hdistinct
    · exact (createShard_written hcreate).distinct hdistinct
    · exact (updateShard_written hdistinct hupdate).distinct hdistinct

theorem serve_served_iff {request : Request σ} (h : serve cfg params fault c request = .ok c')
    (hdistinct : PartitionsDistinct c) (hserved : PoolsServed cfg c) :
    PoolsServed cfg c' ↔ ¬ Exposes cfg params c (fault, request) := by
  cases request with
  | createNodePool nodePool =>
    refine iff_of_true ?_ fun hexposes => hexposes.2
    obtain ⟨hget, rfl, hmanaged⟩ := createNodePool_ok h
    intro pool hpool other hother hpartition
    rcases (Store.mem_insert _ _ _ hget).1 hpool with rfl | hpool
    · exact hmanaged other hother hpartition
    · exact hserved pool hpool other hother hpartition
  | updateNodePool nodePool => exact iff_of_true ((updateNodePool_ok h).served hserved) fun hexposes => hexposes.2
  | deleteNodePool name => exact iff_of_true ((deleteNodePool_ok h).served hserved) fun hexposes => hexposes.2
  | createShard shard =>
    rw [(createShard_written h).served_iff hserved]
    exact not_congr ⟨fun hexposes => ⟨⟨c', h⟩, hexposes⟩, fun hexposes => hexposes.2⟩
  | updateShard shard =>
    rw [(updateShard_written hdistinct h).served_iff hserved]
    refine not_congr ⟨fun hexposes => ⟨⟨c', h⟩, hexposes.1, hexposes.2, ?_⟩, fun hexposes => ⟨hexposes.2.1, hexposes.2.2.1⟩⟩
    obtain ⟨old, hget, hpartition, -⟩ := updateShard_ok h
    obtain ⟨-, pool, hpool, hpool'⟩ := hexposes
    exact ⟨old, hget, hserved pool hpool old (Store.get_mem hget) (hpartition.trans hpool'.symm)⟩
  | deleteShard name =>
    refine iff_of_true ?_ fun hexposes => hexposes.2
    rw [deleteShard_ok h]
    intro pool hpool other hother
    exact hserved pool hpool other ((Store.mem_remove _ _ _).1 hother).1
  | reconcile name =>
    refine iff_of_true ?_ fun hexposes => hexposes.2
    rcases reconcile_ok h with rfl | ⟨shard, hmanaged, hcreate | hupdate⟩
    · exact hserved
    · exact ((createShard_written hcreate).served_iff hserved).2 (by simp [hmanaged])
    · exact ((updateShard_written hdistinct hupdate).served_iff hserved).2 (by simp [hmanaged])

theorem step_distinct (event : Faults × Request σ) (hdistinct : PartitionsDistinct c) :
    PartitionsDistinct (step cfg params c event) := by
  unfold step
  cases h : serve cfg params event.1 c event.2 with
  | error e => exact hdistinct
  | ok c' => exact serve_distinct h hdistinct

theorem step_served_iff (event : Faults × Request σ) (hdistinct : PartitionsDistinct c) (hserved : PoolsServed cfg c) :
    PoolsServed cfg (step cfg params c event) ↔ ¬ Exposes cfg params c event := by
  unfold step
  cases h : serve cfg params event.1 c event.2 with
  | error e =>
    refine iff_of_true hserved ?_
    rintro ⟨⟨c', hc'⟩, -⟩
    rw [h] at hc'
    cases hc'
  | ok c' => exact serve_served_iff h hdistinct hserved

/-- Unmanaged shards stay away exactly when no step exposes a pool. -/
theorem one_partition_one_shard_iff (cfg : NodePoolControllerConfig) (params : NodePoolControllerParams)
    (events : List (Faults × Request σ)) :
    Along (step cfg params) (fun c event => PartitionsDistinct (step cfg params c event)) Cluster.empty events ∧
      (Along (step cfg params) (fun c event => PoolsServed cfg (step cfg params c event)) Cluster.empty events ↔
        Along (step cfg params) (fun c event => ¬ Exposes cfg params c event) Cluster.empty events) := by
  have hdistinct : PartitionsDistinct (Cluster.empty : Cluster σ) := fun _ h => absurd h List.not_mem_nil
  constructor
  · refine Along.of_invariant (P := PartitionsDistinct) ?_ ?_ hdistinct
    · exact fun c event _ hc => step_distinct event hc
    · exact fun c event _ hc => step_distinct event hc
  · refine Along.congr_invariant (P := fun c => PartitionsDistinct c ∧ PoolsServed cfg c) ?_ ?_
      ⟨hdistinct, fun _ h => absurd h List.not_mem_nil⟩
    · exact fun c event _ hc hserved => ⟨step_distinct event hc.1, hserved⟩
    · exact fun c event _ hc => step_served_iff event hc.1 hc.2

end

def foreignShard : StoredShard Unit where
  name := "foreign"
  labels := (∅ : Labels).insert ignoreShardLabelKey "true"
  ownerReferences := []
  partitionLabelValue := "gpu"
  annotations := ∅
  args := ∅
  settings := ()

theorem unmanaged_shard_admitted :
    ∃ c, run (step .default workerParams) Cluster.empty
        [(noFaults, .createNodePool (gpuPool "u" none)), (noFaults, .createShard foreignShard)] = c ∧
      c.nodePools.items = [gpuPool "u" none] ∧ c.shards.items = [foreignShard] ∧
      ¬ PoolsServed .default c := by
  -- A node pool is created and, before its shard is, an unmanaged shard for its partition.
  refine ⟨_, rfl, rfl, rfl, ?_⟩
  intro hserved
  exact absurd (hserved (gpuPool "u" none) (List.mem_singleton_self _) foreignShard (List.mem_singleton_self _) (by decide))
    (by decide)

end Krm.Shards
