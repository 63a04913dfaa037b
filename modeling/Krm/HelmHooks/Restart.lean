import Krm.HelmHooks.Runs

/-! # A migration that failed is finished by the next run -/

open Krm.Lib
open Krm.Nodes (owningNodePoolName)
open Krm.Shards (Cluster ConfiguredNodePool StoredShard controllerOf nodePoolReference)

namespace Krm.HelmHooks

section

variable {σ : Type} {env : Installation σ} {c c' : Cluster σ} {shard : StoredShard σ} {migration : ShardMigration σ}
  {migrations : List (ShardMigration σ)}

/-! ## What the migrations leave -/

/-- The shards have their NodePools, and nothing else changed. -/
structure HandedOver (env : Installation σ) (c : Cluster σ) (pending : List (StoredShard σ)) (c' : Cluster σ) :
    Prop where
  shards : Store.AgreeOff (pending.map fun shard => shard.name) c.shards c'.shards
  nodePools : Store.AgreeOff (pending.map (nodePoolNameFor env)) c.nodePools c'.nodePools
  each : ∀ shard ∈ pending, ∃ nodePool, c'.nodePools.get (nodePoolNameFor env shard) = some nodePool ∧
    c'.shards.get shard.name = some (adopted nodePool shard)

theorem HandedOver.cons {c'' : Cluster σ} {rest : List (StoredShard σ)} (h : HandedOver env c [shard] c')
    (hrest : HandedOver env c' rest c'') (hname : shard.name ∉ rest.map fun other => other.name)
    (hnodePool : nodePoolNameFor env shard ∉ rest.map (nodePoolNameFor env)) :
    HandedOver env c (shard :: rest) c'' where
  shards := (h.shards.mono (by simp)).trans (hrest.shards.mono (by simp))
  nodePools := (h.nodePools.mono (by simp)).trans (hrest.nodePools.mono (by simp))
  each := by
    rw [List.forall_mem_cons]
    obtain ⟨nodePool, hget, hshard⟩ := h.each shard List.mem_cons_self
    refine ⟨⟨nodePool, ?_, ?_⟩, hrest.each⟩
    · rw [← hrest.nodePools.get_eq hnodePool, hget]
    · rw [← hrest.shards.get_eq hname, hshard]

theorem Plan.checked (h : Plan env c migrations) (hshard : shard ∈ shardsToMigrate c.shards.items) :
    ∃ shardConfig, checkShard env c.shards.items shard = .ok shardConfig := by
  have heach : List.Forall₂ (fun shard m => (∃ shardConfig, checkShard env c.shards.items shard = .ok shardConfig) ∧
      Planned env c c.shards.items shard m) (shardsToMigrate c.shards.items) migrations :=
    h.each.imp fun _ _ hplanned => ⟨⟨_, hplanned.checked⟩, hplanned⟩
  exact ((List.forall₂_and_left _ _).1 heach).1 shard hshard

theorem Plan.inj (h : Plan env c migrations) {other : StoredShard σ} (hshard : shard ∈ shardsToMigrate c.shards.items)
    (hother : other ∈ shardsToMigrate c.shards.items) (hname : nodePoolNameFor env shard = nodePoolNameFor env other) :
    shard = other := by
  obtain ⟨_, hchecked⟩ := h.checked hshard
  obtain ⟨_, hchecked'⟩ := h.checked hother
  exact nodePoolNameFor_inj hchecked hchecked' (mem_shardsToMigrate.1 hshard).1 (mem_shardsToMigrate.1 hother).1 hname

theorem Plan.pending_handed (h : Plan env c (migration :: migrations)) :
    shardsToMigrate c.shards.items = migration.shard :: shardsToMigrate (handed env c migration).shards.items := by
  obtain ⟨rest, hpending, -⟩ := h.cons
  have hrest : shardsToMigrate (handed env c migration).shards.items = rest := by
    rw [handed_shards]
    exact shardsToMigrate_replace hpending
  rw [hpending, hrest]

theorem Plan.handed_handedOver (h : Plan env c (migration :: migrations)) :
    HandedOver env c [migration.shard] (handed env c migration) := by
  obtain ⟨-, -, hplanned, -⟩ := h.cons
  have hname := hplanned.nodePool_name
  rw [hplanned.name_eq] at hname
  constructor
  · rw [handed_shards]
    exact Store.agreeOff_replace _ _ rfl
  · rw [List.map_singleton, ← hname]
    exact agreeOff_putNodePool
  · rw [List.forall_mem_singleton, ← hname, handed_shards]
    refine ⟨migration.nodePool env, get_putNodePool _ _, Store.get_replace_self _ _ rfl ?_⟩
    exact Option.isSome_of_eq_some (Store.get_of_mem h.mem.1)

theorem Plan.handedOver (h : Plan env c migrations) :
    HandedOver env c (shardsToMigrate c.shards.items) (HelmHooks.migrated env c migrations) := by
  induction migrations generalizing c with
  | nil =>
    rw [plan_nil_iff.1 h]
    exact ⟨.refl _ _, .refl _ _, nofun⟩
  | cons migration migrations ih =>
    have hpending := h.pending_handed
    have hnodup := nodup_shardsToMigrate (c := c)
    rw [hpending, List.map_cons, List.nodup_cons] at hnodup
    rw [hpending]
    refine h.handed_handedOver.cons (ih h.tail) hnodup.1 fun hmem => ?_
    obtain ⟨other, hother, hname⟩ := List.mem_map.1 hmem
    have hin : ∀ s ∈ migration.shard :: shardsToMigrate (handed env c migration).shards.items,
        s ∈ shardsToMigrate c.shards.items := fun s hs => hpending ▸ hs
    rw [h.inj (hin _ (List.mem_cons_of_mem _ hother)) (hin _ List.mem_cons_self) hname] at hother
    exact hnodup.1 (List.mem_map_of_mem hother)

variable [DecidableEq σ]

theorem Plan.next_keeps (h : Plan env c []) (hnext : next env c = some c') :
    c'.shards = c.shards ∧ ∀ name nodePool, c.nodePools.get name = some nodePool →
      c'.nodePools.get name = some nodePool := by
  obtain ⟨hget, hname, rfl⟩ := h.next_nil hnext
  refine ⟨putNodePool_shards, fun name nodePool hstored => ?_⟩
  rw [get_putNodePool_of_ne, hstored]
  rintro rfl
  exact absurd (hstored.symm.trans hget) (Option.some_ne_none _)

/-- The cluster after a run in which no call failed. -/
theorem Plan.finished (h : Plan env c migrations) :
    Store.AgreeOff ((shardsToMigrate c.shards.items).map fun shard => shard.name) c.shards
        (migrateShards env noFaults c).cluster.shards ∧
      ∀ shard ∈ shardsToMigrate c.shards.items, ∃ nodePool,
        (migrateShards env noFaults c).cluster.nodePools.get (nodePoolNameFor env shard) = some nodePool ∧
          (migrateShards env noFaults c).cluster.shards.get shard.name = some (adopted nodePool shard) := by
  have hhanded := h.handedOver
  rcases (h.progresses.ends rfl).2.2 with heq | hnext
  · rw [heq]
    exact ⟨hhanded.shards, hhanded.each⟩
  · obtain ⟨hshards, hkeeps⟩ := h.migrated.next_keeps hnext
    rw [hshards]
    refine ⟨hhanded.shards, fun shard hshard => ?_⟩
    obtain ⟨nodePool, hget, hadopted⟩ := hhanded.each shard hshard
    exact ⟨nodePool, hkeeps _ _ hget, hadopted⟩

/-! ## Who controls what -/

/-- The NodePool of the shard's partition is there and controls the shard. -/
def ControlledByItsNodePool (env : Installation σ) (c : Cluster σ) (shard : StoredShard σ) : Prop :=
  ∃ nodePool, c.nodePools.get (nodePoolNameFor env shard) = some nodePool ∧
    ∃ stored, c.shards.get shard.name = some stored ∧ stored.partitionLabelValue = shard.partitionLabelValue ∧
      controllerOf stored.toSchedulingShard = some (nodePoolReference nodePool)

/-- The NodePool of the shard's partition controls no other shard. -/
def ControlsNoOther (env : Installation σ) (c : Cluster σ) (shard : StoredShard σ) : Prop :=
  ∀ stored ∈ c.shards.items, owningNodePoolName stored.toSchedulingShard = nodePoolNameFor env shard →
    stored.name = shard.name

theorem Plan.controlledByItsNodePool (h : Plan env c migrations) (hshard : shard ∈ shardsToMigrate c.shards.items) :
    ControlledByItsNodePool env (migrateShards env noFaults c).cluster shard := by
  obtain ⟨nodePool, hget, hadopted⟩ := h.finished.2 shard hshard
  exact ⟨nodePool, hget, _, hadopted, rfl, adopted_controllerOf (mem_shardsToMigrate.1 hshard).2⟩

omit [DecidableEq σ] in
theorem ControlledByItsNodePool.owningNodePoolName (h : ControlledByItsNodePool env c shard) {stored : StoredShard σ}
    (hstored : c.shards.get shard.name = some stored) :
    owningNodePoolName stored.toSchedulingShard = nodePoolNameFor env shard := by
  obtain ⟨nodePool, hget, stored', hstored', -, hcontroller⟩ := h
  cases hstored.symm.trans hstored'
  have hname := Store.get_key hget
  rw [Shards.owningNodePoolName_of_controllerOf hcontroller, hname]

omit [DecidableEq σ] in
theorem owningNodePoolName_of_isPending (h : isPending shard) : owningNodePoolName shard.toSchedulingShard = "" := by
  unfold Nodes.owningNodePoolName
  rw [← controllerOf, controllerOf_of_isPending h]

theorem Plan.controlsNoOther_iff (h : Plan env c migrations) :
    (∀ shard ∈ shardsToMigrate c.shards.items, ControlsNoOther env (migrateShards env noFaults c).cluster shard) ↔
      ∀ shard ∈ shardsToMigrate c.shards.items, ∀ stored ∈ c.shards.items,
        owningNodePoolName stored.toSchedulingShard ≠ nodePoolNameFor env shard := by
  obtain ⟨hagree, -⟩ := h.finished
  constructor
  · intro hno shard hshard stored hstored howner
    -- the owned shard is not one of those that are handed over, so it is there afterwards, as it was
    have hkept : stored ∉ shardsToMigrate c.shards.items := by
      intro hmem
      obtain ⟨nodePool, hget, -⟩ := h.controlledByItsNodePool hshard
      rw [owningNodePoolName_of_isPending (mem_shardsToMigrate.1 hmem).2, ← Store.get_key hget] at howner
      exact nodePool.name_ne howner.symm
    have hname : stored.name ∉ (shardsToMigrate c.shards.items).map fun shard => shard.name := by
      intro hmem
      obtain ⟨other, hother, hname⟩ := List.mem_map.1 hmem
      rw [Store.eq_of_mem (mem_shardsToMigrate.1 hother).1 hstored hname] at hother
      exact hkept hother
    have hsame := hno shard hshard stored ((hagree.mem_iff hname).1 hstored) howner
    exact hname (hsame ▸ List.mem_map_of_mem hshard)
  · intro hfree shard hshard stored hstored howner
    by_cases hname : stored.name ∈ (shardsToMigrate c.shards.items).map fun shard => shard.name
    · obtain ⟨other, hother, hname⟩ := List.mem_map.1 hname
      have hget := Store.get_of_mem hstored
      rw [← hname] at hget
      have hown := (h.controlledByItsNodePool hother).owningNodePoolName hget
      rw [← hname, h.inj hother hshard (hown.symm.trans howner)]
    · exact absurd howner (hfree shard hshard stored ((hagree.mem_iff hname).2 hstored))

/-! ## The hook as a whole -/

/-- Runs that fail anywhere and one that does not end as that one alone. -/
theorem shard_migration_restarts_iff (env : Installation σ) (c : Cluster σ) :
    let pending := shardsToMigrate c.shards.items
    let final := migrateShards env noFaults c
    (∀ fault err, fault .listShards = none → planMigrations env fault c c.shards.items pending = .error err →
        migrateShards env fault c = ⟨some err, c, []⟩) ∧
      (∀ faults, (∀ fault ∈ faults, Truthful fault) →
        (migrateShards env noFaults (runs env c faults)).cluster = final.cluster ∧
          (migrateShards env noFaults (runs env c faults)).err = final.err) ∧
      (∀ fault, Truthful fault →
        (migrateShards env fault final.cluster).writes = [] ∧
          (migrateShards env fault final.cluster).cluster = final.cluster) ∧
      (∀ migrations, planMigrations env noFaults c c.shards.items pending = .ok migrations →
        final.err = closingError env ∧
          (∀ shard ∈ pending, ControlledByItsNodePool env final.cluster shard) ∧
          (∀ shard ∈ pending, ∀ other ∈ pending, shard.partitionLabelValue ≠ other.partitionLabelValue →
            nodePoolNameFor env shard ≠ nodePoolNameFor env other) ∧
          ((∀ shard ∈ pending, ControlsNoOther env final.cluster shard) ↔
            ∀ shard ∈ pending, ∀ stored ∈ c.shards.items,
              owningNodePoolName stored.toSchedulingShard ≠ nodePoolNameFor env shard)) := by
  refine ⟨fun fault err hlist hplan => ?_, fun faults htruthful => ?_, fun fault htruthful => ?_,
    fun migrations hplan => ?_⟩
  · rw [migrateShards, hlist]
    dsimp only
    rw [hplan]
  · exact migrateShards_of_reaches (runs_reaches htruthful)
  · have hnext := next_migrateShards env c
    exact ⟨writes_of_next_none hnext htruthful, eq_of_reaches hnext (migrateShards_reaches htruthful)⟩
  · have hplan := planMigrations_ok truthful_noFaults hplan
    refine ⟨(hplan.progresses.ends rfl).2.1, fun shard => hplan.controlledByItsNodePool, ?_, hplan.controlsNoOther_iff⟩
    intro shard hshard other hother hpartition hname
    exact hpartition (congrArg (·.partitionLabelValue) (hplan.inj hshard hother hname))

end

section

def freeShard (name partitionLabelValue : String) : StoredShard Unit :=
  ⟨⟨name, ∅, [], partitionLabelValue⟩, ∅, ∅, ()⟩

def freeShards : Cluster Unit :=
  ⟨.empty, (Store.single (freeShard "default" "")).insert (freeShard "team-a" "team-a")⟩

def timeoutAt (place : Place) : Faults := fun called => if called = place then some (.failed "timeout") else none

theorem truthful_timeoutAt (place : Place) : Truthful (timeoutAt place) := by
  intro called e h
  unfold timeoutAt at h
  split_ifs at h
  cases h
  cases called <;> rfl

theorem free_shards_migrated_after_timeout :
    let env := exampleInstallation "default"
    let failed := migrateShards env (timeoutAt (.patchShard "team-a")) freeShards
    let final := migrateShards env noFaults freeShards
    failed.err.isSome ∧ failed.writes = [.createNodePool "default", .patchShard "default", .createNodePool "team-a",
        .patchShard "team-a"] ∧
      (migrateShards env noFaults failed.cluster).cluster = final.cluster ∧ final.err = none ∧
      ∀ shard ∈ shardsToMigrate freeShards.shards.items, ControlsNoOther env final.cluster shard := by
  have h := shard_migration_restarts_iff (exampleInstallation "default") freeShards
  have hrestart := h.2.1 [timeoutAt (.patchShard "team-a")] (List.forall_mem_singleton.2 (truthful_timeoutAt _))
  refine ⟨by decide +kernel, by decide +kernel, hrestart.1, ?_⟩
  have haccepted : (planMigrations (exampleInstallation "default") noFaults freeShards freeShards.shards.items
      (shardsToMigrate freeShards.shards.items)).toOption.isSome := by decide +kernel
  cases hplan : planMigrations (exampleInstallation "default") noFaults freeShards freeShards.shards.items
      (shardsToMigrate freeShards.shards.items) with
  | error err =>
    rw [hplan] at haccepted
    cases haccepted
  | ok migrations =>
    obtain ⟨herr, -, -, hcontrols⟩ := h.2.2.2 migrations hplan
    exact ⟨herr, hcontrols.2 (by decide +kernel)⟩

theorem teamA_ne : "team-a" ≠ "" := by decide

def teamA : ConfiguredNodePool Unit :=
  newNodePool (exampleInstallation "team-a") "team-a" teamA_ne ⟨defaultNodePoolLabelKey, "team-a", none⟩

def teamAOwnsShard : Cluster Unit :=
  ⟨.single teamA, (Store.single { freeShard "team-a" "team-a" with ownerReferences := [nodePoolReference teamA] }).insert
    (freeShard "default" "")⟩

theorem default_shard_joins_owned_node_pool :
    let final := migrateShards (exampleInstallation "team-a") noFaults teamAOwnsShard
    final.err = none ∧
      (final.cluster.shards.items.map fun shard =>
        (shard.name, shard.partitionLabelValue, owningNodePoolName shard.toSchedulingShard)) =
        [("team-a", "team-a", "team-a"), ("default", "", "team-a")] := by
  -- The default NodePool is one that has a shard already: it gets the shard of the default partition too.
  decide +kernel

end

end Krm.HelmHooks
