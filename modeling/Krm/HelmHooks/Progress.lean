import Krm.HelmHooks.Plans
import Mathlib.Computability.StateTransition

/-! # The hook, one write at a time

What is left to do can be read off the cluster, so a run that starts where another stopped goes on as that one would
have.
-/

open Krm.Lib
open StateTransition (Reaches)
open Krm.Shards (Cluster ConfiguredNodePool StoredShard controllerOf nodePoolReference upsertOwnerRef)

namespace Krm.HelmHooks

section

variable {σ : Type} (env : Installation σ)

/-- The NodePool that the shard is handed to, as it is then. -/
def ShardMigration.nodePool (migration : ShardMigration σ) : ConfiguredNodePool σ :=
  match migration.existingNodePool with
  | some nodePool => { nodePool with schedulingShardConfig := some migration.shardConfig }
  | none => newNodePool env migration.nodePoolName migration.name_ne (migration.newSpec env)

def putNodePool (c : Cluster σ) (nodePool : ConfiguredNodePool σ) : Cluster σ :=
  match c.nodePools.get nodePool.name with
  | some _ => { c with nodePools := c.nodePools.replace nodePool }
  | none => { c with nodePools := c.nodePools.insert nodePool }

def adopted (nodePool : ConfiguredNodePool σ) (shard : StoredShard σ) : StoredShard σ :=
  { shard with
    ownerReferences := upsertOwnerRef nodePool shard.ownerReferences
    labels := adoptedLabels shard }

def handOver (c : Cluster σ) (migration : ShardMigration σ) : Cluster σ :=
  { c with shards := c.shards.replace (adopted (migration.nodePool env) migration.shard) }

/-- The cluster after the next write, if one is left to do. -/
def next [DecidableEq σ] (c : Cluster σ) : Option (Cluster σ) :=
  match planMigrations env noFaults c c.shards.items (shardsToMigrate c.shards.items) with
  | .error _ => none
  | .ok (migration :: _) =>
    if migration.existingNodePool = some (migration.nodePool env) then some (handOver env c migration)
    else some (putNodePool c (migration.nodePool env))
  | .ok [] =>
    if h : env.opts.ensureDefaultNodePool = true ∧ env.opts.defaultNodePoolName ≠ "" then
      match c.nodePools.get env.opts.defaultNodePoolName with
      | some _ => none
      | none => some (putNodePool c (newNodePool env env.opts.defaultNodePoolName h.2 env.opts.defaultNodePoolSpec))
    else none

/-- The cluster after a migration. -/
def handed (c : Cluster σ) (migration : ShardMigration σ) : Cluster σ :=
  handOver env (putNodePool c (migration.nodePool env)) migration

/-- The migration once its NodePool is there. -/
def ShardMigration.found (migration : ShardMigration σ) : ShardMigration σ :=
  { migration with existingNodePool := some (migration.nodePool env) }

end

section

variable {σ : Type} {env : Installation σ} {c : Cluster σ} {all : List (StoredShard σ)} {shard : StoredShard σ}
  {nodePool : ConfiguredNodePool σ} {migration : ShardMigration σ} {migrations : List (ShardMigration σ)}

/-! ## The NodePool -/

@[simp] theorem putNodePool_shards : (putNodePool c nodePool).shards = c.shards := by
  unfold putNodePool
  split <;> rfl

theorem agreeOff_putNodePool : Store.AgreeOff [nodePool.name] c.nodePools (putNodePool c nodePool).nodePools := by
  unfold putNodePool
  split
  · exact Store.agreeOff_replace _ _ rfl
  · exact Store.agreeOff_insert _ _ rfl

theorem get_putNodePool (c : Cluster σ) (nodePool : ConfiguredNodePool σ) :
    (putNodePool c nodePool).nodePools.get nodePool.name = some nodePool := by
  unfold putNodePool
  cases hget : c.nodePools.get nodePool.name with
  | some _ => exact Store.get_replace_self _ _ rfl (Option.isSome_of_eq_some hget)
  | none => exact Store.get_insert_self _ _ rfl hget

theorem get_putNodePool_of_ne {name : String} (h : name ≠ nodePool.name) :
    (putNodePool c nodePool).nodePools.get name = c.nodePools.get name :=
  (agreeOff_putNodePool.get_eq fun hmem => h (List.mem_singleton.1 hmem)).symm

theorem putNodePool_self (h : c.nodePools.get nodePool.name = some nodePool) : putNodePool c nodePool = c := by
  unfold putNodePool
  rw [h]
  dsimp only
  rw [Store.replace_self (Store.get_mem h)]

theorem nodePool_schedulingShardConfig (env : Installation σ) (migration : ShardMigration σ) :
    (migration.nodePool env).schedulingShardConfig = some migration.shardConfig := by
  unfold ShardMigration.nodePool
  split
  · rfl
  · simp only [newNodePool, ShardMigration.newSpec]
    split_ifs <;> rfl

@[simp] theorem found_nodePool : (migration.found env).nodePool env = migration.nodePool env := by
  have hconfig := nodePool_schedulingShardConfig env migration
  rw [ShardMigration.found, ShardMigration.nodePool]
  dsimp only
  rw [← hconfig]

theorem Planned.nodePool_name (h : Planned env c all shard migration) :
    (migration.nodePool env).name = migration.nodePoolName := by
  have hexisting := h.existing
  unfold ShardMigration.nodePool
  split
  · rename_i existing hsome
    rw [hsome] at hexisting
    have hkey := Store.get_key hexisting.symm
    exact hkey
  · rfl

theorem Planned.nodePool_selects (h : Planned env c all shard migration) :
    checkNodePoolSelectsPartition env (migration.nodePool env) shard = .ok () := by
  have hselects := h.selects
  have hshard := h.shard_eq
  unfold ShardMigration.nodePool
  split
  · rename_i existing hsome
    exact hselects existing hsome
  · subst hshard
    by_cases hpartition : migration.shard.partitionLabelValue = ""
    · simp [checkNodePoolSelectsPartition, hpartition]
    · simp [checkNodePoolSelectsPartition, newNodePool, ShardMigration.newSpec, hpartition]

/-! ## What the writes leave of the plan -/

theorem Planned.found (h : Planned env c all shard migration) :
    Planned env (putNodePool c (migration.nodePool env)) all shard (migration.found env) where
  shard_eq := h.shard_eq
  name_eq := h.name_eq
  checked := h.checked
  existing := by
    have hget := get_putNodePool c (migration.nodePool env)
    rw [h.nodePool_name] at hget
    exact hget.symm
  selects := by
    intro existing hexisting
    cases hexisting
    exact h.nodePool_selects

theorem Planned.of_agrees {c' : Cluster σ} {all' : List (StoredShard σ)} (h : Planned env c all shard migration)
    (hget : c'.nodePools.get migration.nodePoolName = c.nodePools.get migration.nodePoolName)
    (hchecked : checkShard env all' shard = checkShard env all shard) : Planned env c' all' shard migration where
  shard_eq := h.shard_eq
  name_eq := h.name_eq
  checked := hchecked.trans h.checked
  existing := h.existing.trans hget.symm
  selects := h.selects

theorem mem_shardsToMigrate {shards : List (StoredShard σ)} :
    shard ∈ shardsToMigrate shards ↔ shard ∈ shards ∧ isPending shard := by
  rw [shardsToMigrate, List.mem_insertionSort, List.mem_filter]

theorem nodup_shardsToMigrate : ((shardsToMigrate c.shards.items).map fun shard => shard.name).Nodup := by
  have hperm := (List.perm_insertionSort (fun a b : StoredShard σ => a.name ≤ b.name) (c.shards.items.filter isPending)).map
    fun shard => shard.name
  exact hperm.nodup_iff.2 (c.shards.nodup.sublist (List.filter_sublist.map _))

theorem controllerOf_of_isPending (h : isPending shard) : controllerOf shard.toSchedulingShard = none := by
  unfold isPending at h
  rw [Bool.and_eq_true, Option.isNone_iff_eq_none] at h
  exact h.1

theorem Plan.cons (h : Plan env c (migration :: migrations)) :
    ∃ rest, shardsToMigrate c.shards.items = migration.shard :: rest ∧
      Planned env c c.shards.items migration.shard migration ∧
      List.Forall₂ (fun other m => (other ∈ c.shards.items ∧ other.name ≠ migration.shard.name) ∧
        Planned env c c.shards.items other m) rest migrations := by
  obtain ⟨shard, rest, hplanned, hrest, hpending⟩ := List.forall₂_cons_right_iff.1 h.each
  cases hplanned.shard_eq
  refine ⟨rest, hpending, hplanned, (List.forall₂_and_left _ _).2 ⟨fun other hother => ?_, hrest⟩⟩
  have hnodup := nodup_shardsToMigrate (c := c)
  rw [hpending, List.map_cons, List.nodup_cons] at hnodup
  constructor
  · have hmem : other ∈ shardsToMigrate c.shards.items := hpending ▸ List.mem_cons_of_mem _ hother
    exact (mem_shardsToMigrate.1 hmem).1
  · intro hname
    exact hnodup.1 (hname ▸ List.mem_map_of_mem hother)

theorem Plan.mem (h : Plan env c (migration :: migrations)) :
    migration.shard ∈ c.shards.items ∧ isPending migration.shard := by
  obtain ⟨rest, hpending, -⟩ := h.cons
  exact mem_shardsToMigrate.1 (hpending ▸ List.mem_cons_self)

theorem Planned.nodePoolName_ne {other : StoredShard σ} {m : ShardMigration σ}
    (h : Planned env c c.shards.items shard migration) (h' : Planned env c c.shards.items other m)
    (hshard : shard ∈ c.shards.items) (hother : other ∈ c.shards.items) (hne : other.name ≠ shard.name) :
    m.nodePoolName ≠ migration.nodePoolName := by
  intro hname
  rw [h.name_eq, h'.name_eq] at hname
  rw [nodePoolNameFor_inj h'.checked h.checked hother hshard hname] at hne
  exact hne rfl

theorem Plan.found (h : Plan env c (migration :: migrations)) :
    Plan env (putNodePool c (migration.nodePool env)) (migration.found env :: migrations) := by
  obtain ⟨rest, hpending, hplanned, hrest⟩ := h.cons
  refine ⟨?_, fun _ => h.labelKey (List.cons_ne_nil _ _)⟩
  rw [putNodePool_shards, hpending]
  refine .cons hplanned.found (hrest.imp fun other m hother => ?_)
  obtain ⟨⟨hmem, hne⟩, hplanned'⟩ := hother
  refine hplanned'.of_agrees (get_putNodePool_of_ne ?_) rfl
  rw [hplanned.nodePool_name]
  exact hplanned.nodePoolName_ne hplanned' h.mem.1 hmem hne

theorem adopted_controllerOf (h : isPending shard) :
    controllerOf (adopted nodePool shard).toSchedulingShard = some (nodePoolReference nodePool) := by
  have howned : Shards.setControllerReference nodePool shard =
      .ok { shard with ownerReferences := upsertOwnerRef nodePool shard.ownerReferences } := by
    rw [Shards.setControllerReference, controllerOf_of_isPending h]
    rfl
  have hcontroller := Shards.setControllerReference_controllerOf howned
  exact hcontroller

theorem isPending_adopted (h : isPending shard) : isPending (adopted nodePool shard) = false := by
  rw [isPending, adopted_controllerOf h]
  rfl

theorem checkShard_congr {all' : List (StoredShard σ)}
    (h : (all'.filter fun other => other.partitionLabelValue = shard.partitionLabelValue).map (fun other => other.name) =
      (all.filter fun other => other.partitionLabelValue = shard.partitionLabelValue).map fun other => other.name) :
    checkShard env all' shard = checkShard env all shard := by
  unfold checkShard
  dsimp only
  rw [h]

theorem checkShard_replace (hmem : shard ∈ c.shards.items) (other : StoredShard σ) :
    checkShard env (c.shards.replace (adopted nodePool shard)).items other = checkShard env c.shards.items other := by
  refine checkShard_congr (Store.map_filter_replace _ fun b hb hname => ?_)
  rw [Store.eq_of_mem hb hmem hname]
  rfl

theorem shardsToMigrate_replace {rest : List (StoredShard σ)}
    (h : shardsToMigrate c.shards.items = shard :: rest) :
    shardsToMigrate (c.shards.replace (adopted nodePool shard)).items = rest := by
  obtain ⟨hmem, hpending⟩ := mem_shardsToMigrate.1 (h ▸ List.mem_cons_self : shard ∈ shardsToMigrate c.shards.items)
  have hstored : ∀ b ∈ (c.shards.replace (adopted nodePool shard)).items,
      isPending b = (isPending b && decide (b.name ∉ [shard.name])) := by
    intro b hb
    have hisSome : (c.shards.get shard.name).isSome := Option.isSome_of_eq_some (Store.get_of_mem hmem)
    rcases (Store.mem_replace c.shards (adopted nodePool shard) b (k := shard.name) rfl hisSome).1 hb with
      rfl | ⟨-, hname⟩
    · rw [isPending_adopted hpending, Bool.false_and]
    · simp [hname]
  have hagree := Store.agreeOff_replace c.shards (adopted nodePool shard) (k := shard.name) rfl
  have hnodup := nodup_shardsToMigrate (c := c)
  rw [h, List.map_cons, List.nodup_cons] at hnodup
  calc shardsToMigrate (c.shards.replace (adopted nodePool shard)).items
      = ((c.shards.items.filter isPending).filter (·.name ∉ [shard.name])).insertionSort fun a b => a.name ≤ b.name := by
        rw [shardsToMigrate, List.filter_congr hstored, ← List.filter_filter, ← hagree, List.filter_comm]
    _ = (shard :: rest).filter (·.name ∉ [shard.name]) := by
        rw [Store.insertionSort_filter, ← h]
        rfl
    _ = rest := by
        rw [List.filter_cons_of_neg (by simp), List.filter_eq_self]
        intro b hb
        refine decide_eq_true fun hname => hnodup.1 ?_
        rw [← List.mem_singleton.1 hname]
        exact List.mem_map_of_mem hb

theorem Plan.handOver (h : Plan env c (migration :: migrations)) : Plan env (handOver env c migration) migrations := by
  obtain ⟨rest, hpending, -, hrest⟩ := h.cons
  refine ⟨?_, fun _ => h.labelKey (List.cons_ne_nil _ _)⟩
  have hnext : shardsToMigrate (HelmHooks.handOver env c migration).shards.items = rest :=
    shardsToMigrate_replace hpending
  rw [hnext]
  exact hrest.imp fun other m hother => hother.2.of_agrees rfl (checkShard_replace h.mem.1 other)

/-! ## The writes of one migration -/

theorem handed_shards :
    (handed env c migration).shards = c.shards.replace (adopted (migration.nodePool env) migration.shard) := by
  rw [handed, handOver, putNodePool_shards]

theorem handOver_found : handOver env c (migration.found env) = handOver env c migration := by
  rw [handOver, found_nodePool]
  rfl

theorem Plan.tail (h : Plan env c (migration :: migrations)) : Plan env (handed env c migration) migrations := by
  have hnext := h.found.handOver
  rwa [handOver_found] at hnext

variable [DecidableEq σ]

theorem Plan.reaches_put (h : Plan env c (migration :: migrations)) :
    Reaches (next env) c (putNodePool c (migration.nodePool env)) := by
  obtain ⟨-, -, hplanned, -⟩ := h.cons
  by_cases hfound : migration.existingNodePool = some (migration.nodePool env)
  · have hget : c.nodePools.get (migration.nodePool env).name = some (migration.nodePool env) := by
      rw [hplanned.nodePool_name, ← hplanned.existing, hfound]
    rw [putNodePool_self hget]
    exact .refl
  · refine .single ?_
    rw [next, h.planMigrations]
    exact if_neg hfound

theorem Plan.reaches_handed (h : Plan env c (migration :: migrations)) :
    Reaches (next env) (putNodePool c (migration.nodePool env)) (handed env c migration) := by
  refine .single ?_
  rw [next, h.found.planMigrations, handed, ← handOver_found]
  exact if_pos (congrArg some found_nodePool.symm)

end

end Krm.HelmHooks
