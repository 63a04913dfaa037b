import Krm.HelmHooks.Progress

/-! # Every run does some of the writes that are left, in their order -/

open Krm.Lib
open StateTransition (Reaches eval mem_eval reaches_eval)
open Krm.Shards (Cluster ConfiguredNodePool)

namespace Krm.HelmHooks

section

variable {σ : Type} [DecidableEq σ] {env : Installation σ} {fault : Faults} {c c' : Cluster σ}
  {nodePool : ConfiguredNodePool σ} {migration : ShardMigration σ} {migrations : List (ShardMigration σ)}

/-! ## The migrations -/

/-- The cluster goes to `c'`, or stops on the way when a call fails. -/
structure GoesTo (env : Installation σ) (fault : Faults) (c c' : Cluster σ) (r : Run σ) : Prop where
  reaches : Reaches (next env) c r.cluster
  arrives : r.err = none → r.cluster = c'
  succeeds : fault = noFaults → r.err = none

theorem GoesTo.andThen {c'' : Cluster σ} {first : Run σ} {rest : Cluster σ → Run σ} (h : GoesTo env fault c c' first)
    (hrest : GoesTo env fault c' c'' (rest c')) : GoesTo env fault c c'' (first.andThen rest) := by
  unfold Run.andThen
  cases herr : first.err with
  | some e =>
    refine ⟨h.reaches, fun hnone => ?_, fun hfault => ?_⟩
    · exact absurd (herr.symm.trans hnone) (Option.some_ne_none e)
    · exact absurd (herr.symm.trans (h.succeeds hfault)) (Option.some_ne_none e)
  | none =>
    have hreaches := h.reaches
    rw [h.arrives herr] at hreaches ⊢
    exact ⟨hreaches.trans hrest.reaches, hrest.arrives, hrest.succeeds⟩

theorem writeCall_goesTo {place : Place} {context : String} {result : Except ApiError (Cluster σ)}
    (hresult : result = .ok c') (hreaches : Reaches (next env) c c') :
    GoesTo env fault c c' (writeCall fault c place context result) := by
  subst hresult
  unfold writeCall
  cases hfault : fault place with
  | some e =>
    refine ⟨.refl, nofun, ?_⟩
    rintro rfl
    cases hfault
  | none => exact ⟨hreaches, fun _ => rfl, fun _ => rfl⟩

omit [DecidableEq σ] in
theorem createdNodePool_ok (h : c.nodePools.get nodePool.name = none) :
    createdNodePool c nodePool = .ok (putNodePool c nodePool) := by
  rw [createdNodePool, putNodePool, h]

omit [DecidableEq σ] in
theorem patchedNodePool_ok {existing : ConfiguredNodePool σ} (h : c.nodePools.get nodePool.name = some existing) :
    patchedNodePool c nodePool = .ok (putNodePool c nodePool) := by
  rw [patchedNodePool, putNodePool, h]

theorem nodePoolForShard_goesTo (fault : Faults) (h : Plan env c (migration :: migrations)) :
    (nodePoolForShard env fault c migration).1 = migration.nodePool env ∧
      GoesTo env fault c (putNodePool c (migration.nodePool env)) (nodePoolForShard env fault c migration).2 := by
  obtain ⟨-, -, hplanned, -⟩ := h.cons
  have hreaches := h.reaches_put
  have hget : c.nodePools.get (migration.nodePool env).name = migration.existingNodePool := by
    rw [hplanned.nodePool_name, hplanned.existing]
  unfold nodePoolForShard
  unfold ShardMigration.nodePool at hreaches hget ⊢
  cases hexisting : migration.existingNodePool with
  | none =>
    rw [hexisting] at hreaches hget
    exact ⟨rfl, writeCall_goesTo (createdNodePool_ok hget) hreaches⟩
  | some existing =>
    rw [hexisting] at hreaches hget
    dsimp only at hreaches hget ⊢
    split_ifs with hconfig
    · rw [← hconfig]
      rw [putNodePool_self hget]
      exact ⟨rfl, .refl, fun _ => rfl, fun _ => rfl⟩
    · exact ⟨rfl, writeCall_goesTo (patchedNodePool_ok hget) hreaches⟩

theorem migrate_goesTo (h : Plan env c (migration :: migrations)) :
    GoesTo env fault c (handed env c migration) (migrate env fault c migration) := by
  obtain ⟨hmem, hpending⟩ := h.mem
  obtain ⟨hnodePool, hgoes⟩ := nodePoolForShard_goesTo fault h
  unfold migrate
  generalize nodePoolForShard env fault c migration = r at hnodePool hgoes
  obtain ⟨nodePool, written⟩ := r
  dsimp only at hnodePool hgoes ⊢
  subst hnodePool
  refine hgoes.andThen ?_
  rw [Shards.setControllerReference, controllerOf_of_isPending hpending]
  refine writeCall_goesTo ?_ h.reaches_handed
  have hget : (putNodePool c (migration.nodePool env)).shards.get migration.shard.name = some migration.shard := by
    rw [putNodePool_shards]
    exact Store.get_of_mem hmem
  rw [patchedShard, hget]
  rfl

def migrated (env : Installation σ) (c : Cluster σ) (migrations : List (ShardMigration σ)) : Cluster σ :=
  migrations.foldl (handed env) c

theorem migrateAll_goesTo (h : Plan env c migrations) :
    GoesTo env fault c (migrated env c migrations) (migrateAll env fault c migrations) := by
  induction migrations generalizing c with
  | nil => exact ⟨.refl, fun _ => rfl, fun _ => rfl⟩
  | cons migration migrations ih => exact (migrate_goesTo h).andThen (ih h.tail)

omit [DecidableEq σ] in
theorem Plan.migrated (h : Plan env c migrations) : Plan env (migrated env c migrations) [] := by
  induction migrations generalizing c with
  | nil => exact h
  | cons migration migrations ih => exact ih h.tail

/-! ## The default NodePool -/

omit [DecidableEq σ] in
theorem plan_nil_iff : Plan env c [] ↔ shardsToMigrate c.shards.items = [] := by
  constructor
  · exact fun h => List.forall₂_nil_right_iff.1 h.each
  · intro h
    refine ⟨?_, fun hne => absurd rfl hne⟩
    rw [h]
    exact .nil

omit [DecidableEq σ] in
theorem Plan.put_nil (h : Plan env c []) : Plan env (putNodePool c nodePool) [] := by
  rw [plan_nil_iff, putNodePool_shards]
  exact plan_nil_iff.1 h

/-- The error when every shard was handed over. -/
def closingError (env : Installation σ) : Option MigrateError :=
  if env.opts.ensureDefaultNodePool = true ∧ env.opts.defaultNodePoolName = "" then some (.call emptyName) else none

/-- The last write is made, if there is one and no call fails. -/
structure Closes (env : Installation σ) (fault : Faults) (c : Cluster σ) (r : Run σ) : Prop where
  moves : r.cluster = c ∨ next env c = some r.cluster
  idle : next env c = none → r.writes = []
  ends : fault = noFaults → next env r.cluster = none ∧ r.err = closingError env

theorem Closes.stay {err : Option MigrateError} (h : fault = noFaults → next env c = none ∧ err = closingError env) :
    Closes env fault c ⟨err, c, []⟩ :=
  ⟨.inl rfl, fun _ => rfl, h⟩

theorem Plan.next_of_default (h : Plan env c [])
    (hget : c.nodePools.get env.opts.defaultNodePoolName = some nodePool) : next env c = none := by
  rw [next, h.planMigrations]
  split_ifs
  · rw [hget]
  · rfl

theorem Plan.next_of_disabled (h : Plan env c [])
    (hnot : ¬ (env.opts.ensureDefaultNodePool = true ∧ env.opts.defaultNodePoolName ≠ "")) : next env c = none := by
  rw [next, h.planMigrations]
  exact dif_neg hnot

theorem Plan.next_nil (h : Plan env c []) (hnext : next env c = some c') :
    c.nodePools.get env.opts.defaultNodePoolName = none ∧
      ∃ hname, c' = putNodePool c (newNodePool env env.opts.defaultNodePoolName hname env.opts.defaultNodePoolSpec) := by
  rw [next, h.planMigrations] at hnext
  dsimp only at hnext
  split_ifs at hnext with hensure
  cases hget : c.nodePools.get env.opts.defaultNodePoolName with
  | some nodePool =>
    rw [hget] at hnext
    cases hnext
  | none =>
    rw [hget] at hnext
    exact ⟨rfl, hensure.2, (Option.some.inj hnext).symm⟩

theorem closes_create (h : Plan env c []) (hensure : env.opts.ensureDefaultNodePool = true)
    (hname : env.opts.defaultNodePoolName ≠ "") (hget : c.nodePools.get env.opts.defaultNodePoolName = none)
    {context : String} :
    Closes env fault c (writeCall fault c .createDefaultNodePool context
      (createdNodePool c (newNodePool env env.opts.defaultNodePoolName hname env.opts.defaultNodePoolSpec))) := by
  have hnext : next env c = some (putNodePool c
      (newNodePool env env.opts.defaultNodePoolName hname env.opts.defaultNodePoolSpec)) := by
    rw [next, h.planMigrations]
    dsimp only
    rw [dif_pos ⟨hensure, hname⟩, hget]
  rw [createdNodePool_ok hget]
  unfold writeCall
  refine ⟨?_, fun hnone => absurd (hnext.symm.trans hnone) (Option.some_ne_none _), ?_⟩
  · cases fault .createDefaultNodePool with
    | some e => exact .inl rfl
    | none => exact .inr hnext
  · rintro rfl
    refine ⟨?_, (if_neg fun hboth => hname hboth.2).symm⟩
    exact h.put_nil.next_of_default (get_putNodePool _ _)

theorem ensureDefaultNodePool_closes (h : Plan env c []) (htruthful : Truthful fault)
    (hensure : env.opts.ensureDefaultNodePool = true) :
    Closes env fault c (ensureDefaultNodePool env fault c) := by
  unfold ensureDefaultNodePool
  dsimp only
  split_ifs with hname
  · exact .stay fun _ => ⟨h.next_of_disabled fun hboth => hboth.2 hname, (if_pos ⟨hensure, hname⟩).symm⟩
  · cases hfound : getNodePool fault c .getDefaultNodePool env.opts.defaultNodePoolName with
    | error e =>
      refine .stay ?_
      rintro rfl
      cases hfound
    | ok found =>
      have hget := getNodePool_ok (htruthful .getDefaultNodePool) hfound
      cases found with
      | some nodePool =>
        exact .stay fun _ => ⟨h.next_of_default hget.symm, (if_neg fun hboth => hname hboth.2).symm⟩
      | none => exact closes_create h hensure hname hget.symm

/-- The last part of the hook. -/
def closing (env : Installation σ) (fault : Faults) (c : Cluster σ) : Run σ :=
  if env.opts.ensureDefaultNodePool then ensureDefaultNodePool env fault c else ⟨none, c, []⟩

theorem closing_closes (h : Plan env c []) (htruthful : Truthful fault) : Closes env fault c (closing env fault c) := by
  unfold closing
  split_ifs with hensure
  · exact ensureDefaultNodePool_closes h htruthful hensure
  · exact .stay fun _ => ⟨h.next_of_disabled fun hboth => hensure hboth.1, (if_neg fun hboth => hensure hboth.1).symm⟩

/-! ## Whole runs -/

/-- What a run does to a cluster for which there is a plan. -/
structure Progresses (env : Installation σ) (fault : Faults) (c : Cluster σ) (migrations : List (ShardMigration σ))
    (r : Run σ) : Prop where
  reaches : Reaches (next env) c r.cluster
  ends : fault = noFaults → next env r.cluster = none ∧ r.err = closingError env ∧
    (r.cluster = migrated env c migrations ∨ next env (migrated env c migrations) = some r.cluster)

theorem Closes.progresses {first : Run σ} {rest : Cluster σ → Run σ}
    (hfirst : GoesTo env fault c (migrated env c migrations) first)
    (hrest : Closes env fault (migrated env c migrations) (rest (migrated env c migrations))) :
    Progresses env fault c migrations (first.andThen rest) := by
  unfold Run.andThen
  cases herr : first.err with
  | some e =>
    refine ⟨hfirst.reaches, fun hfault => ?_⟩
    exact absurd (herr.symm.trans (hfirst.succeeds hfault)) (Option.some_ne_none e)
  | none =>
    have hreaches := hfirst.reaches
    rw [hfirst.arrives herr] at hreaches ⊢
    refine ⟨?_, fun hfault => ⟨(hrest.ends hfault).1, (hrest.ends hfault).2, hrest.moves⟩⟩
    rcases hrest.moves with hstay | hnext
    · rwa [hstay]
    · exact hreaches.tail hnext

theorem migrateShards_cases (env : Installation σ) (c : Cluster σ) (htruthful : Truthful fault) :
    (∃ err, migrateShards env fault c = ⟨err, c, []⟩) ∨
      ∃ migrations, Plan env c migrations ∧
        migrateShards env fault c = (migrateAll env fault c migrations).andThen (closing env fault) := by
  unfold migrateShards
  cases fault .listShards with
  | some e =>
    left
    dsimp only
    split_ifs <;> exact ⟨_, rfl⟩
  | none =>
    dsimp only
    cases hplan : planMigrations env fault c c.shards.items (shardsToMigrate c.shards.items) with
    | error e => exact .inl ⟨_, rfl⟩
    | ok migrations => exact .inr ⟨migrations, planMigrations_ok htruthful hplan, rfl⟩

theorem migrateShards_reaches (htruthful : Truthful fault) :
    Reaches (next env) c (migrateShards env fault c).cluster := by
  rcases migrateShards_cases env c htruthful with ⟨err, heq⟩ | ⟨migrations, hplan, heq⟩ <;> rw [heq]
  · exact .refl
  · exact (Closes.progresses (migrateAll_goesTo hplan) (closing_closes hplan.migrated htruthful)).reaches

theorem Plan.progresses (h : Plan env c migrations) :
    Progresses env noFaults c migrations (migrateShards env noFaults c) := by
  have heq : migrateShards env noFaults c =
      (migrateAll env noFaults c migrations).andThen (closing env noFaults) := by
    rw [migrateShards, h.planMigrations]
    rfl
  rw [heq]
  exact Closes.progresses (migrateAll_goesTo h) (closing_closes h.migrated truthful_noFaults)

theorem plan_or_refused (env : Installation σ) (c : Cluster σ) :
    (∃ migrations, Plan env c migrations) ∨
      next env c = none ∧ ∃ err, migrateShards env noFaults c = ⟨some err, c, []⟩ := by
  cases hplan : planMigrations env noFaults c c.shards.items (shardsToMigrate c.shards.items) with
  | ok migrations => exact .inl ⟨migrations, planMigrations_ok truthful_noFaults hplan⟩
  | error err =>
    refine .inr ⟨?_, err, ?_⟩
    · rw [next, hplan]
    · rw [migrateShards, hplan]
      rfl

theorem next_migrateShards (env : Installation σ) (c : Cluster σ) :
    next env (migrateShards env noFaults c).cluster = none := by
  rcases plan_or_refused env c with ⟨migrations, hplan⟩ | ⟨hnext, err, heq⟩
  · exact (hplan.progresses.ends rfl).1
  · rw [heq]
    exact hnext

theorem migrateShards_mem_eval (env : Installation σ) (c : Cluster σ) :
    (migrateShards env noFaults c).cluster ∈ eval (next env) c :=
  mem_eval.2 ⟨migrateShards_reaches truthful_noFaults, next_migrateShards env c⟩

theorem Plan.of_next (h : Plan env c migrations) (hnext : next env c = some c') : ∃ rest, Plan env c' rest := by
  cases migrations with
  | nil =>
    obtain ⟨-, hname, rfl⟩ := h.next_nil hnext
    exact ⟨[], h.put_nil⟩
  | cons migration migrations =>
    rw [next, h.planMigrations] at hnext
    dsimp only at hnext
    split_ifs at hnext
    · cases hnext
      exact ⟨migrations, h.handOver⟩
    · cases hnext
      exact ⟨_, h.found⟩

theorem Plan.of_reaches (h : Plan env c migrations) (hreaches : Reaches (next env) c c') : ∃ rest, Plan env c' rest := by
  induction hreaches with
  | refl => exact ⟨migrations, h⟩
  | tail _ hnext ih =>
    obtain ⟨_, hplan⟩ := ih
    exact hplan.of_next hnext

theorem eq_of_reaches (hnext : next env c = none) (h : Reaches (next env) c c') : c' = c :=
  (StateTransition.eval_maximal (mem_eval.2 ⟨.refl, hnext⟩)).1 h

/-- A run without failures ends alike, wherever the runs before it stopped. -/
theorem migrateShards_of_reaches (h : Reaches (next env) c c') :
    (migrateShards env noFaults c').cluster = (migrateShards env noFaults c).cluster ∧
      (migrateShards env noFaults c').err = (migrateShards env noFaults c).err := by
  constructor
  · have hmem := migrateShards_mem_eval env c'
    rw [← reaches_eval h] at hmem
    exact Part.mem_unique hmem (migrateShards_mem_eval env c)
  · rcases plan_or_refused env c with ⟨migrations, hplan⟩ | ⟨hnext, -⟩
    · obtain ⟨rest, hrest⟩ := hplan.of_reaches h
      rw [(hplan.progresses.ends rfl).2.1, (hrest.progresses.ends rfl).2.1]
    · rw [eq_of_reaches hnext h]

/-- Runs, one after another, with what fails in each. -/
def runs (env : Installation σ) (c : Cluster σ) (faults : List Faults) : Cluster σ :=
  run (fun c fault => (migrateShards env fault c).cluster) c faults

theorem runs_reaches {faults : List Faults} (h : ∀ fault ∈ faults, Truthful fault) :
    Reaches (next env) c (runs env c faults) := by
  induction faults generalizing c with
  | nil => exact .refl
  | cons fault faults ih =>
    rw [List.forall_mem_cons] at h
    exact (migrateShards_reaches h.1).trans (ih h.2)

theorem writes_of_next_none (hnext : next env c = none) (htruthful : Truthful fault) :
    (migrateShards env fault c).writes = [] := by
  rcases migrateShards_cases env c htruthful with ⟨err, heq⟩ | ⟨migrations, hplan, heq⟩ <;> rw [heq]
  cases migrations with
  | nil => exact (closing_closes hplan htruthful).idle hnext
  | cons migration migrations =>
    rw [next, hplan.planMigrations] at hnext
    dsimp only at hnext
    split_ifs at hnext

end

end Krm.HelmHooks
