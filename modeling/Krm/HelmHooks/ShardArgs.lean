import Krm.HelmHooks.MigrateShards
import Krm.Shards.Args

/-! # The args that the hook accepts and those that the controller writes -/

open Krm.Lib
open Krm.Shards (StoredShard SchedulingShardConfig NodePoolControllerParams buildShardArgs lookup_buildShardArgs)

namespace Krm.HelmHooks

/-- The args that the controller sets on every shard. -/
def workerArgs (params : NodePoolControllerParams) : List (String × String) :=
  [(Shards.cpuWorkerNodeLabelKeyArg, params.cpuWorkerNodeLabelKey),
    (Shards.gpuWorkerNodeLabelKeyArg, params.gpuWorkerNodeLabelKey),
    (Shards.migWorkerNodeLabelKeyArg, params.migWorkerNodeLabelKey)]

section

variable {σ : Type} {env : Installation σ} {shard : StoredShard σ}

/-! ## The check -/

theorem checkShardArgs_ok (h : checkShardArgs env shard = .ok ()) {key value want : String}
    (hvalue : shard.args.lookup key = some value) (hwant : (controllerArgs env).lookup key = some want) :
    want = value := by
  unfold checkShardArgs at h
  split_ifs at h with hnone
  have hkey : key ∈ shard.args.keys := Finmap.mem_keys.2 (Finmap.mem_of_lookup_eq_some hvalue)
  have hconflict := hnone key hkey
  rw [argConflict, hvalue, Option.bind_some, hwant, Option.bind_some] at hconflict
  by_contra hne
  rw [if_pos hne] at hconflict
  cases hconflict

theorem controllerArgs_cluster {key want : String} (h : env.opts.schedulingShardArgs.lookup key = some want) :
    (controllerArgs env).lookup key = some want := by
  rw [controllerArgs, Entries.lookup_union, h, Option.some_or]

theorem schedulingShardConfigFromShard_args {shardConfig : SchedulingShardConfig σ}
    (h : schedulingShardConfigFromShard env shard = .ok shardConfig) : shardConfig.args = shard.args := by
  unfold schedulingShardConfigFromShard at h
  split at h
  · cases h
  · cases h
    rfl

/-! ## The result -/

theorem lookup_workerArg (params : NodePoolControllerParams) (config : Option (SchedulingShardConfig σ))
    {worker : String × String} (h : worker ∈ workerArgs params) :
    (buildShardArgs params config).lookup worker.1 = some worker.2 := by
  rw [lookup_buildShardArgs]
  simp only [workerArgs, List.mem_cons, List.not_mem_nil, or_false] at h
  rcases h with rfl | rfl | rfl <;> dsimp only
  · rw [if_neg (by decide), if_neg (by decide), if_pos rfl]
  · rw [if_neg (by decide), if_pos rfl]
  · rw [if_pos rfl]

end

/-- Accepted args are kept exactly if the worker-node keys are the configured ones. -/
theorem accepted_args_kept_iff {σ : Type} (env : Installation σ) (params : NodePoolControllerParams)
    (shard : StoredShard σ) (shardConfig : SchedulingShardConfig σ)
    (hcluster : params.schedulingShardArgs = env.opts.schedulingShardArgs)
    (haccepted : checkShardArgs env shard = .ok ())
    (hconfig : schedulingShardConfigFromShard env shard = .ok shardConfig) :
    (∀ key value, shard.args.lookup key = some value →
      (buildShardArgs params (some shardConfig)).lookup key = some value) ↔
      ∀ worker ∈ workerArgs params, ∀ value, shard.args.lookup worker.1 = some value → value = worker.2 := by
  constructor
  · intro hkept worker hworker value hvalue
    have hwritten := lookup_workerArg params (some shardConfig) hworker
    rw [hkept worker.1 value hvalue] at hwritten
    exact Option.some.inj hwritten
  · intro hworkers key value hvalue
    by_cases hkey : ∃ worker ∈ workerArgs params, worker.1 = key
    · obtain ⟨worker, hworker, rfl⟩ := hkey
      rw [lookup_workerArg params (some shardConfig) hworker, hworkers worker hworker value hvalue]
    · -- Any other arg comes from the cluster or from the shard, and the check has compared the two.
      simp only [workerArgs, List.mem_cons, List.not_mem_nil, or_false, exists_eq_or_imp, exists_eq_left, not_or] at hkey
      rw [lookup_buildShardArgs, if_neg (Ne.symm hkey.2.2), if_neg (Ne.symm hkey.2.1), if_neg (Ne.symm hkey.1), hcluster,
        Option.elim_some, schedulingShardConfigFromShard_args hconfig, hvalue]
      cases hwant : env.opts.schedulingShardArgs.lookup key with
      | none => rfl
      | some want => rw [checkShardArgs_ok haccepted hvalue (controllerArgs_cluster hwant), Option.some_or]

def shardWith (args : Labels) : StoredShard Unit := ⟨⟨"team-a", ∅, [], "team-a"⟩, ∅, args, ()⟩

/-- The default keys, but for that of the CPU workers. -/
def configured (cpuWorkerNodeLabelKey : String) : NodePoolControllerParams :=
  ⟨∅, cpuWorkerNodeLabelKey, "node-role.kubernetes.io/gpu-worker", "node-role.kubernetes.io/mig-enabled"⟩

/-- The shard's key for CPU workers is the default one. -/
def defaultCPUWorker : Labels :=
  (∅ : Labels).insert Shards.cpuWorkerNodeLabelKeyArg "node-role.kubernetes.io/cpu-worker"

theorem default_worker_key_kept :
    (buildShardArgs (configured "node-role.kubernetes.io/cpu-worker") (some ⟨defaultCPUWorker, ()⟩)).lookup
      Shards.cpuWorkerNodeLabelKeyArg = some "node-role.kubernetes.io/cpu-worker" := by
  refine (accepted_args_kept_iff (exampleInstallation "default") (configured "node-role.kubernetes.io/cpu-worker")
    (shardWith defaultCPUWorker) ⟨defaultCPUWorker, ()⟩ rfl (by decide) rfl).2 ?_ _ _ (by decide)
  decide

/-- The check compares with the default key, the controller writes the configured one. -/
theorem configured_worker_key_overwrites :
    checkShardArgs (exampleInstallation "default") (shardWith defaultCPUWorker) = .ok () ∧
    schedulingShardConfigFromShard (exampleInstallation "default") (shardWith defaultCPUWorker) = .ok ⟨defaultCPUWorker, ()⟩ ∧
    (buildShardArgs (configured "node-role.kubernetes.io/my-cpu-worker") (some ⟨defaultCPUWorker, ()⟩)).lookup
      Shards.cpuWorkerNodeLabelKeyArg = some "node-role.kubernetes.io/my-cpu-worker" :=
  ⟨by decide, rfl, by decide⟩

end Krm.HelmHooks
