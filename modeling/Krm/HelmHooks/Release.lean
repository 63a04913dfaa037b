import Krm.HelmHooks.Cleanup
import Krm.HelmHooks.Restart

/-! # Releasing a shard takes off what KRM put on it, and no more -/

open Krm.Lib
open StateTransition (Reaches)
open Krm.Nodes (isNodePoolReference ignoreShardLabelKey)
open Krm.Shards (Cluster ConfiguredNodePool StoredShard upsertOwnerRef nodePoolReference refersTo)

namespace Krm.HelmHooks

variable {σ : Type} {shard : StoredShard σ} {metadata : Labels} {key : String}

/-! ## Metadata -/

theorem mem_krmKeys : key ∈ krmKeys metadata ↔ (metadata.lookup key).isSome ∧ isKRMMetadata key := by
  rw [krmKeys, Finset.mem_filter, Finmap.mem_keys, Finmap.lookup_isSome]

theorem lookup_withoutKRM (metadata : Labels) (key : String) :
    (withoutKRM metadata).lookup key = if isKRMMetadata key then none else metadata.lookup key := by
  rw [withoutKRM, Entries.lookup_without]
  cases hkey : isKRMMetadata key with
  | false => simp [mem_krmKeys, hkey]
  | true =>
    cases hlookup : metadata.lookup key with
    | none => simp
    | some value => simp [mem_krmKeys, hkey, hlookup]

/-- Metadata in which KRM has no entry. -/
def Foreign (metadata : Labels) : Prop := ∀ key, isKRMMetadata key → metadata.lookup key = none

theorem withoutKRM_eq_self (h : Foreign metadata) : withoutKRM metadata = metadata := by
  apply Finmap.ext_lookup
  intro key
  rw [lookup_withoutKRM]
  split_ifs with hkey
  · exact (h key hkey).symm
  · rfl

theorem withoutKRM_insert_krm (hkey : isKRMMetadata key) (metadata : Labels) (value : String) :
    withoutKRM (metadata.insert key value) = withoutKRM metadata := by
  apply Finmap.ext_lookup
  intro key'
  by_cases h : key' = key
  · subst h
    rw [lookup_withoutKRM, if_pos hkey, lookup_withoutKRM, if_pos hkey]
  · rw [lookup_withoutKRM, lookup_withoutKRM, Finmap.lookup_insert_of_ne _ h]

theorem withoutKRM_erase (metadata : Labels) (key : String) :
    withoutKRM (metadata.erase key) = (withoutKRM metadata).erase key := by
  apply Finmap.ext_lookup
  intro key'
  by_cases h : key' = key
  · subst h
    simp [lookup_withoutKRM]
  · rw [lookup_withoutKRM, Finmap.lookup_erase_ne h, Finmap.lookup_erase_ne h, lookup_withoutKRM]

theorem isKRMMetadata_adoptionLabelKey : isKRMMetadata adoptionLabelKey := by decide

/-! ## Release after adoption -/

/-- A shard on which KRM has put nothing yet. -/
structure Untouched (shard : StoredShard σ) : Prop where
  owners : ∀ owner ∈ shard.ownerReferences, isNodePoolReference owner = false
  labels : Foreign shard.labels
  annotations : Foreign shard.annotations

/-- The shard with the default partition no longer excluded. -/
def included (shard : StoredShard σ) : StoredShard σ :=
  if shard.partitionLabelValue = "" then { shard with labels := shard.labels.erase ignoreShardLabelKey } else shard

theorem filter_upsertOwnerRef {owners : List OwnerReference} (h : ∀ owner ∈ owners, isNodePoolReference owner = false)
    (nodePool : ConfiguredNodePool σ) :
    (upsertOwnerRef nodePool owners).filter (fun owner => !isNodePoolReference owner) = owners := by
  induction owners with
  | nil => simp [upsertOwnerRef, upsert, Shards.isNodePoolReference_nodePoolReference]
  | cons owner owners ih =>
    rw [List.forall_mem_cons] at h
    have hother : refersTo nodePool owner = false := by simp [refersTo, h.1]
    have hrest := ih h.2
    simp only [upsertOwnerRef, upsert, hother] at hrest ⊢
    simp [h.1, hrest]

theorem released_adopted (h : Untouched shard) (nodePool : ConfiguredNodePool σ) :
    released (adopted nodePool shard) = included shard := by
  have hlabels : withoutKRM (shard.labels.insert adoptionLabelKey adoptionLabelValue) = shard.labels := by
    rw [withoutKRM_insert_krm isKRMMetadata_adoptionLabelKey, withoutKRM_eq_self h.labels]
  unfold included
  split_ifs with hdefault
  · simp only [released, releaseSchedulingShard, adopted, adoptedLabels, hdefault, if_true, withoutKRM_erase, hlabels,
      filter_upsertOwnerRef h.owners, withoutKRM_eq_self h.annotations]
  · simp only [released, releaseSchedulingShard, adopted, adoptedLabels, hdefault, if_false, hlabels,
      filter_upsertOwnerRef h.owners, withoutKRM_eq_self h.annotations]

theorem isAdopted_adopted (nodePool : ConfiguredNodePool σ) (shard : StoredShard σ) :
    isAdopted (adopted nodePool shard) := by
  have hne : adoptionLabelKey ≠ ignoreShardLabelKey := by decide
  have hlookup : (adoptedLabels shard).lookup adoptionLabelKey = some adoptionLabelValue := by
    unfold adoptedLabels
    split_ifs
    · rw [Finmap.lookup_erase_ne hne, Finmap.lookup_insert]
    · rw [Finmap.lookup_insert]
  exact decide_eq_true hlookup

/-- The cleanup hook makes of each migrated shard what it was before. -/
theorem release_undoes_migration [DecidableEq σ] {env : Installation σ} {c : Cluster σ}
    {migrations : List (ShardMigration σ)}
    (hplan : planMigrations env noFaults c c.shards.items (shardsToMigrate c.shards.items) = .ok migrations)
    {faults : List Faults} (hfaults : ∀ fault ∈ faults, Truthful fault)
    (hshard : shard ∈ shardsToMigrate c.shards.items) (huntouched : Untouched shard) :
    ∃ stored, (migrateShards env noFaults (runs env c faults)).cluster.shards.get shard.name = some stored ∧
      isAdopted stored ∧ released stored = included shard := by
  have hreaches : Reaches (next env) c (runs env c faults) := runs_reaches hfaults
  obtain ⟨nodePool, -, hstored⟩ := (planMigrations_ok truthful_noFaults hplan).finished.2 shard hshard
  rw [(migrateShards_of_reaches hreaches).1]
  exact ⟨_, hstored, isAdopted_adopted nodePool shard, released_adopted huntouched nodePool⟩

theorem release_after_timeout :
    let final := migrateShards (exampleInstallation "default") noFaults
      (runs (exampleInstallation "default") freeShards [timeoutAt (.patchShard "team-a")])
    ∃ stored, final.cluster.shards.get "team-a" = some stored ∧ isAdopted stored ∧
      released stored = freeShard "team-a" "team-a" := by
  -- The patch of one shard times out once.
  obtain ⟨stored, hstored, hadopted, hreleased⟩ := release_undoes_migration
    (show planMigrations (exampleInstallation "default") noFaults freeShards freeShards.shards.items
      (shardsToMigrate freeShards.shards.items) = .ok _ from rfl)
    (List.forall_mem_singleton.2 (truthful_timeoutAt (.patchShard "team-a")))
    (show freeShard "team-a" "team-a" ∈ _ by decide) ⟨nofun, fun _ _ => rfl, fun _ _ => rfl⟩
  exact ⟨stored, hstored, hadopted, hreleased.trans (by decide)⟩

end Krm.HelmHooks
