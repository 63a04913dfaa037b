import Krm.HelmHooks.MigrateShards
import Mathlib.Data.List.Forall2

/-! # What a plan that is accepted says -/

open Krm.Lib
open Krm.Shards (Cluster ConfiguredNodePool StoredShard)

namespace Krm.HelmHooks

/-- The errors by which a lookup says that what it looks for is not there. -/
def tellsMissing : Place → ApiError → Bool
  | .getKaiConfig, e => e.isNotFound || Operator.isNoMatchError e
  | .getNodePool _, e => e.isNotFound
  | .getDefaultNodePool, e => e.isNotFound
  | _, _ => false

abbrev Truthful (fault : Faults) : Prop := Lib.Truthful tellsMissing fault

theorem truthful_noFaults : Truthful noFaults := truthful_none _

section

variable {σ : Type} {env : Installation σ} {fault : Faults} {c : Cluster σ} {all : List (StoredShard σ)}
  {shard : StoredShard σ} {migration : ShardMigration σ}

/-! ## One shard -/

/-- The migration is what is planned for the shard when no call fails. -/
structure Planned (env : Installation σ) (c : Cluster σ) (all : List (StoredShard σ)) (shard : StoredShard σ)
    (migration : ShardMigration σ) : Prop where
  shard_eq : migration.shard = shard
  name_eq : migration.nodePoolName = nodePoolNameFor env shard
  checked : checkShard env all shard = .ok migration.shardConfig
  existing : migration.existingNodePool = c.nodePools.get migration.nodePoolName
  selects : ∀ nodePool ∈ migration.existingNodePool, checkNodePoolSelectsPartition env nodePool shard = .ok ()

theorem getNodePool_ok {place : Place} (htruthful : ∀ e, fault place = some e → e.isNotFound = false) {name : String}
    {found : Option (ConfiguredNodePool σ)} (h : getNodePool fault c place name = .ok found) :
    found = c.nodePools.get name := by
  unfold getNodePool at h
  split at h
  · rename_i e hfault
    rw [htruthful e hfault, if_neg Bool.false_ne_true] at h
    cases h
  · exact (Except.ok.inj h).symm

theorem planMigration_ok (htruthful : Truthful fault) (h : planMigration env fault c all shard = .ok migration) :
    Planned env c all shard migration := by
  obtain ⟨shardConfig, hchecked, h⟩ := bind_ok h
  dsimp only at h
  split_ifs at h with hname
  obtain ⟨found, hfound, h⟩ := bind_ok h
  have hget := getNodePool_ok (htruthful (.getNodePool _)) hfound
  cases found with
  | none =>
    cases h
    exact ⟨rfl, rfl, hchecked, hget, nofun⟩
  | some nodePool =>
    obtain ⟨_, hselects, h⟩ := bind_ok h
    cases h
    refine ⟨rfl, rfl, hchecked, hget, fun other hother => ?_⟩
    cases hother
    exact hselects

theorem Planned.planMigration (h : Planned env c all shard migration) :
    planMigration env noFaults c all shard = .ok migration := by
  obtain ⟨planned, nodePoolName, shardConfig, existing, hname⟩ := migration
  obtain ⟨hshard, hpool, hchecked, hexisting, hselects⟩ := h
  dsimp only at hshard hpool hchecked hexisting hselects
  subst hshard hpool
  simp only [HelmHooks.planMigration, hchecked, bind, Except.bind, dif_neg hname, getNodePool, noFaults, ← hexisting]
  cases existing with
  | none => rfl
  | some nodePool =>
    simp only [hselects nodePool rfl]
    rfl

/-! ## All shards -/

/-- What is planned when no call fails, in the order of the shards. -/
structure Plan (env : Installation σ) (c : Cluster σ) (migrations : List (ShardMigration σ)) : Prop where
  each : List.Forall₂ (Planned env c c.shards.items) (shardsToMigrate c.shards.items) migrations
  labelKey : migrations ≠ [] → checkPartitionLabelKey env noFaults = .ok ()

theorem forall₂_of_no_errors {ε α β : Type} {f : α → Except ε β} {l : List α}
    (h : (l.map f).filterMap errorOf = []) :
    List.Forall₂ (fun a b => f a = .ok b) l ((l.map f).filterMap Except.toOption) := by
  induction l with
  | nil => exact .nil
  | cons a l ih =>
    rw [List.map_cons] at h ⊢
    cases ha : f a with
    | error e =>
      rw [ha] at h
      cases h
    | ok b =>
      rw [ha] at h
      exact .cons ha (ih h)

theorem map_of_forall₂ {ε α β : Type} {f : α → Except ε β} {l : List α} {bs : List β}
    (h : List.Forall₂ (fun a b => f a = .ok b) l bs) : l.map f = bs.map .ok := by
  induction h with
  | nil => rfl
  | cons hab _ ih => rw [List.map_cons, List.map_cons, hab, ih]

theorem filterMap_ok {ε β : Type} (bs : List β) :
    (bs.map (Except.ok : β → Except ε β)).filterMap errorOf = [] ∧
      (bs.map (Except.ok : β → Except ε β)).filterMap Except.toOption = bs := by
  induction bs with
  | nil => exact ⟨rfl, rfl⟩
  | cons b bs ih => exact ⟨ih.1, congrArg (b :: ·) ih.2⟩

theorem checkPartitionLabelKey_ok (htruthful : Truthful fault) {u : Unit} (h : checkPartitionLabelKey env fault = .ok u) :
    checkPartitionLabelKey env noFaults = .ok u := by
  unfold checkPartitionLabelKey at h ⊢
  cases hfault : fault .getKaiConfig with
  | none =>
    rw [hfault] at h
    exact h
  | some e =>
    rw [hfault] at h
    dsimp only at h
    rw [show (e.isNotFound || Operator.isNoMatchError e) = false from htruthful _ e hfault, if_neg Bool.false_ne_true] at h
    cases h

theorem planMigrations_ok (htruthful : Truthful fault) {migrations : List (ShardMigration σ)}
    (h : planMigrations env fault c c.shards.items (shardsToMigrate c.shards.items) = .ok migrations) :
    Plan env c migrations := by
  unfold planMigrations at h
  split_ifs at h with hempty
  · rw [← Except.ok.inj h]
    refine ⟨?_, fun hne => absurd rfl hne⟩
    rw [List.isEmpty_iff.1 hempty]
    exact .nil
  · dsimp only at h
    split_ifs at h with herrs
    rw [← Except.ok.inj h]
    obtain ⟨hkey, hnone⟩ := List.append_eq_nil_iff.1 (List.isEmpty_iff.1 herrs)
    refine ⟨(forall₂_of_no_errors hnone).imp fun _ _ => planMigration_ok htruthful, fun _ => ?_⟩
    cases hcheck : checkPartitionLabelKey env fault with
    | ok u => exact checkPartitionLabelKey_ok htruthful hcheck
    | error e =>
      rw [hcheck] at hkey
      cases hkey

theorem Plan.planMigrations {migrations : List (ShardMigration σ)} (h : Plan env c migrations) :
    planMigrations env noFaults c c.shards.items (shardsToMigrate c.shards.items) = .ok migrations := by
  unfold HelmHooks.planMigrations
  rw [map_of_forall₂ (h.each.imp fun _ _ => Planned.planMigration)]
  obtain ⟨hnone, hall⟩ := filterMap_ok (ε := CheckError) migrations
  split_ifs with hempty
  · have hnil := h.each
    rw [List.isEmpty_iff.1 hempty, List.forall₂_nil_left_iff] at hnil
    rw [hnil]
  · have hne : migrations ≠ [] := by
      rintro rfl
      exact hempty (List.isEmpty_iff.2 (List.forall₂_nil_right_iff.1 h.each))
    dsimp only
    rw [h.labelKey hne, hnone, hall]
    rfl

/-! ## What the checks rule out -/

theorem checkNodePoolName_ok {nodePoolName : String} (h : checkNodePoolName env shard nodePoolName = .ok ())
    (hpartition : shard.partitionLabelValue ≠ "") : nodePoolName ≠ env.opts.defaultNodePoolName := by
  unfold checkNodePoolName at h
  dsimp only at h
  rw [if_neg hpartition] at h
  split_ifs at h with hdefault
  exact hdefault

theorem checkShard_ok {shardConfig : Shards.SchedulingShardConfig σ} (h : checkShard env all shard = .ok shardConfig) :
    (∀ a ∈ all, ∀ b ∈ all, a.partitionLabelValue = shard.partitionLabelValue →
      b.partitionLabelValue = shard.partitionLabelValue → a.name = b.name) ∧
      (shard.partitionLabelValue ≠ "" → nodePoolNameFor env shard ≠ env.opts.defaultNodePoolName) := by
  obtain ⟨_, -, h⟩ := bind_ok h
  obtain ⟨_, halone, h⟩ := bind_ok h
  obtain ⟨_, hname, -⟩ := bind_ok h
  refine ⟨fun a ha b hb hpa hpb => ?_, checkNodePoolName_ok hname⟩
  have hlength := refuseIf_ok halone
  rw [decide_eq_false_iff_not, Nat.not_lt, List.length_map] at hlength
  have hmem {other : StoredShard σ} (hother : other ∈ all)
      (hpartition : other.partitionLabelValue = shard.partitionLabelValue) :
      other ∈ all.filter fun other => other.partitionLabelValue = shard.partitionLabelValue :=
    List.mem_filter.2 ⟨hother, decide_eq_true hpartition⟩
  have ha' := hmem ha hpa
  have hb' := hmem hb hpb
  generalize all.filter (fun other => decide (other.partitionLabelValue = shard.partitionLabelValue)) = found
    at hlength ha' hb'
  match found with
  | [] => cases ha'
  | [only] => rw [List.mem_singleton.1 ha', List.mem_singleton.1 hb']

theorem nodePoolNameFor_inj {other : StoredShard σ} {shardConfig otherConfig : Shards.SchedulingShardConfig σ}
    (h : checkShard env c.shards.items shard = .ok shardConfig) (h' : checkShard env c.shards.items other = .ok otherConfig)
    (hshard : shard ∈ c.shards.items) (hother : other ∈ c.shards.items)
    (hname : nodePoolNameFor env shard = nodePoolNameFor env other) : shard = other := by
  obtain ⟨halone, hdefault⟩ := checkShard_ok h
  obtain ⟨-, hdefault'⟩ := checkShard_ok h'
  have hpartition : other.partitionLabelValue = shard.partitionLabelValue := by
    unfold nodePoolNameFor at hname hdefault hdefault'
    split_ifs at hname hdefault hdefault' with hempty hempty'
    · rw [hempty, hempty']
    · exact absurd hname.symm (hdefault' hempty')
    · exact absurd hname (hdefault hempty)
    · exact hname.symm
  exact Store.eq_of_mem hshard hother (halone shard hshard other hother rfl hpartition)

end

end Krm.HelmHooks
