import Krm.Shards.Partitions

/-! # A NodePool writes only its own shard

The controller may run without its webhooks, so that the API server here refuses any writes it likes. -/

open Krm.Lib Krm.Nodes

namespace Krm.Shards

/-- Whether an object is there is answered from the store. -/
abbrev Truthful (fault : Faults) : Prop := Lib.Truthful (fun _ e => e.isNotFound || e.isAlreadyExists) fault

theorem Truthful.error {fault : Faults} (h : Truthful fault) {place : Place} {e : ApiError} (he : fault place = some e) :
    e.isNotFound = false ∧ e.isAlreadyExists = false := by
  simpa using h place e he

section

variable {σ : Type} {cfg : NodePoolControllerConfig} {admission : Admission σ} {fault : Faults} {c c' : Cluster σ}
  {params : NodePoolControllerParams} {nodePool : ConfiguredNodePool σ} {shard : StoredShard σ}

/-! ## Which shard is filled -/

/-- The node pool's own shard, alone in the partition, or a new one. -/
inductive Fillable [Inhabited σ] (cfg : NodePoolControllerConfig) (shards : ShardStore σ) (nodePool : ConfiguredNodePool σ) :
    StoredShard σ → Prop
  | own {shard : StoredShard σ} (stored : shards.get shard.name = some shard)
      (owned : isControlledBy shard.toSchedulingShard nodePool)
      (alone : ∀ other ∈ shards.items, other.partitionLabelValue = partitionLabelValueForNodePool cfg nodePool.name →
        other = shard) : Fillable cfg shards nodePool shard
  | unsaved (free : shards.get nodePool.name = none)
      (unserved : ∀ other ∈ shards.items, other.partitionLabelValue ≠ partitionLabelValueForNodePool cfg nodePool.name) :
      Fillable cfg shards nodePool (newShard nodePool.name)

variable {resolved : Option (StoredShard σ)} {shards : ShardStore σ}

theorem resolveShardForNodePool_found (h : resolveShardForNodePool cfg fault shards nodePool = .ok resolved) :
    ∀ other, resolved = some other ↔
      other ∈ shards.items ∧ other.partitionLabelValue = partitionLabelValueForNodePool cfg nodePool.name := by
  unfold resolveShardForNodePool at h
  dsimp only at h
  intro other
  split at h
  · cases h
  · rename_i hlist
    rw [← list_ok hlist, ← Except.ok.inj h]
    simp
  · rename_i only hlist
    split_ifs at h
    rw [← list_ok hlist, ← Except.ok.inj h]
    simp [eq_comm]
  · cases h

theorem resolveOwnedShardForNodePool_ok (h : resolveOwnedShardForNodePool cfg fault shards nodePool = .ok resolved) :
    resolveShardForNodePool cfg fault shards nodePool = .ok resolved ∧
      ∀ shard, resolved = some shard → isControlledBy shard.toSchedulingShard nodePool := by
  unfold resolveOwnedShardForNodePool at h
  split at h
  · cases h
  · rename_i hresolved
    exact ⟨hresolved.trans h, fun shard hsome => by cases (Except.ok.inj h).trans hsome⟩
  · rename_i found hresolved
    dsimp only at h
    split_ifs at h with howned
    refine ⟨hresolved.trans h, fun shard hsome => ?_⟩
    cases (Except.ok.inj h).trans hsome
    exact howned

theorem getOrInitShardNamedAfterNodePool_ok [Inhabited σ] (htruthful : Truthful fault)
    (h : getOrInitShardNamedAfterNodePool cfg fault shards nodePool = .ok shard) :
    (shards.get nodePool.name = none ∧ shard = newShard nodePool.name) ∨
      (shards.get nodePool.name = some shard ∧ isControlledBy shard.toSchedulingShard nodePool) := by
  unfold getOrInitShardNamedAfterNodePool at h
  dsimp only at h
  split at h
  · rename_i e hfault
    rw [(htruthful.error hfault).1, if_neg Bool.false_ne_true] at h
    cases h
  · split at h
    · rename_i hget
      exact .inl ⟨hget, (Except.ok.inj h).symm⟩
    · rename_i stored hget
      split_ifs at h with howned
      rw [← Except.ok.inj h]
      exact .inr ⟨hget, howned⟩

theorem schedulingShardForNodePool_ok [Inhabited σ] (htruthful : Truthful fault)
    (h : schedulingShardForNodePool cfg params fault shards nodePool = .ok shard) :
    ∃ base, Fillable cfg shards nodePool base ∧ shard = fillShard cfg params nodePool base := by
  obtain ⟨resolved, hresolved, h⟩ := bind_ok h
  obtain ⟨hfound, howned⟩ := resolveOwnedShardForNodePool_ok hresolved
  have hserving := resolveShardForNodePool_found hfound
  cases resolved with
  | some own =>
    refine ⟨own, ?_, (Except.ok.inj h).symm⟩
    refine .own (Store.get_of_mem ((hserving own).1 rfl).1) (howned own rfl) fun other hother hpartition => ?_
    exact (Option.some.inj ((hserving other).2 ⟨hother, hpartition⟩)).symm
  | none =>
    have hunserved (other : StoredShard σ) (hother : other ∈ shards.items) :
        other.partitionLabelValue ≠ partitionLabelValueForNodePool cfg nodePool.name := by
      intro hpartition
      cases (hserving other).2 ⟨hother, hpartition⟩
    obtain ⟨base, hbase, h⟩ := bind_ok h
    refine ⟨base, ?_, (Except.ok.inj h).symm⟩
    obtain ⟨hget, rfl⟩ | ⟨hget, hown⟩ := getOrInitShardNamedAfterNodePool_ok htruthful hbase
    · exact .unsaved hget hunserved
    · refine .own (Store.get_of_mem (Store.get_mem hget)) hown fun other hother hpartition => ?_
      exact absurd hpartition (hunserved other hother)

/-! ## What is written -/

theorem setControllerReference_eq {owned : StoredShard σ} (h : setControllerReference nodePool shard = .ok owned) :
    owned.name = shard.name ∧ owned.partitionLabelValue = shard.partitionLabelValue := by
  unfold setControllerReference at h
  split at h
  · cases h
  · rw [← Except.ok.inj h]
    exact ⟨rfl, rfl⟩

theorem callWrite_error (htruthful : Truthful fault) (name : String) :
    callWrite fault ≠ .error (.api (.alreadyExists name)) := by
  intro h
  unfold callWrite at h
  split at h
  · rename_i e hfault
    cases h
    exact absurd (htruthful.error hfault).2 (by simp [ApiError.isAlreadyExists])
  · cases h

theorem Admission.admit_error (old : Option (StoredShard σ)) (name : String) :
    admission.review old shard ≠ .error (.api (.alreadyExists name)) := by
  intro h
  obtain ⟨message, he⟩ := admission.refuses _ _ _ h
  cases he

theorem createAdmitted_error (htruthful : Truthful fault) (hfree : c.shards.get shard.name = none) (name : String) :
    createAdmitted admission fault c shard ≠ .error (.api (.alreadyExists name)) := by
  intro h
  obtain hwrite | ⟨_, -, h⟩ := bind_error h
  · exact callWrite_error htruthful name hwrite
  · obtain hadmit | ⟨_, -, h⟩ := bind_error h
    · exact Admission.admit_error none name hadmit
    · rw [hfree] at h
      cases h

theorem updateAdmitted_error (htruthful : Truthful fault) (name : String) :
    updateAdmitted admission fault c shard ≠ .error (.api (.alreadyExists name)) := by
  intro h
  obtain hwrite | ⟨_, -, h⟩ := bind_error h
  · exact callWrite_error htruthful name hwrite
  · obtain hfound | ⟨old, -, h⟩ := bind_error h
    · unfold found Lib.found at hfound
      split at hfound <;> cases hfound
    · obtain hadmit | ⟨_, -, h⟩ := bind_error h
      · exact Admission.admit_error (some old) name hadmit
      · cases h

variable [DecidableEq σ]

/-- What a successful write leaves under the name. -/
inductive Saved (c : Cluster σ) (shard : StoredShard σ) : Cluster σ → Prop
  | created (free : c.shards.get shard.name = none) : Saved c shard { c with shards := c.shards.insert shard }
  | updated {existing : StoredShard σ} (stored : c.shards.get shard.name = some existing) :
      Saved c shard { c with shards := c.shards.replace shard }
  | same {existing : StoredShard σ} (stored : c.shards.get shard.name = some existing)
      (equal : specsDiffer existing shard = false) : Saved c shard c

theorem createAdmitted_saved (hfree : c.shards.get shard.name = none)
    (h : createAdmitted admission fault c shard = .ok c') : Saved c shard c' := by
  obtain ⟨_, -, h⟩ := bind_ok h
  obtain ⟨_, -, h⟩ := bind_ok h
  rw [hfree] at h
  rw [← Except.ok.inj h]
  exact .created hfree

theorem updateAdmitted_saved (h : updateAdmitted admission fault c shard = .ok c') : Saved c shard c' := by
  obtain ⟨_, -, h⟩ := bind_ok h
  obtain ⟨old, hold, h⟩ := bind_ok h
  obtain ⟨_, -, h⟩ := bind_ok h
  rw [← Except.ok.inj h]
  exact .updated (found_ok hold)

theorem createOrUpdateIfNeeded_spec (htruthful : Truthful fault) :
    (∀ c', createOrUpdateIfNeeded admission fault c shard = .ok c' → Saved c shard c') ∧
      ∀ name, createOrUpdateIfNeeded admission fault c shard ≠ .error (.api (.alreadyExists name)) := by
  unfold createOrUpdateIfNeeded
  split
  · rename_i e hfault
    obtain ⟨hfound, hexists⟩ := htruthful.error hfault
    rw [hfound, if_neg Bool.false_ne_true]
    refine ⟨nofun, fun name h => ?_⟩
    cases h
    simp [ApiError.isAlreadyExists] at hexists
  · rename_i hfree
    exact ⟨fun c' => createAdmitted_saved hfree, createAdmitted_error htruthful hfree⟩
  · rename_i existing _ hstored
    split_ifs with hdiffer
    · exact ⟨fun c' => updateAdmitted_saved, updateAdmitted_error htruthful⟩
    · refine ⟨fun c' h => ?_, fun name h => by cases h⟩
      rw [← Except.ok.inj h]
      exact .same hstored (Bool.eq_false_iff.2 hdiffer)

theorem Saved.agree (h : Saved c shard c') : Store.AgreeOff [shard.name] c.shards c'.shards := by
  cases h with
  | created => exact Store.agreeOff_insert _ _ rfl
  | updated => exact Store.agreeOff_replace _ _ rfl
  | same => exact .refl _ _

theorem Saved.stored (h : Saved c shard c') : ∃ stored, c'.shards.get shard.name = some stored ∧
    (stored = shard ∨ c.shards.get shard.name = some stored ∧ specsDiffer stored shard = false) := by
  cases h with
  | created free => exact ⟨shard, Store.get_insert_self _ _ rfl free, .inl rfl⟩
  | updated stored => exact ⟨shard, Store.get_replace_self _ _ rfl (by simp [stored]), .inl rfl⟩
  | same stored equal => exact ⟨_, stored, .inr ⟨stored, equal⟩⟩

variable [Inhabited σ]

theorem reconcileAdmitted_ok (htruthful : Truthful fault)
    (h : reconcileAdmitted cfg admission fault c params nodePool = .ok c') :
    ∃ base owned, Fillable cfg c.shards nodePool base ∧
      setControllerReference nodePool (fillShard cfg params nodePool base) = .ok owned ∧ Saved c owned c' := by
  obtain ⟨shard, hshard, hresult⟩ := bind_ok h
  obtain ⟨base, hbase, hfilled⟩ := schedulingShardForNodePool_ok htruthful hshard
  obtain ⟨owned, howned, hwritten⟩ := bind_ok hresult
  refine ⟨base, owned, hbase, hfilled ▸ howned, ?_⟩
  split at hwritten
  · rename_i hexists
    exact absurd hexists ((createOrUpdateIfNeeded_spec htruthful).2 _)
  · exact (createOrUpdateIfNeeded_spec htruthful).1 c' hwritten

/-! ## The frame and the one shard -/

theorem reconcileAdmitted_frame (htruthful : Truthful fault)
    (h : reconcileAdmitted cfg admission fault c params nodePool = .ok c') {name : String}
    (hchanged : c'.shards.get name ≠ c.shards.get name) :
    (∃ shard, c.shards.get name = some shard ∧ isControlledBy shard.toSchedulingShard nodePool) ∨
      c.shards.get name = none ∧ name = nodePool.name := by
  obtain ⟨base, owned, hbase, howned, hsaved⟩ := reconcileAdmitted_ok htruthful h
  have hname : name = base.name := by
    by_contra hother
    refine hchanged (hsaved.agree.get_eq ?_).symm
    rw [List.mem_singleton, (setControllerReference_eq howned).1]
    exact hother
  subst hname
  cases hbase with
  | own stored owned alone => exact .inl ⟨base, stored, owned⟩
  | unsaved free unserved => exact .inr ⟨free, rfl⟩

theorem reconcileAdmitted_serves (htruthful : Truthful fault)
    (h : reconcileAdmitted cfg admission fault c params nodePool = .ok c') :
    ∃ shard ∈ c'.shards.items, isControlledBy shard.toSchedulingShard nodePool ∧
      ∀ other ∈ c'.shards.items,
        other.partitionLabelValue = partitionLabelValueForNodePool cfg nodePool.name ↔ other = shard := by
  obtain ⟨base, owned, hbase, howned, hsaved⟩ := reconcileAdmitted_ok htruthful h
  obtain ⟨hname, hpartition⟩ : owned.name = base.name ∧
      owned.partitionLabelValue = partitionLabelValueForNodePool cfg nodePool.name := setControllerReference_eq howned
  obtain ⟨stored, hget, hstored⟩ := hsaved.stored
  -- Another shard of the partition was there before, and is not the one that was filled.
  have halone (other : StoredShard σ) (hother : other ∈ c'.shards.items)
      (hserves : other.partitionLabelValue = partitionLabelValueForNodePool cfg nodePool.name) :
      other.name = owned.name := by
    by_contra hne
    have hbefore := (hsaved.agree.mem_iff (by simpa using hne)).2 hother
    cases hbase with
    | own _ _ alone => exact hne ((alone other hbefore hserves).symm ▸ hname.symm)
    | unsaved _ unserved => exact unserved other hbefore hserves
  have hown : isControlledBy stored.toSchedulingShard nodePool ∧
      stored.partitionLabelValue = partitionLabelValueForNodePool cfg nodePool.name := by
    obtain rfl | ⟨hbefore, hspecs⟩ := hstored
    · refine ⟨?_, hpartition⟩
      simp [isControlledBy, setControllerReference_controllerOf howned, nodePoolReference]
    · have hsame : stored.partitionLabelValue = owned.partitionLabelValue := by
        simp only [specsDiffer, Bool.or_eq_false_iff, decide_eq_false_iff_not, not_not] at hspecs
        exact hspecs.1.2
      refine ⟨?_, hsame.trans hpartition⟩
      rw [hname] at hbefore
      cases hbase with
      | own own owned _ =>
        cases own.symm.trans hbefore
        exact owned
      | unsaved free _ => cases free.symm.trans hbefore
  refine ⟨stored, Store.get_mem hget, hown.1, fun other hother => ⟨fun hserves => ?_, ?_⟩⟩
  · exact Store.eq_of_mem hother (Store.get_mem hget) ((halone other hother hserves).trans (Store.get_key hget).symm)
  · rintro rfl
    exact hown.2

/-- Only the NodePool's own shard is changed, or a new one made. -/
theorem own_shard_only (cfg : NodePoolControllerConfig) (admission : Admission σ) (htruthful : Truthful fault)
    (c : Cluster σ) (params : NodePoolControllerParams) (nodePool : ConfiguredNodePool σ) :
    (∀ name, ((reconcileAdmitted cfg admission fault c params nodePool).toOption.getD c).shards.get name ≠
        c.shards.get name →
      (∃ shard, c.shards.get name = some shard ∧ isControlledBy shard.toSchedulingShard nodePool) ∨
        c.shards.get name = none ∧ name = nodePool.name) ∧
    ∀ c', reconcileAdmitted cfg admission fault c params nodePool = .ok c' →
      ∃ shard ∈ c'.shards.items, isControlledBy shard.toSchedulingShard nodePool ∧
        ∀ other ∈ c'.shards.items,
          other.partitionLabelValue = partitionLabelValueForNodePool cfg nodePool.name ↔ other = shard := by
  refine ⟨fun name hchanged => ?_, fun c' h => reconcileAdmitted_serves htruthful h⟩
  cases h : reconcileAdmitted cfg admission fault c params nodePool with
  | error e =>
    rw [h] at hchanged
    exact absurd rfl hchanged
  | ok c' =>
    rw [h] at hchanged
    exact reconcileAdmitted_frame htruthful h hchanged

end

/-- A shard that another NodePool controls, beside an unmanaged one. -/
def neighbours : Cluster Unit where
  nodePools := .empty
  shards := (Store.single { foreignShard with partitionLabelValue := "cpu" }).insert
    { foreignShard with
      name := "infer"
      labels := ∅
      ownerReferences := [⟨groupVersion, nodePoolKind, "infer", "v", some true, some true⟩]
      partitionLabelValue := "infer" }

theorem first_shard_serves :
    ∃ c', reconcileAdmitted .default .none noFaults neighbours workerParams (gpuPool "u" none) = .ok c' ∧
      (c'.shards.items.map fun shard => shard.name) = ["foreign", "infer", "gpu"] ∧
      ∃ shard ∈ c'.shards.items, isControlledBy shard.toSchedulingShard (gpuPool "u" none) ∧
        ∀ other ∈ c'.shards.items,
          other.partitionLabelValue = partitionLabelValueForNodePool .default "gpu" ↔ other = shard := by
  obtain ⟨c', hc', hnames⟩ : ∃ c',
      reconcileAdmitted .default .none noFaults neighbours workerParams (gpuPool "u" none) = .ok c' ∧
        (c'.shards.items.map fun shard => shard.name) = ["foreign", "infer", "gpu"] := ⟨_, rfl, rfl⟩
  exact ⟨c', hc', hnames,
    (own_shard_only .default .none (truthful_none _) neighbours workerParams (gpuPool "u" none)).2 c' hc'⟩

end Krm.Shards
