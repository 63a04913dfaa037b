import Krm.PodGroups.Handoff
import Krm.PodGroups.Search

/-! # Requested node pools that do not exist -/

open Krm.Lib

namespace Krm.PodGroups

/-- No node pool that is missing is tried before one that is available. -/
def NoneMissingFirst (c : Cluster) (order : List String) : Prop :=
  ∃ before name after, order = before ++ name :: after ∧ c.available name ∧
    ∀ other ∈ before, (c.nodePools.get other).isSome

/-- The choice succeeds exactly when no missing node pool is tried first. -/
theorem available_pool_chosen_iff {c : Cluster} (hcalls : ∀ call, c.fault call = none) {requested : List String}
    (havailable : ∃ name ∈ requested, c.available name) (mark : Option Bool) (last : Option SchedulingCondition)
    (assigned : String) :
    ∃ initial, getInitialNodePoolAssignmentParams mark last assigned requested = .ok initial ∧
      ((∃ params, getNodePoolAssignmentParams c mark last assigned requested = .ok params ∧
          c.available params.nodePoolName) ↔ NoneMissingFirst c (tried requested initial.nodePoolName)) := by
  have hne : requested ≠ [] := by
    obtain ⟨name, hname, -⟩ := havailable
    exact List.ne_nil_of_mem hname
  obtain ⟨initial, hinitial⟩ := getInitialNodePoolAssignmentParams_of_ne_nil hne mark last assigned
  refine ⟨initial, hinitial, ?_⟩
  rw [NoneMissingFirst, ← exists_reaches_iff]
  constructor
  · rintro ⟨params, hparams, -⟩
    exact ⟨params.nodePoolName, (getNodePoolAssignmentParams_ok_iff hcalls hinitial).1 ⟨params, hparams, rfl⟩⟩
  · rintro ⟨name, hreaches⟩
    obtain ⟨params, hparams, rfl⟩ := (getNodePoolAssignmentParams_ok_iff hcalls hinitial).2 hreaches
    exact ⟨params, hparams, hreaches.2⟩

open Sample in
theorem missing_last_pool_skipped :
    ∃ params, getNodePoolAssignmentParams (cluster .ready) (some false) none "kai-unexisting-node-pool" ["train", "gone"] =
      .ok params ∧ (cluster .ready).available params.nodePoolName := by
  -- A missing node pool at the end of the list does no harm.
  have havailable : ∃ name ∈ ["train", "gone"], (cluster .ready).available name :=
    ⟨"train", List.mem_cons_self, by decide⟩
  obtain ⟨initial, hinitial, hiff⟩ :=
    available_pool_chosen_iff (fun _ => rfl) havailable (some false) none "kai-unexisting-node-pool"
  have hfirst : initial.nodePoolName = "train" := by
    cases hinitial
    rfl
  refine hiff.2 ⟨[], "train", ["gone"], ?_, by decide, by simp⟩
  rw [hfirst]
  rfl

open Sample in
/-- One at the front stops the search, although the next one is available. -/
theorem missing_first_pool_fails :
    (∀ call, (cluster .ready).fault call = none) ∧ (cluster .ready).available "train" ∧
    (cluster .ready).nodePools.get "gone" = none ∧
    getNodePoolAssignmentParams (cluster .ready) (some false) none "kai-unexisting-node-pool" ["gone", "train"] =
      .error (.api (.notFound "gone")) :=
  ⟨fun _ => rfl, by decide, rfl, rfl⟩

end Krm.PodGroups
