import Krm.PodGroups.Steps

/-! # The hand-off between the assigner and the scheduler

The scheduler works on a pod group until it appends a condition that names the node pool; then the assigner moves the
pod group on, or gives it back. -/

open Krm.Lib

namespace Krm.PodGroups

/-! ## Two node pools -/

namespace Sample

def config : PodGroupAssignerConfig := .default true

def queue (name nodePool : String) : Queue where
  name := name
  labels := ((∅ : Labels).insert "project" "p").insert "kai.scheduler/node-pool" nodePool
  ownerReferences := [⟨groupVersion, projectKind, "p", "u-p", none, none⟩]
  spec := ⟨name, "", none, none⟩
  resourceVersion := 1

def pod : Pod where
  namespaceName := "ns"
  name := "pod"
  annotations := ((∅ : Labels).insert "pod-group-name" "pg").insert "kai.scheduler/node-pools" "train infer"
  affinity := none
  nodeName := ""
  phase := .pending

def cluster (phase : Nodes.NodePoolPhase) : Cluster where
  namespaces := ⟨[⟨"ns", (∅ : Labels).insert "kai/project" "p"⟩], by decide⟩
  projects := ["p"]
  nodePools := ⟨[⟨"train", "pool", "train", .ready, "", by decide⟩, ⟨"infer", "pool", "infer", phase, "", by decide⟩], by simp⟩
  topologies := .empty
  queues := [queue "q-train" "train", queue "q-infer" "infer"]
  pods := [pod]
  fault := fun _ => none

def podGroup : PodGroup where
  namespaceName := "ns"
  name := "pg"
  uid := "u"
  labels := (∅ : Labels).insert "kai.scheduler/node-pool" "train"
  annotations := ∅
  queue := "q-train"
  markUnschedulable := some false
  schedulingBackoff := some 1
  topologyConstraint := .empty
  schedulingConditions := [⟨.unschedulableOnNodePool, "train"⟩]

end Sample

section

variable (cfg : PodGroupAssignerConfig) (c : Cluster)

/-- The scheduler is done, or cannot or should not work there. -/
def Due (lists : NodePoolLists) (podGroup : PodGroup) : Prop :=
  (∃ last, getLastSchedulingCondition podGroup = some last ∧ last.nodePool = getAssignedNodePool cfg podGroup) ∨
  (∃ nodePool, c.nodePools.get (getAssignedNodePool cfg podGroup) = some nodePool ∧
    isAvailablePhase nodePool.phase = false) ∨
  ∃ requested, (getRequestedNodePoolsForPodGroup cfg c lists podGroup (podsOfGroup c podGroup)).1 = .ok requested ∧
    getAssignedNodePool cfg podGroup ∉ requested

theorem reassignment_is_never_premature (lists : NodePoolLists) (podGroup : PodGroup) :
    ((run cfg c lists podGroup).1.1 = .ok () →
      getAssignedNodePool cfg (run cfg c lists podGroup).1.2 ≠ getAssignedNodePool cfg podGroup →
      Due cfg c lists podGroup) ∧
    (getAssignedNodePool cfg (run cfg c lists podGroup).1.2 ≠ getAssignedNodePool cfg podGroup →
      (∃ pod ∈ podsOfGroup c podGroup, isPodBoundToNode pod = false) ∧
      podGroup.schedulingBackoff ≠ none ∧ podGroup.schedulingBackoff ≠ some (-1)) := by
  have hrun : getAssignedNodePool cfg (run cfg c lists podGroup).1.2 ≠ getAssignedNodePool cfg podGroup →
      (run cfg c lists podGroup).1.1 = .ok () := by
    intro hmoved
    cases hresult : (run cfg c lists podGroup).1.1 with
    | error e => exact absurd (run_error hresult) hmoved
    | ok u => rfl
  constructor
  · intro hok hmoved
    rcases run_ok hok with ⟨-, hsame⟩ | ⟨pods, last, requested, params, queue, hup, hrequested, hpicked, hupdate⟩
    · exact absurd (congrArg _ hsame) hmoved
    · obtain ⟨heligible, rfl, -⟩ := upForAssignment_some hup
      obtain ⟨-, rfl, hlast⟩ := isEligibleForNodePoolAssignment_true heligible
      rw [(updatePodGroupWithAssignment_ok hupdate hpicked.name_ne).1] at hmoved
      cases hcondition : getLastSchedulingCondition podGroup with
      | some condition =>
        rcases hlast condition hcondition with hnamed | hunavailable
        · exact .inl ⟨condition, hcondition, hnamed⟩
        · exact .inr (.inl hunavailable)
      | none =>
        -- nothing has failed: only a pool no longer requested or available is left
        right
        by_cases hmem : getAssignedNodePool cfg podGroup ∈ requested
        · exact .inl ((hpicked.stays hcondition hmem).resolve_left hmoved)
        · exact .inr ⟨requested, hrequested, hmem⟩
  · intro hmoved
    rcases run_ok (hrun hmoved) with ⟨-, hsame⟩ | ⟨pods, last, -, -, -, hup, -⟩
    · exact absurd (congrArg _ hsame) hmoved
    · obtain ⟨heligible, -, hunbound⟩ := upForAssignment_some hup
      have hbackoff := (isEligibleForNodePoolAssignment_true heligible).1
      refine ⟨hunbound, ?_, ?_⟩
      · intro hunset
        exact hbackoff (by rw [hunset]; rfl)
      · intro hnever
        exact hbackoff (by rw [hnever]; rfl)

open Sample in
theorem moved_after_condition :
    getAssignedNodePool config (run config (cluster .ready) (fun _ => none) podGroup).1.2 = "infer" ∧
    Due config (cluster .ready) (fun _ => none) podGroup ∧ podGroup.schedulingBackoff ≠ none := by
  have hmoved : getAssignedNodePool config (run config (cluster .ready) (fun _ => none) podGroup).1.2 ≠
      getAssignedNodePool config podGroup := by decide
  have hboth := reassignment_is_never_premature config (cluster .ready) (fun _ => none) podGroup
  exact ⟨by decide, hboth.1 rfl hmoved, (hboth.2 hmoved).2.1⟩

/-! ## Nobody is left without a party that is responsible -/

theorem up_after_assignment {podGroup after : PodGroup} {requested : List String} {params : NodePoolAssignmentParams}
    {queue : String} (hconditions : ∀ condition ∈ podGroup.schedulingConditions, condition.type = .unschedulableOnNodePool)
    (hpicked : Picked c (getLastSchedulingCondition podGroup) (getAssignedNodePool cfg podGroup) requested params)
    (hupdate : updatePodGroupWithAssignment cfg c podGroup params queue = (.ok (), after)) :
    isPodGroupUpForScheduler cfg after = true := by
  obtain ⟨hassigned, hbackoff, hafter⟩ := updatePodGroupWithAssignment_ok hupdate hpicked.name_ne
  unfold isPodGroupUpForScheduler
  split
  · rfl
  · rename_i hbacksOff
    have hmany : 1 < requested.length := by
      have hpos := List.length_pos_of_mem hpicked.mem
      rw [hbackoff, hpicked.backoff, getSchedulingBackoff] at hbacksOff
      by_contra hfew
      exact hbacksOff (if_pos (by omega))
    split
    · rfl
    · rename_i last hlast
      unfold getLastSchedulingCondition at hlast
      rw [hafter] at hlast
      split at hlast
      · have hcleared : podGroup.schedulingConditions.filter
            (fun condition => condition.type ≠ .unschedulableOnNodePool) = [] := cleared_conditions hconditions
        rw [hcleared] at hlast
        cases hlast
      · rename_i hkeeps
        rw [hassigned]
        refine decide_eq_true fun hsame => hkeeps ?_
        exact hpicked.resets.2 ⟨hmany, last, hlast, hsame.symm⟩

theorem successful_run_hands_over (lists : NodePoolLists) (podGroup : PodGroup)
    (hproject : InProject cfg c podGroup.namespaceName)
    (hunbound : ∃ pod ∈ podsOfGroup c podGroup, isPodBoundToNode pod = false)
    (hconditions : ∀ condition ∈ podGroup.schedulingConditions, condition.type = .unschedulableOnNodePool)
    (hok : (run cfg c lists podGroup).1.1 = .ok ()) :
    isPodGroupUpForScheduler cfg (run cfg c lists podGroup).1.2 = true := by
  rcases run_ok hok with ⟨hnone, hsame⟩ | ⟨pods, last, requested, params, queue, hup, -, hpicked, hupdate⟩
  · rw [hsame]
    rcases upForAssignment_none hnone with hexternal | hup | hbound
    · exact nomatch isExternalNamespace_of_inProject hproject hexternal
    · exact hup
    · obtain ⟨pod, hpod, hfree⟩ := hunbound
      rw [hbound pod hpod] at hfree
      cases hfree
  · obtain ⟨heligible, -, -⟩ := upForAssignment_some hup
    obtain ⟨-, rfl, -⟩ := isEligibleForNodePoolAssignment_true heligible
    exact up_after_assignment cfg c hconditions hpicked hupdate

open Sample in
theorem only_available_pool_hands_over :
    getAssignedNodePool config (run config (cluster .unschedulable) (fun _ => none) podGroup).1.2 = "train" ∧
    isPodGroupUpForScheduler config (run config (cluster .unschedulable) (fun _ => none) podGroup).1.2 = true := by
  -- With the other node pool gone to `Unschedulable`, the pod group stays and its conditions are cleared.
  refine ⟨by decide, successful_run_hands_over config (cluster .unschedulable) (fun _ => none) podGroup ?_ ?_ ?_ rfl⟩
  · exact fun _ => ⟨_, rfl, by decide, by decide⟩
  · exact ⟨pod, by decide, by decide⟩
  · decide

end

end Krm.PodGroups
