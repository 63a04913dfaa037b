import Krm.PodGroups.Steps

/-! # Calls that fail

What a run finds out when some calls fail, it also finds out when none does. -/

open Krm.Lib

namespace Krm.PodGroups

/-- The same cluster, with every call working. -/
def Cluster.healed (c : Cluster) : Cluster := { c with fault := fun _ => none }

section

variable (cfg : PodGroupAssignerConfig) (c : Cluster)

theorem attempt_healed {α : Type} (call : Call) (result : Except RunError α) :
    Within (c.attempt call result) (c.healed.attempt call result) := fun _ h => attempt_ok h

theorem isNodePoolAvailableForScheduling_healed (call : Call) (name : String) :
    Within (isNodePoolAvailableForScheduling c call name) (isNodePoolAvailableForScheduling c.healed call name) :=
  .bind (attempt_healed c call _) fun _ => .refl _

/-! ## Eligibility -/

theorem attempt_of_fault {α : Type} {call : Call} {message : String} (h : c.fault call = some message)
    (result : Except RunError α) : c.attempt call result = .error (.api (.failed message)) := by
  rw [Cluster.attempt, h]

theorem attempt_of_no_fault {α : Type} {call : Call} (h : c.fault call = none) (result : Except RunError α) :
    c.attempt call result = c.healed.attempt call result := by
  rw [Cluster.attempt, h]
  rfl

theorem isExternalNamespace_healed (name : String) :
    Within (isExternalNamespace cfg c name) (isExternalNamespace cfg c.healed name) := by
  intro external h
  unfold isExternalNamespace Cluster.getNamespace at h ⊢
  split at h
  · rename_i hallow
    rw [if_pos hallow]
    exact h
  · rename_i hallow
    rw [if_neg hallow]
    -- a call that fails does not fail with "not found"
    cases hnamespace : c.fault .externalNamespace with
    | some message =>
      rw [attempt_of_fault c hnamespace] at h
      cases h
    | none =>
      rw [attempt_of_no_fault c hnamespace] at h
      cases hget : c.healed.attempt .externalNamespace (Cluster.found name (c.namespaces.get name)) with
      | error e =>
        rw [hget] at h
        rw [show c.healed.attempt .externalNamespace (Cluster.found name (c.healed.namespaces.get name)) = .error e from hget]
        exact h
      | ok namespaceObj =>
        rw [hget] at h
        rw [show c.healed.attempt .externalNamespace (Cluster.found name (c.healed.namespaces.get name)) = .ok namespaceObj from
          hget]
        dsimp only at h ⊢
        split at h
        · rename_i hempty
          rw [if_pos hempty]
          exact h
        · rename_i hnamed
          rw [if_neg hnamed]
          unfold Cluster.getProject at h ⊢
          cases hproject : c.fault .externalProject with
          | some message =>
            rw [attempt_of_fault c hproject] at h
            cases h
          | none =>
            rw [attempt_of_no_fault c hproject] at h
            exact h

variable {sources : NodePoolsSources} (podGroup : PodGroup)

theorem isEligibleForNodePoolAssignment_healed :
    Within (isEligibleForNodePoolAssignment cfg c podGroup) (isEligibleForNodePoolAssignment cfg c.healed podGroup) := by
  unfold isEligibleForNodePoolAssignment
  split
  · exact .refl _
  · split
    · exact .refl _
    · dsimp only
      split
      · exact .bind (isNodePoolAvailableForScheduling_healed c _ _) fun _ => .refl _
      · exact .refl _

theorem upForAssignment_healed : Within (upForAssignment cfg c podGroup) (upForAssignment cfg c.healed podGroup) := by
  refine .bind (isExternalNamespace_healed cfg c _) fun external => ?_
  split
  · exact .refl _
  · refine .bind (isEligibleForNodePoolAssignment_healed cfg c _) fun ⟨eligible, last⟩ => ?_
    dsimp only
    split
    · exact .refl _
    · exact .bind (attempt_healed c .pods _) fun _ => .refl _

/-! ## The requested node pools -/

theorem convertNodeAffinityToNodePoolNames_healed (affinity : Affinity) :
    Within (convertNodeAffinityToNodePoolNames cfg c affinity) (convertNodeAffinityToNodePoolNames cfg c.healed affinity) := by
  unfold convertNodeAffinityToNodePoolNames
  split
  · exact .refl _
  · exact .refl _
  · exact .bind (attempt_healed c .affinityNodePools _) fun _ => .refl _

theorem requestedNodePoolsFromAffinity_healed (hstrict : sources.ignoreConversionErrors = false) :
    Within (requestedNodePoolsFromAffinity cfg c sources) (requestedNodePoolsFromAffinity cfg c.healed sources) := by
  intro names h
  unfold requestedNodePoolsFromAffinity at h ⊢
  cases haffinity : sources.affinity with
  | none =>
    rw [haffinity] at h
    exact h
  | some affinity =>
    simp only [haffinity, hstrict] at h ⊢
    cases hconvert : convertNodeAffinityToNodePoolNames cfg c affinity with
    | error e => simp [hconvert] at h
    | ok found =>
      rw [convertNodeAffinityToNodePoolNames_healed cfg c affinity found hconvert]
      rw [hconvert] at h
      exact h

theorem getRequestedNodePools_healed (labels : Labels) (hstrict : sources.ignoreConversionErrors = false) :
    Within (getRequestedNodePools cfg c labels sources) (getRequestedNodePools cfg c.healed labels sources) := by
  unfold getRequestedNodePools
  dsimp only
  split
  · exact .refl _
  · exact .bind (requestedNodePoolsFromAffinity_healed cfg c hstrict) fun _ => .refl _

theorem getRequestedNodePoolsOfPods_healed (pods : List Pod) :
    Within (getRequestedNodePoolsOfPods cfg c podGroup pods) (getRequestedNodePoolsOfPods cfg c.healed podGroup pods) := by
  cases pods with
  | nil => exact .refl _
  | cons pod pods => exact getRequestedNodePools_healed cfg c _ rfl

/-! ## The decision -/

theorem findNextNodePoolFrom_healed (requested : List String) (params : NodePoolAssignmentParams) (previous : Int)
    (indices : List Nat) : Within (findNextNodePoolFrom c requested params previous indices)
      (findNextNodePoolFrom c.healed requested params previous indices) := by
  induction indices with
  | nil => exact .refl _
  | cons index indices ih =>
    refine .bind (.refl _) fun next => .bind (.refl _) fun name => ?_
    refine .bind (isNodePoolAvailableForScheduling_healed c _ _) fun available => ?_
    split
    · exact .refl _
    · exact ih

theorem getNodePoolAssignmentParams_healed (mark : Option Bool) (last : Option SchedulingCondition) (assigned : String)
    (requested : List String) : Within (getNodePoolAssignmentParams c mark last assigned requested)
      (getNodePoolAssignmentParams c.healed mark last assigned requested) := by
  refine .bind (.bind (.refl _) fun initial => ?_) fun _ => .refl _
  refine .bind (isNodePoolAvailableForScheduling_healed c _ _) fun available => ?_
  split
  · exact .refl _
  · exact findNextNodePoolFrom_healed c _ _ _ _

/-! ## The queue -/

theorem getProjectNameOfNamespace_healed (name : String) :
    Within (getProjectNameOfNamespace cfg c name) (getProjectNameOfNamespace cfg c.healed name) := by
  intro projectName h
  unfold getProjectNameOfNamespace Cluster.getNamespace at h ⊢
  cases hget : c.attempt .projectNamespace (Cluster.found name (c.namespaces.get name)) with
  | error e =>
    rw [hget] at h
    cases h
  | ok namespaceObj =>
    rw [hget] at h
    rw [show c.healed.attempt .projectNamespace (Cluster.found name (c.healed.namespaces.get name)) = .ok namespaceObj from
      attempt_healed c _ _ _ hget]
    exact h

theorem getQueueNameOfNodePool_healed (projectName nodePoolName : String) :
    Within (getQueueNameOfNodePool cfg c projectName nodePoolName)
      (getQueueNameOfNodePool cfg c.healed projectName nodePoolName) :=
  .bind (.bind (.refl _) fun _ => .bind (attempt_healed c .queues _) fun _ => .refl _) fun _ => .refl _

theorem calculatePodGroupQueueNameOfNodePool_healed (nodePoolName : String) :
    Within (calculatePodGroupQueueNameOfNodePool cfg c podGroup nodePoolName)
      (calculatePodGroupQueueNameOfNodePool cfg c.healed podGroup nodePoolName) := by
  intro queue h
  unfold calculatePodGroupQueueNameOfNodePool at h ⊢
  cases hlabel : podGroup.labels.lookup cfg.projectLabelKey with
  | some projectName =>
    rw [hlabel] at h
    exact getQueueNameOfNodePool_healed cfg c projectName nodePoolName queue h
  | none =>
    rw [hlabel] at h
    cases hproject : getProjectNameOfNamespace cfg c podGroup.namespaceName with
    | error e =>
      rw [hproject] at h
      cases h
    | ok projectName =>
      rw [hproject] at h
      rw [getProjectNameOfNamespace_healed cfg c _ _ hproject]
      exact getQueueNameOfNodePool_healed cfg c projectName nodePoolName queue h

end

end Krm.PodGroups
