import Krm.Lib.RoundRobin
import Krm.PodGroups.Handoff
import Krm.PodGroups.Search

/-! # Round robin over the requested node pools

The assigner goes on from the node pool that the last condition names, around the list and past the node pools that are
not available. -/

open Krm.Lib

namespace Krm.PodGroups

/-- No call fails, a pod is unbound, and the available pools have a queue and any preferred topology. -/
structure Served (cfg : PodGroupAssignerConfig) (requestedNodePools : List String) (available : String → Bool)
    (c : Cluster) (lists : NodePoolLists) (podGroup : PodGroup) : Prop where
  calls : ∀ call, c.fault call = none
  inProject : InProject cfg c podGroup.namespaceName
  unbound : ∃ pod ∈ podsOfGroup c podGroup, isPodBoundToNode pod = false
  requested : (getRequestedNodePoolsForPodGroup cfg c lists podGroup (podsOfGroup c podGroup)).1 = .ok requestedNodePools
  nodePools : ∀ name ∈ requestedNodePools,
    ∃ nodePool, c.nodePools.get name = some nodePool ∧ isAvailablePhase nodePool.phase = available name
  queue : ∀ name ∈ requestedNodePools, available name →
    ∃ queue, calculatePodGroupQueueNameOfNodePool cfg c podGroup name = .ok queue
  topology : ∀ name ∈ requestedNodePools, available name → ∃ topology, desiredNetworkTopology c podGroup name = .ok topology

section

variable {cfg : PodGroupAssignerConfig} {requested : List String} {available : String → Bool} {c : Cluster}
  {lists : NodePoolLists} {podGroup : PodGroup}

section

variable (h : Served cfg requested available c lists podGroup)

include h

variable {name : String} {last : SchedulingCondition}

theorem Served.available_eq (hname : name ∈ requested) :
    c.available name = available name ∧ c.stops name = available name := by
  obtain ⟨nodePool, hget, hphase⟩ := h.nodePools name hname
  simp [Cluster.available, Cluster.stops, hget, hphase]

theorem Served.next (hnodup : requested.Nodup) (mark : Option Bool) (assigned : String)
    (hlast : last.nodePool ∈ requested) (hturn : turnAfter available requested last.nodePool = some name) :
    ∃ params, getNodePoolAssignmentParams c mark (some last) assigned requested = .ok params ∧
      params.nodePoolName = name := by
  have hne : requested ≠ [] := List.ne_nil_of_mem hlast
  obtain ⟨initial, hinitial⟩ := getInitialNodePoolAssignmentParams_of_ne_nil hne mark (some last) assigned
  rw [getNodePoolAssignmentParams_ok_iff h.calls hinitial, tried_after hnodup hlast hinitial]
  have hmem : name ∈ requested := List.mem_rotate.1 (List.mem_of_find?_eq_some hturn)
  have hadmitted : available name := List.find?_some hturn
  refine ⟨?_, (h.available_eq hmem).1.trans hadmitted⟩
  rw [← hturn, turnAfter, ← List.head?_filter, ← List.head?_filter]
  congr 1
  exact List.filter_congr fun other hother => (h.available_eq (List.mem_rotate.1 hother)).2

/-! ## One run -/

theorem Served.isExternalNamespace_eq : isExternalNamespace cfg c podGroup.namespaceName = .ok false := by
  unfold isExternalNamespace
  cases hallow : cfg.allowExternalQueues with
  | false => rfl
  | true =>
    obtain ⟨namespaceObj, hget, hlabel, hproject⟩ := h.inProject hallow
    simp [Cluster.getNamespace, Cluster.getProject, Cluster.attempt, Cluster.found, Lib.found, h.calls, hget, hlabel, hproject]

theorem Served.upForAssignment_eq
    (hbackoff : getSchedulingBackoffValue podGroup.schedulingBackoff ≠ noSchedulingBackoff)
    (hlast : getLastSchedulingCondition podGroup = some last)
    (hnamed : last.nodePool = getAssignedNodePool cfg podGroup) :
    upForAssignment cfg c podGroup = .ok (some (podsOfGroup c podGroup, some last)) := by
  have heligible : isEligibleForNodePoolAssignment cfg c podGroup = .ok (true, some last) := by
    simp [isEligibleForNodePoolAssignment, hbackoff, hlast, hnamed]
  exact upForAssignment_of_eligible h.isExternalNamespace_eq heligible (h.calls _) h.unbound

theorem Served.with_conditions (conditions : List SchedulingCondition) :
    Served cfg requested available c lists { podGroup with schedulingConditions := conditions } :=
  ⟨h.calls, h.inProject, h.unbound, h.requested, h.nodePools, h.queue, h.topology⟩

theorem Served.run_assigns (hnodup : requested.Nodup)
    (hbackoff : getSchedulingBackoffValue podGroup.schedulingBackoff ≠ noSchedulingBackoff)
    (hlast : getLastSchedulingCondition podGroup = some last)
    (hnamed : last.nodePool = getAssignedNodePool cfg podGroup)
    (hassigned : getAssignedNodePool cfg podGroup ∈ requested) (hname : name ∈ requested)
    (havailable : available name)
    (hturn : turnAfter available requested (getAssignedNodePool cfg podGroup) = some name) :
    ∃ params queue after, (run cfg c lists podGroup).1 = (.ok (), after) ∧ params.nodePoolName = name ∧
      Picked c (some last) (getAssignedNodePool cfg podGroup) requested params ∧
      updatePodGroupWithAssignment cfg c podGroup params queue = (.ok (), after) := by
  obtain ⟨params, hparams, rfl⟩ := h.next hnodup podGroup.markUnschedulable (getAssignedNodePool cfg podGroup)
    (hnamed ▸ hassigned) (hnamed ▸ hturn)
  obtain ⟨queue, hqueue⟩ := h.queue _ hname havailable
  obtain ⟨after, hafter⟩ := update_of_topology h.calls (h.topology _ hname havailable) queue
  have hdecided : Decided cfg c lists podGroup (some last) requested params queue :=
    ⟨h.upForAssignment_eq hbackoff hlast hnamed, h.requested, hparams, hqueue⟩
  refine ⟨params, queue, after, ?_, rfl, getNodePoolAssignmentParams_ok hparams, hafter⟩
  rw [hdecided.run_eq, hafter]

end

/-! ## Rounds -/

/-- The scheduler gives up on the assigned node pool. -/
def unschedulableOnNodePool (cfg : PodGroupAssignerConfig) (podGroup : PodGroup) : PodGroup :=
  { podGroup with
    schedulingConditions := podGroup.schedulingConditions ++
      [⟨.unschedulableOnNodePool, getAssignedNodePool cfg podGroup⟩] }

/-- `t` rounds of the scheduler giving up and a run. -/
def rounds (cfg : PodGroupAssignerConfig) (env : Nat → Cluster × NodePoolLists) (podGroup : PodGroup) : Nat → PodGroup
  | 0 => podGroup
  | t + 1 => (run cfg (env t).1 (env t).2 (unschedulableOnNodePool cfg (rounds cfg env podGroup t))).1.2

/-- What every round keeps. -/
structure Turning (cfg : PodGroupAssignerConfig) (requested : List String) (podGroup : PodGroup) : Prop where
  assigned : getAssignedNodePool cfg podGroup ∈ requested
  backoff : getSchedulingBackoffValue podGroup.schedulingBackoff ≠ noSchedulingBackoff
  conditions : ∀ condition ∈ podGroup.schedulingConditions, condition.type = .unschedulableOnNodePool

theorem Turning.round (hturning : Turning cfg requested podGroup) (hserved : Served cfg requested available c lists podGroup)
    (hnodup : requested.Nodup) (hmany : 2 ≤ requested.length) (havailable : ∃ name ∈ requested, available name) :
    ∃ after, (run cfg c lists (unschedulableOnNodePool cfg podGroup)).1 = (.ok (), after) ∧
      turnAfter available requested (getAssignedNodePool cfg podGroup) = some (getAssignedNodePool cfg after) ∧
      Turning cfg requested after := by
  obtain ⟨name, hname, hopen, hturn⟩ := exists_turnAfter available havailable (getAssignedNodePool cfg podGroup)
  have hlast : getLastSchedulingCondition (unschedulableOnNodePool cfg podGroup) =
      some ⟨.unschedulableOnNodePool, getAssignedNodePool cfg podGroup⟩ := List.getLast?_concat
  have hserved' : Served cfg requested available c lists (unschedulableOnNodePool cfg podGroup) :=
    hserved.with_conditions _
  obtain ⟨params, queue, after, hrun, rfl, hpicked, hupdate⟩ :=
    hserved'.run_assigns hnodup hturning.backoff hlast rfl hturning.assigned hname hopen hturn
  obtain ⟨hassigned, hbackoff, hconditions⟩ := updatePodGroupWithAssignment_ok hupdate hpicked.name_ne
  refine ⟨after, hrun, hassigned ▸ hturn, hassigned ▸ hname, ?_, ?_⟩
  · rw [hbackoff, hpicked.backoff, getSchedulingBackoff, if_neg (by omega)]
    decide
  · have hall : ∀ condition ∈ (unschedulableOnNodePool cfg podGroup).schedulingConditions,
        condition.type = .unschedulableOnNodePool := by
      intro condition hcondition
      rcases List.mem_append.1 hcondition with hold | hnew
      · exact hturning.conditions condition hold
      · rw [List.mem_singleton.1 hnew]
    intro condition hcondition
    rw [hconditions] at hcondition
    split_ifs at hcondition
    · exact hall condition (List.mem_filter.1 hcondition).1
    · exact hall condition hcondition

section

variable {env : Nat → Cluster × NodePoolLists} {n : Nat}

theorem turning_run (hnodup : requested.Nodup) (hmany : 2 ≤ requested.length)
    (havailable : ∃ name ∈ requested, available name) (hstart : Turning cfg requested podGroup)
    (hserved : ∀ t < n, Served cfg requested available (env t).1 (env t).2 (rounds cfg env podGroup t)) (t : Nat)
    (ht : t ≤ n) : Turning cfg requested (rounds cfg env podGroup t) := by
  induction t with
  | zero => exact hstart
  | succ t ih =>
    obtain ⟨after, hrun, -, hafter⟩ := (ih (by omega)).round (hserved t ht) hnodup hmany havailable
    rw [rounds, hrun]
    exact hafter

/-- Assignments go around the available pools in the list's order. -/
theorem round_robin_complete (hnodup : requested.Nodup) (hmany : 2 ≤ requested.length)
    (havailable : ∃ name ∈ requested, available name) (hassigned : getAssignedNodePool cfg podGroup ∈ requested)
    (hbackoff : podGroup.schedulingBackoff = some 1)
    (hconditions : ∀ condition ∈ podGroup.schedulingConditions, condition.type = .unschedulableOnNodePool)
    (hserved : ∀ t < n, Served cfg requested available (env t).1 (env t).2 (rounds cfg env podGroup t)) :
    (∀ t < n, (run cfg (env t).1 (env t).2 (unschedulableOnNodePool cfg (rounds cfg env podGroup t))).1.1 = .ok () ∧
      (requested.filter available)[(rank available requested (requested.idxOf (getAssignedNodePool cfg podGroup) + 1) + t) %
        (requested.filter available).length]? = some (getAssignedNodePool cfg (rounds cfg env podGroup (t + 1)))) ∧
    ∀ name ∈ requested.filter available, ∀ t, t + (requested.filter available).length ≤ n →
      ∃ u, t < u ∧ u ≤ t + (requested.filter available).length ∧
        getAssignedNodePool cfg (rounds cfg env podGroup u) = name := by
  have hstart : Turning cfg requested podGroup := ⟨hassigned, by rw [hbackoff]; decide, hconditions⟩
  have hround : ∀ t < n, ∃ after,
      (run cfg (env t).1 (env t).2 (unschedulableOnNodePool cfg (rounds cfg env podGroup t))).1 = (.ok (), after) ∧
      turnAfter available requested (getAssignedNodePool cfg (rounds cfg env podGroup t)) =
        some (getAssignedNodePool cfg after) ∧ Turning cfg requested after := by
    intro t ht
    have hturning := turning_run hnodup hmany havailable hstart hserved t (by omega)
    exact hturning.round (hserved t ht) hnodup hmany havailable
  have hturn : ∀ t < n, turnAfter available requested (getAssignedNodePool cfg (rounds cfg env podGroup t)) =
      some (getAssignedNodePool cfg (rounds cfg env podGroup (t + 1))) := by
    intro t ht
    obtain ⟨after, hrun, hnext, -⟩ := hround t ht
    rw [rounds, hrun]
    exact hnext
  constructor
  · intro t ht
    obtain ⟨after, hrun, -⟩ := hround t ht
    exact ⟨by rw [hrun], turns_in_order (x := fun t => getAssignedNodePool cfg (rounds cfg env podGroup t)) hnodup
      hassigned hturn t ht⟩
  · intro name hname t ht
    exact turn_of_each (x := fun t => getAssignedNodePool cfg (rounds cfg env podGroup t)) hnodup hassigned hturn hname ht

end

end

namespace Sample

/-- Both node pools are available in every round, and no lists are kept. -/
def steady (_ : Nat) : Cluster × NodePoolLists := (cluster .ready, fun _ => none)

theorem steady_serves (t : Nat) (ht : t < 2) :
    Served config ["train", "infer"] (fun _ => true) (steady t).1 (steady t).2 (rounds config steady podGroup t) := by
  have hcases : t = 0 ∨ t = 1 := by omega
  rcases hcases with rfl | rfl
  all_goals
    refine ⟨fun _ => rfl, fun _ => ⟨⟨"ns", (∅ : Labels).insert "kai/project" "p"⟩, rfl, by decide, by decide⟩,
      ⟨pod, by decide, by decide⟩, rfl, ?_, ?_, ?_⟩
    · exact List.forall_mem_cons.2 ⟨⟨_, rfl, rfl⟩, List.forall_mem_singleton.2 ⟨_, rfl, rfl⟩⟩
    · exact List.forall_mem_cons.2 ⟨fun _ => ⟨_, rfl⟩, List.forall_mem_singleton.2 fun _ => ⟨_, rfl⟩⟩
    · exact List.forall_mem_cons.2 ⟨fun _ => ⟨_, rfl⟩, List.forall_mem_singleton.2 fun _ => ⟨_, rfl⟩⟩

end Sample

open Sample in
theorem two_pools_take_turns :
    getAssignedNodePool config (rounds config steady podGroup 1) = "infer" ∧
    getAssignedNodePool config (rounds config steady podGroup 2) = "train" := by
  -- Two available node pools take turns.
  obtain ⟨hturns, -⟩ := round_robin_complete (by decide) (by decide) ⟨"train", by decide, rfl⟩ (by decide) rfl
    (by decide) steady_serves
  exact ⟨(Option.some.inj (hturns 0 (by decide)).2).symm, (Option.some.inj (hturns 1 (by decide)).2).symm⟩

end Krm.PodGroups
