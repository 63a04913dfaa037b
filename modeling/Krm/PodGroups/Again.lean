import Krm.PodGroups.Handoff
import Krm.PodGroups.Search

/-! # Running again on what a run has stored -/

open Krm.Lib

namespace Krm.PodGroups

/-! ## A run that writes nothing -/

def Call.isWrite : Call → Bool
  | .patchStatus | .patch => true
  | _ => false

/-- The same cluster, with other outcomes of the writes. -/
def Cluster.withWrites (c : Cluster) (fault : Call → Option String) : Cluster :=
  { c with fault := fun call => if call.isWrite then fault call else c.fault call }

/-- Returns nil even where every write would fail. -/
def Quiet (cfg : PodGroupAssignerConfig) (c : Cluster) (lists : NodePoolLists) (podGroup : PodGroup) : Prop :=
  ∀ fault, (run cfg (c.withWrites fault) lists podGroup).1 = (.ok (), podGroup)

section

variable {cfg : PodGroupAssignerConfig} {c : Cluster} {lists : NodePoolLists} {podGroup after : PodGroup}

theorem quiet_of_nothing_to_do (h : upForAssignment cfg c podGroup = .ok none) : Quiet cfg c lists podGroup := by
  intro fault
  have hup : upForAssignment cfg (c.withWrites fault) podGroup = .ok none := h
  rw [run, hup]

variable {queue : String} {params : NodePoolAssignmentParams} {last : Option SchedulingCondition}
  {requested : List String} (fault : Call → Option String)

theorem findNextNodePoolFrom_withWrites (requested : List String) (params : NodePoolAssignmentParams) (previous : Int)
    (indices : List Nat) :
    findNextNodePoolFrom (c.withWrites fault) requested params previous indices =
      findNextNodePoolFrom c requested params previous indices := by
  induction indices with
  | nil => rfl
  | cons index indices ih =>
    simp only [findNextNodePoolFrom, ih]
    rfl

theorem getNodePoolAssignmentParams_withWrites (mark : Option Bool) (last : Option SchedulingCondition)
    (assigned : String) (requested : List String) :
    getNodePoolAssignmentParams (c.withWrites fault) mark last assigned requested =
      getNodePoolAssignmentParams c mark last assigned requested := by
  unfold getNodePoolAssignmentParams calculateNodePoolAssignmentParams findNextNodePoolAvailableForScheduling
  simp only [findNextNodePoolFrom_withWrites]
  rfl

theorem Decided.withWrites (h : Decided cfg c lists podGroup last requested params queue)
    (fault : Call → Option String) : Decided cfg (c.withWrites fault) lists podGroup last requested params queue :=
  ⟨h.up, h.requested_eq, (getNodePoolAssignmentParams_withWrites fault _ _ _ _).trans h.params_eq, h.queue_eq⟩

/-! ## What a patch leaves behind -/

/-- The project's label is under a key that the assigner does not write. -/
structure KeysApart (cfg : PodGroupAssignerConfig) : Prop where
  queue : cfg.projectLabelKey ≠ cfg.queueLabelKey
  nodePool : cfg.projectLabelKey ≠ cfg.nodePoolLabelKey

/-- As an assignment to the node pool leaves it, apart from the mark. -/
structure AsWanted (cfg : PodGroupAssignerConfig) (c : Cluster) (podGroup : PodGroup) (params : NodePoolAssignmentParams)
    (queue : String) : Prop where
  nodePool : getAssignedNodePool cfg podGroup = params.nodePoolName
  backoff : getSchedulingBackoffValue podGroup.schedulingBackoff = params.schedulingBackoff
  queue_eq : podGroup.queue = queue
  topology : desiredNetworkTopology c podGroup params.nodePoolName =
    .ok (podGroup.topologyConstraint, isSystemSourced podGroup)

theorem asWanted_cleared :
    AsWanted cfg c (cleared podGroup) params queue ↔ AsWanted cfg c podGroup params queue :=
  ⟨fun h => ⟨h.1, h.2, h.3, h.4⟩, fun h => ⟨h.1, h.2, h.3, h.4⟩⟩

theorem AsWanted.patchAssignment (h : AsWanted cfg c podGroup params queue)
    (hmark : getMarkUnschedulableValue podGroup.markUnschedulable = params.markUnschedulable) :
    patchAssignment cfg c podGroup params queue = .ok podGroup := by
  simp [PodGroups.patchAssignment, h.topology, previousParams, h.nodePool, h.backoff, h.queue_eq, hmark, bind, Except.bind]

/-- The pod group is as the assignment wants it, written or left alone. -/
structure Placed (cfg : PodGroupAssignerConfig) (c : Cluster) (podGroup : PodGroup) (params : NodePoolAssignmentParams)
    (queue : String) (after : PodGroup) : Prop extends AsWanted cfg c after params queue where
  identity : after.namespaceName = podGroup.namespaceName ∧ after.name = podGroup.name ∧ after.uid = podGroup.uid
  conditions : after.schedulingConditions = podGroup.schedulingConditions
  mark : after.markUnschedulable = some params.markUnschedulable ∨
    (after = podGroup ∧ getMarkUnschedulableValue podGroup.markUnschedulable = params.markUnschedulable)

theorem lookup_project_update (hkeys : KeysApart cfg) (labels : Labels) (queue name : String) :
    (updateLabelsWithNodePoolAssignment cfg (labels.insert cfg.queueLabelKey queue) name).lookup cfg.projectLabelKey =
      labels.lookup cfg.projectLabelKey := by
  unfold updateLabelsWithNodePoolAssignment
  split
  · rw [Finmap.lookup_erase_ne hkeys.nodePool, Finmap.lookup_insert_of_ne _ hkeys.queue]
  · rw [Finmap.lookup_insert_of_ne _ hkeys.nodePool, Finmap.lookup_insert_of_ne _ hkeys.queue]

theorem project_of_patch (hkeys : KeysApart cfg) (h : patchAssignment cfg c podGroup params queue = .ok after) :
    after.labels.lookup cfg.projectLabelKey = podGroup.labels.lookup cfg.projectLabelKey := by
  obtain ⟨topology, -, h⟩ := bind_ok h
  dsimp only at h
  split_ifs at h
  · cases h
    rfl
  · cases attempt_ok h
    exact lookup_project_update hkeys _ _ _

theorem desiredNetworkTopology_again {name : String} {constraint : TopologyConstraint} {systemSourced : Bool}
    (h : desiredNetworkTopology c podGroup name = .ok (constraint, systemSourced))
    (hconstraint : after.topologyConstraint = constraint) (hsourced : isSystemSourced after = systemSourced) :
    desiredNetworkTopology c after name = .ok (after.topologyConstraint, isSystemSourced after) := by
  unfold desiredNetworkTopology at h ⊢
  dsimp only at h ⊢
  rw [hconstraint, hsourced]
  by_cases huser : (!isTopologyConstraintEmpty podGroup.topologyConstraint && !isSystemSourced podGroup) = true
  · rw [if_pos huser] at h
    cases h
    rw [Bool.and_eq_true] at huser
    rw [if_pos (by rw [huser.1]; rfl)]
  · rw [if_neg huser] at h
    obtain ⟨topologyName, htopology, h⟩ := bind_ok h
    rw [htopology]
    by_cases hnamed : topologyName ≠ ""
    · rw [if_pos hnamed] at h
      obtain ⟨lowestLevel, hlevel, h⟩ := bind_ok h
      cases h
      simp [hnamed, hlevel, bind, Except.bind]
    · rw [if_neg hnamed] at h
      by_cases hours : isSystemSourced podGroup = true
      · rw [if_pos hours] at h
        cases h
        simp [isTopologyConstraintEmpty, not_not.1 hnamed, bind, Except.bind]
      · rw [if_neg hours] at h
        cases h
        -- nothing is wanted, and the constraint is not a user's, so there is none
        have hempty : isTopologyConstraintEmpty podGroup.topologyConstraint = true := by simpa [hours] using huser
        simp [hempty, not_not.1 hnamed, bind, Except.bind]

theorem placed_of_patch (h : patchAssignment cfg c podGroup params queue = .ok after)
    (hname : params.nodePoolName ≠ "") : Placed cfg c podGroup params queue after := by
  obtain ⟨hassigned, hbackoff, hconditions⟩ := patchAssignment_ok h hname
  unfold patchAssignment at h
  obtain ⟨⟨constraint, systemSourced⟩, hdesired, h⟩ := bind_ok h
  dsimp only at h
  split_ifs at h with hsame
  · cases h
    have hqueue := congrArg FullNodePoolAssignmentParams.queue hsame
    have hconstraint := congrArg FullNodePoolAssignmentParams.networkTopologyConstraint hsame
    have hsourced := congrArg FullNodePoolAssignmentParams.networkTopologySystemSourced hsame
    have hmark := congrArg (fun full : FullNodePoolAssignmentParams => full.markUnschedulable) hsame
    refine ⟨⟨hassigned, hbackoff, hqueue, ?_⟩, ⟨rfl, rfl, rfl⟩, hconditions, .inr ⟨rfl, hmark⟩⟩
    rw [hdesired]
    exact congrArg Except.ok (Prod.ext hconstraint.symm hsourced.symm)
  · cases attempt_ok h
    refine ⟨⟨hassigned, hbackoff, rfl, desiredNetworkTopology_again hdesired rfl ?_⟩, ⟨rfl, rfl, rfl⟩, hconditions, .inl rfl⟩
    exact isSystemSourced_applyTopology ..

/-! ## The second run -/

theorem getNodePoolAssignmentParams_stays (hcalls : ∀ call, c.fault call = none) (mark : Option Bool) {name : String}
    (hmem : name ∈ requested) (havailable : c.available name) (hmany : 1 < requested.length) :
    getNodePoolAssignmentParams c mark none name requested =
      .ok ⟨name, decide (mark = some true), getSchedulingBackoff requested, false⟩ := by
  have hfirst : elementAt requested 0 = .ok requested[0] := by
    rw [elementAt, List.getElem?_eq_getElem (by omega)]
  have hindex := indexOfItemInList_nonneg.2 hmem
  have hnotOne : requested.length ≠ 1 := by omega
  simp [getNodePoolAssignmentParams, calculateNodePoolAssignmentParams, getInitialNodePoolAssignmentParams, hfirst, hindex,
    hnotOne, isNodePoolAvailableForScheduling_eq hcalls, havailable, bind, Except.bind]

theorem getRequestedNodePoolsForPodGroup_fst (pods : List Pod) :
    (getRequestedNodePoolsForPodGroup cfg c lists podGroup pods).1 =
      match lists podGroup.uid with
      | some requested => .ok requested
      | none => getRequestedNodePoolsOfPods cfg c podGroup pods := by
  unfold getRequestedNodePoolsForPodGroup
  cases lists podGroup.uid with
  | some requested => rfl
  | none => cases getRequestedNodePoolsOfPods cfg c podGroup pods <;> rfl

theorem getRequestedNodePoolsForPodGroup_snd (pods : List Pod) :
    (getRequestedNodePoolsForPodGroup cfg c lists podGroup pods).2 =
      match (getRequestedNodePoolsForPodGroup cfg c lists podGroup pods).1 with
      | .error _ => lists
      | .ok requested => Function.update lists podGroup.uid (some requested) := by
  unfold getRequestedNodePoolsForPodGroup
  cases hlist : lists podGroup.uid with
  | some requested => exact (Function.update_eq_self_iff.2 hlist.symm).symm
  | none => cases getRequestedNodePoolsOfPods cfg c podGroup pods <;> rfl

theorem getRequestedNodePoolsForPodGroup_again {pods pods' : List Pod} {c' : Cluster}
    (h : (getRequestedNodePoolsForPodGroup cfg c lists podGroup pods).1 = .ok requested)
    (huid : after.uid = podGroup.uid) :
    (getRequestedNodePoolsForPodGroup cfg c' (getRequestedNodePoolsForPodGroup cfg c lists podGroup pods).2 after pods').1 =
      .ok requested := by
  rw [getRequestedNodePoolsForPodGroup_fst, getRequestedNodePoolsForPodGroup_snd, h, huid]
  dsimp only
  rw [Function.update_self]

theorem calculatePodGroupQueueNameOfNodePool_congr {name queue : String}
    (h : calculatePodGroupQueueNameOfNodePool cfg c podGroup name = .ok queue)
    (hnamespace : after.namespaceName = podGroup.namespaceName)
    (hproject : after.labels.lookup cfg.projectLabelKey = podGroup.labels.lookup cfg.projectLabelKey)
    (hname : after.name = podGroup.name) : calculatePodGroupQueueNameOfNodePool cfg c after name = .ok queue := by
  unfold calculatePodGroupQueueNameOfNodePool getPodGroupNamespacedName at h ⊢
  rw [hproject, hnamespace, hname]
  exact h

/-- A first run that came to its writes and succeeded. -/
structure Assigned (cfg : PodGroupAssignerConfig) (c : Cluster) (lists : NodePoolLists) (podGroup : PodGroup)
    (last : Option SchedulingCondition) (requested : List String) (params : NodePoolAssignmentParams) (queue : String)
    (after : PodGroup) : Prop where
  decided : Decided cfg c lists podGroup last requested params queue
  picked : Picked c last (getAssignedNodePool cfg podGroup) requested params
  placed : Placed cfg c (if params.removeUnschedulableOnNodePoolSchedulingCondition then cleared podGroup else podGroup)
    params queue after
  project : after.labels.lookup cfg.projectLabelKey = podGroup.labels.lookup cfg.projectLabelKey

theorem assigned_of_run (hkeys : KeysApart cfg) (hdecided : Decided cfg c lists podGroup last requested params queue)
    (hok : (run cfg c lists podGroup).1.1 = .ok ()) :
    Assigned cfg c lists podGroup last requested params queue (run cfg c lists podGroup).1.2 := by
  have hpicked := getNodePoolAssignmentParams_ok hdecided.params_eq
  rw [hdecided.run_eq] at hok ⊢
  have hpatched := update_patched (Prod.ext hok rfl)
  refine ⟨hdecided, hpicked, placed_of_patch hpatched hpicked.name_ne, (project_of_patch hkeys hpatched).trans ?_⟩
  split_ifs
  · rfl
  · rfl

namespace Assigned

variable {last : Option SchedulingCondition} {requested : List String} {params : NodePoolAssignmentParams} {queue : String}
  {lists' : NodePoolLists} (h : Assigned cfg c lists podGroup last requested params queue after)

include h

theorem identity : after.namespaceName = podGroup.namespaceName ∧ after.name = podGroup.name ∧
    after.uid = podGroup.uid ∧ after.labels.lookup cfg.projectLabelKey = podGroup.labels.lookup cfg.projectLabelKey := by
  have hidentity := h.placed.identity
  split_ifs at hidentity <;> exact ⟨hidentity.1, hidentity.2.1, hidentity.2.2, h.project⟩

theorem internal : isExternalNamespace cfg c after.namespaceName = .ok false := by
  rw [h.identity.1]
  exact upForAssignment_internal h.decided.up

theorem pods_eq : podsOfGroup c after = podsOfGroup c podGroup := by
  unfold podsOfGroup
  rw [h.identity.1, h.identity.2.1]

theorem available : c.available (getAssignedNodePool cfg after) := by
  obtain ⟨nodePool, hget, hphase⟩ := h.picked.available
  rw [h.placed.nodePool, Cluster.available, hget]
  exact hphase

theorem backoff_eq : getSchedulingBackoffValue after.schedulingBackoff = getSchedulingBackoff requested :=
  h.placed.backoff.trans h.picked.backoff

theorem last_eq : last = getLastSchedulingCondition podGroup :=
  (isEligibleForNodePoolAssignment_true (upForAssignment_some h.decided.up).1).2.1

theorem backs_off (hmany : 1 < requested.length) :
    getSchedulingBackoffValue after.schedulingBackoff ≠ noSchedulingBackoff := by
  rw [h.backoff_eq, getSchedulingBackoff, if_neg (by omega)]
  decide

theorem quiet_of_single (hone : requested.length = 1) : Quiet cfg c lists' after := by
  have hbackoff : getSchedulingBackoffValue after.schedulingBackoff = noSchedulingBackoff := by
    rw [h.backoff_eq, getSchedulingBackoff, if_pos hone]
  have heligible : isEligibleForNodePoolAssignment cfg c after = .ok (false, none) := by
    rw [isEligibleForNodePoolAssignment, if_pos hbackoff]
  exact quiet_of_nothing_to_do (upForAssignment_of_ineligible h.internal heligible)

variable (hcalls : ∀ call, c.fault call = none) (hmany : 1 < requested.length)
include hcalls hmany

theorem quiet_of_condition
    (hconditions : ∀ condition ∈ podGroup.schedulingConditions, condition.type = .unschedulableOnNodePool)
    {condition : SchedulingCondition} (hlast : getLastSchedulingCondition after = some condition) :
    Quiet cfg c lists' after := by
  -- A condition that is left names another node pool, so the scheduler of the new one is at work.
  have hkept : params.removeUnschedulableOnNodePoolSchedulingCondition = false := by
    by_contra hreset
    rw [Bool.not_eq_false] at hreset
    have hempty := h.placed.conditions
    rw [if_pos hreset, cleared_conditions hconditions] at hempty
    rw [getLastSchedulingCondition, hempty] at hlast
    cases hlast
  have hsame : last = some condition := by
    have hold := h.placed.conditions
    rw [if_neg (by simp [hkept])] at hold
    rw [h.last_eq, getLastSchedulingCondition, ← hold]
    exact hlast
  have hother : condition.nodePool ≠ getAssignedNodePool cfg after := by
    rw [h.placed.nodePool]
    intro hagain
    rw [h.picked.resets.2 ⟨hmany, condition, hsame, hagain.symm⟩] at hkept
    cases hkept
  have heligible : isEligibleForNodePoolAssignment cfg c after = .ok (false, some condition) := by
    have havailable := h.available
    simp [isEligibleForNodePoolAssignment, h.backs_off hmany, hlast, hother, isNodePoolAvailableForScheduling_eq hcalls,
      havailable, bind, Except.bind]
  exact quiet_of_nothing_to_do (upForAssignment_of_ineligible h.internal heligible)

theorem decided_again (hlast : getLastSchedulingCondition after = none) :
    Decided cfg c (run cfg c lists podGroup).2 after none requested
      ⟨params.nodePoolName, decide (after.markUnschedulable = some true), getSchedulingBackoff requested, false⟩ queue := by
  obtain ⟨hnamespace, hname, huid, hproject⟩ := h.identity
  have heligible : isEligibleForNodePoolAssignment cfg c after = .ok (true, none) := by
    simp [isEligibleForNodePoolAssignment, h.backs_off hmany, hlast]
  obtain ⟨-, -, hunbound⟩ := upForAssignment_some h.decided.up
  refine ⟨?_, ?_, ?_, ?_⟩
  · rw [← h.pods_eq] at hunbound
    exact upForAssignment_of_eligible h.internal heligible (hcalls _) hunbound
  · rw [h.decided.run_eq]
    exact getRequestedNodePoolsForPodGroup_again h.decided.requested_eq huid
  · rw [h.placed.nodePool]
    have havailable := h.available
    rw [h.placed.nodePool] at havailable
    exact getNodePoolAssignmentParams_stays hcalls _ h.picked.mem havailable hmany
  · exact calculatePodGroupQueueNameOfNodePool_congr h.decided.queue_eq hnamespace hproject hname

theorem quiet_without_conditions_iff (hlast : getLastSchedulingCondition after = none) :
    Quiet cfg c (run cfg c lists podGroup).2 after ↔ after.markUnschedulable ≠ none := by
  have hagain := h.decided_again hcalls hmany hlast
  constructor
  · intro hquiet hnone
    have hrun := hquiet fun _ => none
    rw [(hagain.withWrites _).run_eq] at hrun
    dsimp only at hrun
    have hpatch := update_patched hrun
    rw [if_neg Bool.false_ne_true] at hpatch
    have hplaced := placed_of_patch hpatch h.picked.name_ne
    rcases hplaced.mark with hwritten | ⟨-, hmark⟩
    · rw [hnone] at hwritten
      cases hwritten
    · rw [hnone] at hmark
      cases hmark
  · intro hmark fault
    have hwanted : AsWanted cfg (c.withWrites fault) after
        ⟨params.nodePoolName, decide (after.markUnschedulable = some true), getSchedulingBackoff requested, false⟩ queue :=
      ⟨h.placed.nodePool, h.backoff_eq, h.placed.queue_eq, h.placed.topology⟩
    have hpatch := hwanted.patchAssignment (by
      obtain ⟨mark, hmark⟩ := Option.ne_none_iff_exists'.1 hmark
      rw [hmark]
      cases mark <;> rfl)
    rw [(hagain.withWrites fault).run_eq, updatePodGroupWithAssignment, if_neg Bool.false_ne_true, hpatch]
    rfl

theorem marked_of_no_conditions (hnone : podGroup.schedulingConditions = []) : after.markUnschedulable ≠ none := by
  intro hunmarked
  have hlast : last = none := by rw [h.last_eq, getLastSchedulingCondition, hnone]; rfl
  have hkept : params.removeUnschedulableOnNodePoolSchedulingCondition = false := by
    rw [← Bool.not_eq_true, h.picked.resets, hlast]
    rintro ⟨-, condition, hcondition, -⟩
    cases hcondition
  have hplaced := h.placed
  rw [if_neg (by simp [hkept])] at hplaced
  rcases hplaced.mark with hwritten | ⟨rfl, hmark⟩
  · rw [hunmarked] at hwritten
    cases hwritten
  · -- nothing was written: the pod group was on the node pool, where it is not marked
    have hparams := h.decided.params_eq
    rw [hlast, hplaced.nodePool, getNodePoolAssignmentParams_stays hcalls _ h.picked.mem
      (hplaced.nodePool ▸ h.available) hmany] at hparams
    rw [← Except.ok.inj hparams, hunmarked] at hmark
    cases hmark

end Assigned

/-- The search comes back to the last node pool, and only the mark, never set, is not as wanted. -/
def LeftUnmarked (cfg : PodGroupAssignerConfig) (c : Cluster) (lists : NodePoolLists) (podGroup : PodGroup) : Prop :=
  podGroup.markUnschedulable = none ∧
    ∃ condition requested params queue, Decided cfg c lists podGroup (some condition) requested params queue ∧
      1 < requested.length ∧ params.nodePoolName = condition.nodePool ∧ AsWanted cfg c podGroup params queue

theorem LeftUnmarked.run_eq (hcalls : ∀ call, c.fault call = none) (h : LeftUnmarked cfg c lists podGroup) :
    (run cfg c lists podGroup).1.2 = cleared podGroup := by
  obtain ⟨hnone, condition, requested, params, queue, hdecided, hmany, hagain, hwanted⟩ := h
  have hreset := (getNodePoolAssignmentParams_ok hdecided.params_eq).resets.2 ⟨hmany, condition, rfl, hagain⟩
  -- behind a condition, a mark that is not set counts as true
  have hmarked : params.markUnschedulable = true := by
    have hparams := hdecided.params_eq
    rw [hnone] at hparams
    have hsame : getNodePoolAssignmentParams c (some true) (some condition) (getAssignedNodePool cfg podGroup) requested =
        .ok params := hparams
    exact getNodePoolAssignmentParams_marked hsame
  have hpatch : PodGroups.patchAssignment cfg c (cleared podGroup) params queue = .ok (cleared podGroup) := by
    refine (asWanted_cleared.2 hwanted).patchAssignment ?_
    rw [hmarked, cleared, hnone]
    rfl
  rw [hdecided.run_eq, updatePodGroupWithAssignment, if_pos hreset,
    removeUnschedulableOnNodePoolSchedulingConditionFromStatus, Cluster.attempt, hcalls]
  exact congrArg (fun result => (Update.ofWrite (cleared podGroup) result).2) hpatch

theorem Assigned.leftUnmarked (hcalls : ∀ call, c.fault call = none)
    (h : Assigned cfg c lists podGroup last requested params queue after) (hmany : 1 < requested.length)
    (hlast : getLastSchedulingCondition after = none) (hnone : after.markUnschedulable = none) :
    LeftUnmarked cfg c lists podGroup := by
  have hplaced := h.placed
  have hreset : params.removeUnschedulableOnNodePoolSchedulingCondition = true := by
    by_contra hkept
    rw [if_neg hkept] at hplaced
    exact h.marked_of_no_conditions hcalls hmany (hplaced.conditions.symm.trans (List.getLast?_eq_none_iff.1 hlast)) hnone
  rw [if_pos hreset] at hplaced
  obtain ⟨-, condition, rfl, hagain⟩ := h.picked.resets.1 hreset
  rcases hplaced.mark with hwritten | ⟨rfl, -⟩
  · rw [hnone] at hwritten
    cases hwritten
  · exact ⟨hnone, condition, requested, params, queue, h.decided, hmany, hagain,
      asWanted_cleared.1 hplaced.toAsWanted⟩

/-- A second run writes exactly when the first only clears an unmarked pod group. -/
theorem second_run_quiet_iff (hkeys : KeysApart cfg) (hcalls : ∀ call, c.fault call = none) (lists : NodePoolLists)
    (podGroup : PodGroup)
    (hconditions : ∀ condition ∈ podGroup.schedulingConditions, condition.type = .unschedulableOnNodePool)
    (hok : (run cfg c lists podGroup).1.1 = .ok ()) :
    Quiet cfg c (run cfg c lists podGroup).2 (run cfg c lists podGroup).1.2 ↔ ¬ LeftUnmarked cfg c lists podGroup := by
  rcases run_cases cfg c lists podGroup with ⟨last, requested, params, queue, hdecided⟩ | ⟨hsame, hnothing⟩
  · have hassigned := assigned_of_run hkeys hdecided hok
    have hpos := List.length_pos_of_mem hassigned.picked.mem
    by_cases hone : requested.length = 1
    · refine iff_of_true (hassigned.quiet_of_single hone) ?_
      rintro ⟨-, condition, requested', params', queue', hdecided', hmany, -⟩
      rw [Except.ok.inj (hdecided'.requested_eq.symm.trans hdecided.requested_eq)] at hmany
      omega
    · have hmany : 1 < requested.length := by omega
      cases hlast : getLastSchedulingCondition (run cfg c lists podGroup).1.2 with
      | some condition =>
        refine iff_of_true (hassigned.quiet_of_condition hcalls hmany hconditions hlast) ?_
        intro hleft
        rw [hleft.run_eq hcalls, getLastSchedulingCondition, cleared_conditions hconditions] at hlast
        cases hlast
      | none =>
        -- only the missing mark can bring on a write
        rw [hassigned.quiet_without_conditions_iff hcalls hmany hlast]
        constructor
        · intro hmark hleft
          rw [hleft.run_eq hcalls] at hmark
          exact hmark hleft.1
        · intro hnot hnone
          exact hnot (hassigned.leftUnmarked hcalls hmany hlast hnone)
  · rw [hsame]
    refine iff_of_true (quiet_of_nothing_to_do (hnothing hok)) ?_
    rintro ⟨-, condition, requested, params, queue, hdecided, -⟩
    rw [hdecided.up] at hnothing
    cases hnothing hok

end

open Sample in
theorem moved_pod_group_stays : Quiet config (cluster .ready) (run config (cluster .ready) (fun _ => none) podGroup).2
    (run config (cluster .ready) (fun _ => none) podGroup).1.2 := by
  -- The pod group moves on to the next node pool once.
  have hkeys : KeysApart config := ⟨by decide, by decide⟩
  refine (second_run_quiet_iff hkeys (fun _ => rfl) (fun _ => none) podGroup (by decide) rfl).2 ?_
  rintro ⟨hnone, -⟩
  cases hnone

namespace Sample

/-- On the only available node pool, with its queue, never marked. -/
def neverMarked : PodGroup := { podGroup with markUnschedulable := none }

end Sample

open Sample in
theorem unset_mark_written_by_second_run :
    (∀ call, (cluster .unschedulable).fault call = none) ∧
    (∀ condition ∈ neverMarked.schedulingConditions, condition.type = .unschedulableOnNodePool) ∧
    (run config (cluster .unschedulable) (fun _ => none) neverMarked).1 =
      (.ok (), { neverMarked with schedulingConditions := [] }) ∧
    (run config (cluster .unschedulable) (run config (cluster .unschedulable) (fun _ => none) neverMarked).2
      { neverMarked with schedulingConditions := [] }).1.2.markUnschedulable = some false ∧
    ¬ Quiet config (cluster .unschedulable) (run config (cluster .unschedulable) (fun _ => none) neverMarked).2
      { neverMarked with schedulingConditions := [] } := by
  -- The first run clears the conditions and takes the unset mark for true, the second one writes that it is false.
  refine ⟨fun _ => rfl, by decide, rfl, rfl, fun hquiet => ?_⟩
  have hmark := congrArg (fun result : Update => result.2.markUnschedulable) (hquiet fun _ => none)
  cases hmark

end Krm.PodGroups
