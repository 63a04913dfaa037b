import Krm.Lib.Runs
import Krm.PodGroups.Assigner

/-! # What each part of a run does -/

open Krm.Lib

namespace Krm.PodGroups

/-! ## Reads -/

section

variable {cfg : PodGroupAssignerConfig} {c : Cluster} {list requested : List String} {name queue assigned item : String}
  {mark : Option Bool} {result : Except RunError PodGroup} {params : NodePoolAssignmentParams} {podGroup : PodGroup}
  {call : Call} {last : Option SchedulingCondition}

theorem attempt_ok {α : Type} {result : Except RunError α} {a : α} (h : c.attempt call result = .ok a) :
    result = .ok a := by
  unfold Cluster.attempt at h
  split at h
  · cases h
  · exact h

theorem getNodePool_ok {nodePool : NodePool} (h : c.getNodePool call name = .ok nodePool) :
    c.nodePools.get name = some nodePool :=
  found_ok (attempt_ok h)

theorem isNodePoolAvailableForScheduling_ok {available : Bool}
    (h : isNodePoolAvailableForScheduling c call name = .ok available) :
    ∃ nodePool, c.nodePools.get name = some nodePool ∧ isAvailablePhase nodePool.phase = available := by
  obtain ⟨nodePool, hget, hphase⟩ := bind_ok h
  exact ⟨nodePool, getNodePool_ok hget, Except.ok.inj hphase⟩

/-! ## The next node pool -/

theorem elementAt_getElem? {index : Nat} (h : elementAt list index = .ok item) : list[index]? = some item := by
  unfold elementAt at h
  split at h
  · rename_i hitem
    cases h
    exact hitem
  · cases h

theorem elementAt_ok {index : Nat} (h : elementAt list index = .ok item) :
    item ∈ list := List.mem_of_getElem? (elementAt_getElem? h)

theorem indexOfItemInList_nonneg : indexOfItemInList list item ≥ 0 ↔ item ∈ list := by
  unfold indexOfItemInList
  split
  · rename_i i hi
    have hmem : item ∈ list := by
      by_contra hnot
      rw [List.idxOf?_eq_none_iff.2 hnot] at hi
      cases hi
    exact ⟨fun _ => hmem, fun _ => Int.natCast_nonneg i⟩
  · rename_i hnone
    have hnot : item ∉ list := List.idxOf?_eq_none_iff.1 hnone
    exact ⟨fun h => absurd h (by decide), fun h => absurd h hnot⟩

theorem getInitialNodePoolAssignmentParams_ok
    (h : getInitialNodePoolAssignmentParams mark last assigned requested = .ok params) :
    params.nodePoolName ∈ requested ∧ params.schedulingBackoff = getSchedulingBackoff requested ∧
      params.removeUnschedulableOnNodePoolSchedulingCondition = false ∧
      (last = none → assigned ∈ requested → params.nodePoolName = assigned) := by
  unfold getInitialNodePoolAssignmentParams at h
  dsimp only at h
  split at h
  · obtain ⟨first, hfirst, h⟩ := bind_ok h
    cases h
    refine ⟨?_, rfl, rfl, ?_⟩
    · dsimp only
      split
      · rename_i hindex
        exact indexOfItemInList_nonneg.1 hindex
      · exact elementAt_ok hfirst
    · intro _ hassigned
      exact if_pos (indexOfItemInList_nonneg.2 hassigned)
  · obtain ⟨index, -, h⟩ := bind_ok h
    obtain ⟨name, hname, h⟩ := bind_ok h
    cases h
    refine ⟨elementAt_ok hname, rfl, rfl, fun hnone => ?_⟩
    cases hnone

theorem findNextNodePoolFrom_ok {start params : NodePoolAssignmentParams} {previous : Int} {indices : List Nat}
    (h : findNextNodePoolFrom c requested start previous indices = .ok params) :
    params.nodePoolName ∈ requested ∧
      (∃ nodePool, c.nodePools.get params.nodePoolName = some nodePool ∧ isAvailablePhase nodePool.phase = true) ∧
      params.schedulingBackoff = start.schedulingBackoff ∧ params.removeUnschedulableOnNodePoolSchedulingCondition =
        start.removeUnschedulableOnNodePoolSchedulingCondition := by
  induction indices with
  | nil => cases h
  | cons index indices ih =>
    unfold findNextNodePoolFrom at h
    obtain ⟨next, -, h⟩ := bind_ok h
    obtain ⟨name, hname, h⟩ := bind_ok h
    obtain ⟨available, havailable, h⟩ := bind_ok h
    split at h
    · rename_i htrue
      cases h
      exact ⟨elementAt_ok hname, htrue ▸ isNodePoolAvailableForScheduling_ok havailable, rfl, rfl⟩
    · exact ih h

/-- What holds of every assignment that the assigner decides on. -/
structure Picked (c : Cluster) (last : Option SchedulingCondition) (assigned : String) (requested : List String)
    (params : NodePoolAssignmentParams) : Prop where
  mem : params.nodePoolName ∈ requested
  available : ∃ nodePool, c.nodePools.get params.nodePoolName = some nodePool ∧ isAvailablePhase nodePool.phase = true
  backoff : params.schedulingBackoff = getSchedulingBackoff requested
  resets : params.removeUnschedulableOnNodePoolSchedulingCondition = true ↔
    1 < requested.length ∧ ∃ condition, last = some condition ∧ params.nodePoolName = condition.nodePool
  stays : last = none → assigned ∈ requested → params.nodePoolName = assigned ∨
    ∃ nodePool, c.nodePools.get assigned = some nodePool ∧ isAvailablePhase nodePool.phase = false

theorem Picked.name_ne (h : Picked c last assigned requested params) : params.nodePoolName ≠ "" := by
  obtain ⟨nodePool, hget, -⟩ := h.available
  have hname := Store.get_key hget
  rw [← hname]
  exact nodePool.name_ne

theorem calculateNodePoolAssignmentParams_ok
    (h : calculateNodePoolAssignmentParams c mark last assigned requested = .ok params) :
    params.nodePoolName ∈ requested ∧
      (∃ nodePool, c.nodePools.get params.nodePoolName = some nodePool ∧ isAvailablePhase nodePool.phase = true) ∧
      params.schedulingBackoff = getSchedulingBackoff requested ∧
      params.removeUnschedulableOnNodePoolSchedulingCondition = false ∧
      (last = none → assigned ∈ requested → params.nodePoolName = assigned ∨
        ∃ nodePool, c.nodePools.get assigned = some nodePool ∧ isAvailablePhase nodePool.phase = false) := by
  unfold calculateNodePoolAssignmentParams at h
  obtain ⟨initial, hinitial, h⟩ := bind_ok h
  obtain ⟨available, havailable, h⟩ := bind_ok h
  obtain ⟨hmem, hbackoff, hremove, hstay⟩ := getInitialNodePoolAssignmentParams_ok hinitial
  have hphase := isNodePoolAvailableForScheduling_ok havailable
  split at h
  · rename_i htrue
    cases h
    exact ⟨hmem, htrue ▸ hphase, hbackoff, hremove, fun hnone hassigned => .inl (hstay hnone hassigned)⟩
  · rename_i hfalse
    obtain ⟨hmem', hphase', hbackoff', hremove'⟩ := findNextNodePoolFrom_ok h
    refine ⟨hmem', hphase', hbackoff'.trans hbackoff, hremove'.trans hremove, ?_⟩
    intro hnone hassigned
    rw [Bool.not_eq_true] at hfalse
    rw [hstay hnone hassigned, hfalse] at hphase
    exact .inr hphase

theorem getNodePoolAssignmentParams_ok (h : getNodePoolAssignmentParams c mark last assigned requested = .ok params) :
    Picked c last assigned requested params := by
  unfold getNodePoolAssignmentParams at h
  obtain ⟨calculated, hcalculated, h⟩ := bind_ok h
  obtain ⟨hmem, hphase, hbackoff, hremove, hstay⟩ := calculateNodePoolAssignmentParams_ok hcalculated
  have hagain : last.any (fun condition => calculated.nodePoolName = condition.nodePool) = true ↔
      ∃ condition, last = some condition ∧ calculated.nodePoolName = condition.nodePool := by
    simp [Option.any_eq_true]
  split at h
  · rename_i hreset
    cases h
    exact ⟨hmem, hphase, hbackoff, ⟨fun _ => ⟨hreset.1, hagain.1 hreset.2⟩, fun _ => rfl⟩, hstay⟩
  · rename_i hkeep
    cases h
    refine ⟨hmem, hphase, hbackoff, ⟨fun h => ?_, fun h => ?_⟩, hstay⟩
    · rw [hremove] at h
      cases h
    · exact absurd ⟨h.1, hagain.2 h.2⟩ hkeep

/-! ## The patches -/

theorem getNodePoolNameFromLabels_update {labels : Labels} (hname : name ≠ "") :
    getNodePoolNameFromLabels (updateLabelsWithNodePoolAssignment cfg labels name) cfg.nodePoolLabelKey
      cfg.defaultNodepoolName = name := by
  unfold updateLabelsWithNodePoolAssignment getNodePoolNameFromLabels
  split_ifs with hdefault
  · rw [Finmap.lookup_erase]
    exact hdefault.symm
  · rw [Finmap.lookup_insert]
    exact if_neg hname

theorem isSystemSourced_applyTopology (podGroup : PodGroup) (constraint : TopologyConstraint) (systemSourced : Bool) :
    isSystemSourced (applyTopologyToPodGroup podGroup constraint systemSourced) = systemSourced := by
  unfold isSystemSourced applyTopologyToPodGroup Labels.value
  cases systemSourced with
  | true => simp [Finmap.lookup_insert]
  | false =>
    simp only [Bool.false_eq_true, if_false, Finmap.lookup_erase, Option.getD_none, decide_eq_false_iff_not]
    decide

theorem patchAssignment_ok {podGroup after : PodGroup} (h : patchAssignment cfg c podGroup params queue = .ok after)
    (hname : params.nodePoolName ≠ "") :
    getAssignedNodePool cfg after = params.nodePoolName ∧
      getSchedulingBackoffValue after.schedulingBackoff = params.schedulingBackoff ∧
      after.schedulingConditions = podGroup.schedulingConditions := by
  unfold patchAssignment at h
  obtain ⟨⟨topology, sourced⟩, -, h⟩ := bind_ok h
  dsimp only at h
  split at h
  · rename_i hsame
    cases h
    have hparams := congrArg FullNodePoolAssignmentParams.toNodePoolAssignmentParams hsame
    exact ⟨congrArg NodePoolAssignmentParams.nodePoolName hparams,
      congrArg NodePoolAssignmentParams.schedulingBackoff hparams, rfl⟩
  · cases attempt_ok h
    exact ⟨getNodePoolNameFromLabels_update hname, rfl, rfl⟩

/-- Without the conditions that the assigner resets. -/
def cleared (podGroup : PodGroup) : PodGroup :=
  { podGroup with
    schedulingConditions := podGroup.schedulingConditions.filter fun condition =>
      condition.type ≠ .unschedulableOnNodePool }

theorem cleared_conditions
    (h : ∀ condition ∈ podGroup.schedulingConditions, condition.type = .unschedulableOnNodePool) :
    (cleared podGroup).schedulingConditions = [] :=
  List.filter_eq_nil_iff.2 fun condition hmem => by simp [h condition hmem]

theorem removeUnschedulable_ok {podGroup after : PodGroup}
    (h : removeUnschedulableOnNodePoolSchedulingConditionFromStatus c podGroup = .ok after) :
    after = cleared podGroup :=
  (Except.ok.inj (attempt_ok h)).symm

theorem ofWrite_error {podGroup after : PodGroup} {e : RunError}
    (h : Update.ofWrite podGroup result = (.error e, after)) : after = podGroup := by
  unfold Update.ofWrite at h
  split at h
  · cases h
  · exact (congrArg Prod.snd h).symm

theorem ofWrite_ok {podGroup after : PodGroup} (h : Update.ofWrite podGroup result = (.ok (), after)) :
    result = .ok after := by
  unfold Update.ofWrite at h
  split at h
  · exact congrArg Except.ok (congrArg Prod.snd h)
  · cases h

theorem update_failed {podGroup after : PodGroup} {e : RunError}
    (h : updatePodGroupWithAssignment cfg c podGroup params queue = (.error e, after)) :
    after = podGroup ∨ (params.removeUnschedulableOnNodePoolSchedulingCondition = true ∧ after = cleared podGroup) := by
  unfold updatePodGroupWithAssignment at h
  split at h
  · rename_i hreset
    split at h
    · cases h
      exact .inl rfl
    · rename_i patched hpatched
      rw [removeUnschedulable_ok hpatched] at h
      exact .inr ⟨hreset, ofWrite_error h⟩
  · exact .inl (ofWrite_error h)

theorem update_patched {podGroup after : PodGroup}
    (h : updatePodGroupWithAssignment cfg c podGroup params queue = (.ok (), after)) :
    patchAssignment cfg c (if params.removeUnschedulableOnNodePoolSchedulingCondition then cleared podGroup else podGroup)
      params queue = .ok after := by
  unfold updatePodGroupWithAssignment at h
  split_ifs at h ⊢
  · split at h
    · cases h
    · rename_i patched hpatched
      cases removeUnschedulable_ok hpatched
      exact ofWrite_ok h
  · exact ofWrite_ok h

theorem updatePodGroupWithAssignment_ok {podGroup after : PodGroup}
    (h : updatePodGroupWithAssignment cfg c podGroup params queue = (.ok (), after))
    (hname : params.nodePoolName ≠ "") :
    getAssignedNodePool cfg after = params.nodePoolName ∧
      getSchedulingBackoffValue after.schedulingBackoff = params.schedulingBackoff ∧
      after.schedulingConditions =
        if params.removeUnschedulableOnNodePoolSchedulingCondition then
          podGroup.schedulingConditions.filter fun condition => condition.type ≠ .unschedulableOnNodePool
        else podGroup.schedulingConditions := by
  obtain ⟨hassigned, hbackoff, hconditions⟩ := patchAssignment_ok (update_patched h) hname
  refine ⟨hassigned, hbackoff, hconditions.trans ?_⟩
  split_ifs
  · rfl
  · rfl

theorem update_of_topology (hcalls : ∀ call, c.fault call = none)
    (htopology : ∃ topology, desiredNetworkTopology c podGroup params.nodePoolName = .ok topology) (queue : String) :
    ∃ after, updatePodGroupWithAssignment cfg c podGroup params queue = (.ok (), after) := by
  -- If no call fails, only the topology can stop an update.
  obtain ⟨⟨constraint, systemSourced⟩, htopology⟩ := htopology
  have hpatch : ∀ podGroup, desiredNetworkTopology c podGroup params.nodePoolName = .ok (constraint, systemSourced) →
      ∃ after, patchAssignment cfg c podGroup params queue = .ok after := by
    intro podGroup htopology
    simp only [patchAssignment, htopology, bind, Except.bind, Cluster.attempt, hcalls]
    split_ifs
    · exact ⟨_, rfl⟩
    · exact ⟨_, rfl⟩
  unfold updatePodGroupWithAssignment removeUnschedulableOnNodePoolSchedulingConditionFromStatus
  split_ifs
  · rw [Cluster.attempt, hcalls]
    obtain ⟨after, hafter⟩ := hpatch (cleared podGroup) htopology
    exact ⟨after, congrArg (Update.ofWrite _) hafter⟩
  · obtain ⟨after, hafter⟩ := hpatch podGroup htopology
    exact ⟨after, congrArg (Update.ofWrite _) hafter⟩

/-! ## Eligibility -/

theorem isEligibleForNodePoolAssignment_true (h : isEligibleForNodePoolAssignment cfg c podGroup = .ok (true, last)) :
    getSchedulingBackoffValue podGroup.schedulingBackoff ≠ noSchedulingBackoff ∧
      last = getLastSchedulingCondition podGroup ∧
      ∀ condition, last = some condition → condition.nodePool = getAssignedNodePool cfg podGroup ∨
        ∃ nodePool, c.nodePools.get (getAssignedNodePool cfg podGroup) = some nodePool ∧
          isAvailablePhase nodePool.phase = false := by
  unfold isEligibleForNodePoolAssignment at h
  split at h
  · cases h
  · rename_i hbackoff
    refine ⟨hbackoff, ?_⟩
    split at h
    · rename_i hlast
      cases h
      refine ⟨hlast.symm, fun _ h => ?_⟩
      cases h
    · rename_i condition hlast
      dsimp only at h
      split at h
      · obtain ⟨available, havailable, h⟩ := bind_ok h
        obtain ⟨hnot, rfl⟩ := Prod.mk.inj (Except.ok.inj h)
        refine ⟨hlast.symm, fun _ _ => .inr ?_⟩
        rw [Bool.not_eq_true'] at hnot
        exact hnot ▸ isNodePoolAvailableForScheduling_ok havailable
      · rename_i hsame
        cases h
        refine ⟨hlast.symm, fun _ hcondition => .inl ?_⟩
        cases hcondition
        exact not_not.1 hsame

theorem isEligibleForNodePoolAssignment_false (h : isEligibleForNodePoolAssignment cfg c podGroup = .ok (false, last)) :
    isPodGroupUpForScheduler cfg podGroup = true := by
  unfold isEligibleForNodePoolAssignment at h
  unfold isPodGroupUpForScheduler
  split at h
  · rename_i hbackoff
    rw [if_pos hbackoff]
  · rename_i hbackoff
    rw [if_neg hbackoff]
    split at h
    · cases h
    · rename_i condition hlast
      dsimp only at h ⊢
      split at h
      · rename_i hother
        exact decide_eq_true hother
      · cases h

/-- A project's namespace, or none is taken for anything else. -/
def InProject (cfg : PodGroupAssignerConfig) (c : Cluster) (name : String) : Prop :=
  cfg.allowExternalQueues → ∃ namespaceObj, c.namespaces.get name = some namespaceObj ∧
    namespaceObj.labels.value cfg.namespaceProjectLabelKey ≠ "" ∧
    namespaceObj.labels.value cfg.namespaceProjectLabelKey ∈ c.projects

theorem isExternalNamespace_of_inProject {external : Bool} (h : InProject cfg c name)
    (hexternal : isExternalNamespace cfg c name = .ok external) : external = false := by
  unfold isExternalNamespace at hexternal
  split at hexternal
  · exact (Except.ok.inj hexternal).symm
  · rename_i hallow
    obtain ⟨namespaceObj, hget, hlabel, hproject⟩ := h (by simpa using hallow)
    unfold Cluster.getNamespace Cluster.getProject Cluster.attempt Cluster.found Lib.found at hexternal
    rw [hget] at hexternal
    -- A call that fails does not fail with "not found", and what is there is found.
    cases hnamespace : c.fault .externalNamespace with
    | some message =>
      rw [hnamespace] at hexternal
      cases hexternal
    | none =>
      rw [hnamespace] at hexternal
      dsimp only at hexternal
      rw [if_neg hlabel, if_pos hproject] at hexternal
      cases hfault : c.fault .externalProject with
      | some message =>
        rw [hfault] at hexternal
        cases hexternal
      | none =>
        rw [hfault] at hexternal
        exact (Except.ok.inj hexternal).symm

theorem upForAssignment_some {pods : List Pod} (h : upForAssignment cfg c podGroup = .ok (some (pods, last))) :
    isEligibleForNodePoolAssignment cfg c podGroup = .ok (true, last) ∧ pods = podsOfGroup c podGroup ∧
      ∃ pod ∈ podsOfGroup c podGroup, isPodBoundToNode pod = false := by
  unfold upForAssignment at h
  obtain ⟨external, -, h⟩ := bind_ok h
  split at h
  · cases h
  · obtain ⟨⟨eligible, condition⟩, heligible, h⟩ := bind_ok h
    dsimp only at h
    split at h
    · cases h
    · rename_i htrue
      obtain ⟨listed, hlisted, h⟩ := bind_ok h
      have hpods : podsOfGroup c podGroup = listed := Except.ok.inj (attempt_ok hlisted)
      split at h
      · cases h
      · split at h
        · cases h
        · rename_i hunbound
          cases h
          refine ⟨?_, hpods.symm, ?_⟩
          · rw [heligible]
            simpa using htrue
          · rw [hpods]
            simpa [isEligibleForAssignmentByPods] using hunbound

theorem upForAssignment_internal {found : List Pod × Option SchedulingCondition}
    (h : upForAssignment cfg c podGroup = .ok (some found)) :
    isExternalNamespace cfg c podGroup.namespaceName = .ok false := by
  obtain ⟨external, hexternal, h⟩ := bind_ok h
  cases external with
  | true => cases h
  | false => exact hexternal

theorem upForAssignment_of_eligible (hexternal : isExternalNamespace cfg c podGroup.namespaceName = .ok false)
    (heligible : isEligibleForNodePoolAssignment cfg c podGroup = .ok (true, last)) (hcall : c.fault .pods = none)
    (hunbound : ∃ pod ∈ podsOfGroup c podGroup, isPodBoundToNode pod = false) :
    upForAssignment cfg c podGroup = .ok (some (podsOfGroup c podGroup, last)) := by
  have hpods : getPodGroupPods c podGroup = .ok (podsOfGroup c podGroup) := by
    simp [getPodGroupPods, Cluster.attempt, hcall]
  obtain ⟨pod, hpod, hfree⟩ := hunbound
  have hany : isEligibleForAssignmentByPods (podsOfGroup c podGroup) = true :=
    List.any_eq_true.2 ⟨pod, hpod, by simp [hfree]⟩
  have hsome : (podsOfGroup c podGroup).isEmpty = false := by
    rw [List.isEmpty_eq_false_iff]
    exact List.ne_nil_of_mem hpod
  simp [upForAssignment, hexternal, heligible, hpods, hany, hsome, bind, Except.bind, pure, Except.pure]

theorem upForAssignment_of_ineligible (hexternal : isExternalNamespace cfg c podGroup.namespaceName = .ok false)
    (heligible : isEligibleForNodePoolAssignment cfg c podGroup = .ok (false, last)) :
    upForAssignment cfg c podGroup = .ok none := by
  simp [upForAssignment, hexternal, heligible, bind, Except.bind, pure, Except.pure]

theorem upForAssignment_none (h : upForAssignment cfg c podGroup = .ok none) :
    isExternalNamespace cfg c podGroup.namespaceName = .ok true ∨ isPodGroupUpForScheduler cfg podGroup = true ∨
      ∀ pod ∈ podsOfGroup c podGroup, isPodBoundToNode pod = true := by
  unfold upForAssignment at h
  obtain ⟨external, hexternal, h⟩ := bind_ok h
  split at h
  · rename_i htrue
    exact .inl (htrue ▸ hexternal)
  · obtain ⟨⟨eligible, condition⟩, heligible, h⟩ := bind_ok h
    dsimp only at h
    split at h
    · rename_i hfalse
      rw [Bool.not_eq_true'] at hfalse
      exact .inr (.inl (isEligibleForNodePoolAssignment_false (hfalse ▸ heligible)))
    · obtain ⟨listed, hlisted, h⟩ := bind_ok h
      have hpods : podsOfGroup c podGroup = listed := Except.ok.inj (attempt_ok hlisted)
      split at h
      · cases h
      · split at h
        · rename_i hbound
          rw [hpods]
          exact .inr (.inr (by simpa [isEligibleForAssignmentByPods] using hbound))
        · cases h

/-! ## Runs -/

/-- What a run has found out when it comes to its writes. -/
structure Decided (cfg : PodGroupAssignerConfig) (c : Cluster) (lists : NodePoolLists) (podGroup : PodGroup)
    (last : Option SchedulingCondition) (requested : List String) (params : NodePoolAssignmentParams) (queue : String) :
    Prop where
  up : upForAssignment cfg c podGroup = .ok (some (podsOfGroup c podGroup, last))
  requested_eq : (getRequestedNodePoolsForPodGroup cfg c lists podGroup (podsOfGroup c podGroup)).1 = .ok requested
  params_eq : getNodePoolAssignmentParams c podGroup.markUnschedulable last (getAssignedNodePool cfg podGroup) requested =
    .ok params
  queue_eq : calculatePodGroupQueueNameOfNodePool cfg c podGroup params.nodePoolName = .ok queue

section

variable {lists : NodePoolLists} {podGroup : PodGroup}

/-- The end of a run, from the requested node pools on. -/
def runRequested (cfg : PodGroupAssignerConfig) (c : Cluster) (podGroup : PodGroup) (last : Option SchedulingCondition) :
    Except RunError (List String) → Update
  | .error e => (.error e, podGroup)
  | .ok requested =>
    match getNodePoolAssignmentParams c podGroup.markUnschedulable last (getAssignedNodePool cfg podGroup) requested with
    | .error e => (.error e, podGroup)
    | .ok params => assignToNodePool cfg c podGroup params

variable (cfg c lists podGroup) in
theorem run_eq : run cfg c lists podGroup =
    match upForAssignment cfg c podGroup with
    | .error e => ((.error e, podGroup), lists)
    | .ok none => ((.ok (), podGroup), lists)
    | .ok (some (_, last)) =>
      let requested := getRequestedNodePoolsForPodGroup cfg c lists podGroup (podsOfGroup c podGroup)
      (runRequested cfg c podGroup last requested.1, requested.2) := by
  unfold run
  rcases hup : upForAssignment cfg c podGroup with e | _ | ⟨pods, last⟩
  · rfl
  · rfl
  · obtain ⟨-, rfl, -⟩ := upForAssignment_some hup
    dsimp only [handleNodePoolAssignment, runRequested]
    rcases getRequestedNodePoolsForPodGroup cfg c lists podGroup (podsOfGroup c podGroup) with ⟨_ | requested, kept⟩
    · rfl
    · dsimp only
      cases getNodePoolAssignmentParams c podGroup.markUnschedulable last (getAssignedNodePool cfg podGroup) requested <;> rfl

theorem Decided.run_eq {last : Option SchedulingCondition} {requested : List String} {params : NodePoolAssignmentParams}
    {queue : String} (h : Decided cfg c lists podGroup last requested params queue) :
    run cfg c lists podGroup = (updatePodGroupWithAssignment cfg c podGroup params queue,
      (getRequestedNodePoolsForPodGroup cfg c lists podGroup (podsOfGroup c podGroup)).2) := by
  simp only [PodGroups.run_eq, h.up, runRequested, h.requested_eq, h.params_eq, assignToNodePool, h.queue_eq]

/-- A run that does not come to its writes leaves the pod group as it is. -/
theorem run_cases (cfg : PodGroupAssignerConfig) (c : Cluster) (lists : NodePoolLists) (podGroup : PodGroup) :
    (∃ last requested params queue, Decided cfg c lists podGroup last requested params queue) ∨
      ((run cfg c lists podGroup).1.2 = podGroup ∧
        ((run cfg c lists podGroup).1.1 = .ok () → upForAssignment cfg c podGroup = .ok none)) := by
  rw [run_eq]
  split
  · exact .inr ⟨rfl, nofun⟩
  · exact .inr ⟨rfl, fun _ => by assumption⟩
  · rename_i last hup
    obtain ⟨-, rfl, -⟩ := upForAssignment_some hup
    dsimp only [runRequested]
    cases hrequested : (getRequestedNodePoolsForPodGroup cfg c lists podGroup (podsOfGroup c podGroup)).1 with
    | error e => exact .inr ⟨rfl, nofun⟩
    | ok requested =>
      cases hparams : getNodePoolAssignmentParams c podGroup.markUnschedulable last (getAssignedNodePool cfg podGroup)
          requested with
      | error e =>
        simp only [hparams]
        exact .inr ⟨trivial, nofun⟩
      | ok params =>
        cases hqueue : calculatePodGroupQueueNameOfNodePool cfg c podGroup params.nodePoolName with
        | error e =>
          simp only [hparams, assignToNodePool, hqueue]
          exact .inr ⟨trivial, nofun⟩
        | ok queue => exact .inl ⟨last, requested, params, queue, hup, hrequested, hparams, hqueue⟩

/-- A run that fails has written nothing, or cleared the conditions. -/
theorem run_failed {e : RunError} (h : (run cfg c lists podGroup).1.1 = .error e) :
    (run cfg c lists podGroup).1.2 = podGroup ∨
      ∃ last requested params queue, Decided cfg c lists podGroup last requested params queue ∧
        params.removeUnschedulableOnNodePoolSchedulingCondition = true ∧
        (run cfg c lists podGroup).1.2 = cleared podGroup := by
  rcases run_cases cfg c lists podGroup with ⟨last, requested, params, queue, hdecided⟩ | ⟨hsame, -⟩
  · rw [hdecided.run_eq] at h ⊢
    rcases update_failed (Prod.ext h rfl) with hsame | ⟨hreset, hcleared⟩
    · exact .inl hsame
    · exact .inr ⟨last, requested, params, queue, hdecided, hreset, hcleared⟩
  · exact .inl hsame

theorem run_error {e : RunError} (h : (run cfg c lists podGroup).1.1 = .error e) :
    getAssignedNodePool cfg (run cfg c lists podGroup).1.2 = getAssignedNodePool cfg podGroup := by
  rcases run_failed h with hsame | ⟨-, -, -, -, -, -, hcleared⟩
  · rw [hsame]
  · rw [hcleared]
    rfl

theorem run_ok (h : (run cfg c lists podGroup).1.1 = .ok ()) :
    (upForAssignment cfg c podGroup = .ok none ∧ (run cfg c lists podGroup).1.2 = podGroup) ∨
      ∃ pods last requested params queue, upForAssignment cfg c podGroup = .ok (some (pods, last)) ∧
        (getRequestedNodePoolsForPodGroup cfg c lists podGroup pods).1 = .ok requested ∧
        Picked c last (getAssignedNodePool cfg podGroup) requested params ∧
        updatePodGroupWithAssignment cfg c podGroup params queue = (.ok (), (run cfg c lists podGroup).1.2) := by
  rcases run_cases cfg c lists podGroup with ⟨last, requested, params, queue, hdecided⟩ | ⟨hsame, hnothing⟩
  · refine .inr ⟨_, last, requested, params, queue, hdecided.up, hdecided.requested_eq,
      getNodePoolAssignmentParams_ok hdecided.params_eq, ?_⟩
    rw [hdecided.run_eq] at h ⊢
    exact Prod.ext h rfl
  · exact .inl ⟨hnothing h, hsame⟩

end

end

end Krm.PodGroups
