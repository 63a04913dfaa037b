import Krm.PodGroups.Again
import Krm.PodGroups.Faults

/-! # Running again after a failure -/

open Krm.Lib

namespace Krm.PodGroups

section

variable {cfg : PodGroupAssignerConfig} {c : Cluster} {lists : NodePoolLists} {podGroup : PodGroup}

/-! ## The lists that a run has found -/

theorem getRequestedNodePoolsForPodGroup_healed {pods : List Pod} :
    Within (getRequestedNodePoolsForPodGroup cfg c lists podGroup pods).1
      (getRequestedNodePoolsForPodGroup cfg c.healed lists podGroup pods).1 := by
  rw [getRequestedNodePoolsForPodGroup_fst, getRequestedNodePoolsForPodGroup_fst]
  split
  · exact .refl _
  · exact getRequestedNodePoolsOfPods_healed cfg c podGroup pods

theorem run_lists : (run cfg c lists podGroup).2 = lists ∨
    ∃ requested, (getRequestedNodePoolsForPodGroup cfg c lists podGroup (podsOfGroup c podGroup)).1 = .ok requested ∧
      (run cfg c lists podGroup).2 =
        (getRequestedNodePoolsForPodGroup cfg c lists podGroup (podsOfGroup c podGroup)).2 := by
  rw [run_eq]
  split
  · exact .inl rfl
  · exact .inl rfl
  · dsimp only
    cases hrequested : (getRequestedNodePoolsForPodGroup cfg c lists podGroup (podsOfGroup c podGroup)).1 with
    | error e =>
      left
      rw [getRequestedNodePoolsForPodGroup_snd, hrequested]
    | ok requested => exact .inr ⟨requested, rfl, rfl⟩

theorem requested_after_run {after : PodGroup} (huid : after.uid = podGroup.uid)
    (hsame : (getRequestedNodePoolsForPodGroup cfg c.healed lists after (podsOfGroup c.healed after)).1 =
      (getRequestedNodePoolsForPodGroup cfg c.healed lists podGroup (podsOfGroup c.healed podGroup)).1) :
    (getRequestedNodePoolsForPodGroup cfg c.healed (run cfg c lists podGroup).2 after (podsOfGroup c.healed after)).1 =
      (getRequestedNodePoolsForPodGroup cfg c.healed lists after (podsOfGroup c.healed after)).1 := by
  rcases run_lists with hlists | ⟨requested, hrequested, hlists⟩
  · rw [hlists]
  · rw [hlists, hsame, getRequestedNodePoolsForPodGroup_again hrequested huid]
    exact (getRequestedNodePoolsForPodGroup_healed requested hrequested).symm

theorem run_congr_lists {lists' : NodePoolLists}
    (h : (getRequestedNodePoolsForPodGroup cfg c lists podGroup (podsOfGroup c podGroup)).1 =
      (getRequestedNodePoolsForPodGroup cfg c lists' podGroup (podsOfGroup c podGroup)).1) :
    (run cfg c lists podGroup).1 = (run cfg c lists' podGroup).1 := by
  rw [run_eq, run_eq]
  rcases upForAssignment cfg c podGroup with e | _ | ⟨-, last⟩
  · rfl
  · rfl
  · exact congrArg (runRequested cfg c podGroup last) h

/-! ## Deciding without the conditions -/

theorem cleared_cleared (podGroup : PodGroup) : cleared (cleared podGroup) = cleared podGroup := by
  unfold cleared
  simp

theorem update_eq (hcalls : ∀ call, c.fault call = none) (params : NodePoolAssignmentParams) (queue : String) :
    updatePodGroupWithAssignment cfg c podGroup params queue =
      Update.ofWrite (if params.removeUnschedulableOnNodePoolSchedulingCondition then cleared podGroup else podGroup)
        (patchAssignment cfg c
          (if params.removeUnschedulableOnNodePoolSchedulingCondition then cleared podGroup else podGroup) params queue) := by
  unfold updatePodGroupWithAssignment
  split_ifs
  · rw [removeUnschedulableOnNodePoolSchedulingConditionFromStatus, Cluster.attempt, hcalls]
    rfl
  · rfl

theorem patchAssignment_congr {params params' : NodePoolAssignmentParams}
    (hname : params'.nodePoolName = params.nodePoolName) (hmark : params'.markUnschedulable = params.markUnschedulable)
    (hbackoff : params'.schedulingBackoff = params.schedulingBackoff) (queue : String) :
    patchAssignment cfg c podGroup params' queue = patchAssignment cfg c podGroup params queue := by
  cases params
  cases params'
  subst hname hmark hbackoff
  unfold patchAssignment previousParams
  simp only [FullNodePoolAssignmentParams.mk.injEq, NodePoolAssignmentParams.mk.injEq]
  rfl

theorem getNodePoolAssignmentParams_congr {mark : Option Bool} {last last' : SchedulingCondition} {assigned : String}
    {requested : List String} (h : last'.nodePool = last.nodePool) :
    getNodePoolAssignmentParams c mark (some last') assigned requested =
      getNodePoolAssignmentParams c mark (some last) assigned requested := by
  unfold getNodePoolAssignmentParams calculateNodePoolAssignmentParams getInitialNodePoolAssignmentParams
  simp only [h, Option.any_some]

/-- Without the cleared conditions it is decided alike, or nothing is to be written. -/
def DecidesAlike (cfg : PodGroupAssignerConfig) (c : Cluster) (podGroup : PodGroup) (requested : List String)
    (params : NodePoolAssignmentParams) (queue : String) : Prop :=
  (∃ last params', isEligibleForNodePoolAssignment cfg c (cleared podGroup) = .ok (true, last) ∧
    getNodePoolAssignmentParams c podGroup.markUnschedulable last (getAssignedNodePool cfg podGroup) requested = .ok params' ∧
    params'.nodePoolName = params.nodePoolName ∧ params'.markUnschedulable = params.markUnschedulable) ∨
  ((∃ last, isEligibleForNodePoolAssignment cfg c (cleared podGroup) = .ok (false, last)) ∧
    AsWanted cfg c podGroup params queue ∧
    getMarkUnschedulableValue podGroup.markUnschedulable = params.markUnschedulable)

namespace Decided

variable {last last' : Option SchedulingCondition} {requested : List String} {params params' : NodePoolAssignmentParams}
  {queue : String} {lists' : NodePoolLists} (h : Decided cfg c lists podGroup last requested params queue)

include h

theorem healed : Decided cfg c.healed lists podGroup last requested params queue :=
  ⟨upForAssignment_healed cfg c podGroup _ h.up, getRequestedNodePoolsForPodGroup_healed _ h.requested_eq,
    getNodePoolAssignmentParams_healed c _ _ _ _ _ h.params_eq,
    calculatePodGroupQueueNameOfNodePool_healed cfg c _ _ _ h.queue_eq⟩

theorem available : c.available params.nodePoolName := by
  obtain ⟨nodePool, hget, hphase⟩ := (getNodePoolAssignmentParams_ok h.params_eq).available
  rw [Cluster.available, hget]
  exact hphase

theorem internal : isExternalNamespace cfg c (cleared podGroup).namespaceName = .ok false := by
  have hinternal := upForAssignment_internal h.up
  exact hinternal

variable (hcalls : ∀ call, c.fault call = none)
  (hlists : (getRequestedNodePoolsForPodGroup cfg c lists' (cleared podGroup) (podsOfGroup c (cleared podGroup))).1 =
    .ok requested)
  (hreset : params.removeUnschedulableOnNodePoolSchedulingCondition = true)
include hcalls

include hreset in
theorem run_cleared :
    (run cfg c lists podGroup).1 =
      Update.ofWrite (cleared podGroup) (patchAssignment cfg c (cleared podGroup) params queue) := by
  rw [h.run_eq, update_eq hcalls, if_pos hreset]

include hlists in
theorem without (heligible : isEligibleForNodePoolAssignment cfg c (cleared podGroup) = .ok (true, last'))
    (hparams : getNodePoolAssignmentParams c podGroup.markUnschedulable last' (getAssignedNodePool cfg podGroup) requested =
      .ok params') (hname : params'.nodePoolName = params.nodePoolName) :
    Decided cfg c lists' (cleared podGroup) last' requested params' queue := by
  obtain ⟨-, -, hunbound⟩ := upForAssignment_some h.up
  refine ⟨upForAssignment_of_eligible h.internal heligible (hcalls _) hunbound, hlists, hparams, ?_⟩
  rw [hname]
  exact h.queue_eq

include hreset in
theorem without_of_asWanted (hwanted : AsWanted cfg c podGroup params queue)
    (heligible : isEligibleForNodePoolAssignment cfg c (cleared podGroup) = .ok (true, last')) :
    ∃ params', getNodePoolAssignmentParams c podGroup.markUnschedulable last' (getAssignedNodePool cfg podGroup) requested =
      .ok params' ∧ params'.nodePoolName = params.nodePoolName := by
  have hpicked := getNodePoolAssignmentParams_ok h.params_eq
  obtain ⟨hmany, condition, rfl, hagain⟩ := hpicked.resets.1 hreset
  cases last' with
  | none =>
    rw [hwanted.nodePool]
    exact ⟨_, getNodePoolAssignmentParams_stays hcalls _ hpicked.mem h.available hmany, rfl⟩
  | some condition' =>
    refine ⟨params, ?_, rfl⟩
    rw [← h.params_eq]
    apply getNodePoolAssignmentParams_congr
    rcases (isEligibleForNodePoolAssignment_true heligible).2.2 condition' rfl with hsame | ⟨nodePool, hget, hphase⟩
    · exact hsame.trans (hwanted.nodePool.trans hagain)
    · have havailable := h.available
      rw [← hwanted.nodePool, Cluster.available] at havailable
      rw [show c.nodePools.get (getAssignedNodePool cfg podGroup) = some nodePool from hget, Option.any_some, hphase]
        at havailable
      cases havailable

include hlists hreset in
theorem retry_of_alike (halike : DecidesAlike cfg c podGroup requested params queue) :
    (run cfg c lists' (cleared podGroup)).1.2 = (run cfg c lists podGroup).1.2 := by
  rw [h.run_cleared hcalls hreset]
  rcases halike with ⟨last', params', heligible, hparams, hname, hmark⟩ | ⟨⟨last', heligible⟩, hwanted, hmark⟩
  · have hbackoff := (getNodePoolAssignmentParams_ok hparams).backoff.trans
      (getNodePoolAssignmentParams_ok h.params_eq).backoff.symm
    rw [(h.without hcalls hlists heligible hparams hname).run_eq, update_eq hcalls, cleared_cleared, ite_self,
      patchAssignment_congr hname hmark hbackoff]
  · have hup := upForAssignment_of_ineligible h.internal heligible
    rw [run, hup, (asWanted_cleared.2 hwanted).patchAssignment hmark]
    rfl

include hreset in
/-- The retry stores what the first run would have stored. -/
theorem alike_of_decided {after : PodGroup}
    (hpatch : patchAssignment cfg c (cleared podGroup) params queue = .ok after) {queue' : String}
    (hagain : Decided cfg c lists' (cleared podGroup) last' requested params' queue')
    (hsame : (run cfg c lists' (cleared podGroup)).1.2 = after) :
    DecidesAlike cfg c podGroup requested params queue := by
  have heligible := (upForAssignment_some hagain.up).1
  have hplaced := placed_of_patch hpatch (getNodePoolAssignmentParams_ok h.params_eq).name_ne
  rw [hagain.run_eq, update_eq hcalls, cleared_cleared, ite_self] at hsame
  refine .inl ⟨last', params', heligible, hagain.params_eq, ?_⟩
  cases hpatch' : patchAssignment cfg c (cleared podGroup) params' queue' with
  | ok after' =>
    rw [hpatch'] at hsame
    obtain rfl : after' = after := hsame
    have hplaced' := placed_of_patch hpatch' (getNodePoolAssignmentParams_ok hagain.params_eq).name_ne
    refine ⟨hplaced'.nodePool.symm.trans hplaced.nodePool, ?_⟩
    rcases hplaced.mark with hmark | ⟨hleft, hmark⟩ <;> rcases hplaced'.mark with hmark' | ⟨hleft', hmark'⟩
    · exact Option.some.inj (hmark'.symm.trans hmark)
    · rw [← hmark', ← hleft', hmark]
      rfl
    · rw [← hmark, ← hleft, hmark']
      rfl
    · exact hmark'.symm.trans hmark
  | error e =>
    -- a patch that fails leaves what the first run had nothing to add to, so the topology was there
    rw [hpatch'] at hsame
    obtain rfl : cleared podGroup = after := hsame
    have hwanted := asWanted_cleared.1 hplaced.toAsWanted
    obtain ⟨params'', hparams, hname⟩ := h.without_of_asWanted hcalls hreset hwanted heligible
    cases hparams.symm.trans hagain.params_eq
    have htopology : ∃ topology, desiredNetworkTopology c (cleared podGroup) params'.nodePoolName = .ok topology :=
      ⟨_, hname ▸ hplaced.topology⟩
    obtain ⟨after, hafter⟩ := update_of_topology hcalls htopology queue'
    rw [update_eq hcalls, cleared_cleared, ite_self, hpatch'] at hafter
    cases hafter

include hlists hreset in
theorem alike_of_retry (hok : (run cfg c lists podGroup).1.1 = .ok ())
    (hsame : (run cfg c lists' (cleared podGroup)).1.2 = (run cfg c lists podGroup).1.2) :
    DecidesAlike cfg c podGroup requested params queue := by
  rw [h.run_cleared hcalls hreset] at hok hsame
  cases hpatch : patchAssignment cfg c (cleared podGroup) params queue with
  | error e =>
    rw [hpatch] at hok
    cases hok
  | ok after =>
    rw [hpatch] at hsame
    rcases run_cases cfg c lists' (cleared podGroup) with ⟨last', requested', params', queue', hagain⟩ | ⟨hleft, -⟩
    · cases hlists.symm.trans hagain.requested_eq
      exact h.alike_of_decided hcalls hreset hpatch hagain hsame
    · -- the retry leaves the pod group, so there was nothing to write
      obtain rfl : after = cleared podGroup := hsame.symm.trans hleft
      have hplaced := placed_of_patch hpatch (getNodePoolAssignmentParams_ok h.params_eq).name_ne
      have hwanted := asWanted_cleared.1 hplaced.toAsWanted
      cases heligible : isEligibleForNodePoolAssignment cfg c (cleared podGroup) with
      | error e =>
        -- the pool just picked is available, and no other read can fail
        have havailable := h.available
        rw [← hplaced.nodePool] at havailable
        unfold isEligibleForNodePoolAssignment at heligible
        simp only [isNodePoolAvailableForScheduling_eq hcalls, havailable, Bool.not_true, Bool.and_false,
          Bool.false_eq_true, if_false, bind, Except.bind] at heligible
        split_ifs at heligible
        split at heligible
        · cases heligible
        · split_ifs at heligible
      | ok found =>
        obtain ⟨eligible, last'⟩ := found
        cases eligible with
        | true =>
          obtain ⟨params', hparams, hname⟩ := h.without_of_asWanted hcalls hreset hwanted heligible
          exact h.alike_of_decided hcalls hreset hpatch (h.without hcalls hlists heligible hparams hname) hsame
        | false =>
          refine .inr ⟨⟨last', heligible⟩, hwanted, ?_⟩
          rcases hplaced.mark with hmark | ⟨-, hmark⟩
          · rw [show podGroup.markUnschedulable = some params.markUnschedulable from hmark]
            rfl
          · exact hmark

end Decided

/-! ## The retry -/

/-- A failure after the clearing patch leaves the decision alike. -/
def RetrySafe (cfg : PodGroupAssignerConfig) (c : Cluster) (lists : NodePoolLists) (podGroup : PodGroup) : Prop :=
  ∀ last requested params queue, Decided cfg c lists podGroup last requested params queue →
    params.removeUnschedulableOnNodePoolSchedulingCondition = true → c.fault .patchStatus = none →
    DecidesAlike cfg c.healed podGroup requested params queue

theorem run_failed_after_clearing {last : Option SchedulingCondition} {requested : List String}
    {params : NodePoolAssignmentParams} {queue : String} {e : RunError}
    (h : Decided cfg c lists podGroup last requested params queue)
    (hreset : params.removeUnschedulableOnNodePoolSchedulingCondition = true) (hcall : c.fault .patchStatus = none)
    (hfails : (run cfg c lists podGroup).1.1 = .error e) : (run cfg c lists podGroup).1.2 = cleared podGroup := by
  rw [h.run_eq, updatePodGroupWithAssignment, if_pos hreset, removeUnschedulableOnNodePoolSchedulingConditionFromStatus,
    Cluster.attempt, hcall] at hfails ⊢
  exact ofWrite_error (Prod.ext hfails rfl)

theorem run_failed_before_clearing {e : RunError} (hfails : (run cfg c lists podGroup).1.1 = .error e)
    (hnone : ∀ last requested params queue, Decided cfg c lists podGroup last requested params queue →
      params.removeUnschedulableOnNodePoolSchedulingCondition = true → c.fault .patchStatus ≠ none) :
    (run cfg c lists podGroup).1.2 = podGroup := by
  rcases run_cases cfg c lists podGroup with ⟨last, requested, params, queue, hdecided⟩ | ⟨hsame, -⟩
  · rw [hdecided.run_eq, updatePodGroupWithAssignment] at hfails ⊢
    split_ifs at hfails ⊢ with hreset
    · obtain ⟨message, hfault⟩ := Option.ne_none_iff_exists'.1 (hnone _ _ _ _ hdecided hreset)
      rw [removeUnschedulableOnNodePoolSchedulingConditionFromStatus, attempt_of_fault c hfault]
    · exact ofWrite_error (Prod.ext hfails rfl)
  · exact hsame

/-- A retry stores what the first run would have, if it decides alike without the cleared conditions. -/
theorem retry_stores_the_same_iff {e : RunError} (hfails : (run cfg c lists podGroup).1.1 = .error e) :
    (RetrySafe cfg c lists podGroup →
      (run cfg c.healed (run cfg c lists podGroup).2 (run cfg c lists podGroup).1.2).1.2 =
        (run cfg c.healed lists podGroup).1.2) ∧
    ((run cfg c.healed lists podGroup).1.1 = .ok () →
      (run cfg c.healed (run cfg c lists podGroup).2 (run cfg c lists podGroup).1.2).1.2 =
        (run cfg c.healed lists podGroup).1.2 →
      RetrySafe cfg c lists podGroup) := by
  have hlists : ∀ {last requested params queue}, Decided cfg c lists podGroup last requested params queue →
      (getRequestedNodePoolsForPodGroup cfg c.healed (run cfg c lists podGroup).2 (cleared podGroup)
        (podsOfGroup c.healed (cleared podGroup))).1 = .ok requested := fun hdecided =>
    (requested_after_run rfl rfl).trans hdecided.healed.requested_eq
  constructor
  · intro hsafe
    by_cases hafter : ∃ last requested params queue, Decided cfg c lists podGroup last requested params queue ∧
        params.removeUnschedulableOnNodePoolSchedulingCondition = true ∧ c.fault .patchStatus = none
    · obtain ⟨last, requested, params, queue, hdecided, hreset, hcall⟩ := hafter
      rw [run_failed_after_clearing hdecided hreset hcall hfails]
      exact hdecided.healed.retry_of_alike (fun _ => rfl) (hlists hdecided) hreset
        (hsafe last requested params queue hdecided hreset hcall)
    · have hbefore := run_failed_before_clearing hfails fun last requested params queue hdecided hreset hcall =>
        hafter ⟨last, requested, params, queue, hdecided, hreset, hcall⟩
      rw [hbefore, run_congr_lists (requested_after_run rfl rfl)]
  · intro hok hsame last requested params queue hdecided hreset hcall
    rw [run_failed_after_clearing hdecided hreset hcall hfails] at hsame
    exact hdecided.healed.alike_of_retry (fun _ => rfl) (hlists hdecided) hreset hok hsame

end

namespace Sample

/-- The patch of the spec fails, after that of the status. -/
def failingPatch : Cluster :=
  { cluster .unschedulable with fault := fun call => if call = .patch then some "conflict" else none }

/-- On the only node pool that is available, with the queue of another one. -/
def misplaced (mark : Bool) : PodGroup := { podGroup with markUnschedulable := some mark, queue := "q-infer" }

end Sample

open Sample in
theorem marked_pod_group_retried :
    (run config failingPatch.healed (run config failingPatch (fun _ => none) (misplaced true)).2
      (run config failingPatch (fun _ => none) (misplaced true)).1.2).1.2 =
      (run config failingPatch.healed (fun _ => none) (misplaced true)).1.2 := by
  have hsafe : RetrySafe config failingPatch (fun _ => none) (misplaced true) := by
    intro last requested params queue hdecided _ _
    obtain rfl : ["train", "infer"] = requested := Except.ok.inj hdecided.requested_eq
    obtain rfl := (isEligibleForNodePoolAssignment_true (upForAssignment_some hdecided.up).1).2.1
    obtain rfl := Except.ok.inj hdecided.params_eq
    exact .inl ⟨none, _, rfl, rfl, rfl, rfl⟩
  exact (retry_stores_the_same_iff rfl).1 hsafe

open Sample in
/-- The retry does not see that the last node pool was tried. -/
theorem unmarked_pod_group_retried :
    (run config failingPatch (fun _ => none) (misplaced false)).1.1 = .error (.api (.failed "conflict")) ∧
    (run config failingPatch.healed (fun _ => none) (misplaced false)).1.2.markUnschedulable = some true ∧
    (run config failingPatch.healed (run config failingPatch (fun _ => none) (misplaced false)).2
      (run config failingPatch (fun _ => none) (misplaced false)).1.2).1.2.markUnschedulable = some false :=
  ⟨rfl, rfl, rfl⟩

end Krm.PodGroups
