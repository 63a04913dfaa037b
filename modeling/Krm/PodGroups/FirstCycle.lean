import Krm.PodGroups.Again
import Krm.PodGroups.Faults
import Krm.PodGroups.RoundRobin

/-! # A pod group that no node pool takes is marked

Rounds of a run and the scheduler giving up on the node pool that was assigned, while node pools become available and
unavailable. -/

open Krm.Lib

namespace Krm.PodGroups

/-! ## Rounds -/

/-- The node pool that a run assigns, if it comes to that. -/
def assigns (cfg : PodGroupAssignerConfig) (c : Cluster) (lists : NodePoolLists) (podGroup : PodGroup) : Option String :=
  match upForAssignment cfg c podGroup, (run cfg c lists podGroup).1 with
  | .ok (some _), (.ok (), after) => some (getAssignedNodePool cfg after)
  | _, _ => none

/-- The pod group, and the node pools that it has been assigned to so far. -/
structure Tried where
  podGroup : PodGroup
  assigned : List String

/-- After a run that succeeds the scheduler gives up. -/
def Tried.round (cfg : PodGroupAssignerConfig) (s : Tried) (env : Cluster × NodePoolLists) : Tried where
  podGroup :=
    match (run cfg env.1 env.2 s.podGroup).1 with
    | (.ok (), after) => unschedulableOnNodePool cfg after
    | (.error _, after) => after
  assigned := s.assigned ++ (assigns cfg env.1 env.2 s.podGroup).toList

/-- No call fails, and the requested node pools and topologies stay. -/
structure Steady (cfg : PodGroupAssignerConfig) (base : Cluster) (requestedNodePools : List String) (s : Tried)
    (env : Cluster × NodePoolLists) : Prop where
  calls : ∀ call, env.1.fault call = none
  requested : ∀ found, (getRequestedNodePoolsForPodGroup cfg env.1 env.2 s.podGroup (podsOfGroup env.1 s.podGroup)).1 =
    .ok found → found = requestedNodePools
  preferred : ∀ name, (env.1.nodePools.get name).map NodePool.preferredNetworkTopologyName =
    (base.nodePools.get name).map NodePool.preferredNetworkTopologyName
  topologies : env.1.topologies = base.topologies

section

variable {cfg : PodGroupAssignerConfig} {c base : Cluster} {lists : NodePoolLists} {podGroup after : PodGroup}
  {requested : List String} {s : Tried} {env : Cluster × NodePoolLists}

/-! ## What a run leaves behind -/

variable {queue : String} {params : NodePoolAssignmentParams} {last : Option SchedulingCondition}

theorem mark_of_patch {mark : Bool} (h : Placed cfg c podGroup params queue after)
    (hmark : podGroup.markUnschedulable = some mark) : after.markUnschedulable = some params.markUnschedulable := by
  rcases h.mark with hwritten | ⟨rfl, hsame⟩
  · exact hwritten
  · rw [hmark] at hsame ⊢
    exact congrArg some hsame

theorem Decided.placed (h : Decided cfg c lists podGroup last requested params queue)
    (hok : (run cfg c lists podGroup).1.1 = .ok ()) :
    Placed cfg c (if params.removeUnschedulableOnNodePoolSchedulingCondition then cleared podGroup else podGroup) params
      queue (run cfg c lists podGroup).1.2 := by
  rw [h.run_eq] at hok ⊢
  exact placed_of_patch (update_patched (Prod.ext hok rfl)) (getNodePoolAssignmentParams_ok h.params_eq).name_ne

theorem Decided.mark_eq {mark : Bool} (h : Decided cfg c lists podGroup last requested params queue)
    (hok : (run cfg c lists podGroup).1.1 = .ok ()) (hmark : podGroup.markUnschedulable = some mark) :
    (run cfg c lists podGroup).1.2.markUnschedulable = some params.markUnschedulable := by
  have hbefore : (if params.removeUnschedulableOnNodePoolSchedulingCondition then cleared podGroup else
      podGroup).markUnschedulable = some mark := by
    split_ifs
    · exact hmark
    · exact hmark
  exact mark_of_patch (h.placed hok) hbefore

theorem run_marked (hmark : podGroup.markUnschedulable = some true) :
    (run cfg c lists podGroup).1.2.markUnschedulable = some true := by
  cases hresult : (run cfg c lists podGroup).1.1 with
  | error e =>
    rcases run_failed hresult with hsame | ⟨-, -, -, -, -, -, hcleared⟩
    · rw [hsame, hmark]
    · rw [hcleared]
      exact hmark
  | ok =>
    rcases run_cases cfg c lists podGroup with ⟨last, requested, params, queue, hdecided⟩ | ⟨hsame, -⟩
    · have hparams := hdecided.params_eq
      rw [hmark] at hparams
      rw [hdecided.mark_eq hresult hmark, getNodePoolAssignmentParams_marked hparams]
    · rw [hsame, hmark]

/-! ## Topologies -/

theorem desiredNetworkTopology_of_steady (h : Steady cfg base requested s env) (podGroup : PodGroup) (name : String) :
    desiredNetworkTopology env.1 podGroup name = desiredNetworkTopology base.healed podGroup name := by
  have hpreferred : getNodePoolPreferredNetworkTopologyName env.1 name =
      getNodePoolPreferredNetworkTopologyName base.healed name := by
    have hsame := h.preferred name
    unfold getNodePoolPreferredNetworkTopologyName Cluster.getNodePool Cluster.attempt
    rw [h.calls]
    change (Cluster.found name (env.1.nodePools.get name) >>= fun nodePool => .ok nodePool.preferredNetworkTopologyName) =
      (Cluster.found name (base.nodePools.get name) >>= fun nodePool => .ok nodePool.preferredNetworkTopologyName)
    cases hhere : env.1.nodePools.get name with
    | none =>
      rw [hhere, Option.map_none, eq_comm, Option.map_eq_none_iff] at hsame
      rw [hsame]
    | some nodePool =>
      rw [hhere, Option.map_some, eq_comm, Option.map_eq_some_iff] at hsame
      obtain ⟨nodePool', hthere, hname⟩ := hsame
      rw [hthere]
      exact congrArg Except.ok hname.symm
  have hlevel : getNetworkTopologyLowestLevel env.1 = getNetworkTopologyLowestLevel base.healed := by
    funext topology
    unfold getNetworkTopologyLowestLevel Cluster.getTopology Cluster.attempt
    rw [h.calls, h.topologies]
    rfl
  unfold desiredNetworkTopology
  rw [hpreferred, hlevel]

/-! ## Going forward -/

/-- Given up on the current pool; of those before only the list's last comes after it. -/
structure Ahead (cfg : PodGroupAssignerConfig) (base : Cluster) (requested : List String) (s : Tried) : Prop where
  given_up : (getLastSchedulingCondition s.podGroup).map SchedulingCondition.nodePool =
    some (getAssignedNodePool cfg s.podGroup)
  mem : getAssignedNodePool cfg s.podGroup ∈ requested
  topology : ∃ topology, desiredNetworkTopology base.healed s.podGroup (getAssignedNodePool cfg s.podGroup) = .ok topology
  behind : ∀ name ∈ s.assigned, requested.idxOf name = requested.length - 1 ∨
    (requested.idxOf name ≤ requested.idxOf (getAssignedNodePool cfg s.podGroup) ∧
      requested.idxOf (getAssignedNodePool cfg s.podGroup) ≠ requested.length - 1)

/-- What every round keeps. -/
def Surfacing (cfg : PodGroupAssignerConfig) (base : Cluster) (requested : List String) (s : Tried) : Prop :=
  s.podGroup.markUnschedulable = some true ∨
    (s.podGroup.markUnschedulable = some false ∧ (s.assigned = [] ∨ Ahead cfg base requested s))

theorem assigns_of_decided (h : Decided cfg c lists podGroup last requested params queue)
    (hok : (run cfg c lists podGroup).1.1 = .ok ()) : assigns cfg c lists podGroup = some params.nodePoolName := by
  rw [assigns, h.up, show (run cfg c lists podGroup).1 = (.ok (), (run cfg c lists podGroup).1.2) from Prod.ext hok rfl]
  exact congrArg some (h.placed hok).nodePool

/-- A round assigns the pod group, or passes with nothing to do, or fails. -/
theorem round_cases (cfg : PodGroupAssignerConfig) (s : Tried) (env : Cluster × NodePoolLists) :
    (∃ last found params queue, Decided cfg env.1 env.2 s.podGroup last found params queue ∧
      (run cfg env.1 env.2 s.podGroup).1.1 = .ok () ∧ assigns cfg env.1 env.2 s.podGroup = some params.nodePoolName ∧
      s.round cfg env = ⟨unschedulableOnNodePool cfg (run cfg env.1 env.2 s.podGroup).1.2,
        s.assigned ++ [params.nodePoolName]⟩) ∨
    (assigns cfg env.1 env.2 s.podGroup = none ∧
      s.round cfg env = ⟨unschedulableOnNodePool cfg s.podGroup, s.assigned⟩) ∨
    (assigns cfg env.1 env.2 s.podGroup = none ∧ ∃ e, (run cfg env.1 env.2 s.podGroup).1.1 = .error e ∧
      s.round cfg env = ⟨(run cfg env.1 env.2 s.podGroup).1.2, s.assigned⟩) := by
  rcases hrun : (run cfg env.1 env.2 s.podGroup).1 with ⟨e | _, after⟩
  swap
  · have hresult := congrArg Prod.fst hrun
    rcases run_cases cfg env.1 env.2 s.podGroup with ⟨last, found, params, queue, hdecided⟩ | ⟨hsame, hnothing⟩
    · have hassigns := assigns_of_decided hdecided hresult
      refine .inl ⟨last, found, params, queue, hdecided, rfl, hassigns, ?_⟩
      rw [Tried.round, hassigns, hrun]
      rfl
    · have hassigns : assigns cfg env.1 env.2 s.podGroup = none := by
        rw [assigns, hnothing hresult]
      refine .inr (.inl ⟨hassigns, ?_⟩)
      rw [hrun] at hsame
      rw [Tried.round, hassigns, hrun, ← hsame, Option.toList_none, List.append_nil]
  · have hassigns : assigns cfg env.1 env.2 s.podGroup = none := by
      rw [assigns, hrun]
      cases upForAssignment cfg env.1 s.podGroup with
      | error e => rfl
      | ok found => cases found <;> rfl
    refine .inr (.inr ⟨hassigns, e, rfl, ?_⟩)
    rw [Tried.round, hassigns, hrun, Option.toList_none, List.append_nil]

theorem Ahead.new_of_unmarked (h : Ahead cfg base requested s) (hnodup : requested.Nodup)
    (hdecided : Decided cfg c lists s.podGroup last requested params queue)
    (hunmarked : params.markUnschedulable = false) :
    params.nodePoolName ∉ s.assigned ∧ requested.idxOf params.nodePoolName ≠ requested.length - 1 ∧
      ∀ name ∈ s.assigned, requested.idxOf name = requested.length - 1 ∨
        requested.idxOf name ≤ requested.idxOf params.nodePoolName := by
  obtain ⟨condition, hcondition, hnamed⟩ := Option.map_eq_some_iff.1 h.given_up
  have hlast : last = some condition :=
    (isEligibleForNodePoolAssignment_true (upForAssignment_some hdecided.up).1).2.1.trans hcondition
  have hparams := hdecided.params_eq
  rw [hlast] at hparams
  obtain ⟨hinner, hforward⟩ := unmarked_goes_forward hnodup (hnamed ▸ h.mem) hparams hunmarked
  rw [hnamed] at hforward
  have hbehind : ∀ name ∈ s.assigned, requested.idxOf name = requested.length - 1 ∨
      requested.idxOf name < requested.idxOf params.nodePoolName := by
    intro name hname
    rcases h.behind name hname with hend | ⟨hle, hcurrent⟩
    · exact .inl hend
    · exact .inr (Nat.lt_of_le_of_lt hle (hforward hcurrent))
  refine ⟨fun hagain => ?_, hinner, fun name hname => (hbehind name hname).imp_right Nat.le_of_lt⟩
  rcases hbehind _ hagain with hend | hlt
  · exact hinner hend
  · exact Nat.lt_irrefl _ hlt

theorem Ahead.unchanged_of_error (h : Ahead cfg base requested s) (hsteady : Steady cfg base requested s env) {e : RunError}
    (hfails : (run cfg env.1 env.2 s.podGroup).1.1 = .error e) : (run cfg env.1 env.2 s.podGroup).1.2 = s.podGroup := by
  rcases run_failed hfails with hsame | ⟨last, found, params, queue, hdecided, hreset, -⟩
  · exact hsame
  · -- the conditions are cleared only where the pod group stays, and its topology is known to be there
    obtain ⟨-, condition, hcondition, hagain⟩ := (getNodePoolAssignmentParams_ok hdecided.params_eq).resets.1 hreset
    have hlast := (isEligibleForNodePoolAssignment_true (upForAssignment_some hdecided.up).1).2.1
    have hnamed := h.given_up
    rw [← hlast, hcondition, Option.map_some, Option.some.injEq] at hnamed
    have htopology := h.topology
    rw [← hnamed, ← hagain, ← desiredNetworkTopology_of_steady hsteady] at htopology
    obtain ⟨after, hafter⟩ := update_of_topology hsteady.calls htopology queue
    rw [hdecided.run_eq, hafter] at hfails
    cases hfails

theorem given_up_after (podGroup : PodGroup) :
    (getLastSchedulingCondition (unschedulableOnNodePool cfg podGroup)).map SchedulingCondition.nodePool =
      some (getAssignedNodePool cfg (unschedulableOnNodePool cfg podGroup)) := by
  rw [getLastSchedulingCondition, unschedulableOnNodePool, List.getLast?_concat]
  rfl

theorem round_marked (hmark : s.podGroup.markUnschedulable = some true) (env : Cluster × NodePoolLists) :
    (s.round cfg env).podGroup.markUnschedulable = some true := by
  rcases round_cases cfg s env with ⟨_, _, _, _, -, -, -, hround⟩ | ⟨-, hround⟩ | ⟨-, _, -, hround⟩
  · rw [hround]
    exact run_marked hmark
  · rw [hround]
    exact hmark
  · rw [hround]
    exact run_marked hmark

theorem Surfacing.round (h : Surfacing cfg base requested s) (hnodup : requested.Nodup)
    (hsteady : Steady cfg base requested s env) : Surfacing cfg base requested (s.round cfg env) := by
  rcases h with hmarked | ⟨hunmarked, hahead⟩
  · exact .inl (round_marked hmarked env)
  · rcases round_cases cfg s env with ⟨last, found, params, queue, hdecided, hok, -, hround⟩ | ⟨-, hround⟩ |
      ⟨-, e, hfails, hround⟩
    · obtain rfl := hsteady.requested found hdecided.requested_eq
      have hplaced := hdecided.placed hok
      have hmark := hdecided.mark_eq hok hunmarked
      have hpool : getAssignedNodePool cfg (unschedulableOnNodePool cfg (run cfg env.1 env.2 s.podGroup).1.2) =
          params.nodePoolName := hplaced.nodePool
      rw [hround]
      cases hnew : params.markUnschedulable with
      | true =>
        rw [hnew] at hmark
        exact .inl hmark
      | false =>
        rw [hnew] at hmark
        refine .inr ⟨hmark, .inr ⟨given_up_after _, ?_, ?_, ?_⟩⟩
        · rw [hpool]
          exact (getNodePoolAssignmentParams_ok hdecided.params_eq).mem
        · rw [hpool, ← desiredNetworkTopology_of_steady hsteady]
          exact ⟨_, desiredNetworkTopology_again hplaced.topology rfl rfl⟩
        · rw [hpool]
          rcases hahead with hnone | hahead
          · -- the first pool tried
            intro name hname
            rw [hnone, List.nil_append, List.mem_singleton] at hname
            rw [hname]
            exact (em _).imp_right fun hinner => ⟨Nat.le_refl _, hinner⟩
          · obtain ⟨-, hinner, hbehind⟩ := hahead.new_of_unmarked hnodup hdecided hnew
            intro name hname
            rcases List.mem_append.1 hname with hold | hlast
            · exact (hbehind name hold).imp_right fun hle => ⟨hle, hinner⟩
            · rw [List.mem_singleton.1 hlast]
              exact .inr ⟨Nat.le_refl _, hinner⟩
    · rw [hround]
      refine .inr ⟨hunmarked, hahead.imp_right fun hahead => ?_⟩
      exact ⟨given_up_after _, hahead.mem, hahead.topology, hahead.behind⟩
    · -- a failed run at most drops the conditions
      rw [hround]
      rcases hahead with hnone | hahead
      · refine .inr ⟨?_, .inl hnone⟩
        rcases run_failed hfails with hsame | ⟨-, -, -, -, -, -, hcleared⟩
        · rw [hsame, hunmarked]
        · rw [hcleared]
          exact hunmarked
      · rw [hahead.unchanged_of_error hsteady hfails]
        exact .inr ⟨hunmarked, .inr hahead⟩

/-- A mark stays, and a repeated assignment has it. -/
theorem failure_surfaced (base : Cluster) (hnodup : requested.Nodup) (hmark : podGroup.markUnschedulable = some false)
    {rounds : List (Cluster × NodePoolLists)}
    (hrounds : Along (Tried.round cfg) (Steady cfg base requested) ⟨podGroup, []⟩ rounds)
    (hsteady : Steady cfg base requested (Lib.run (Tried.round cfg) ⟨podGroup, []⟩ rounds) env) :
    let s := Lib.run (Tried.round cfg) ⟨podGroup, []⟩ rounds
    (s.podGroup.markUnschedulable = some true → (s.round cfg env).podGroup.markUnschedulable = some true) ∧
    (∀ name ∈ s.assigned, assigns cfg env.1 env.2 s.podGroup = some name →
      (s.round cfg env).podGroup.markUnschedulable = some true) := by
  intro s
  refine ⟨fun hmarked => round_marked hmarked env, fun name hname hassigns => ?_⟩
  have hsurfacing : Surfacing cfg base requested s :=
    run_invariant (fun s env h hsteady => h.round hnodup hsteady) (.inr ⟨hmark, .inl rfl⟩) hrounds
  rcases hsurfacing with hmarked | ⟨hunmarked, hnone | hahead⟩
  · exact round_marked hmarked env
  · rw [hnone] at hname
    cases hname
  · rcases round_cases cfg s env with ⟨last, found, params, queue, hdecided, hok, hassigns', hround⟩ | ⟨hnone, -⟩ |
      ⟨hnone, -⟩
    · obtain rfl := hsteady.requested found hdecided.requested_eq
      rw [hassigns', Option.some.injEq] at hassigns
      have hmark := hdecided.mark_eq hok hunmarked
      cases hnew : params.markUnschedulable with
      | true =>
        rw [hround]
        rw [hnew] at hmark
        exact hmark
      | false => exact absurd (hassigns ▸ hname) (hahead.new_of_unmarked hnodup hdecided hnew).1
    · rw [hnone] at hassigns
      cases hassigns
    · rw [hnone] at hassigns
      cases hassigns

end

namespace Sample

/-- A pod group as it is created, before its first assignment. -/
def unassigned : PodGroup :=
  { podGroup with
    labels := (∅ : Labels).insert "kai.scheduler/node-pool" "kai-unexisting-node-pool"
    schedulingConditions := [] }

def bothReady : Cluster × NodePoolLists := (cluster .ready, fun _ => none)

end Sample

open Sample in
theorem third_round_marked :
    assigns config bothReady.1 bothReady.2
      (Lib.run (Tried.round config) ⟨unassigned, []⟩ [bothReady, bothReady]).podGroup = some "train" ∧
    ((Lib.run (Tried.round config) ⟨unassigned, []⟩ [bothReady, bothReady]).round config
      bothReady).podGroup.markUnschedulable = some true := by
  -- The third round goes back to the first node pool.
  have hsteady : ∀ s : Tried, s.podGroup.namespaceName = "ns" → s.podGroup.name = "pg" →
      Steady config (cluster .ready) ["train", "infer"] s bothReady := by
    intro s hnamespace hname
    refine ⟨fun _ => rfl, fun found hfound => ?_, fun _ => rfl, rfl⟩
    unfold podsOfGroup at hfound
    rw [hnamespace, hname] at hfound
    exact (Except.ok.inj hfound).symm
  have hrounds : Along (Tried.round config) (Steady config (cluster .ready) ["train", "infer"]) ⟨unassigned, []⟩
      [bothReady, bothReady] := ⟨hsteady _ rfl rfl, hsteady _ rfl rfl, trivial⟩
  have hmarked := (failure_surfaced (cluster .ready) (by decide) rfl hrounds (hsteady _ rfl rfl)).2
  exact ⟨by decide, hmarked "train" (by decide) (by decide)⟩

end Krm.PodGroups
