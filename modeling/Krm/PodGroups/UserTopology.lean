import Krm.PodGroups.Handoff

/-! # Whose the topology constraint is

The assigner takes a constraint for its own as long as its annotation is there. A user who overwrites the constraint
leaves the annotation as it is. -/

open Krm.Lib

namespace Krm.PodGroups

section

variable {cfg : PodGroupAssignerConfig} {c : Cluster}

/-! ## What a run does to the constraint -/

/-- The constraint is one that the assigner takes for the user's. -/
structure UserOwned (podGroup : PodGroup) : Prop where
  set : podGroup.topologyConstraint ≠ .empty
  unmarked : isSystemSourced podGroup = false

variable {params : NodePoolAssignmentParams} {podGroup : PodGroup}

theorem UserOwned.desired_eq (h : UserOwned podGroup) (nodePoolName : String) :
    desiredNetworkTopology c podGroup nodePoolName = .ok (podGroup.topologyConstraint, false) := by
  simp [desiredNetworkTopology, isTopologyConstraintEmpty, h.set, h.unmarked]

/-- The constraint stays the user's, and stays the same. -/
def Respects (podGroup after : PodGroup) : Prop :=
  UserOwned after ∧ after.topologyConstraint = podGroup.topologyConstraint

theorem UserOwned.patchAssignment {podGroup after : PodGroup} (h : UserOwned podGroup) {queue : String}
    (hpatch : patchAssignment cfg c podGroup params queue = .ok after) : Respects podGroup after := by
  unfold PodGroups.patchAssignment at hpatch
  rw [h.desired_eq] at hpatch
  obtain ⟨⟨constraint, systemSourced⟩, hdesired, hpatch⟩ := bind_ok hpatch
  cases hdesired
  dsimp only at hpatch
  split_ifs at hpatch
  · cases hpatch
    exact ⟨h, rfl⟩
  · cases attempt_ok hpatch
    exact ⟨⟨h.set, isSystemSourced_applyTopology _ _ _⟩, rfl⟩

theorem UserOwned.ofWrite (h : UserOwned podGroup) {queue : String} :
    Respects podGroup (Update.ofWrite podGroup (PodGroups.patchAssignment cfg c podGroup params queue)).2 := by
  cases hpatch : PodGroups.patchAssignment cfg c podGroup params queue with
  | error e => exact ⟨h, rfl⟩
  | ok after => exact h.patchAssignment hpatch

theorem UserOwned.update (h : UserOwned podGroup) (params : NodePoolAssignmentParams) (queue : String) :
    Respects podGroup (updatePodGroupWithAssignment cfg c podGroup params queue).2 := by
  unfold updatePodGroupWithAssignment
  split_ifs
  · cases hcleared : removeUnschedulableOnNodePoolSchedulingConditionFromStatus c podGroup with
    | error e => exact ⟨h, rfl⟩
    | ok cleared =>
      cases removeUnschedulable_ok hcleared
      have howned : UserOwned (cleared podGroup) := ⟨h.set, h.unmarked⟩
      exact howned.ofWrite
  · exact h.ofWrite

theorem UserOwned.run {podGroup : PodGroup} (h : UserOwned podGroup) (lists : NodePoolLists) :
    Respects podGroup (run cfg c lists podGroup).1.2 := by
  rcases run_cases cfg c lists podGroup with ⟨last, requested, params, queue, hdecided⟩ | ⟨hsame, -⟩
  · rw [hdecided.run_eq]
    exact h.update params queue
  · rw [hsame]
    exact ⟨h, rfl⟩

end

/-! ## Runs and edits -/

/-- Whether the constraint's last change was a user's. -/
structure Owned where
  podGroup : PodGroup
  byUser : Bool

/-- A run, on the cluster by then, or a user's write. -/
inductive TopologyEvent where
  | assign (c : Cluster) (lists : NodePoolLists)
  | edit (constraint : TopologyConstraint) (set : constraint ≠ .empty)

def Owned.step (cfg : PodGroupAssignerConfig) (s : Owned) : TopologyEvent → Owned
  | .assign c lists =>
    let after := (run cfg c lists s.podGroup).1.2
    ⟨after, s.byUser && after.topologyConstraint = s.podGroup.topologyConstraint⟩
  | .edit constraint _ =>
    ⟨{ s.podGroup with topologyConstraint := constraint },
      s.byUser || constraint ≠ s.podGroup.topologyConstraint⟩

/-- An edit that changes the constraint finds none of the assigner's marks. -/
def EditsUnmarked (s : Owned) : TopologyEvent → Prop
  | .assign _ _ => True
  | .edit constraint _ => constraint ≠ s.podGroup.topologyConstraint → isSystemSourced s.podGroup = false

theorem Owned.step_userOwned {cfg : PodGroupAssignerConfig} {s : Owned} {event : TopologyEvent}
    (h : s.byUser → UserOwned s.podGroup) (hevent : EditsUnmarked s event) :
    (s.step cfg event).byUser → UserOwned (s.step cfg event).podGroup := by
  intro hbyUser
  cases event with
  | assign c lists =>
    simp only [Owned.step, Bool.and_eq_true] at hbyUser
    exact ((h hbyUser.1).run lists).1
  | edit constraint set =>
    simp only [Owned.step, Bool.or_eq_true, decide_eq_true_eq] at hbyUser
    rcases hbyUser with hbefore | hchanged
    · exact ⟨set, (h hbefore).unmarked⟩
    · exact ⟨set, hevent hchanged⟩

/-- A constraint that is the user's survives every run. -/
theorem user_topology_kept (cfg : PodGroupAssignerConfig) {s : Owned} (hstart : s.byUser → UserOwned s.podGroup)
    {events : List TopologyEvent} (hedits : Along (Owned.step cfg) EditsUnmarked s events) (c : Cluster)
    (lists : NodePoolLists) (hbyUser : (Lib.run (Owned.step cfg) s events).byUser) :
    (run cfg c lists (Lib.run (Owned.step cfg) s events).podGroup).1.2.topologyConstraint =
      (Lib.run (Owned.step cfg) s events).podGroup.topologyConstraint := by
  have howned := run_invariant (P := fun s : Owned => s.byUser → UserOwned s.podGroup)
    (fun s event h hevent => Owned.step_userOwned h hevent) hstart hedits hbyUser
  exact (howned.run lists).2

/-! ## An edit before and one after the assigner's mark -/

namespace Sample

/-- Both node pools prefer the topology. -/
def wired : Cluster :=
  { cluster .ready with
    nodePools := (Store.single ⟨"train", "pool", "train", .ready, "net", train_ne⟩).insert
      ⟨"infer", "pool", "infer", .ready, "net", infer_ne⟩
    topologies := .single ⟨"net", ["rack", "host"]⟩ }

def untried : PodGroup := { podGroup with schedulingConditions := [] }

def wanted : TopologyConstraint := ⟨"mine", "", "rack"⟩

def edit : TopologyEvent := .edit wanted (by decide)

def assign : TopologyEvent := .assign wired fun _ => none

end Sample

open Sample in
theorem early_edit_kept :
    (run config wired (fun _ => none) (Lib.run (Owned.step config) ⟨untried, false⟩ [edit, assign]).podGroup).1.2.topologyConstraint =
      wanted := by
  -- A constraint that is set before the first run stands.
  have hedits : Along (Owned.step config) EditsUnmarked ⟨untried, false⟩ [edit, assign] :=
    ⟨fun _ => by decide, trivial, trivial⟩
  exact user_topology_kept config (fun h => by cases h) hedits wired (fun _ => none) (by decide)

open Sample in
theorem late_edit_overridden :
    (Lib.run (Owned.step config) ⟨untried, false⟩ [assign, edit]).byUser ∧
    (Lib.run (Owned.step config) ⟨untried, false⟩ [assign, edit]).podGroup.topologyConstraint = wanted ∧
    (run config wired (fun _ => none)
      (Lib.run (Owned.step config) ⟨untried, false⟩ [assign, edit]).podGroup).1.2.topologyConstraint = ⟨"net", "host", ""⟩ := by
  -- One that is set over the assigner's own is replaced by the next run.
  decide

end Krm.PodGroups
