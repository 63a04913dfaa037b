import Krm.Nodes.Held

/-! # Cordons that the controller did not set

The controller knows its own cordons by a label. It puts the label also on nodes that it finds cordoned already. -/

open Krm.Lib

namespace Krm.Nodes.AdminCordon

/-- The nodes, what is read beside them, and who last cordoned a node. -/
structure State where
  nodes : NodeStore
  cluster : Cluster
  foreign : List String

inductive Event where
  | turn (name : String) (turn : Turn)
  | setUnschedulable (name : String) (unschedulable : Bool)
  | relabel (name : String) (labels : Labels)
  /-- Pods, node pools, criteria and failing calls change. -/
  | change (cluster : Cluster)

/-- The node is written, and a new cordon is the writer's. -/
def State.write (s : State) (byController : Bool) (node after : Node) : State :=
  { s with
    nodes := s.nodes.replace after
    foreign :=
      if after.unschedulable && !node.unschedulable then
        if byController then s.foreign.filter (· ≠ node.name) else node.name :: s.foreign
      else s.foreign }

section

variable (cfg : NodePoolControllerConfig)

def step (s : State) : Event → State
  | .turn name turn =>
    match s.nodes.get name with
    | none => s
    | some node => s.write true node (turn.apply cfg s.cluster node)
  | .setUnschedulable name unschedulable =>
    match s.nodes.get name with
    | none => s
    | some node => s.write false node { node with unschedulable := unschedulable }
  | .relabel name labels =>
    match s.nodes.get name with
    | none => s
    | some node => s.write false node { node with labels := labels }
  | .change cluster => { s with cluster := cluster }

/-- Reconciles take only turns that fit the node, as `Turn.Fits` says. -/
def Fits (s : State) : Event → Prop
  | .turn name turn => ∀ node, s.nodes.get name = some node → turn.Fits cfg s.cluster node
  | _ => True

def Marked (node : Node) : Prop := (node.labels.lookup cfg.unschedulableLabelKey).isSome

instance (node : Node) : Decidable (Marked cfg node) := inferInstanceAs (Decidable (_ = true))

/-- The turn leaves the node cordoned if someone else has cordoned it. -/
def Respects (s : State) (name : String) (turn : Turn) : Prop :=
  ∀ node, s.nodes.get name = some node → node.unschedulable → name ∈ s.foreign →
    (turn.apply cfg s.cluster node).unschedulable

/-- No turn meets pods on a node that others cordoned, and nobody else cordons a labelled node, or labels a cordoned one. -/
def Clean (s : State) : Event → Prop
  | .turn name turn => ∀ node, s.nodes.get name = some node → node.unschedulable → name ∈ s.foreign →
      turn.check cfg s.cluster node = some (.ok true) →
      s.cluster.fault (.patchLabels name [(cfg.unschedulableLabelKey, "true")] []) ≠ none
  | .setUnschedulable name unschedulable => ∀ node, s.nodes.get name = some node → unschedulable →
      node.unschedulable = false → ¬ Marked cfg node
  | .relabel name labels => ∀ node, s.nodes.get name = some node → node.unschedulable → name ∈ s.foreign →
      labels.lookup cfg.unschedulableLabelKey = none
  | .change _ => True

/-- The label tells the truth. -/
def Trusted (s : State) : Prop :=
  ∀ node ∈ s.nodes.items, node.unschedulable → Marked cfg node → node.name ∉ s.foreign

end

section

variable {cfg : NodePoolControllerConfig} {s : State} {node : Node}

/-! ## Turns at a cordoned node without the label -/

section

variable {c : Cluster} (hcordon : node.unschedulable) (hmark : ¬ Marked cfg node)
include hcordon hmark

theorem validateNodeStatus_false_unmarked : (validateNodeStatus cfg c (.ok false) node).node = node := by
  have hnone : (node.labels.lookup cfg.unschedulableLabelKey).isNone := by
    rw [← Option.not_isSome]
    simpa [Marked] using hmark
  simp [validateNodeStatus, updateNodeUnschedulableIfNeeded, hcordon, hnone]

theorem validateNodeStatus_true_unmarked : (validateNodeStatus cfg c (.ok true) node).node =
    (updateNodeLabels c node [(cfg.unschedulableLabelKey, "true")] []).2 := by
  have hnone : (node.labels.lookup cfg.unschedulableLabelKey).isSome = false := by
    simpa [Marked] using hmark
  simp [validateNodeStatus, updateNodeUnschedulableIfNeeded, validateNodeLabeledWithUnschedulable, hcordon, hnone]

omit hcordon in
theorem marked_updateNodeLabels_iff :
    Marked cfg (updateNodeLabels c node [(cfg.unschedulableLabelKey, "true")] []).2 ↔
      c.fault (.patchLabels node.name [(cfg.unschedulableLabelKey, "true")] []) = none := by
  unfold updateNodeLabels
  split
  · rename_i e hfault
    simp [hfault, hmark]
  · rename_i hfault
    simp [hfault, Marked, patchedLabels]

theorem validateNodeStatus_unmarked (arePodsRunning : Except ApiError Bool) :
    (validateNodeStatus cfg c arePodsRunning node).node.unschedulable ∧
      (Marked cfg (validateNodeStatus cfg c arePodsRunning node).node ↔ arePodsRunning = .ok true ∧
        c.fault (.patchLabels node.name [(cfg.unschedulableLabelKey, "true")] []) = none) := by
  rcases arePodsRunning with e | _ | _
  · exact ⟨hcordon, by simpa [validateNodeStatus] using hmark⟩
  · rw [validateNodeStatus_false_unmarked hcordon hmark]
    exact ⟨hcordon, by simpa using hmark⟩
  · rw [validateNodeStatus_true_unmarked hcordon hmark, marked_updateNodeLabels_iff hmark]
    exact ⟨updateNodeLabels_unschedulable.trans hcordon, by simp⟩

theorem apply_unschedulable (turn : Turn) : (turn.apply cfg c node).unschedulable := by
  cases turn with
  | change newNodePoolName oldNodePoolName availableNodePools =>
    rw [Turn.apply, change_unschedulable]
    exact (validateNodeStatus_unmarked hcordon hmark _).1
  | validate nodePoolName => exact (validateNodeStatus_unmarked hcordon hmark _).1
  | relabel add remove => exact updateNodeLabels_unschedulable.trans hcordon

omit hcordon hmark in
theorem marked_updateNodeWithNodePoolName_iff {nodePoolName : String} :
    Marked cfg (updateNodeWithNodePoolNameIfNeeded cfg c node nodePoolName).2 ↔ Marked cfg node := by
  have hne := (keys_ne cfg).2.2.symm
  unfold updateNodeWithNodePoolNameIfNeeded Marked
  split_ifs
  · exact Iff.rfl
  · rw [updateNodeLabels_lookup (by simp) (by simpa using hne)]
  · exact Iff.rfl
  · rw [updateNodeLabels_lookup (by simpa using hne) (by simp)]

omit hcordon hmark in
theorem marked_change_iff {newNodePoolName oldNodePoolName : String} {availableNodePools : List NodePool} :
    Marked cfg (changeNodePoolForNodeGeneric cfg c node newNodePoolName oldNodePoolName availableNodePools).node ↔
      Marked cfg (validateNodeStatusWhenChangingNodePool cfg c node oldNodePoolName).node := by
  unfold changeNodePoolForNodeGeneric
  dsimp only
  split
  · exact marked_updateNodeWithNodePoolName_iff
  · exact Iff.rfl

theorem marked_apply_iff {turn : Turn} (hfits : turn.Fits cfg c node) :
    Marked cfg (turn.apply cfg c node) ↔ turn.check cfg c node = some (.ok true) ∧
      c.fault (.patchLabels node.name [(cfg.unschedulableLabelKey, "true")] []) = none := by
  cases turn with
  | change newNodePoolName oldNodePoolName availableNodePools =>
    rw [Turn.apply, marked_change_iff, validateNodeStatusWhenChangingNodePool,
      (validateNodeStatus_unmarked hcordon hmark _).2, Turn.check, Option.some.injEq]
  | validate nodePoolName =>
    rw [Turn.apply, validateNodeStatusInNodePool, (validateNodeStatus_unmarked hcordon hmark _).2, Turn.check,
      Option.some.injEq]
  | relabel add remove =>
    obtain ⟨⟨hadd, hremove⟩, -⟩ := hfits
    have hsame : Marked cfg (updateNodeLabels c node add remove).2 ↔ Marked cfg node := by
      unfold Marked
      rw [updateNodeLabels_lookup hadd hremove]
    rw [Turn.apply, hsame, Turn.check]
    simpa using hmark

end

/-! ## One event -/

theorem mem_foreign_write {byController : Bool} {after : Node} {name : String} :
    name ∈ (s.write byController node after).foreign ↔
      if after.unschedulable ∧ node.unschedulable = false ∧ name = node.name then byController = false
      else name ∈ s.foreign := by
  unfold State.write
  cases after.unschedulable <;> cases node.unschedulable <;> cases byController <;>
    by_cases hname : name = node.name <;> simp [hname]

theorem trusted_write_iff (h : Trusted cfg s) {name : String} (hget : s.nodes.get name = some node)
    {byController : Bool} {after : Node} (hname : after.name = node.name) :
    Trusted cfg (s.write byController node after) ↔
      (after.unschedulable → Marked cfg after →
        if node.unschedulable then name ∉ s.foreign else byController = true) := by
  -- A write keeps the label true when a node left with the cordon and the label has a cordon of the controller.
  obtain rfl : node.name = name := Store.get_key hget
  have hmem (other : Node) := Store.mem_replace s.nodes after other hname (by simp [hget])
  unfold Trusted
  constructor
  · intro hafter hcordon hmark
    have hnot := hafter after ((hmem after).2 (.inl rfl)) hcordon hmark
    rw [mem_foreign_write, hname] at hnot
    split_ifs with hbefore
    · simpa [hcordon, hbefore] using hnot
    · simpa [hcordon, hbefore] using hnot
  · intro hafter other hother hcordon hmark
    rw [mem_foreign_write]
    rcases (hmem other).1 hother with rfl | ⟨hold, hne⟩
    · have hkeep := hafter hcordon hmark
      split_ifs at hkeep with hbefore
      · simpa [hcordon, hbefore, hname] using hkeep
      · simpa [hcordon, hbefore, hname] using hkeep
    · rw [if_neg fun hsame => hne hsame.2.2]
      exact h other hold hcordon hmark

theorem trusted_step_iff (h : Trusted cfg s) {e : Event} (hfits : Fits cfg s e) :
    Trusted cfg (step cfg s e) ↔ Clean cfg s e := by
  cases e with
  | change cluster => exact ⟨fun _ => trivial, fun _ => h⟩
  | turn name turn =>
    cases hget : s.nodes.get name with
    | none => simp [step, Clean, hget, h]
    | some node =>
      obtain rfl : node.name = name := Store.get_key hget
      simp only [step, Clean, hget, Option.some.injEq, forall_eq']
      rw [trusted_write_iff h hget (turn.apply_name node)]
      by_cases hcordon : node.unschedulable
      · by_cases hforeign : node.name ∈ s.foreign
        · have hmark : ¬ Marked cfg node := fun hmark => h node (Store.get_mem hget) hcordon hmark hforeign
          simp [hcordon, hforeign, apply_unschedulable hcordon hmark, marked_apply_iff hcordon hmark (hfits node hget)]
        · simp [hforeign]
      · simp [hcordon]
  | setUnschedulable name unschedulable =>
    cases hget : s.nodes.get name with
    | none => simp [step, Clean, hget, h]
    | some node =>
      obtain rfl : node.name = name := Store.get_key hget
      simp only [step, Clean, hget, Option.some.injEq, forall_eq']
      refine (trusted_write_iff h hget (by rfl)).trans ?_
      by_cases hcordon : node.unschedulable
      · simpa [hcordon, Marked] using fun _ hmark => h node (Store.get_mem hget) hcordon hmark
      · simp [hcordon, Marked]
  | relabel name labels =>
    cases hget : s.nodes.get name with
    | none => simp [step, Clean, hget, h]
    | some node =>
      obtain rfl : node.name = name := Store.get_key hget
      simp only [step, Clean, hget, Option.some.injEq, forall_eq']
      refine (trusted_write_iff h hget (by rfl)).trans ?_
      by_cases hcordon : node.unschedulable
      · by_cases hforeign : node.name ∈ s.foreign <;> simp [hcordon, hforeign, Marked]
      · simp [hcordon]

/-! ## Runs -/

theorem marked_cordon_ends (hget : s.nodes.get node.name = some node) (hcordon : node.unschedulable)
    (hmark : Marked cfg node) (hforeign : node.name ∈ s.foreign) :
    ¬ Respects cfg { s with cluster := bareCluster [] .empty [] } node.name (.validate cfg.defaultNodepoolName) := by
  have hselector : getNotNodePoolLabelSelector cfg cfg.defaultNodepoolName =
      .ok ⟨cfg.nodePoolNameLabel, .exists, []⟩ := by
    rw [getNotNodePoolLabelSelector, if_pos rfl, newRequirement_of_valid cfg.key_valid rfl rfl]
  have hcheck : (Turn.validate cfg.defaultNodepoolName).check cfg (bareCluster [] .empty []) node =
      some (.ok false) := by
    rw [Turn.check, arePodsRunningWithDifferentNodePool, arePodsRunningWithNodePool, getRunningPodsWithNodePoolOnNode,
      if_neg Bool.false_ne_true, hselector]
    rfl
  have hend := Turn.ends_cordon (fun _ => rfl) ⟨hcordon, hmark⟩ hcheck
  intro hrespects
  have hafter := hrespects node hget hcordon hforeign
  simp [hend] at hafter

/-- The label is true exactly when no next turn ends another's cordon. -/
theorem trusted_iff_respects :
    Trusted cfg s ↔ ∀ c name turn, Respects cfg { s with cluster := c } name turn := by
  constructor
  · intro h c name turn node hget hcordon hforeign
    refine apply_unschedulable hcordon (fun hmark => ?_) turn
    exact h node (Store.get_mem hget) hcordon hmark (by rwa [Store.get_key hget])
  · intro h node hnode hcordon hmark hforeign
    exact marked_cordon_ends (Store.get_of_mem hnode) hcordon hmark hforeign (h _ _ _)

/-- Others' cordons are respected exactly when the events are clean. -/
theorem foreign_cordons_respected_iff {s : State} (h : Trusted cfg s) {events : List Event}
    (hfits : Along (step cfg) (Fits cfg) s events) :
    (∀ before, before <+: events → ∀ c name turn,
        Respects cfg { run (step cfg) s before with cluster := c } name turn) ↔
      Along (step cfg) (Clean cfg) s events := by
  simp only [← trusted_iff_respects]
  induction events generalizing s with
  | nil => exact ⟨fun _ => trivial, fun _ before hbefore => List.prefix_nil.1 hbefore ▸ h⟩
  | cons e events ih =>
    constructor
    · intro hall
      have hnext : Trusted cfg (step cfg s e) := hall [e] (by simp)
      refine ⟨(trusted_step_iff h hfits.1).1 hnext, (ih hnext hfits.2).1 fun before hbefore => ?_⟩
      exact hall (e :: before) (List.cons_prefix_cons.2 ⟨rfl, hbefore⟩)
    · intro hclean before hbefore
      have hnext : Trusted cfg (step cfg s e) := (trusted_step_iff h hfits.1).2 hclean.1
      rcases List.prefix_cons_iff.1 hbefore with rfl | ⟨rest, rfl, hrest⟩
      · exact h
      · exact (ih hnext hfits.2).2 hclean.2 rest hrest

/-! ## Reconciles are runs -/

theorem reaches_is_run (s : State) {nodes : NodeStore} (h : Reaches cfg s.cluster s.nodes nodes) :
    ∃ events, Along (step cfg) (Fits cfg) s events ∧ (run (step cfg) s events).nodes = nodes ∧
      (run (step cfg) s events).cluster = s.cluster := by
  refine run_of_localSteps State.nodes (fun s' => s'.cluster = s.cluster) ?_ rfl h
  rintro s' _ hcluster ⟨node, hnode, -, ⟨turn, hfits, rfl⟩, rfl⟩
  have hget := Store.get_of_mem hnode
  refine ⟨.turn node.name turn, ?_, ?_, ?_⟩
  · intro node' hget'
    rw [hget, Option.some.injEq] at hget'
    rw [hcluster]
    exact hget' ▸ hfits
  · simp only [step, hget, State.write, hcluster]
  · simp only [step, hget, State.write, hcluster]

/-- The reconciles of both controllers are runs of fitting turns. -/
theorem reconciles_are_turns (s : State) :
    (∀ name, ∃ events, Along (step cfg) (Fits cfg) s events ∧
      (run (step cfg) s events).nodes = (reconcile cfg s.cluster name s.nodes).nodes ∧
      (run (step cfg) s events).cluster = s.cluster) ∧
    (∀ request, ∃ events, Along (step cfg) (Fits cfg) s events ∧
      (run (step cfg) s events).nodes = (reconcileManaged cfg s.cluster request s.nodes).nodes ∧
      (run (step cfg) s events).cluster = s.cluster) :=
  ⟨fun name => reaches_is_run s (reconcile_reaches s.nodes name),
    fun request => reaches_is_run s (reconcileManaged_reaches request s.nodes)⟩

end

namespace Sample

open Held.Sample

def start : State := ⟨only node, { cluster with pods := [] }, []⟩

/-- The administrator cordons the node, and its pool is reconciled. -/
def quiet : List Event := [.setUnschedulable "x" true, .turn "x" (.validate "a")]

/-- The administrator's cordon after the reconciles, with the pod and without. -/
def cordoned : NodeStore := (step .default start (.setUnschedulable "x" true)).nodes
def waiting : NodeStore := (reconcileManaged .default cluster (some "x") cordoned).nodes
def drained : NodeStore := (reconcileManaged .default { cluster with pods := [] } (some "x") waiting).nodes

end Sample

open Sample in
theorem quiet_cordon_respected :
    Respects .default (run (step .default) start quiet) "x" (.change "kai-excluded-nodes" "a" []) := by
  have hfits : Along (step .default) (Fits .default) start quiet :=
    ⟨trivial, fun n hget => Held.Sample.pool_of_get (s := ⟨_, [], []⟩) (by decide) hget, trivial⟩
  refine (foreign_cordons_respected_iff ?_ hfits).2 ⟨?_, ?_, trivial⟩ quiet List.prefix_rfl _ "x" _
  · intro n hn hcordon
    obtain rfl : n = Held.Sample.node := List.mem_singleton.1 hn
    cases hcordon
  · intro n hget _ _ hmark
    cases hget
    exact absurd hmark (by decide)
  · intro n hget _ _ hcheck
    cases hget
    exact absurd hcheck (by decide)

open Sample in
theorem admin_cordon_lifted :
    (step .default start (.setUnschedulable "x" true)).foreign = ["x"] ∧
    (cordoned.get "x").map Node.unschedulable = some true ∧
    (waiting.get "x").map Node.unschedulable = some true ∧
    (drained.get "x").map Node.unschedulable = some false := by
  decide

end Krm.Nodes.AdminCordon
