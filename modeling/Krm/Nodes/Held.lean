import Krm.Lib.Runs
import Krm.Nodes.Drain

/-! # A held node stays cordoned until it is drained -/

open Krm.Lib

namespace Krm.Nodes

/-! ## The cordon through a turn -/

/-- Cordoned by the controller, which makes only such nodes schedulable. -/
def Cordoned (cfg : NodePoolControllerConfig) (node : Node) : Prop :=
  node.unschedulable ∧ (node.labels.lookup cfg.unschedulableLabelKey).isSome

def Turn.check (cfg : NodePoolControllerConfig) (c : Cluster) (node : Node) : Turn → Option (Except ApiError Bool)
  | .change _ oldNodePoolName _ => some (arePodsRunningWithSameNodePool cfg c node.name oldNodePoolName)
  | .validate nodePoolName => some (arePodsRunningWithDifferentNodePool cfg c node.name nodePoolName)
  | .relabel _ _ => none

section

variable {cfg : NodePoolControllerConfig} {c : Cluster} (hfault : ∀ call, c.fault call = none) {node : Node}
include hfault

theorem updateNodeUnschedulable_cordons : Cordoned cfg (updateNodeUnschedulableIfNeeded cfg c node true).2 := by
  unfold updateNodeUnschedulableIfNeeded validateNodeLabeledWithUnschedulable patchNodeUnschedulable updateNodeLabels
    patchedLabels Cordoned
  simp only [hfault]
  split_ifs with hsame hlabel
  · exact ⟨hsame, hlabel⟩
  · exact ⟨hsame, by simp⟩
  · rename_i h
    simp at h
  · exact ⟨rfl, by simp⟩

theorem updateNodeUnschedulable_uncordons (h : Cordoned cfg node) :
    (updateNodeUnschedulableIfNeeded cfg c node false).2.unschedulable = false := by
  have hlabel : (node.labels.lookup cfg.unschedulableLabelKey).isNone = false := by
    rw [← Option.not_isSome, h.2]
    rfl
  unfold updateNodeUnschedulableIfNeeded patchNodeUnschedulable
  simp only [hfault, h.1, hlabel, Bool.and_false, Bool.false_eq_true, Bool.true_eq_false, if_false]

theorem validateNodeStatus_cordons : Cordoned cfg (validateNodeStatus cfg c (.ok true) node).node :=
  updateNodeUnschedulable_cordons hfault

theorem validateNodeStatus_uncordons (h : Cordoned cfg node) :
    (validateNodeStatus cfg c (.ok false) node).node.unschedulable = false := by
  have hafter := updateNodeUnschedulable_uncordons hfault h
  unfold validateNodeStatus
  generalize updateNodeUnschedulableIfNeeded cfg c node false = updated at hafter ⊢
  obtain ⟨err, after⟩ := updated
  cases err <;> exact hafter

omit hfault in
theorem updateNodeLabels_unschedulable {add : List (String × String)} {remove : List String} :
    (updateNodeLabels c node add remove).2.unschedulable = node.unschedulable := by
  unfold updateNodeLabels
  split <;> rfl

omit hfault in
theorem updateNodeWithNodePoolName_unschedulable {nodePoolName : String} :
    (updateNodeWithNodePoolNameIfNeeded cfg c node nodePoolName).2.unschedulable = node.unschedulable := by
  unfold updateNodeWithNodePoolNameIfNeeded
  split_ifs
  · rfl
  · exact updateNodeLabels_unschedulable
  · rfl
  · exact updateNodeLabels_unschedulable

omit hfault in
theorem change_unschedulable {newNodePoolName oldNodePoolName : String} {availableNodePools : List NodePool} :
    (changeNodePoolForNodeGeneric cfg c node newNodePoolName oldNodePoolName availableNodePools).node.unschedulable =
      (validateNodeStatusWhenChangingNodePool cfg c node oldNodePoolName).node.unschedulable := by
  unfold changeNodePoolForNodeGeneric
  dsimp only
  split
  · exact updateNodeWithNodePoolName_unschedulable
  · rfl

theorem Turn.change_cordons {newNodePoolName oldNodePoolName : String} {availableNodePools : List NodePool}
    (h : arePodsRunningWithSameNodePool cfg c node.name oldNodePoolName = .ok true) :
    Cordoned cfg ((Turn.change newNodePoolName oldNodePoolName availableNodePools).apply cfg c node) := by
  simp only [Turn.apply]
  rw [change_stays (by simp [h]), validateNodeStatusWhenChangingNodePool, h]
  exact validateNodeStatus_cordons hfault

theorem validateNodeStatus_keeps {arePodsRunning : Except ApiError Bool} (h : Cordoned cfg node)
    (hcheck : arePodsRunning ≠ .ok false) : Cordoned cfg (validateNodeStatus cfg c arePodsRunning node).node := by
  match arePodsRunning with
  | .error e => exact h
  | .ok true => exact validateNodeStatus_cordons hfault
  | .ok false => exact absurd rfl hcheck

theorem Turn.keeps_cordon {turn : Turn} (h : Cordoned cfg node) (hfits : turn.Fits cfg c node)
    (hcheck : turn.check cfg c node ≠ some (.ok false)) : Cordoned cfg (turn.apply cfg c node) := by
  cases turn with
  | change newNodePoolName oldNodePoolName availableNodePools =>
    have hcheck : arePodsRunningWithSameNodePool cfg c node.name oldNodePoolName ≠ .ok false :=
      fun h => hcheck (congrArg some h)
    simp only [Turn.apply]
    rw [change_stays hcheck]
    exact validateNodeStatus_keeps hfault h hcheck
  | validate nodePoolName => exact validateNodeStatus_keeps hfault h fun h => hcheck (congrArg some h)
  | relabel add remove =>
    obtain ⟨⟨hadd, hremove⟩, -⟩ := hfits
    refine ⟨updateNodeLabels_unschedulable.trans h.1, ?_⟩
    have hlabel := h.2
    rwa [← updateNodeLabels_lookup (c := c) hadd hremove] at hlabel

theorem Turn.ends_cordon {turn : Turn} (h : Cordoned cfg node) (hcheck : turn.check cfg c node = some (.ok false)) :
    (turn.apply cfg c node).unschedulable = false := by
  cases turn with
  | change newNodePoolName oldNodePoolName availableNodePools =>
    have hcheck : arePodsRunningWithSameNodePool cfg c node.name oldNodePoolName = .ok false := Option.some.inj hcheck
    simp only [Turn.apply]
    rw [change_unschedulable, validateNodeStatusWhenChangingNodePool, hcheck]
    exact validateNodeStatus_uncordons hfault h
  | validate nodePoolName =>
    have hcheck : arePodsRunningWithDifferentNodePool cfg c node.name nodePoolName = .ok false := Option.some.inj hcheck
    simp only [Turn.apply, validateNodeStatusInNodePool]
    rw [hcheck]
    exact validateNodeStatus_uncordons hfault h
  | relabel add remove => cases hcheck

end

/-! ## Runs -/

namespace Held

/-- A node is held when it was cordoned, as it had to leave while charged pods ran. -/
structure State where
  nodes : NodeStore
  pods : List Pod
  held : List (String × String)

/-- Reconciles are sequences of turns, so these interleave them. -/
inductive Event where
  | turn (name : String) (turn : Turn)
  | complete (namespaceName name : String) (succeeded : Bool)

def completed (namespaceName name : String) (succeeded : Bool) (pod : Pod) : Pod :=
  if pod.namespaceName = namespaceName && pod.name = name then
    { pod with phase := if succeeded then .succeeded else .failed }
  else pod

section

variable (cfg : NodePoolControllerConfig) (c : Cluster)

def State.cluster (s : State) : Cluster := { c with pods := s.pods }

def State.Charged (s : State) (name nodePoolName : String) : Prop :=
  s.pods.any (isCharged cfg c.podGroups name nodePoolName)

instance (s : State) (name nodePoolName : String) : Decidable (s.Charged cfg c name nodePoolName) :=
  inferInstanceAs (Decidable (_ = true))

def heldAfter (s : State) (node : Node) : Turn → List (String × String)
  | .change _ oldNodePoolName _ =>
    match arePodsRunningWithSameNodePool cfg (s.cluster c) node.name oldNodePoolName with
    | .ok true => if s.Charged cfg c node.name oldNodePoolName then (node.name, oldNodePoolName) :: s.held else s.held
    | _ => s.held
  | _ => s.held

def step (s : State) : Event → State
  | .turn name turn =>
    match s.nodes.get name with
    | none => s
    | some node =>
      { s with nodes := s.nodes.replace (turn.apply cfg (s.cluster c) node), held := heldAfter cfg c s node turn }
  | .complete namespaceName name succeeded => { s with pods := s.pods.map (completed namespaceName name succeeded) }

def Fits (s : State) : Event → Prop
  | .turn name turn => ∀ node, s.nodes.get name = some node → turn.Fits cfg (s.cluster c) node
  | .complete .. => True

/-- A turn at a held node does not miss its charged pods. -/
def Spares (s : State) : Event → Prop
  | .turn name turn => ∀ nodePoolName node, (name, nodePoolName) ∈ s.held → s.Charged cfg c name nodePoolName →
      s.nodes.get name = some node → turn.check cfg (s.cluster c) node ≠ some (.ok false)
  | .complete .. => True

/-- Held nodes are unschedulable while a charged pod runs on them. -/
def StayCordoned (s : State) : Prop :=
  ∀ name nodePoolName, (name, nodePoolName) ∈ s.held → s.Charged cfg c name nodePoolName →
    ∃ node, s.nodes.get name = some node ∧ node.unschedulable

/-- They are so by the controller's own mark. -/
def Inv (s : State) : Prop :=
  ∀ name nodePoolName, (name, nodePoolName) ∈ s.held → s.Charged cfg c name nodePoolName →
    ∃ node, s.nodes.get name = some node ∧ Cordoned cfg node

end

variable {cfg : NodePoolControllerConfig} {c : Cluster}

theorem Inv.stayCordoned {s : State} (h : Inv cfg c s) : StayCordoned cfg c s := by
  intro name nodePoolName hheld hcharged
  obtain ⟨node, hget, hcordoned⟩ := h name nodePoolName hheld hcharged
  exact ⟨node, hget, hcordoned.1⟩

theorem charged_of_complete {s : State} {namespaceName podName name nodePoolName : String} {succeeded : Bool}
    (h : (step cfg c s (.complete namespaceName podName succeeded)).Charged cfg c name nodePoolName) :
    s.Charged cfg c name nodePoolName := by
  simp only [State.Charged, step, List.any_map, List.any_eq_true, Function.comp] at h ⊢
  obtain ⟨pod, hpod, hcharged⟩ := h
  refine ⟨pod, hpod, ?_⟩
  unfold completed at hcharged
  split at hcharged
  · cases succeeded <;> simp [isCharged, isPodBoundToNode] at hcharged
  · exact hcharged

theorem mem_heldAfter {s : State} {node : Node} {turn : Turn} {name nodePoolName : String}
    (h : (name, nodePoolName) ∈ heldAfter cfg c s node turn) :
    (name, nodePoolName) ∈ s.held ∨ (name = node.name ∧ ∃ new available,
      turn = .change new nodePoolName available ∧
      arePodsRunningWithSameNodePool cfg (s.cluster c) node.name nodePoolName = .ok true) := by
  unfold heldAfter at h
  split at h
  · rename_i new old available
    split at h
    · rename_i hcheck
      split_ifs at h
      · rcases List.mem_cons.1 h with heq | h
        · obtain ⟨rfl, rfl⟩ := Prod.mk.inj heq
          exact .inr ⟨rfl, new, available, rfl, hcheck⟩
        · exact .inl h
      · exact .inl h
    · exact .inl h
  · exact .inl h

theorem held_subset {s : State} {node : Node} {turn : Turn} {hold : String × String} (h : hold ∈ s.held) :
    hold ∈ heldAfter cfg c s node turn := by
  unfold heldAfter
  repeat' split
  all_goals first | exact h | exact List.mem_cons_of_mem _ h

section

variable (hfault : ∀ call, c.fault call = none) {s : State} {event : Event}
include hfault

theorem Inv.step (h : Inv cfg c s) (hfits : Fits cfg c s event) (hspares : Spares cfg c s event) :
    Inv cfg c (step cfg c s event) := by
  have hfault' : ∀ call, (s.cluster c).fault call = none := hfault
  cases event with
  | complete namespaceName podName succeeded =>
    exact fun name nodePoolName hheld hcharged => h name nodePoolName hheld (charged_of_complete hcharged)
  | turn name turn =>
    cases hget : s.nodes.get name with
    | none =>
      simp only [Held.step, hget]
      exact h
    | some node =>
      have hname : node.name = name := Store.get_key hget
      have hafter : (s.nodes.replace (turn.apply cfg (s.cluster c) node)).get name =
          some (turn.apply cfg (s.cluster c) node) :=
        Store.get_replace_self _ _ ((turn.apply_name node).trans hname) (by simp [hget])
      simp only [Held.step, hget]
      intro other nodePoolName hheld hcharged
      rcases mem_heldAfter hheld with hold | ⟨rfl, new, available, rfl, hcheck⟩
      · obtain ⟨node', hget', hcordoned⟩ := h other nodePoolName hold hcharged
        by_cases hsame : other = name
        · subst hsame
          rw [hget, Option.some.injEq] at hget'
          subst hget'
          exact ⟨_, hafter, turn.keeps_cordon hfault' hcordoned (hfits node hget)
            (hspares nodePoolName node hold hcharged hget)⟩
        · refine ⟨node', ?_, hcordoned⟩
          rw [← hget']
          exact ((Store.agreeOff_replace _ _ ((turn.apply_name node).trans hname)).get_eq (by simpa using hsame)).symm
      · exact ⟨_, by rw [hname]; exact hafter, Turn.change_cordons hfault' hcheck⟩

theorem spares_of_stayCordoned (h : Inv cfg c s) (hnext : StayCordoned cfg c (step cfg c s event)) :
    Spares cfg c s event := by
  -- A turn that misses the pods at a held node makes it schedulable.
  have hfault' : ∀ call, (s.cluster c).fault call = none := hfault
  cases event with
  | complete namespaceName podName succeeded => trivial
  | turn name turn =>
    intro nodePoolName node hheld hcharged hget hcheck
    have hname : node.name = name := Store.get_key hget
    have hafter : (s.nodes.replace (turn.apply cfg (s.cluster c) node)).get name =
        some (turn.apply cfg (s.cluster c) node) :=
      Store.get_replace_self _ _ ((turn.apply_name node).trans hname) (by simp [hget])
    obtain ⟨node₀, hget₀, hcordoned⟩ := h name nodePoolName hheld hcharged
    rw [hget, Option.some.injEq] at hget₀
    subst hget₀
    simp only [Held.step, hget] at hnext
    obtain ⟨node', hget', hunschedulable⟩ := hnext name nodePoolName (held_subset hheld) hcharged
    rw [hafter, Option.some.injEq] at hget'
    rw [← hget', turn.ends_cordon hfault' hcordoned hcheck] at hunschedulable
    cases hunschedulable

end

/-- Held nodes stay cordoned exactly when every turn spares them. -/
theorem held_nodes_stay_cordoned_iff (hfault : ∀ call, c.fault call = none) {s : State} (hstart : s.held = [])
    {events : List Event} (hfits : Along (step cfg c) (Fits cfg c) s events) :
    (∀ before, before <+: events → StayCordoned cfg c (run (step cfg c) s before)) ↔
      Along (step cfg c) (Spares cfg c) s events := by
  have hinv : Inv cfg c s := by
    intro name nodePoolName hheld
    rw [hstart] at hheld
    cases hheld
  clear hstart
  induction events generalizing s with
  | nil => exact ⟨fun _ => trivial, fun _ before hbefore => List.prefix_nil.1 hbefore ▸ hinv.stayCordoned⟩
  | cons event events ih =>
    constructor
    · intro h
      have hspares : Spares cfg c s event := spares_of_stayCordoned hfault hinv (h [event] (by simp))
      refine ⟨hspares, (ih hfits.2 (hinv.step hfault hfits.1 hspares)).1 fun before hbefore => ?_⟩
      exact h (event :: before) ((List.cons_prefix_cons).2 ⟨rfl, hbefore⟩)
    · intro h before hbefore
      have hnext := hinv.step hfault hfits.1 h.1
      rcases List.prefix_cons_iff.1 hbefore with rfl | ⟨rest, rfl, hrest⟩
      · exact hinv.stayCordoned
      · exact (ih hfits.2 hnext).2 h.2 rest hrest

namespace Sample

open TwoNamespaces

def node : Node := ⟨"x", (pool "a").insert "zone" "z", false⟩

def cluster : Cluster :=
  { bareCluster [podIn "n2"] podGroups [fun _ => .ok false] with
    nodePools := [⟨"a", "zone", "z", false, .ready, ["nodepool.kai.scheduler/finalize"], by decide⟩] }

def start : State := ⟨only node, [podIn "n2"], []⟩

/-- The node is to be excluded, its pod completes, and it is validated. -/
def events : List Event :=
  [.turn "x" (.change "kai-excluded-nodes" "a" []), .complete "n2" "pod" true, .turn "x" (.validate "a")]

theorem pool_of_get {s : State} {n : Node} (h : poolOf .default s.nodes "x" = some "a")
    (hget : s.nodes.get "x" = some n) : getNodePoolNameFromLabels .default n.labels = "a" := by
  rw [poolOf, hget, Option.map_some, Option.some.injEq] at h
  exact h

end Sample

open Sample in
theorem completed_pod_frees_node : StayCordoned .default cluster (run (step .default cluster) start events) := by
  have hfits : Along (step .default cluster) (Fits .default cluster) start events :=
    ⟨fun n hget => pool_of_get (by decide) hget, trivial, fun n hget => pool_of_get (by decide) hget, trivial⟩
  refine (held_nodes_stay_cordoned_iff (fun _ => rfl) rfl hfits).2 ⟨?_, trivial, ?_, trivial⟩ events List.prefix_rfl
  · intro nodePoolName n hheld
    cases hheld
  · intro nodePoolName n (hheld : _ ∈ (run (step .default cluster) start (events.take 2)).held) hcharged
    have hlist : (run (step .default cluster) start (events.take 2)).held = [("x", "a")] := by decide
    rw [hlist, List.mem_singleton, Prod.mk.injEq] at hheld
    rw [hheld.2] at hcharged
    exact absurd hcharged (by decide)

open Sample in
theorem held_node_made_schedulable :
    isCharged .default cluster.podGroups "x" "a" (TwoNamespaces.podIn "n2") = true ∧
    ((reconcileManaged .default cluster (some "x") (only node)).nodes.get "x").map Node.unschedulable = some true ∧
    ((reconcile .default cluster "a" (reconcileManaged .default cluster (some "x") (only node)).nodes).nodes.get
      "x").map Node.unschedulable = some false := by
  -- The ManagedNodesConfig reconcile cordons the node, and the reconcile of its pool ends the cordon, with the pod
  -- still running.
  decide

/-! ## Reconciles are runs -/

theorem reaches_is_run (s : State) {nodes : NodeStore} (h : Reaches cfg (s.cluster c) s.nodes nodes) :
    ∃ events, Along (step cfg c) (Fits cfg c) s events ∧ (run (step cfg c) s events).nodes = nodes ∧
      (run (step cfg c) s events).pods = s.pods := by
  refine run_of_localSteps State.nodes (fun s' => s'.pods = s.pods) ?_ rfl h
  rintro s' _ hpods ⟨node, hnode, -, ⟨turn, hfits, rfl⟩, rfl⟩
  have hget := Store.get_of_mem hnode
  have hcluster : s'.cluster c = s.cluster c := by rw [State.cluster, hpods, State.cluster]
  refine ⟨.turn node.name turn, ?_, ?_, ?_⟩
  · intro node' hget'
    rw [hget, Option.some.injEq] at hget'
    rw [hcluster]
    exact hget' ▸ hfits
  · simp only [step, hget, hcluster]
  · simp only [step, hget, hpods]

/-- NodePool and ManagedNodesConfig reconciles are runs of fitting turns. -/
theorem reconciles_are_runs (s : State) :
    (∀ name, ∃ events, Along (step cfg c) (Fits cfg c) s events ∧ (run (step cfg c) s events).nodes =
      (reconcile cfg (s.cluster c) name s.nodes).nodes ∧ (run (step cfg c) s events).pods = s.pods) ∧
    (∀ request, ∃ events, Along (step cfg c) (Fits cfg c) s events ∧ (run (step cfg c) s events).nodes =
      (reconcileManaged cfg (s.cluster c) request s.nodes).nodes ∧ (run (step cfg c) s events).pods = s.pods) :=
  ⟨fun name => reaches_is_run s (reconcile_reaches s.nodes name),
    fun request => reaches_is_run s (reconcileManaged_reaches request s.nodes)⟩

end Held

end Krm.Nodes
