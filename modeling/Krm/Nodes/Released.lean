import Krm.Nodes.Evolves

/-! # When a NodePool that is being deleted is released -/

open Krm.Lib

namespace Krm.Nodes

variable {cfg : NodePoolControllerConfig} {c : Cluster} {env : Surroundings} {nodes : NodeStore} {node : Node}

/-! ## One node -/

theorem validateNodeLabeledWithUnschedulable_unschedulable :
    (validateNodeLabeledWithUnschedulable cfg c node true).2.unschedulable = node.unschedulable := by
  unfold validateNodeLabeledWithUnschedulable updateNodeLabels
  rw [if_pos rfl]
  split_ifs
  · rfl
  · split
    · rfl
    · rfl

theorem updateNodeUnschedulableIfNeeded_of_ok (h : (updateNodeUnschedulableIfNeeded cfg c node true).1 = none) :
    (updateNodeUnschedulableIfNeeded cfg c node true).2.unschedulable = true := by
  unfold updateNodeUnschedulableIfNeeded at h ⊢
  split_ifs at h ⊢ with hsame hours
  · exact validateNodeLabeledWithUnschedulable_unschedulable.trans hsame
  · simp at hours
  · unfold patchNodeUnschedulable at h ⊢
    split at h
    · cases h
    · rfl

theorem validateNodeStatus_of_held {running : Except ApiError Bool}
    (herr : (validateNodeStatus cfg c running node).err = none)
    (hheld : (validateNodeStatus cfg c running node).schedulable = false) :
    (validateNodeStatus cfg c running node).node.unschedulable = true := by
  match running with
  | .error e => cases herr
  | .ok true => exact updateNodeUnschedulableIfNeeded_of_ok herr
  | .ok false =>
    unfold validateNodeStatus at herr hheld
    dsimp only at herr hheld
    generalize updateNodeUnschedulableIfNeeded cfg c node false = updated at herr hheld
    obtain ⟨_ | e, after⟩ := updated
    · cases hheld
    · cases herr

variable (cfg) in
theorem findMatchingNodePoolFromList_mem (node : Node) (pools : List NodePool) :
    findMatchingNodePoolFromList cfg node pools = cfg.defaultNodepoolName ∨
      ∃ nodePool ∈ pools, findMatchingNodePoolFromList cfg node pools = nodePool.name := by
  unfold findMatchingNodePoolFromList
  split
  · rename_i nodePool hfound
    exact .inr ⟨nodePool, List.mem_of_find?_eq_some hfound, rfl⟩
  · exact .inl rfl

theorem findAndChangeNodePoolForNode_of_ok {old : String} {pools : List NodePool}
    (hpools : ∀ nodePool ∈ pools, nodePool.name ≠ old)
    (h : (findAndChangeNodePoolForNode cfg c node old pools).err = none) :
    (findAndChangeNodePoolForNode cfg c node old pools).node.labels.lookup cfg.nodePoolNameLabel ≠ some old ∨
      (findAndChangeNodePoolForNode cfg c node old pools).node.unschedulable = true ∧
        (findAndChangeNodePoolForNode cfg c node old pools).node.labels.lookup cfg.nodePoolNameLabel =
          node.labels.lookup cfg.nodePoolNameLabel := by
  unfold findAndChangeNodePoolForNode changeNodePoolForNodeGeneric validateNodeStatusWhenChangingNodePool at h ⊢
  generalize arePodsRunningWithSameNodePool cfg c node.name old = running at h ⊢
  dsimp only at h ⊢
  rw [if_pos rfl] at h ⊢
  split_ifs at h ⊢ with hfree
  · left
    obtain ⟨-, hlabel | ⟨herr, -⟩⟩ := updateNodeWithNodePoolNameIfNeeded_spec cfg c
      (validateNodeStatus cfg c running node).node
      (findMatchingNodePoolFromList cfg (validateNodeStatus cfg c running node).node pools)
    · rw [hlabel, poolLabel]
      split_ifs with hdefault
      · exact (Option.some_ne_none old).symm
      · obtain hmatch | ⟨nodePool, hmem, hmatch⟩ :=
          findMatchingNodePoolFromList_mem cfg (validateNodeStatus cfg c running node).node pools
        · exact absurd hmatch hdefault
        · rw [hmatch]
          exact fun hsame => hpools nodePool hmem (Option.some.inj hsame)
    · exact absurd h herr
  · right
    have hlabel := validateNodeStatus_lookup (c := c) (keys_ne cfg).2.2 running node
    exact ⟨validateNodeStatus_of_held h (by simpa [h] using hfree), hlabel⟩

/-! ## All nodes of the pool -/

theorem reassignNodeForDeletingNodePool_of_ready {nodePool : NodePool}
    (herrs : (reassignNodeForDeletingNodePool cfg c nodePool nodes).errs = [])
    (hready : ∀ node ∈ (reassignNodeForDeletingNodePool cfg c nodePool nodes).resultNodes, node.unschedulable = false) :
    Store.Related (fun node after => after.labels.lookup cfg.nodePoolNameLabel = some nodePool.name ↔
        nodePool.name = cfg.defaultNodepoolName ∧ node.labels.lookup cfg.nodePoolNameLabel = some nodePool.name)
      nodes (reassignNodeForDeletingNodePool cfg c nodePool nodes).nodes := by
  have hlisted : Lists nodes (getNodePoolNodes cfg c nodePool.name nodes) _ := lists_getNodePoolNodes nodePool.name
  refine (reconcileListed_ok hlisted (fun _ => changeNodePoolForNodeGeneric_name) herrs).mono fun node hnode after h => ?_
  split_ifs at h with hp
  · obtain ⟨pools, hneeded, herr, hafter⟩ := h
    have hkept := hready _ (reconcileListed_results hlisted herrs hneeded hnode hp)
    have hothers : ∀ other ∈ pools, other.name ≠ nodePool.name := by
      obtain ⟨available, -, rfl⟩ := map_ok hneeded
      exact fun other hother => by simpa using (List.mem_filter.1 hother).2
    rw [decide_eq_true_iff] at hp
    rw [hafter]
    obtain hleft | ⟨hheld, -⟩ := findAndChangeNodePoolForNode_of_ok hothers (Option.toList_eq_nil_iff.1 herr)
    · refine ⟨fun hsame => absurd hsame hleft, fun ⟨hdefault, hnamed⟩ => ?_⟩
      rw [hp, poolLabel, if_pos hdefault] at hnamed
      cases hnamed
    · exact absurd (hheld.symm.trans hkept) (by decide)
  · rw [h]
    refine ⟨fun hnamed => ⟨?_, hnamed⟩, And.right⟩
    by_contra hdefault
    exact hp (decide_eq_true (by rw [hnamed, poolLabel, if_neg hdefault]))

/-! ## The phase -/

theorem getNodePoolDeletionStatus_empty {nodePool : StoredNodePool} {nodePoolNodes : List Node} {details : Details}
    {status : NodePoolStatus} (hstatus : getNodePoolDeletionStatus env nodePool nodePoolNodes details = .ok status)
    (hphase : status.phase ≠ .deleting) :
    (∀ node ∈ nodePoolNodes, node.unschedulable = false) ∧
      ∀ project ∈ env.projects, ∀ queue ∈ project.queues, queue.nodepool ≠ nodePool.name := by
  obtain ⟨referencing, hprojects, rfl⟩ := map_ok hstatus
  dsimp only at hphase
  obtain ⟨hnodes, hnone⟩ : (getNodesSituation details nodePoolNodes).atLeastOneNodeUnschedulable = false ∧
      referencing = [] := by
    simpa using hphase
  refine ⟨fun node hnode => ?_, fun project hproject queue hqueue hnamed => ?_⟩
  · have hready := List.any_eq_false.1 hnodes node hnode
    cases hheld : node.unschedulable with
    | false => rfl
    | true => simp [isNodeReady, hheld] at hready
  · unfold getProjectsReferencingNodePool Surroundings.attempt at hprojects
    split at hprojects
    · cases hprojects
    · have hmem : project.name ∈ referencing := by
        rw [← Except.ok.inj hprojects, sortNames, List.mem_insertionSort]
        refine List.mem_map_of_mem (List.mem_filter.2 ⟨hproject, ?_⟩)
        exact List.any_eq_true.2 ⟨queue, hqueue, decide_eq_true hnamed⟩
      rw [hnone] at hmem
      cases hmem

variable (env) in
theorem updateNodePoolStatusIfNeeded_finalizers (nodePool : StoredNodePool) (status : NodePoolStatus) :
    (updateNodePoolStatusIfNeeded env nodePool status).2.finalizers = nodePool.finalizers := by
  rcases updateNodePoolStatusIfNeeded_cases env nodePool status with h | h <;> rw [h]
  rfl

/-! ## The release -/

section

variable {nodePool : StoredNodePool} {w : World} (hget : w.nodePools.get nodePool.name = some nodePool)
  (hfinalizer : cfg.finalizerName ∈ nodePool.finalizers)
include hget hfinalizer

theorem not_released_of_replace {written : StoredNodePool} (hname : written.name = nodePool.name)
    (hfinalizers : written.finalizers = nodePool.finalizers) :
    ¬ ∀ stored, (w.nodePools.replace written).get nodePool.name = some stored →
      cfg.finalizerName ∉ stored.finalizers := by
  intro hreleased
  refine hreleased written (Store.get_replace_self _ _ hname ?_) (hfinalizers ▸ hfinalizer)
  rw [hget]
  rfl

theorem finalizeNodePool_released (huninstalling : c.uninstalling = false)
    (hreleased : ∀ stored, (finalizeNodePool cfg c env nodePool w).2.nodePools.get nodePool.name = some stored →
      cfg.finalizerName ∉ stored.finalizers) :
    (finalizeNodePool cfg c env nodePool w).2.nodes =
        (reassignNodeForDeletingNodePool cfg (w.cluster c) nodePool.toNodePool w.nodes).nodes ∧
      (reassignNodeForDeletingNodePool cfg (w.cluster c) nodePool.toNodePool w.nodes).errs = [] ∧
      ∃ status, getNodePoolDeletionStatus env nodePool
          (reassignNodeForDeletingNodePool cfg (w.cluster c) nodePool.toNodePool w.nodes).resultNodes w.details =
            .ok status ∧ status.phase ≠ .deleting := by
  unfold finalizeNodePool at hreleased ⊢
  rw [if_neg (not_not.2 hfinalizer), huninstalling, if_neg Bool.false_ne_true] at hreleased ⊢
  generalize reassignNodeForDeletingNodePool cfg (w.cluster c) nodePool.toNodePool w.nodes = pass at hreleased ⊢
  dsimp only at hreleased ⊢
  by_cases herrs : pass.errs = []
  · rw [if_neg (by simp [herrs])] at hreleased ⊢
    cases hstatus : getNodePoolDeletionStatus env nodePool pass.resultNodes w.details with
    | error e =>
      rw [hstatus] at hreleased
      exact absurd hfinalizer (hreleased nodePool hget)
    | ok status =>
      rw [hstatus] at hreleased
      dsimp only at hreleased ⊢
      have hkept := not_released_of_replace hget hfinalizer (updateNodePoolStatusIfNeeded_name env nodePool status)
        (updateNodePoolStatusIfNeeded_finalizers env nodePool status)
      split_ifs at hreleased ⊢ with hwritten hphase
      · exact absurd hreleased hkept
      · exact absurd hreleased hkept
      · exact ⟨(deleteFinalizer_nodes cfg c _ _).1, herrs, status, rfl, hphase⟩
  · rw [if_pos (by simpa using herrs)] at hreleased
    exact absurd hreleased (not_released_of_replace hget hfinalizer (updateNodePoolStatusIfNeeded_name env _ _)
      (updateNodePoolStatusIfNeeded_finalizers env _ _))

end

/-- A released NodePool is unused, the default one apart. -/
theorem released_node_pool_unused_iff {nodePool : StoredNodePool} {w : World}
    (hget : w.nodePools.get nodePool.name = some nodePool) (hfinalizer : cfg.finalizerName ∈ nodePool.finalizers)
    (huninstalling : c.uninstalling = false)
    (hreleased : ∀ stored, (finalizeNodePool cfg c env nodePool w).2.nodePools.get nodePool.name = some stored →
      cfg.finalizerName ∉ stored.finalizers) :
    (∀ project ∈ env.projects, ∀ queue ∈ project.queues, queue.nodepool ≠ nodePool.name) ∧
      ((∀ node ∈ (finalizeNodePool cfg c env nodePool w).2.nodes.items,
          node.labels.lookup cfg.nodePoolNameLabel ≠ some nodePool.name) ↔
        (nodePool.name = cfg.defaultNodepoolName →
          ∀ node ∈ w.nodes.items, node.labels.lookup cfg.nodePoolNameLabel ≠ some nodePool.name)) := by
  obtain ⟨hnodes, herrs, status, hstatus, hphase⟩ := finalizeNodePool_released hget hfinalizer huninstalling hreleased
  obtain ⟨hready, hprojects⟩ := getNodePoolDeletionStatus_empty hstatus hphase
  have hmoved := reassignNodeForDeletingNodePool_of_ready herrs hready
  refine ⟨hprojects, ?_⟩
  rw [hnodes]
  constructor
  · intro hunused hdefault node hnode hnamed
    obtain ⟨after, hafter, hiff⟩ := hmoved.get (Store.get_of_mem hnode)
    exact hunused after (Store.get_mem hafter) (hiff.2 ⟨hdefault, hnamed⟩)
  · intro hlisted after hafter hnamed
    obtain ⟨node, hnode, hiff⟩ := hmoved.get_before (Store.get_of_mem hafter)
    obtain ⟨hdefault, hbefore⟩ := hiff.1 hnamed
    exact hlisted hdefault node (Store.get_mem hnode) hbefore

namespace Release

def deleting (name labelKey labelValue : String) (h : name ≠ "") : StoredNodePool where
  name := name
  labelKey := labelKey
  labelValue := labelValue
  deleted := true
  phase := .unset
  finalizers := [NodePoolControllerConfig.default.finalizerName]
  name_ne := h
  annotations := ∅
  numaEnabled := none
  preferredNetworkTopologyName := ""
  message := ""
  nodes := []
  conditions := []

/-- A deleted NodePool, and a ready node with its name. -/
def world (nodePool : StoredNodePool) : World where
  nodes := only ⟨"x", (∅ : Labels).insert "kai.scheduler/node-pool" nodePool.name, false⟩
  details := fun _ => ⟨∅, [⟨"Ready", .isTrue, "", ""⟩]⟩
  nodePools := .single nodePool

def poolA : StoredNodePool := deleting "a" "zone" "a" a_ne
def defaultPool : StoredNodePool := deleting "default" "" "" default_ne

end Release

open Release in
theorem emptied_node_pool_released :
    (finalizeNodePool .default quietCluster allReady poolA (world poolA)).2.nodePools.get "a" = none ∧
      ∀ node ∈ (finalizeNodePool .default quietCluster allReady poolA (world poolA)).2.nodes.items,
        node.labels.lookup "kai.scheduler/node-pool" ≠ some "a" := by
  have hgone : (finalizeNodePool .default quietCluster allReady poolA (world poolA)).2.nodePools.get "a" = none := by
    decide
  have hstored : (world poolA).nodePools.get poolA.name = some poolA :=
    Store.get_of_mem (List.mem_singleton_self _)
  refine ⟨hgone, (released_node_pool_unused_iff hstored (by decide) rfl ?_).2.2 (fun h => absurd h (by decide))⟩
  intro stored hleft
  rw [show poolA.name = "a" from rfl, hgone] at hleft
  cases hleft

open Release in
theorem default_node_pool_released_in_use :
    (finalizeNodePool .default quietCluster allReady defaultPool (world defaultPool)).1 = [] ∧
      (finalizeNodePool .default quietCluster allReady defaultPool (world defaultPool)).2.nodePools.get "default" =
        none ∧
      ∃ node ∈ (finalizeNodePool .default quietCluster allReady defaultPool (world defaultPool)).2.nodes.items,
        node.labels.lookup "kai.scheduler/node-pool" = some "default" := by
  -- The nodes of the default NodePool are those without the label, so that one labelled with its name is not moved.
  decide

end Krm.Nodes
