import Krm.Nodes.Pods
import Krm.Nodes.Turns

/-! # A node leaves its pool only when it is drained -/

open Krm.Lib

namespace Krm.Nodes

variable {cfg : NodePoolControllerConfig} {c : Cluster}

/-! ## The pool label through a turn -/

variable {k : String} {add : List (String × String)}

theorem lookup_add (hadd : k ∉ add.map Prod.fst) (labels : Labels) :
    (add.foldl (fun ls kv => ls.insert kv.1 kv.2) labels).lookup k = labels.lookup k := by
  induction add generalizing labels with
  | nil => rfl
  | cons kv add ih =>
    rw [List.map_cons, List.mem_cons, not_or] at hadd
    rw [List.foldl_cons, ih hadd.2, Finmap.lookup_insert_of_ne _ hadd.1]

theorem lookup_remove {remove : List String} (hremove : k ∉ remove) (labels : Labels) :
    (remove.foldl (fun ls k => ls.erase k) labels).lookup k = labels.lookup k := by
  induction remove generalizing labels with
  | nil => rfl
  | cons k' remove ih =>
    rw [List.mem_cons, not_or] at hremove
    rw [List.foldl_cons, ih hremove.2, Finmap.lookup_erase_ne hremove.1]

theorem updateNodeLabels_lookup {node : Node} {remove : List String} (hadd : k ∉ add.map Prod.fst)
    (hremove : k ∉ remove) : (updateNodeLabels c node add remove).2.labels.lookup k = node.labels.lookup k := by
  unfold updateNodeLabels patchedLabels
  split
  · rfl
  · rw [lookup_remove hremove, lookup_add hadd]

theorem updateNodeUnschedulableIfNeeded_lookup (hk : k ≠ cfg.unschedulableLabelKey) (node : Node)
    (unschedulable : Bool) :
    (updateNodeUnschedulableIfNeeded cfg c node unschedulable).2.labels.lookup k = node.labels.lookup k := by
  unfold updateNodeUnschedulableIfNeeded validateNodeLabeledWithUnschedulable patchNodeUnschedulable
  split_ifs
  · rfl
  · exact updateNodeLabels_lookup (by simpa using hk) (by simp)
  · rfl
  · exact updateNodeLabels_lookup (by simp) (by simpa using hk)
  · rfl
  all_goals
    split
    · rfl
    · first | exact Finmap.lookup_insert_of_ne _ hk | exact Finmap.lookup_erase_ne hk

theorem validateNodeStatus_lookup (hk : k ≠ cfg.unschedulableLabelKey) (arePodsRunning : Except ApiError Bool)
    (node : Node) : (validateNodeStatus cfg c arePodsRunning node).node.labels.lookup k = node.labels.lookup k := by
  unfold validateNodeStatus
  split
  · rfl
  · exact updateNodeUnschedulableIfNeeded_lookup hk node true
  · have hlookup := updateNodeUnschedulableIfNeeded_lookup (c := c) hk node false
    split <;> rename_i h <;> rw [h] at hlookup <;> exact hlookup

theorem change_stays {node : Node} {newNodePoolName oldNodePoolName : String} {availableNodePools : List NodePool}
    (h : arePodsRunningWithSameNodePool cfg c node.name oldNodePoolName ≠ .ok false) :
    (changeNodePoolForNodeGeneric cfg c node newNodePoolName oldNodePoolName availableNodePools).node =
      (validateNodeStatusWhenChangingNodePool cfg c node oldNodePoolName).node := by
  have hstays : (validateNodeStatusWhenChangingNodePool cfg c node oldNodePoolName).schedulable = false := by
    unfold validateNodeStatusWhenChangingNodePool validateNodeStatus
    split
    · rfl
    · rfl
    · rename_i hok
      exact absurd hok h
  unfold changeNodePoolForNodeGeneric
  simp only [hstays, Bool.false_eq_true, and_false, if_false]

theorem getNodePoolNameFromLabels_congr {labels labels' : Labels}
    (h : labels'.lookup cfg.nodePoolNameLabel = labels.lookup cfg.nodePoolNameLabel) :
    getNodePoolNameFromLabels cfg labels' = getNodePoolNameFromLabels cfg labels := by
  unfold getNodePoolNameFromLabels
  rw [h]

theorem NodeStep.poolName {node node' : Node} (huninstall : c.uninstalling = false)
    (hcheck : arePodsRunningWithSameNodePool cfg c node.name (getNodePoolNameFromLabels cfg node.labels) ≠ .ok false)
    (h : NodeStep cfg c node node') :
    getNodePoolNameFromLabels cfg node'.labels = getNodePoolNameFromLabels cfg node.labels := by
  obtain ⟨turn, hfits, rfl⟩ := h
  apply getNodePoolNameFromLabels_congr
  cases turn with
  | change newNodePoolName oldNodePoolName availableNodePools =>
    obtain rfl : _ = oldNodePoolName := hfits
    simp only [Turn.apply]
    rw [change_stays hcheck]
    exact validateNodeStatus_lookup (keys_ne cfg).2.2 ..
  | validate nodePoolName => exact validateNodeStatus_lookup (keys_ne cfg).2.2 ..
  | relabel add remove =>
    rcases hfits.2 with h | ⟨hadd, hremove⟩
    · rw [huninstall] at h
      cases h
    · exact updateNodeLabels_lookup hadd hremove

/-! ## Reconciles -/

def poolOf (cfg : NodePoolControllerConfig) (nodes : NodeStore) (name : String) : Option String :=
  (nodes.get name).map fun node => getNodePoolNameFromLabels cfg node.labels

theorem poolOf_of_reaches {nodes nodes' : NodeStore} (huninstall : c.uninstalling = false)
    (hreaches : Reaches cfg c nodes nodes') {node : Node} (hnode : node ∈ nodes.items)
    (hcheck : arePodsRunningWithSameNodePool cfg c node.name (getNodePoolNameFromLabels cfg node.labels) ≠ .ok false) :
    poolOf cfg nodes' node.name = some (getNodePoolNameFromLabels cfg node.labels) := by
  let same (other : Node) : Prop := other.name = node.name ∧
    getNodePoolNameFromLabels cfg other.labels = getNodePoolNameFromLabels cfg node.labels
  have hkeep : ∀ a b, same a → NodeStep cfg c a b → same b := by
    rintro a b ⟨hname, hpool⟩ hstep
    rw [← hname, ← hpool] at hcheck
    exact ⟨(hstep.name cfg c a b).trans hname, (hstep.poolName huninstall hcheck).trans hpool⟩
  obtain ⟨node', hget, -, hpool⟩ :=
    localSteps_get (NodeStep.name cfg c) hkeep hreaches (Store.get_of_mem hnode) ⟨rfl, rfl⟩
  rw [poolOf, hget, Option.map_some, hpool]

/-! ## Moves -/

section Move

variable (hfault : ∀ call, c.fault call = none) {node : Node}
include hfault

theorem updateNodeWithNodePoolName_poolName {nodePoolName : String}
    (h : nodePoolName = cfg.defaultNodepoolName ∨ nodePoolName ≠ "") :
    getNodePoolNameFromLabels cfg (updateNodeWithNodePoolNameIfNeeded cfg c node nodePoolName).2.labels =
      nodePoolName := by
  unfold updateNodeWithNodePoolNameIfNeeded updateNodeLabels
  simp only [hfault]
  split_ifs with hdefault hnone hsame
  · rw [hdefault]
    exact poolName_of_none (by simpa using hnone)
  · rw [hdefault]
    exact poolName_of_none (Finmap.lookup_erase ..)
  · exact poolName_of_lookup hsame (h.resolve_left hdefault)
  · exact poolName_of_lookup (Finmap.lookup_insert ..) (h.resolve_left hdefault)

theorem updateNodeUnschedulableIfNeeded_err (node : Node) (unschedulable : Bool) :
    (updateNodeUnschedulableIfNeeded cfg c node unschedulable).1 = none := by
  unfold updateNodeUnschedulableIfNeeded patchNodeUnschedulable
  simp only [hfault]
  split_ifs <;> rfl

theorem changeNodePoolForNode_poolName {newNodePoolName oldNodePoolName : String}
    (hcheck : arePodsRunningWithSameNodePool cfg c node.name oldNodePoolName = .ok false)
    (h : newNodePoolName = cfg.defaultNodepoolName ∨ newNodePoolName ≠ "") :
    getNodePoolNameFromLabels cfg (changeNodePoolForNode cfg c node newNodePoolName oldNodePoolName).node.labels =
      newNodePoolName := by
  have herr : (updateNodeUnschedulableIfNeeded cfg c node false).1 = none :=
    updateNodeUnschedulableIfNeeded_err hfault node false
  have hfree : validateNodeStatusWhenChangingNodePool cfg c node oldNodePoolName =
      ⟨true, none, (updateNodeUnschedulableIfNeeded cfg c node false).2⟩ := by
    unfold validateNodeStatusWhenChangingNodePool validateNodeStatus
    rw [hcheck]
    generalize updateNodeUnschedulableIfNeeded cfg c node false = updated at herr ⊢
    obtain ⟨err, after⟩ := updated
    cases herr
    rfl
  have hfound : (if newNodePoolName = "" then
      findMatchingNodePoolFromList cfg (updateNodeUnschedulableIfNeeded cfg c node false).2 []
      else newNodePoolName) = newNodePoolName := by
    split_ifs with hempty
    · exact (h.resolve_right (not_not.2 hempty)).symm
    · rfl
  unfold changeNodePoolForNode changeNodePoolForNodeGeneric
  simp only [hfree, and_self, if_true, hfound]
  exact updateNodeWithNodePoolName_poolName hfault h

omit hfault in
theorem unmark_poolName :
    getNodePoolNameFromLabels cfg (updateNodeLabels c node [] [cfg.shouldBeExcludedLabelKey]).2.labels =
      getNodePoolNameFromLabels cfg node.labels :=
  getNodePoolNameFromLabels_congr (updateNodeLabels_lookup (by simp) (by simpa using (keys_ne cfg).1))

omit hfault in
theorem mark_poolName :
    getNodePoolNameFromLabels cfg (updateNodeLabels c node [(cfg.shouldBeExcludedLabelKey, "true")] []).2.labels =
      getNodePoolNameFromLabels cfg node.labels :=
  getNodePoolNameFromLabels_congr (updateNodeLabels_lookup (by simpa using (keys_ne cfg).1) (by simp))

theorem excludeNode_poolName {clean : Bool}
    (hcheck : arePodsRunningWithSameNodePool cfg c node.name (getNodePoolNameFromLabels cfg node.labels) = .ok false) :
    getNodePoolNameFromLabels cfg (excludeNode cfg c clean node).2.2.labels = cfg.excludedNodepoolName := by
  have hmoved := changeNodePoolForNode_poolName hfault hcheck (.inr (excluded_ne cfg).1)
  unfold excludeNode
  dsimp only
  split_ifs
  · exact mark_poolName.trans hmoved
  · exact unmark_poolName.trans hmoved
  · exact hmoved
  · exact hmoved

theorem includeNode_poolName
    (hcheck : arePodsRunningWithSameNodePool cfg c node.name cfg.excludedNodepoolName = .ok false) :
    getNodePoolNameFromLabels cfg (includeNode cfg c node).2.labels = cfg.defaultNodepoolName := by
  have hmoved := changeNodePoolForNode_poolName hfault hcheck (.inl rfl)
  unfold includeNode
  dsimp only
  split_ifs
  · exact unmark_poolName.trans hmoved
  · exact hmoved

end Move

/-! ## The result -/

def bareCluster (pods : List Pod) (podGroups : Store PodGroup.key) (inclusionCriteria : List NodeSelectorTerm) :
    Cluster where
  pods := pods
  podGroups := podGroups
  nodePools := []
  shards := []
  inclusionCriteria := inclusionCriteria
  uninstalling := false
  fault := fun _ => none

def quietCluster : Cluster := bareCluster [] .empty []

def only (node : Node) : NodeStore := ⟨[node], List.nodup_singleton _⟩

section

variable {node : Node}

theorem get_only : (only node).get node.name = some node := Store.get_of_mem (List.mem_singleton_self node)

theorem poolOf_replace {node' : Node} (hsteps : NodeSteps cfg c node node') :
    poolOf cfg ((only node).replace node') node.name = some (getNodePoolNameFromLabels cfg node'.labels) := by
  have hname : node'.name = node.name := key_of_steps (NodeStep.name cfg c) hsteps
  rw [poolOf, Store.get_replace_self _ _ hname (by simp [get_only]), Option.map_some]

variable (hshards : listPartitionLabelValues c = .ok [])
include hshards

theorem splitNode_only : splitNodeToIncludedExcluded cfg c [node] =
    if node.labels.value cfg.nodePoolNameLabel = cfg.excludedNodepoolName then .ok ([], [node]) else .ok ([node], []) := by
  unfold splitNodeToIncludedExcluded
  rw [hshards]
  split_ifs with hvalue <;> simp [hvalue, bind, Except.bind, pure, Except.pure]

variable (hfault : ∀ call, c.fault call = none)
include hfault

theorem reconcileManaged_excludes
    (hcheck : arePodsRunningWithSameNodePool cfg c node.name (getNodePoolNameFromLabels cfg node.labels) = .ok false)
    (hpool : getNodePoolNameFromLabels cfg node.labels ≠ cfg.excludedNodepoolName)
    (hmeets : meetsCriteria c.inclusionCriteria node = false) :
    poolOf cfg (reconcileManaged cfg c (some node.name) (only node)).nodes node.name = some cfg.excludedNodepoolName := by
  have hvalue : node.labels.value cfg.nodePoolNameLabel ≠ cfg.excludedNodepoolName :=
    fun h => hpool (poolName_of_value h)
  have hnodes : (reconcileManaged cfg c (some node.name) (only node)).nodes =
      (only node).replace (excludeNode cfg c true node).2.2 := by
    have hlist : [node].filter (fun node => decide (meetsCriteria c.inclusionCriteria node = false)) = [node] := by
      simp [hmeets]
    unfold reconcileManaged reconcileNode
    simp only [hfault, get_only, splitNode_only hshards, hvalue, if_false]
    unfold reconcileIncludedNodesThatShouldBeExcluded reconcileExcludedNodesThatShouldBeIncluded forNodes
    rw [filterNodes_eq, filterNodes_eq, hlist]
    rfl
  rw [hnodes, poolOf_replace excludeNode_steps, excludeNode_poolName hfault hcheck]

theorem reconcileManaged_includes
    (hcheck : arePodsRunningWithSameNodePool cfg c node.name cfg.excludedNodepoolName = .ok false)
    (hpool : getNodePoolNameFromLabels cfg node.labels = cfg.excludedNodepoolName)
    (hmeets : meetsCriteria c.inclusionCriteria node = true) :
    poolOf cfg (reconcileManaged cfg c (some node.name) (only node)).nodes node.name = some cfg.defaultNodepoolName := by
  have hvalue := value_of_poolName hpool
  have hnodes : (reconcileManaged cfg c (some node.name) (only node)).nodes =
      (only node).replace (includeNode cfg c node).2 := by
    have hlist : [node].filter (fun node => decide (meetsCriteria c.inclusionCriteria node = true)) = [node] := by
      simp [hmeets]
    unfold reconcileManaged reconcileNode
    simp only [hfault, get_only, splitNode_only hshards, hvalue, if_true]
    unfold reconcileIncludedNodesThatShouldBeExcluded reconcileExcludedNodesThatShouldBeIncluded forNodes
    rw [filterNodes_eq, filterNodes_eq, hlist]
    rfl
  rw [hnodes, poolOf_replace (includeNode_steps hpool), includeNode_poolName hfault hcheck]

end

/-- No reconcile outside uninstall takes the node out of its pool. -/
def StaysInPool (cfg : NodePoolControllerConfig) (pods : List Pod) (podGroups : Store PodGroup.key) (node : Node) :
    Prop :=
  ∀ (c : Cluster) (nodes : NodeStore), c.pods = pods → c.podGroups = podGroups → c.ReadsSucceed →
    c.uninstalling = false → node ∈ nodes.items →
    (∀ name, poolOf cfg (reconcile cfg c name nodes).nodes node.name =
      some (getNodePoolNameFromLabels cfg node.labels)) ∧
    (∀ request, poolOf cfg (reconcileManaged cfg c request nodes).nodes node.name =
      some (getNodePoolNameFromLabels cfg node.labels))

/-- A node stays in its pool exactly when one of its pods is counted. -/
theorem stays_in_pool_iff_counted {cfg : NodePoolControllerConfig} {pods : List Pod}
    {podGroups : Store PodGroup.key} {node : Node} {P : String} (hpool : getNodePoolNameFromLabels cfg node.labels = P)
    (hvalid : P ≠ cfg.defaultNodepoolName → isLabelValue P) :
    StaysInPool cfg pods podGroups node ↔ Counted cfg pods podGroups node.name P := by
  subst hpool
  constructor
  · intro hstays
    by_contra hnot
    -- A config that asks for the node's move moves it, since nothing is counted.
    have hcheck : ∀ criteria, arePodsRunningWithSameNodePool cfg (bareCluster pods podGroups criteria) node.name
        (getNodePoolNameFromLabels cfg node.labels) = .ok false := by
      intro criteria
      obtain ⟨running, hok, hcounted⟩ := arePodsRunningWithSameNodePool_ok (c := bareCluster pods podGroups criteria)
        (fun _ _ => rfl) node.name hvalid
      rw [hok]
      cases running with
      | false => rfl
      | true => exact absurd (hcounted.1 rfl) hnot
    by_cases hexcluded : getNodePoolNameFromLabels cfg node.labels = cfg.excludedNodepoolName
    · have hafter := (hstays (bareCluster pods podGroups []) (only node) rfl rfl (fun _ _ => rfl) rfl
        (List.mem_singleton_self node)).2 (some node.name)
      rw [reconcileManaged_includes rfl (fun _ => rfl) (hexcluded ▸ hcheck []) hexcluded rfl, hexcluded, Option.some.injEq] at hafter
      exact (excluded_ne cfg).2 hafter.symm
    · have hafter := (hstays (bareCluster pods podGroups [fun _ => .ok false]) (only node) rfl rfl (fun _ _ => rfl) rfl
        (List.mem_singleton_self node)).2 (some node.name)
      rw [reconcileManaged_excludes rfl (fun _ => rfl) (hcheck _) hexcluded rfl, Option.some.injEq] at hafter
      exact hexcluded hafter.symm
  · intro hcounted c nodes hpods hgroups hreads huninstall hnode
    obtain ⟨running, hok, hiff⟩ := arePodsRunningWithSameNodePool_ok hreads node.name hvalid
    rw [hpods, hgroups] at hiff
    have hcheck : arePodsRunningWithSameNodePool cfg c node.name (getNodePoolNameFromLabels cfg node.labels) ≠
        .ok false := by
      rw [hok, hiff.2 hcounted]
      simp
    exact ⟨fun name => poolOf_of_reaches huninstall (reconcile_reaches nodes name) hnode hcheck,
      fun request => poolOf_of_reaches huninstall (reconcileManaged_reaches request nodes) hnode hcheck⟩

namespace TwoNamespaces

def pool (name : String) : Labels := (∅ : Labels).insert "kai.scheduler/node-pool" name

def node : Node := ⟨"x", pool "a", false⟩

def podIn (namespaceName : String) : Pod :=
  ⟨namespaceName, "pod", pool "a", some "g", "kai-scheduler", "x", .running⟩

/-- Two namespaces name a PodGroup alike, and it exists in one of them. -/
def podGroups : Store PodGroup.key := ⟨[⟨"n2", "g", pool "a"⟩], List.nodup_singleton _⟩

end TwoNamespaces

open TwoNamespaces in
theorem first_charged_pod_keeps_node :
    StaysInPool .default [podIn "n2", podIn "n1"] podGroups node := by
  refine (stays_in_pool_iff_counted (P := "a") (by decide) (by decide)).2 ?_
  exact ⟨"g", podIn "n2", ⟨"n2", "g", pool "a"⟩, by decide, by decide, by decide⟩

open TwoNamespaces in
theorem charged_node_excluded :
    isCharged .default podGroups "x" "a" (podIn "n2") = true ∧
    poolOf .default (only node) "x" = some "a" ∧
    poolOf .default (reconcileManaged .default (bareCluster [podIn "n1", podIn "n2"] podGroups [fun _ => .ok false])
      (some "x") (only node)).nodes "x" = some "kai-excluded-nodes" := by
  -- The PodGroup is looked for in the first pod's namespace, so that the charged pod is not counted.
  decide

end Krm.Nodes
