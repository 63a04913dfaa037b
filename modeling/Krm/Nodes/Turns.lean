import Krm.Lib.LocalSteps
import Krm.Nodes.Managed

/-! # Reconciles as sequences of turns at single nodes

Whatever a reconcile of either controller does to the nodes, it does in turns, each at one node in its pool. -/

open Krm.Lib Relation

namespace Krm.Nodes

inductive Turn where
  | change (newNodePoolName oldNodePoolName : String) (availableNodePools : List NodePool)
  | validate (nodePoolName : String)
  | relabel (add : List (String × String)) (remove : List String)

section

variable (cfg : NodePoolControllerConfig) (c : Cluster)

def Turn.apply : Turn → Node → Node
  | .change newNodePoolName oldNodePoolName availableNodePools, node =>
    (changeNodePoolForNodeGeneric cfg c node newNodePoolName oldNodePoolName availableNodePools).node
  | .validate nodePoolName, node => (validateNodeStatusInNodePool cfg c node nodePoolName).node
  | .relabel add remove, node => (updateNodeLabels c node add remove).2

/-- The turn works from the node's pool, and relabelling leaves the cordon's marks. -/
def Turn.Fits (node : Node) : Turn → Prop
  | .change _ oldNodePoolName _ => getNodePoolNameFromLabels cfg node.labels = oldNodePoolName
  | .validate nodePoolName => getNodePoolNameFromLabels cfg node.labels = nodePoolName
  | .relabel add remove =>
    (cfg.unschedulableLabelKey ∉ add.map Prod.fst ∧ cfg.unschedulableLabelKey ∉ remove) ∧
      (c.uninstalling ∨ cfg.nodePoolNameLabel ∉ add.map Prod.fst ∧ cfg.nodePoolNameLabel ∉ remove)

def NodeStep (node node' : Node) : Prop := ∃ turn : Turn, turn.Fits cfg c node ∧ node' = turn.apply cfg c node

abbrev NodeSteps := ReflTransGen (NodeStep cfg c)

def Reaches (nodes nodes' : NodeStore) : Prop := ReflTransGen (LocalStep (NodeStep cfg c)) nodes nodes'

end

variable {cfg : NodePoolControllerConfig} {c : Cluster}

/-! ## Turns keep the node's name -/

theorem updateNodeLabels_name (node : Node) (add : List (String × String)) (remove : List String) :
    (updateNodeLabels c node add remove).2.name = node.name := by
  unfold updateNodeLabels
  split <;> rfl

variable (cfg c) in
theorem updateNodeUnschedulableIfNeeded_name (node : Node) (unschedulable : Bool) :
    (updateNodeUnschedulableIfNeeded cfg c node unschedulable).2.name = node.name := by
  unfold updateNodeUnschedulableIfNeeded validateNodeLabeledWithUnschedulable patchNodeUnschedulable
  repeat' split
  all_goals first | rfl | exact updateNodeLabels_name ..

theorem validateNodeStatus_name (arePodsRunning : Except ApiError Bool) (node : Node) :
    (validateNodeStatus cfg c arePodsRunning node).node.name = node.name := by
  unfold validateNodeStatus
  split
  · rfl
  · exact updateNodeUnschedulableIfNeeded_name cfg c node true
  · have hname := updateNodeUnschedulableIfNeeded_name cfg c node false
    split <;> rename_i h <;> rw [h] at hname <;> exact hname

theorem updateNodeWithNodePoolNameIfNeeded_name (node : Node) (nodePoolName : String) :
    (updateNodeWithNodePoolNameIfNeeded cfg c node nodePoolName).2.name = node.name := by
  unfold updateNodeWithNodePoolNameIfNeeded
  repeat' split
  all_goals first | rfl | exact updateNodeLabels_name ..

theorem Turn.apply_name (turn : Turn) (node : Node) : (turn.apply cfg c node).name = node.name := by
  cases turn with
  | change newNodePoolName oldNodePoolName availableNodePools =>
    simp only [Turn.apply, changeNodePoolForNodeGeneric]
    split
    · rw [updateNodeWithNodePoolNameIfNeeded_name]
      exact validateNodeStatus_name ..
    · exact validateNodeStatus_name ..
  | validate nodePoolName => exact validateNodeStatus_name ..
  | relabel add remove => exact updateNodeLabels_name ..

variable (cfg c) in
theorem NodeStep.name (node node' : Node) (h : NodeStep cfg c node node') : node'.name = node.name := by
  obtain ⟨turn, -, rfl⟩ := h
  exact turn.apply_name node

/-! ## The pool of a listed node -/

variable {nodePoolName : String} {labels : Labels} {P : Node → Prop} {nodes : NodeStore} {r : Requirement}

theorem poolName_of_lookup (h : labels.lookup cfg.nodePoolNameLabel = some nodePoolName) (hne : nodePoolName ≠ "") :
    getNodePoolNameFromLabels cfg labels = nodePoolName := by
  simp [getNodePoolNameFromLabels, h, hne]

theorem poolName_of_none (h : labels.lookup cfg.nodePoolNameLabel = none) :
    getNodePoolNameFromLabels cfg labels = cfg.defaultNodepoolName := by
  simp [getNodePoolNameFromLabels, h]

theorem newRequirement_ok {key : String} {op : Operator} {vals : List String} (h : newRequirement key op vals = .ok r) :
    r = ⟨key, op, vals⟩ := by
  unfold newRequirement Lib.newRequirement at h
  split_ifs at h
  · exact (Except.ok.inj h).symm

theorem mem_listNodes {requirements : Selector} {listed : List Node}
    (h : listNodesWithRequirements c nodes requirements = .ok listed) :
    listed = nodes.items.filter fun node => requirements.Matches node.labels := by
  unfold listNodesWithRequirements Cluster.attempt at h
  split at h
  · cases h
  · exact (Except.ok.inj h).symm

theorem poolName_of_matches (h : requirementNodePoolNameMatching cfg nodePoolName = .ok r) (hne : nodePoolName ≠ "")
    (hmatch : r.Matches labels) : getNodePoolNameFromLabels cfg labels = nodePoolName := by
  rw [newRequirement_ok h] at hmatch
  exact poolName_of_lookup ((Requirement.matches_doubleEquals ..).1 hmatch) hne

theorem lookup_of_default (h : getNodePoolLabelSelector cfg cfg.defaultNodepoolName = .ok r)
    (hmatch : r.Matches labels) : labels.lookup cfg.nodePoolNameLabel = none := by
  unfold getNodePoolLabelSelector requirementNodePoolName at h
  rw [if_pos rfl, if_neg Bool.false_ne_true] at h
  rw [newRequirement_ok h] at hmatch
  exact (Requirement.matches_doesNotExist ..).1 hmatch

theorem poolName_of_selector (h : getNodePoolLabelSelector cfg nodePoolName = .ok r) (hne : nodePoolName ≠ "")
    (hmatch : r.Matches labels) : getNodePoolNameFromLabels cfg labels = nodePoolName := by
  by_cases hdefault : nodePoolName = cfg.defaultNodepoolName
  · subst hdefault
    exact poolName_of_none (lookup_of_default h hmatch)
  · unfold getNodePoolLabelSelector at h
    rw [if_neg hdefault] at h
    exact poolName_of_matches h hne hmatch

/-- Listed nodes are stored and match the first requirement. -/
def ListedBy (nodes : NodeStore) (listed : Except ApiError (List Node)) (P : Node → Prop) : Prop :=
  ∀ l, listed = .ok l → l.Sublist nodes.items ∧ ∀ node ∈ l, P node

theorem listedBy_first {first : Requirement} {rest : Selector}
    (hfirst : ∀ node : Node, first.Matches node.labels → P node) :
    ListedBy nodes (listNodesWithRequirements c nodes (first :: rest)) P := by
  intro l hl
  rw [mem_listNodes hl]
  refine ⟨List.filter_sublist, fun node hnode => hfirst node ?_⟩
  have hall := (List.mem_filter.1 hnode).2
  simp only [Selector.Matches, List.all_cons, Bool.and_eq_true] at hall
  exact hall.1

theorem ListedBy.bind {α : Type} {x : Except ApiError α} {f : α → Except ApiError (List Node)}
    (h : ∀ a, x = .ok a → ListedBy nodes (f a) P) : ListedBy nodes (x >>= f) P := by
  intro l hl
  cases hx : x with
  | error e =>
    rw [hx] at hl
    cases hl
  | ok a =>
    rw [hx] at hl
    exact h a hx l hl

/-! ## Passes -/

theorem forNodes_reaches {listed : List Node} {handle : Node → List ApiError × Node}
    (hnodup : (listed.map Node.name).Nodup) (hmem : ∀ node ∈ listed, node ∈ nodes.items)
    (hsteps : ∀ node ∈ listed, NodeSteps cfg c node (handle node).2) :
    Reaches cfg c nodes (forNodes nodes listed handle).nodes := by
  unfold Reaches forNodes
  refine localSteps_foldl (NodeStep.name cfg c) Pass.nodes ⟨nodes, [], []⟩ hnodup ?_ hmem
  exact fun acc node hnode => ⟨(handle node).2, hsteps node hnode, rfl⟩

theorem reconcileListed_reaches {α : Type} {listed : Except ApiError (List Node)} {needed : Except ApiError α}
    {handle : α → Node → List ApiError × Node} (hlisted : ListedBy nodes listed P)
    (hsteps : ∀ a node, P node → NodeSteps cfg c node (handle a node).2) :
    Reaches cfg c nodes (reconcileListed nodes listed needed handle).nodes := by
  unfold reconcileListed
  split
  · exact .refl
  · exact .refl
  · rename_i l _
    obtain ⟨hsub, hP⟩ := hlisted l rfl
    split
    · exact .refl
    · rename_i a
      exact forNodes_reaches (nodes.nodup.sublist (hsub.map Node.name)) (fun node hnode => hsub.subset hnode)
        fun node hnode => hsteps a node (hP node hnode)

theorem andThen_reaches {first : Pass} {next : NodeStore → Pass} (hfirst : Reaches cfg c nodes first.nodes)
    (hnext : ∀ nodes, Reaches cfg c nodes (next nodes).nodes) : Reaches cfg c nodes (first.andThen next).nodes :=
  hfirst.trans (hnext first.nodes)

/-! ## Turns of the handlers -/

section

variable {node : Node}

theorem changeNodePoolForNodeGeneric_steps {newNodePoolName oldNodePoolName : String}
    {availableNodePools : List NodePool} (h : getNodePoolNameFromLabels cfg node.labels = oldNodePoolName) :
    NodeSteps cfg c node
      (changeNodePoolForNodeGeneric cfg c node newNodePoolName oldNodePoolName availableNodePools).node :=
  .single ⟨.change newNodePoolName oldNodePoolName availableNodePools, h, rfl⟩

theorem validateNodeStatusInNodePoolWrapper_node (node : Node) (nodePoolName : String) :
    (validateNodeStatusInNodePoolWrapper cfg c node nodePoolName).2 =
      (validateNodeStatusInNodePool cfg c node nodePoolName).node := by
  unfold validateNodeStatusInNodePoolWrapper Outcome.reported
  dsimp only
  split <;> rfl

theorem validateNodeStatusInNodePoolWrapper_steps {nodePoolName : String}
    (h : getNodePoolNameFromLabels cfg node.labels = nodePoolName) :
    NodeSteps cfg c node (validateNodeStatusInNodePoolWrapper cfg c node nodePoolName).2 := by
  rw [validateNodeStatusInNodePoolWrapper_node]
  exact .single ⟨.validate nodePoolName, h, rfl⟩

variable (cfg) in
theorem keys_ne : cfg.nodePoolNameLabel ≠ cfg.shouldBeExcludedLabelKey ∧
    cfg.unschedulableLabelKey ≠ cfg.shouldBeExcludedLabelKey ∧
    cfg.nodePoolNameLabel ≠ cfg.unschedulableLabelKey := by
  have hkeys := cfg.keys_nodup
  simp only [List.nodup_cons, List.mem_cons, List.not_mem_nil, or_false, not_or] at hkeys
  exact ⟨hkeys.1.1, Ne.symm hkeys.2.1, hkeys.1.2⟩

theorem mark_steps (value : String) :
    NodeSteps cfg c node (updateNodeLabels c node [(cfg.shouldBeExcludedLabelKey, value)] []).2 := by
  obtain ⟨hpool, hunschedulable, -⟩ := keys_ne cfg
  exact .single ⟨.relabel _ _, ⟨⟨by simpa using hunschedulable, by simp⟩, .inr ⟨by simpa using hpool, by simp⟩⟩, rfl⟩

theorem unmark_steps : NodeSteps cfg c node (updateNodeLabels c node [] [cfg.shouldBeExcludedLabelKey]).2 := by
  obtain ⟨hpool, hunschedulable, -⟩ := keys_ne cfg
  exact .single ⟨.relabel _ _, ⟨⟨by simp, by simpa using hunschedulable⟩, .inr ⟨by simp, by simpa using hpool⟩⟩, rfl⟩

theorem handleNodeInDefaultNodePool_steps {nodePools : List NodePool}
    (h : node.labels.lookup cfg.nodePoolNameLabel = none) :
    NodeSteps cfg c node (handleNodeInDefaultNodePool cfg c nodePools node).2 := by
  have hpool := poolName_of_none h
  unfold handleNodeInDefaultNodePool
  dsimp only
  split
  · have hsame : (validateDefaultNodePoolLabel cfg c node).2 = node := by
      simp [validateDefaultNodePoolLabel, updateNodeWithNodePoolNameIfNeeded, h]
    rw [hsame]
    exact validateNodeStatusInNodePoolWrapper_steps hpool
  · exact changeNodePoolForNodeGeneric_steps hpool

theorem handleNodeNotInDefaultNodePool_steps {available : List NodePool × List String} :
    NodeSteps cfg c node (handleNodeNotInDefaultNodePool cfg c available node).2 := by
  unfold handleNodeNotInDefaultNodePool
  dsimp only
  split
  · exact .refl
  · exact changeNodePoolForNodeGeneric_steps rfl

theorem excludeNode_steps {clean : Bool} : NodeSteps cfg c node (excludeNode cfg c clean node).2.2 := by
  have hchange : NodeSteps cfg c node (changeNodePoolForNode cfg c node cfg.excludedNodepoolName
      (getNodePoolNameFromLabels cfg node.labels)).node := changeNodePoolForNodeGeneric_steps rfl
  unfold excludeNode
  dsimp only
  split_ifs
  · exact hchange.trans (mark_steps "true")
  · exact hchange.trans unmark_steps
  · exact hchange
  · exact hchange

theorem includeNode_steps (h : getNodePoolNameFromLabels cfg node.labels = cfg.excludedNodepoolName) :
    NodeSteps cfg c node (includeNode cfg c node).2 := by
  have hchange : NodeSteps cfg c node (changeNodePoolForNode cfg c node cfg.defaultNodepoolName
      cfg.excludedNodepoolName).node := changeNodePoolForNodeGeneric_steps h
  unfold includeNode
  dsimp only
  split_ifs
  · exact hchange.trans unmark_steps
  · exact hchange

theorem revertNode_steps : NodeSteps cfg c node (revertNode cfg c node).2 := by
  unfold revertNode
  split_ifs
  · exact unmark_steps
  · exact .refl

end

/-! ## NodePool reconciles -/

section

variable (nodes : NodeStore) (nodePool : NodePool)

theorem reconcileNodesMatchingNodePoolNameNoLabel_reaches :
    Reaches cfg c nodes (reconcileNodesMatchingNodePoolNameNoLabel cfg c nodePool nodes).nodes :=
  reconcileListed_reaches
    (.bind fun _ hname => .bind fun _ _ => listedBy_first fun _ => poolName_of_matches hname nodePool.name_ne)
    fun _ _ h => changeNodePoolForNodeGeneric_steps h

theorem reconcileNodesInDefaultNodePoolMatchingOtherNodePoolLabel_reaches :
    Reaches cfg c nodes (reconcileNodesInDefaultNodePoolMatchingOtherNodePoolLabel cfg c nodePool nodes).nodes :=
  reconcileListed_reaches
    (.bind fun _ hdefault => .bind fun _ _ => listedBy_first fun _ => lookup_of_default hdefault)
    fun _ _ h => changeNodePoolForNodeGeneric_steps (poolName_of_none h)

theorem reconcileNodesMatchingNodePoolNameAndLabel_reaches :
    Reaches cfg c nodes (reconcileNodesMatchingNodePoolNameAndLabel cfg c nodePool nodes).nodes :=
  reconcileListed_reaches
    (.bind fun _ hname => .bind fun _ _ => listedBy_first fun _ => poolName_of_matches hname nodePool.name_ne)
    fun _ _ h => validateNodeStatusInNodePoolWrapper_steps h

theorem reconcileNodesInDefaultNodePool_reaches :
    Reaches cfg c nodes (reconcileNodesInDefaultNodePool cfg c nodes).nodes :=
  reconcileListed_reaches (.bind fun _ hdefault => listedBy_first fun _ => lookup_of_default hdefault)
    fun _ _ h => handleNodeInDefaultNodePool_steps h

theorem reconcileNodesNotInDefaultNodePool_reaches :
    Reaches cfg c nodes (reconcileNodesNotInDefaultNodePool cfg c nodes).nodes :=
  reconcileListed_reaches (P := fun _ => True) (.bind fun _ _ => listedBy_first fun _ _ => trivial)
    fun _ _ _ => handleNodeNotInDefaultNodePool_steps

theorem reconcileNodes_reaches : Reaches cfg c nodes (reconcileNodes cfg c nodePool nodes).nodes := by
  unfold reconcileNodes
  split
  · refine andThen_reaches (andThen_reaches ?_ fun nodes => ?_) fun nodes => ?_
    · exact reconcileNodesMatchingNodePoolNameNoLabel_reaches nodes nodePool
    · exact reconcileNodesInDefaultNodePoolMatchingOtherNodePoolLabel_reaches nodes nodePool
    · exact reconcileNodesMatchingNodePoolNameAndLabel_reaches nodes nodePool
  · exact andThen_reaches (reconcileNodesInDefaultNodePool_reaches nodes) reconcileNodesNotInDefaultNodePool_reaches

theorem reassignNodeForDeletingNodePool_reaches :
    Reaches cfg c nodes (reassignNodeForDeletingNodePool cfg c nodePool nodes).nodes :=
  reconcileListed_reaches
    (.bind fun _ hselector => listedBy_first fun _ => poolName_of_selector hselector nodePool.name_ne)
    fun _ _ h => changeNodePoolForNodeGeneric_steps h

theorem cleanupDeletedNodePool_reaches (h : c.uninstalling) :
    Reaches cfg c nodes (cleanupDeletedNodePool cfg c nodePool nodes).nodes := by
  obtain ⟨-, -, hunschedulable⟩ := keys_ne cfg
  refine reconcileListed_reaches (P := fun _ => True) (.bind fun _ _ => listedBy_first fun _ _ => trivial) ?_
  exact fun _ _ _ => .single ⟨.relabel _ _, ⟨⟨by simp, by simpa using Ne.symm hunschedulable⟩, .inl h⟩, rfl⟩

theorem finalize_reaches : Reaches cfg c nodes (finalize cfg c nodePool nodes).nodes := by
  unfold finalize
  split
  · exact .refl
  · split
    · rename_i huninstalling
      exact cleanupDeletedNodePool_reaches nodes nodePool huninstalling
    · exact reassignNodeForDeletingNodePool_reaches nodes nodePool

theorem reconcile_reaches (name : String) : Reaches cfg c nodes (reconcile cfg c name nodes).nodes := by
  unfold reconcile
  split
  · exact .refl
  · split_ifs
    · exact finalize_reaches nodes _
    · exact reconcileNodes_reaches nodes _
    · split
      · exact .refl
      · exact reconcileNodes_reaches nodes _

end

/-! ## ManagedNodesConfig reconciles -/

/-- No criteria include every node. -/
def meetsCriteria (terms : List NodeSelectorTerm) (node : Node) : Bool := terms.isEmpty || isIncluded terms node

theorem filterNodes_eq (l : List Node) (terms : List NodeSelectorTerm) (keepNodesThatMatch : Bool) :
    filterNodesBasedOnNodeSelector l terms keepNodesThatMatch =
      l.filter fun node => meetsCriteria terms node = keepNodesThatMatch := by
  unfold filterNodesBasedOnNodeSelector meetsCriteria
  by_cases hempty : terms.isEmpty
  · cases keepNodesThatMatch <;> simp [hempty]
  · simp [hempty]

section

variable (cfg) (values : List String) (l : List Node)

abbrev includedOf : List Node :=
  l.filter fun node => decide (node.labels.value cfg.nodePoolNameLabel ≠ cfg.excludedNodepoolName) &&
    decide (node.labels.value cfg.nodePoolNameLabel ∉ values)

abbrev excludedOf : List Node :=
  l.filter fun node => decide (node.labels.value cfg.nodePoolNameLabel = cfg.excludedNodepoolName) &&
    decide (node.labels.value cfg.nodePoolNameLabel ∉ values)

variable {values} in
theorem splitNode_eq (hvalues : listPartitionLabelValues c = .ok values) :
    splitNodeToIncludedExcluded cfg c l = .ok (includedOf cfg values l, excludedOf cfg values l) := by
  unfold splitNodeToIncludedExcluded
  rw [hvalues]
  simp only [bind, Except.bind, pure, Except.pure, List.filter_filter]

variable {l} in
theorem splitNode_ok {includedNodes excludedNodes : List Node}
    (h : splitNodeToIncludedExcluded cfg c l = .ok (includedNodes, excludedNodes)) :
    ∃ values, listPartitionLabelValues c = .ok values ∧ includedNodes = includedOf cfg values l ∧
      excludedNodes = excludedOf cfg values l := by
  cases hvalues : listPartitionLabelValues c with
  | error e =>
    rw [splitNodeToIncludedExcluded, hvalues] at h
    cases h
  | ok values =>
    rw [splitNode_eq cfg l hvalues] at h
    cases h
    exact ⟨values, rfl, rfl, rfl⟩

end

/-- After the passes that exclude nodes and take them back. -/
abbrev twoPasses (cfg : NodePoolControllerConfig) (c : Cluster) (values : List String) (l : List Node)
    (nodes : NodeStore) : NodeStore :=
  (reconcileExcludedNodesThatShouldBeIncluded cfg c (excludedOf cfg values l)
    (reconcileIncludedNodesThatShouldBeExcluded cfg c (includedOf cfg values l) nodes).nodes).nodes

variable (cfg) in
theorem excluded_ne : cfg.excludedNodepoolName ≠ "" ∧ cfg.excludedNodepoolName ≠ cfg.defaultNodepoolName := by
  have hreserved := cfg.excluded_reserved
  simp only [List.mem_cons, List.not_mem_nil, or_false, not_or] at hreserved
  exact hreserved

theorem poolName_of_value (h : labels.value cfg.nodePoolNameLabel = cfg.excludedNodepoolName) :
    getNodePoolNameFromLabels cfg labels = cfg.excludedNodepoolName := by
  have hne := (excluded_ne cfg).1
  cases hlookup : labels.lookup cfg.nodePoolNameLabel with
  | none =>
    rw [Labels.value, hlookup, Option.getD_none] at h
    exact absurd h.symm hne
  | some v =>
    rw [Labels.value, hlookup, Option.getD_some] at h
    exact poolName_of_lookup (h ▸ hlookup) hne

theorem value_of_poolName (h : getNodePoolNameFromLabels cfg labels = cfg.excludedNodepoolName) :
    labels.value cfg.nodePoolNameLabel = cfg.excludedNodepoolName := by
  have hne := (excluded_ne cfg).2
  unfold getNodePoolNameFromLabels at h
  unfold Labels.value
  split at h
  · rename_i v hlookup
    split_ifs at h
    · exact absurd h.symm hne
    · rw [hlookup, Option.getD_some, h]
  · exact absurd h.symm hne

theorem name_not_mem {l : List Node} (hl : l.Sublist nodes.items) {node : Node} (hnode : node ∈ nodes.items)
    (hnot : node ∉ l) : node.name ∉ l.map Node.name := by
  intro h
  obtain ⟨other, hother, hname⟩ := List.mem_map.1 h
  exact hnot (Store.eq_of_mem (hl.subset hother) hnode hname ▸ hother)

section

variable {nodes : NodeStore} {includedNodes excludedNodes : List Node}

theorem reconcileIncluded_reaches (h : includedNodes.Sublist nodes.items) :
    Reaches cfg c nodes (reconcileIncludedNodesThatShouldBeExcluded cfg c includedNodes nodes).nodes := by
  have hsub : (filterNodesBasedOnNodeSelector includedNodes c.inclusionCriteria false).Sublist nodes.items := by
    rw [filterNodes_eq]
    exact List.filter_sublist.trans h
  unfold Reaches reconcileIncludedNodesThatShouldBeExcluded
  refine localSteps_foldl (NodeStep.name cfg c) Exclusion.nodes ⟨nodes, [], []⟩ (nodes.nodup.sublist (hsub.map Node.name)) ?_ ?_
  · exact fun acc node _ => ⟨_, excludeNode_steps, rfl⟩
  · exact fun node hnode => hsub.subset hnode

theorem mem_reconcileIncluded (h : includedNodes.Sublist nodes.items) {node : Node} (hnode : node ∈ nodes.items)
    (hkeep : node ∈ includedNodes → meetsCriteria c.inclusionCriteria node) :
    node ∈ (reconcileIncludedNodesThatShouldBeExcluded cfg c includedNodes nodes).nodes.items := by
  -- The nodes that meet the criteria are left alone by the exclusion of those that do not.
  have hsub : (filterNodesBasedOnNodeSelector includedNodes c.inclusionCriteria false).Sublist nodes.items := by
    rw [filterNodes_eq]
    exact List.filter_sublist.trans h
  refine foldl_frame (NodeStep.name cfg c) Exclusion.nodes _ (fun acc node _ => ⟨_, excludeNode_steps, rfl⟩) hnode ?_
  refine name_not_mem hsub hnode fun hmem => ?_
  rw [filterNodes_eq, List.mem_filter] at hmem
  simp [hkeep hmem.1] at hmem

theorem reconcileExcluded_reaches (hnodup : (excludedNodes.map Node.name).Nodup)
    (hmem : ∀ node ∈ excludedNodes, node ∈ nodes.items)
    (hpool : ∀ node ∈ excludedNodes, node.labels.value cfg.nodePoolNameLabel = cfg.excludedNodepoolName) :
    Reaches cfg c nodes (reconcileExcludedNodesThatShouldBeIncluded cfg c excludedNodes nodes).nodes := by
  unfold reconcileExcludedNodesThatShouldBeIncluded
  rw [filterNodes_eq]
  refine forNodes_reaches (hnodup.sublist (List.filter_sublist.map Node.name)) ?_ ?_
  · exact fun node hnode => hmem node (List.mem_of_mem_filter hnode)
  · exact fun node hnode => includeNode_steps (poolName_of_value (hpool node (List.mem_of_mem_filter hnode)))

theorem mem_reconcileExcluded
    (hpool : ∀ node ∈ excludedNodes, node.labels.value cfg.nodePoolNameLabel = cfg.excludedNodepoolName)
    {node : Node} (hnode : node ∈ nodes.items) (hname : node.name ∉ excludedNodes.map Node.name) :
    node ∈ (reconcileExcludedNodesThatShouldBeIncluded cfg c excludedNodes nodes).nodes.items := by
  unfold reconcileExcludedNodesThatShouldBeIncluded forNodes
  rw [filterNodes_eq]
  refine foldl_frame (NodeStep.name cfg c) Pass.nodes _ ?_ hnode ?_
  · intro acc other hother
    exact ⟨_, includeNode_steps (poolName_of_value (hpool other (List.mem_of_mem_filter hother))), rfl⟩
  · intro hmem
    obtain ⟨other, hother, hsame⟩ := List.mem_map.1 hmem
    exact hname (hsame ▸ List.mem_map_of_mem (List.mem_of_mem_filter hother))

theorem reconcileMarked_reaches (hnodup : (includedNodes.map Node.name).Nodup)
    (hmem : ∀ node ∈ includedNodes, meetsCriteria c.inclusionCriteria node → node ∈ nodes.items) :
    Reaches cfg c nodes (reconcileMarkedToBeExcludedAndRevertedToBeIncluded cfg c includedNodes nodes).nodes := by
  unfold reconcileMarkedToBeExcludedAndRevertedToBeIncluded
  rw [filterNodes_eq]
  refine forNodes_reaches (hnodup.sublist (List.filter_sublist.map Node.name)) ?_ fun _ _ => revertNode_steps
  intro node hnode
  have hboth := List.mem_filter.1 hnode
  exact hmem node hboth.1 (by simpa using hboth.2)

end

section

variable {nodes : NodeStore} {l : List Node} (values : List String)

theorem mem_excludedOf {node : Node} (h : node ∈ excludedOf cfg values l) :
    node.labels.value cfg.nodePoolNameLabel = cfg.excludedNodepoolName ∧ node ∉ includedOf cfg values l := by
  simp only [List.mem_filter, Bool.and_eq_true, decide_eq_true_eq] at h ⊢
  exact ⟨h.2.1, fun hin => hin.2.1 h.2.1⟩

variable (hl : l.Sublist nodes.items)
include hl

theorem twoPasses_reaches : Reaches cfg c nodes (twoPasses cfg c values l nodes) := by
  have hex : (excludedOf cfg values l).Sublist nodes.items := List.filter_sublist.trans hl
  have hin : (includedOf cfg values l).Sublist nodes.items := List.filter_sublist.trans hl
  refine (reconcileIncluded_reaches hin).trans (reconcileExcluded_reaches ?_ ?_ ?_)
  · exact nodes.nodup.sublist (hex.map Node.name)
  · intro node hnode
    exact mem_reconcileIncluded hin (hex.subset hnode) fun h => absurd h (mem_excludedOf values hnode).2
  · exact fun node hnode => (mem_excludedOf values hnode).1

theorem threePasses_reaches :
    Reaches cfg c nodes (reconcileMarkedToBeExcludedAndRevertedToBeIncluded cfg c (includedOf cfg values l)
      (twoPasses cfg c values l nodes)).nodes := by
  have hin : (includedOf cfg values l).Sublist nodes.items := List.filter_sublist.trans hl
  refine (twoPasses_reaches values hl).trans (reconcileMarked_reaches ?_ ?_)
  · exact nodes.nodup.sublist (hin.map Node.name)
  · intro node hnode hmeets
    refine mem_reconcileExcluded (fun other hother => (mem_excludedOf values hother).1) ?_ ?_
    · exact mem_reconcileIncluded hin (hin.subset hnode) fun _ => hmeets
    · exact name_not_mem (List.filter_sublist.trans hl) (hin.subset hnode) fun h => (mem_excludedOf values h).2 hnode

end

/-- A reconcile makes no pass, or two over the requested node, or three over all nodes. -/
theorem reconcileManaged_cases {motive : NodeStore → Prop} (request : Option String) (same : motive nodes)
    (two : ∀ values l, listPartitionLabelValues c = .ok values → l.Sublist nodes.items →
      motive (twoPasses cfg c values l nodes))
    (three : ∀ values l, listPartitionLabelValues c = .ok values → l.Sublist nodes.items →
      motive (reconcileMarkedToBeExcludedAndRevertedToBeIncluded cfg c (includedOf cfg values l)
        (twoPasses cfg c values l nodes)).nodes) : motive (reconcileManaged cfg c request nodes).nodes := by
  unfold reconcileManaged
  split
  · exact same
  · cases request with
    | some name =>
      simp only [reconcileNode]
      split
      · exact same
      · exact same
      · rename_i node _ hget
        split
        · exact same
        · rename_i hsplit
          obtain ⟨values, hvalues, rfl, rfl⟩ := splitNode_ok cfg hsplit
          exact two values [node] hvalues (by simpa using Store.get_mem hget)
    | none =>
      simp only [reconcileManagedNodesConfig]
      split
      · exact same
      · rename_i allNodes hall
        have hl : allNodes.Sublist nodes.items := by
          unfold Cluster.attempt at hall
          split at hall
          · cases hall
          · rw [Except.ok.inj hall]
        split
        · exact same
        · rename_i hsplit
          obtain ⟨values, hvalues, rfl, rfl⟩ := splitNode_ok cfg hsplit
          exact three values allNodes hvalues hl

/-- A ManagedNodesConfig reconcile is a sequence of turns. -/
theorem reconcileManaged_reaches (request : Option String) (nodes : NodeStore) :
    Reaches cfg c nodes (reconcileManaged cfg c request nodes).nodes :=
  reconcileManaged_cases request .refl (fun values _ _ => twoPasses_reaches values)
    fun values _ _ => threePasses_reaches values

end Krm.Nodes
