import Krm.Nodes.Exclusions

/-! # Reconciles of single nodes and of the ManagedNodesConfig -/

open Krm.Lib

namespace Krm.Nodes

variable {cfg : NodePoolControllerConfig} {c : Cluster} {nodes : NodeStore}

/-! ## Exclusions without an error -/

theorem foldl_excludeStep_clean {l : List Node} (hclean : clean cfg c l = true) (nodes : NodeStore)
    (waiting : List Node) : l.foldl (excludeStep cfg c) ⟨nodes, waiting, []⟩ =
      ⟨l.foldl (fun nodes node => nodes.replace (excludeNode cfg c true node).2.2) nodes,
        waiting ++ l.filterMap fun node => (excludeNode cfg c true node).1, []⟩ := by
  induction l generalizing nodes waiting with
  | nil => simp
  | cons node l ih =>
    rw [clean, List.all_cons, Bool.and_eq_true, List.isEmpty_iff] at hclean
    have hstep : excludeStep cfg c ⟨nodes, waiting, []⟩ node = ⟨nodes.replace (excludeNode cfg c true node).2.2,
        waiting ++ (excludeNode cfg c true node).1.toList, []⟩ := by
      simp [excludeStep, hclean.1]
    rw [List.foldl_cons, hstep, ih hclean.2, List.foldl_cons, List.filterMap_cons]
    cases (excludeNode cfg c true node).1 <;> simp

/-! ## What the passes leave of a node -/

section

variable (cfg c)

/-- The passes of a full reconcile, by the unmanaged label values. -/
def fullTurn (values : List String) (node : Node) : Node :=
  if node.labels.value cfg.nodePoolNameLabel ∈ values then node
  else if node.labels.value cfg.nodePoolNameLabel = cfg.excludedNodepoolName then
    if meetsCriteria c.inclusionCriteria node then (includeNode cfg c node).2 else node
  else if meetsCriteria c.inclusionCriteria node then (revertNode cfg c node).2
  else (excludeNode cfg c true node).2.2

/-- No mark is removed from a node that may stay. -/
def nodeTurn (values : List String) (node : Node) : Node :=
  if node.labels.value cfg.nodePoolNameLabel ∈ values then node
  else if node.labels.value cfg.nodePoolNameLabel = cfg.excludedNodepoolName then
    if meetsCriteria c.inclusionCriteria node then (includeNode cfg c node).2 else node
  else if meetsCriteria c.inclusionCriteria node then node
  else (excludeNode cfg c true node).2.2

end

theorem includeNode_name (node : Node) : (includeNode cfg c node).2.name = node.name := by
  have hname := changeNodePoolForNode_name cfg c node cfg.defaultNodepoolName cfg.excludedNodepoolName
  unfold includeNode
  dsimp only
  split_ifs
  · exact (updateNodeLabels_name ..).trans hname
  · exact hname

theorem revertNode_name (node : Node) : (revertNode cfg c node).2.name = node.name :=
  key_of_steps (NodeStep.name cfg c) revertNode_steps

section

variable {listed : NodeStore} (hlisted : ∀ node ∈ listed.items, (nodes.get node.name).isSome) (p : Node → Bool)
include hlisted

theorem reconcileIncluded_get
    (hclean : (reconcileIncludedNodesThatShouldBeExcluded cfg c (listed.items.filter p) nodes).errs = [])
    (name : String) :
    (reconcileIncludedNodesThatShouldBeExcluded cfg c (listed.items.filter p) nodes).nodes.get name =
      (((listed.get name).filter fun node => decide (meetsCriteria c.inclusionCriteria node = false) && p node).map
        fun node => (excludeNode cfg c true node).2.2).or (nodes.get name) := by
  rw [reconcileIncluded_eq, List.filter_filter] at hclean ⊢
  have hfold := foldl_excludeStep_errs cfg c (listed.items.filter
    fun node => decide (meetsCriteria c.inclusionCriteria node = false) && p node) ⟨nodes, [], []⟩
  rw [hclean, List.isEmpty_nil, Bool.true_and] at hfold
  rw [foldl_excludeStep_clean hfold.symm]
  exact Store.get_foldl_filter id (fun _ _ => rfl) (excludeNode_name cfg c true) _ nodes hlisted name

theorem reconcileExcluded_get (name : String) :
    (reconcileExcludedNodesThatShouldBeIncluded cfg c (listed.items.filter p) nodes).nodes.get name =
      (((listed.get name).filter fun node => decide (meetsCriteria c.inclusionCriteria node = true) && p node).map
        fun node => (includeNode cfg c node).2).or (nodes.get name) := by
  unfold reconcileExcludedNodesThatShouldBeIncluded
  rw [filterNodes_eq, List.filter_filter]
  exact Store.get_foldl_filter Pass.nodes (fun _ _ => rfl) includeNode_name _ ⟨nodes, [], []⟩ hlisted name

theorem reconcileMarked_get (name : String) :
    (reconcileMarkedToBeExcludedAndRevertedToBeIncluded cfg c (listed.items.filter p) nodes).nodes.get name =
      (((listed.get name).filter fun node => decide (meetsCriteria c.inclusionCriteria node = true) && p node).map
        fun node => (revertNode cfg c node).2).or (nodes.get name) := by
  unfold reconcileMarkedToBeExcludedAndRevertedToBeIncluded
  rw [filterNodes_eq, List.filter_filter]
  exact Store.get_foldl_filter Pass.nodes (fun _ _ => rfl) revertNode_name _ ⟨nodes, [], []⟩ hlisted name

end

section

variable {values : List String} {listed : NodeStore} (hlisted : ∀ node ∈ listed.items, node ∈ nodes.items)
  (herrs : (reconcileIncludedNodesThatShouldBeExcluded cfg c (includedOf cfg values listed.items) nodes).errs = [])
include hlisted herrs

theorem twoPasses_get (name : String) :
    (twoPasses cfg c values listed.items nodes).get name =
      ((listed.get name).map (nodeTurn cfg c values)).or (nodes.get name) := by
  have hheld (node : Node) (hnode : node ∈ listed.items) : (nodes.get node.name).isSome := by
    rw [Store.get_of_mem (hlisted node hnode), Option.isSome_some]
  have hincluded := reconcileIncluded_get hheld _ herrs
  refine (reconcileExcluded_get (fun node hnode => ?_) _ name).trans ?_
  · rw [hincluded, Option.isSome_or, hheld node hnode, Bool.or_true]
  rw [hincluded]
  cases hget : listed.get name with
  | none => rfl
  | some node =>
    have hname : node.name = name := Store.get_key hget
    have hstored : nodes.get name = some node := hname ▸ Store.get_of_mem (hlisted node (Store.get_mem hget))
    rw [hstored, Option.map_some, nodeTurn]
    split_ifs with hvalue hexcluded hmeets hmeets
    · simp [Option.filter, hvalue]
    · rw [hexcluded] at hvalue
      simp [Option.filter, hvalue, hexcluded, hmeets]
    · simp [Option.filter, hexcluded, hmeets]
    · simp [Option.filter, hexcluded, hmeets]
    · simp [Option.filter, hvalue, hexcluded, hmeets]

theorem threePasses_get (name : String) :
    (reconcileMarkedToBeExcludedAndRevertedToBeIncluded cfg c (includedOf cfg values listed.items)
      (twoPasses cfg c values listed.items nodes)).nodes.get name =
      ((listed.get name).map (fullTurn cfg c values)).or (nodes.get name) := by
  -- The third pass removes the mark from the nodes that the second reconcile does not look at.
  have htwo := twoPasses_get hlisted herrs
  have hheld (node : Node) (hnode : node ∈ listed.items) :
      ((twoPasses cfg c values listed.items nodes).get node.name).isSome := by
    rw [htwo, Option.isSome_or, Store.get_of_mem (hlisted node hnode), Option.isSome_some, Bool.or_true]
  rw [reconcileMarked_get hheld, htwo]
  cases hget : listed.get name with
  | none => rfl
  | some node =>
    rw [Option.map_some, Option.map_some, fullTurn, nodeTurn]
    split_ifs with hvalue hexcluded hmeets hmeets
    · simp [Option.filter, hvalue]
    · simp [Option.filter, hexcluded]
    · simp [Option.filter, hexcluded]
    · simp [Option.filter, hvalue, hexcluded, hmeets]
    · simp [Option.filter, hmeets]

end

/-! ## The reconciles -/

theorem reconcileManagedNodesConfig_get {values : List String} (hvalues : listPartitionLabelValues c = .ok values)
    (hlist : c.fault .listNodes = none)
    (herrs : (reconcileIncludedNodesThatShouldBeExcluded cfg c (includedOf cfg values nodes.items) nodes).errs = [])
    (name : String) :
    (reconcileManagedNodesConfig cfg c nodes).nodes.get name = (nodes.get name).map (fullTurn cfg c values) := by
  unfold reconcileManagedNodesConfig Cluster.attempt
  simp only [hlist, splitNode_eq cfg nodes.items hvalues]
  rw [threePasses_get (fun _ h => h) herrs]
  cases nodes.get name with
  | none => rfl
  | some node => rfl

theorem reconcileNode_get {values : List String} (hvalues : listPartitionLabelValues c = .ok values) {name : String}
    (hget : c.fault (.getNode name) = none)
    (herrs : ∀ node, nodes.get name = some node →
      (reconcileIncludedNodesThatShouldBeExcluded cfg c (includedOf cfg values [node]) nodes).errs = []) (k : String) :
    (reconcileNode cfg c name nodes).nodes.get k =
      if k = name then (nodes.get k).map (nodeTurn cfg c values) else nodes.get k := by
  unfold reconcileNode
  cases hnode : nodes.get name with
  | none =>
    simp only [hget]
    split_ifs with hk
    · rw [hk, hnode, Option.map_none]
    · rfl
  | some node =>
    have hname : node.name = name := Store.get_key hnode
    have hlisted : ∀ other ∈ (only node).items, other ∈ nodes.items := by
      intro other hother
      rw [List.mem_singleton.1 hother]
      exact Store.get_mem hnode
    simp only [hget, splitNode_eq cfg [node] hvalues]
    rw [← show (only node).items = [node] from rfl, twoPasses_get hlisted (herrs node hnode) k]
    split_ifs with hk
    · have honly : (only node).get name = some node := hname ▸ Store.get_of_mem (List.mem_singleton_self node)
      rw [hk, honly, hnode, Option.map_some, Option.some_or]
    · have honly : (only node).get k = none := by
        rw [Store.get_eq_none_iff]
        intro other hother
        rw [List.mem_singleton.1 hother, hname]
        exact Ne.symm hk
      rw [honly, Option.map_none, Option.none_or]

/-! ## Without failures -/

/-- The label value of the node's pool is valid. -/
def ValidPool (cfg : NodePoolControllerConfig) (node : Node) : Prop :=
  getNodePoolNameFromLabels cfg node.labels ≠ cfg.defaultNodepoolName →
    isLabelValue (getNodePoolNameFromLabels cfg node.labels)

section

variable (hfault : ∀ call, c.fault call = none) {node : Node}
include hfault

theorem validateNodeStatus_err (running : Bool) : (validateNodeStatus cfg c (.ok running) node).err = none := by
  cases running with
  | true => exact updateNodeUnschedulableIfNeeded_err hfault node true
  | false =>
    have herr : (updateNodeUnschedulableIfNeeded cfg c node false).1 = none :=
      updateNodeUnschedulableIfNeeded_err hfault node false
    unfold validateNodeStatus
    generalize updateNodeUnschedulableIfNeeded cfg c node false = updated at herr ⊢
    obtain ⟨err, after⟩ := updated
    cases herr
    rfl

theorem updateNodeLabels_err (node : Node) (add : List (String × String)) (remove : List String) :
    (updateNodeLabels c node add remove).1 = none := by
  rw [updateNodeLabels_ok node add remove (hfault _)]

theorem updateNodeWithNodePoolNameIfNeeded_err (node : Node) (nodePoolName : String) :
    (updateNodeWithNodePoolNameIfNeeded cfg c node nodePoolName).1 = none := by
  unfold updateNodeWithNodePoolNameIfNeeded
  split_ifs
  · rfl
  · exact updateNodeLabels_err hfault ..
  · rfl
  · exact updateNodeLabels_err hfault ..

theorem moveOut_err (hvalid : ValidPool cfg node) : (moveOut cfg c node).err = none := by
  obtain ⟨running, hok, -⟩ := arePodsRunningWithSameNodePool_ok (c := c) (fun _ _ => hfault _) node.name hvalid
  unfold moveOut changeNodePoolForNode changeNodePoolForNodeGeneric validateNodeStatusWhenChangingNodePool
  rw [hok]
  dsimp only
  split
  · exact updateNodeWithNodePoolNameIfNeeded_err hfault ..
  · exact validateNodeStatus_err hfault running

theorem excludeNode_errs (hvalid : ValidPool cfg node) : (excludeNode cfg c true node).2.1 = [] := by
  have hmove : (changeNodePoolForNode cfg c node cfg.excludedNodepoolName
      (getNodePoolNameFromLabels cfg node.labels)).err = none := moveOut_err hfault hvalid
  unfold excludeNode
  dsimp only
  split_ifs
  · rw [updateNodeLabels_err hfault]
    rfl
  · rw [updateNodeLabels_err hfault]
    rfl
  · rfl
  · rw [hmove]
    rfl

theorem reconcileIncluded_errs {includedNodes : List Node} (hvalid : ∀ node ∈ includedNodes, ValidPool cfg node) :
    (reconcileIncludedNodesThatShouldBeExcluded cfg c includedNodes nodes).errs = [] := by
  rw [reconcileIncluded_eq, ← List.isEmpty_iff, foldl_excludeStep_errs, List.isEmpty_nil, Bool.true_and, clean,
    List.all_eq_true]
  intro node hnode
  rw [List.isEmpty_iff]
  exact excludeNode_errs hfault (hvalid node (List.mem_of_mem_filter hnode))

end

/-! ## The result -/

/-- A node of no unmanaged partition, where the partitions can be listed. -/
def isManaged (cfg : NodePoolControllerConfig) (c : Cluster) (node : Node) : Bool :=
  match listPartitionLabelValues c with
  | .ok values => node.labels.value cfg.nodePoolNameLabel ∉ values
  | .error _ => false

theorem isManaged_eq {values : List String} (hvalues : listPartitionLabelValues c = .ok values) (node : Node) :
    isManaged cfg c node = decide (node.labels.value cfg.nodePoolNameLabel ∉ values) := by
  rw [isManaged, hvalues]

def nodeByNode (cfg : NodePoolControllerConfig) (c : Cluster) (names : List String) (nodes : NodeStore) : NodeStore :=
  names.foldl (fun nodes name => (reconcileManaged cfg c (some name) nodes).nodes) nodes

section

variable {values : List String} (hfault : ∀ call, c.fault call = none)
  (hvalues : listPartitionLabelValues c = .ok values)
include hfault hvalues

theorem reconcileManaged_node {name : String} (hvalid : ∀ node, nodes.get name = some node → ValidPool cfg node)
    (k : String) : (reconcileManaged cfg c (some name) nodes).nodes.get k =
      if k = name then (nodes.get k).map (nodeTurn cfg c values) else nodes.get k := by
  unfold reconcileManaged
  rw [hfault]
  refine reconcileNode_get hvalues (hfault _) (fun node hget => ?_) k
  refine reconcileIncluded_errs hfault fun other hother => ?_
  rw [List.mem_singleton.1 (List.mem_of_mem_filter hother)]
  exact hvalid node hget

theorem reconcileManaged_full (hvalid : ∀ node ∈ nodes.items, ValidPool cfg node) (name : String) :
    (reconcileManaged cfg c none nodes).nodes.get name = (nodes.get name).map (fullTurn cfg c values) := by
  unfold reconcileManaged
  rw [hfault]
  refine reconcileManagedNodesConfig_get hvalues (hfault _) ?_ name
  exact reconcileIncluded_errs hfault fun node hnode => hvalid node (List.mem_of_mem_filter hnode)

theorem nodeByNode_get {names : List String} (hnodup : names.Nodup)
    (hvalid : ∀ name ∈ names, ∀ node, nodes.get name = some node → ValidPool cfg node) (k : String) :
    (nodeByNode cfg c names nodes).get k =
      if k ∈ names then (nodes.get k).map (nodeTurn cfg c values) else nodes.get k := by
  induction names generalizing nodes with
  | nil => rfl
  | cons name names ih =>
    rw [List.nodup_cons] at hnodup
    have hfirst := reconcileManaged_node hfault hvalues (hvalid name List.mem_cons_self)
    -- The nodes still to come are as they were.
    have hother {other : String} (hmem : other ∈ names) :
        (reconcileManaged cfg c (some name) nodes).nodes.get other = nodes.get other := by
      rw [hfirst, if_neg]
      rintro rfl
      exact hnodup.1 hmem
    have hrest := ih hnodup.2 fun other hmem node hget =>
      hvalid other (List.mem_cons_of_mem _ hmem) node ((hother hmem) ▸ hget)
    rw [nodeByNode, List.foldl_cons, ← nodeByNode, hrest]
    by_cases hk : k ∈ names
    · rw [if_pos hk, hother hk, if_pos (List.mem_cons_of_mem _ hk)]
    · rw [if_neg hk, hfirst]
      simp only [List.mem_cons, hk, or_false]

end

/-- Only a mark that the full reconcile removes is left. -/
theorem turns_agree_iff {values : List String} (hfault : ∀ call, c.fault call = none) (node : Node) :
    (nodeTurn cfg c values node).view cfg = (fullTurn cfg c values node).view cfg ↔
      (node.labels.value cfg.nodePoolNameLabel ∉ values →
        node.labels.value cfg.nodePoolNameLabel ≠ cfg.excludedNodepoolName →
        meetsCriteria c.inclusionCriteria node → node.labels.lookup cfg.shouldBeExcludedLabelKey = none) := by
  unfold nodeTurn fullTurn
  split_ifs with hvalue hexcluded hmeets hmeets
  · simp [hvalue]
  · simp [hexcluded]
  · simp [hexcluded]
  · cases hmark : node.labels.lookup cfg.shouldBeExcludedLabelKey with
    | none => simp [revertNode, hmark]
    | some value =>
      simp [revertNode, hmark, updateNodeLabels_ok node [] _ (hfault _), Node.view, patchedLabels, hvalue, hexcluded,
        hmeets]
  · simp [hmeets]

/-- Both agree exactly when no managed node that may stay is marked. -/
theorem node_by_node_agrees_iff (cfg : NodePoolControllerConfig) (c : Cluster) (nodes : NodeStore)
    (names : List String) (hfault : ∀ call, c.fault call = none) (hvalid : ∀ node ∈ nodes.items, ValidPool cfg node)
    (hnames : names.Perm (nodes.items.map Node.name)) :
    (∀ name, ((nodeByNode cfg c names nodes).get name).map (Node.view cfg) =
      ((reconcileManaged cfg c none nodes).nodes.get name).map (Node.view cfg)) ↔
      ∀ node ∈ nodes.items, isManaged cfg c node →
        node.labels.value cfg.nodePoolNameLabel ≠ cfg.excludedNodepoolName →
        meetsCriteria c.inclusionCriteria node → node.labels.lookup cfg.shouldBeExcludedLabelKey = none := by
  obtain ⟨values, hvalues⟩ : ∃ values, listPartitionLabelValues c = .ok values := by
    unfold listPartitionLabelValues Cluster.attempt
    rw [hfault]
    exact ⟨_, rfl⟩
  have hnodes (name : String) : (nodeByNode cfg c names nodes).get name =
      (nodes.get name).map (nodeTurn cfg c values) := by
    rw [nodeByNode_get hfault hvalues (hnames.nodup_iff.2 nodes.nodup) fun _ _ node hget =>
      hvalid node (Store.get_mem hget)]
    split_ifs with hname
    · rfl
    · have hnone : nodes.get name = none := by
        rw [Store.get_eq_none_iff]
        intro node hnode heq
        exact hname (hnames.mem_iff.2 (heq ▸ List.mem_map_of_mem hnode))
      rw [hnone, Option.map_none]
  simp only [hnodes, reconcileManaged_full hfault hvalues hvalid, Option.map_map, isManaged_eq hvalues,
    decide_eq_true_iff]
  constructor
  · intro h node hnode
    have hview := h node.name
    rw [Store.get_of_mem hnode, Option.map_some, Option.map_some, Option.some.injEq] at hview
    exact (turns_agree_iff hfault node).1 hview
  · intro h name
    cases hget : nodes.get name with
    | none => rfl
    | some node => exact congrArg some ((turns_agree_iff hfault node).2 (h node (Store.get_mem hget)))

namespace WidenedCriteria

open TwoNamespaces

/-- A node that was to be excluded until the criteria were widened. -/
def marked : Node := ⟨"x", (pool "a").insert "kai.scheduler/to-exclude" "true", true⟩

def cluster (criteria : List NodeSelectorTerm) : Cluster := bareCluster [podIn "n2"] podGroups criteria

end WidenedCriteria

open WidenedCriteria in
theorem waiting_node_agrees :
    ((nodeByNode .default (cluster [fun _ => .ok false]) ["x"] (only marked)).get "x").map (Node.view .default) =
      ((reconcileManaged .default (cluster [fun _ => .ok false]) none (only marked)).nodes.get "x").map
        (Node.view .default) := by
  refine (node_by_node_agrees_iff .default _ (only marked) ["x"] (fun _ => rfl) ?_ (.refl _)).2 ?_ "x"
  · intro node hnode
    rw [List.mem_singleton.1 hnode]
    exact fun _ => by decide
  · intro node _ _ _ hmeets
    cases hmeets

open WidenedCriteria in
theorem mark_outlives_node_reconcile :
    ((nodeByNode .default (cluster [fun _ => .ok true]) ["x"] (only marked)).get "x").map (Node.view .default) =
      some (some "a", some "true", true) ∧
    ((reconcileManaged .default (cluster [fun _ => .ok true]) none (only marked)).nodes.get "x").map
      (Node.view .default) = some (some "a", none, true) := by
  -- The node meets the criteria again, but its own reconcile leaves it marked.
  decide

end Krm.Nodes
