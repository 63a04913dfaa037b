import Krm.Nodes.NodeByNode

/-! # The nodes that wait to be excluded, and those that a full reconcile returns -/

open Krm.Lib

namespace Krm.Nodes

variable {cfg : NodePoolControllerConfig} {c : Cluster} {nodes : NodeStore} {node after : Node}

section

variable (cfg : NodePoolControllerConfig)

/-- An included node that does not meet the criteria. -/
def waits (c : Cluster) (node : Node) : Bool :=
  isManaged cfg c node && decide (node.labels.value cfg.nodePoolNameLabel ≠ cfg.excludedNodepoolName) &&
    !meetsCriteria c.inclusionCriteria node

def waitingNodes (c : Cluster) (nodes : NodeStore) : List Node := nodes.items.filter (waits cfg c)

def ownLabels : List String := [cfg.nodePoolNameLabel, cfg.shouldBeExcludedLabelKey, cfg.unschedulableLabelKey]

/-- Nothing differs but the labels of the controller and the cordon. -/
structure SameButOwn (node after : Node) : Prop where
  name : after.name = node.name
  lookup : ∀ {k}, k ∉ ownLabels cfg → after.labels.lookup k = node.labels.lookup k

/-- The criteria read neither the labels of the controller nor the cordon. -/
def OwnLabelsUnread (inclusionCriteria : List NodeSelectorTerm) : Prop :=
  ∀ term ∈ inclusionCriteria, ∀ node after, SameButOwn cfg node after → term after = term node

end

theorem meetsCriteria_congr {terms : List NodeSelectorTerm} (hunread : OwnLabelsUnread cfg terms)
    (h : SameButOwn cfg node after) : meetsCriteria terms after = meetsCriteria terms node := by
  have hanswers : (terms.map fun term => term after) = terms.map fun term => term node :=
    List.map_congr_left fun term hterm => hunread term hterm node after h
  unfold meetsCriteria isIncluded matchNodeSelectorTerms
  rw [hanswers]

theorem waits_congr (hmeets : meetsCriteria c.inclusionCriteria after = meetsCriteria c.inclusionCriteria node)
    (hlabel : after.labels.lookup cfg.nodePoolNameLabel = node.labels.lookup cfg.nodePoolNameLabel) :
    waits cfg c after = waits cfg c node := by
  unfold waits isManaged Labels.value
  rw [hmeets, hlabel]

/-! ## What the turns change -/

theorem SameBut.own (h : SameBut cfg node after) : SameButOwn cfg node after := by
  refine ⟨h.name, fun {k} hk => ?_⟩
  simp only [ownLabels, List.mem_cons, List.not_mem_nil, or_false, not_or] at hk
  exact h.lookup hk.1 hk.2.2

theorem SameButOwn.trans {next : Node} (h : SameButOwn cfg node after) (h' : SameButOwn cfg after next) :
    SameButOwn cfg node next :=
  ⟨h'.name.trans h.name, fun hk => (h'.lookup hk).trans (h.lookup hk)⟩

theorem updateNodeLabels_sameButOwn {add : List (String × String)} {remove : List String}
    (hadd : add.map Prod.fst ⊆ ownLabels cfg) (hremove : remove ⊆ ownLabels cfg) :
    SameButOwn cfg node (updateNodeLabels c node add remove).2 :=
  ⟨updateNodeLabels_name .., fun hk => updateNodeLabels_lookup (fun h => hk (hadd h)) fun h => hk (hremove h)⟩

variable (cfg c node) in
theorem mark_sameButOwn (value : String) :
    SameButOwn cfg node (updateNodeLabels c node [(cfg.shouldBeExcludedLabelKey, value)] []).2 :=
  updateNodeLabels_sameButOwn (by simp [ownLabels]) (List.nil_subset _)

variable (cfg c node) in
theorem unmark_sameButOwn : SameButOwn cfg node (updateNodeLabels c node [] [cfg.shouldBeExcludedLabelKey]).2 :=
  updateNodeLabels_sameButOwn (List.nil_subset _) (by simp [ownLabels])

variable (cfg c node) in
theorem excludeNode_sameButOwn (clean : Bool) : SameButOwn cfg node (excludeNode cfg c clean node).2.2 := by
  have hmoved : SameButOwn cfg node (changeNodePoolForNode cfg c node cfg.excludedNodepoolName
      (getNodePoolNameFromLabels cfg node.labels)).node := (moveOut_sameBut cfg c node).own
  unfold excludeNode
  dsimp only
  split_ifs
  · exact hmoved.trans (mark_sameButOwn ..)
  · exact hmoved.trans (unmark_sameButOwn ..)
  · exact hmoved
  · exact hmoved

variable (cfg c node) in
theorem includeNode_sameButOwn : SameButOwn cfg node (includeNode cfg c node).2 := by
  have hmoved := (changeNodePoolForNodeGeneric_spec cfg c node cfg.defaultNodepoolName cfg.excludedNodepoolName
    (List.forall_mem_nil _)).1.own
  unfold includeNode changeNodePoolForNode
  dsimp only
  split_ifs
  · exact hmoved.trans (unmark_sameButOwn ..)
  · exact hmoved

variable (cfg c node) in
theorem revertNode_sameButOwn : SameButOwn cfg node (revertNode cfg c node).2 := by
  unfold revertNode
  split_ifs
  · exact unmark_sameButOwn cfg c node
  · exact ⟨rfl, fun _ => rfl⟩

/-! ## Who still waits -/

variable (cfg c node) in
theorem moveOut_moved (herr : (moveOut cfg c node).err = none) (hfree : (moveOut cfg c node).schedulable = true) :
    (moveOut cfg c node).node.labels.lookup cfg.nodePoolNameLabel = some cfg.excludedNodepoolName := by
  obtain ⟨-, hlabel | ⟨hreported, -⟩⟩ := changeNodePoolForNodeGeneric_spec cfg c node cfg.excludedNodepoolName
    (getNodePoolNameFromLabels cfg node.labels) (List.forall_mem_nil _)
  · rw [if_neg (excluded_ne cfg).1, poolLabel, if_neg (excluded_ne cfg).2] at hlabel
    exact hlabel
  · refine absurd ?_ hreported
    change (moveOut cfg c node).reported.1 = []
    simp [Outcome.reported, herr, hfree]

variable (cfg c node) in
theorem moveOut_held (hheld : (moveOut cfg c node).schedulable = false) :
    (moveOut cfg c node).node.labels.lookup cfg.nodePoolNameLabel = node.labels.lookup cfg.nodePoolNameLabel := by
  unfold moveOut changeNodePoolForNode changeNodePoolForNodeGeneric at hheld ⊢
  dsimp only at hheld ⊢
  split_ifs at hheld ⊢
  exact validateNodeStatus_lookup (keys_ne cfg).2.2 ..

theorem excludeNode_of_ok (herrs : (excludeNode cfg c true node).2.1 = []) :
    (excludeNode cfg c true node).2.2.labels.lookup cfg.nodePoolNameLabel =
      if (excludeNode cfg c true node).1.isSome then node.labels.lookup cfg.nodePoolNameLabel
      else some cfg.excludedNodepoolName := by
  have hheld := moveOut_held cfg c node
  have hmoved := moveOut_moved cfg c node
  unfold excludeNode at herrs ⊢
  rw [← moveOut] at herrs ⊢
  generalize moveOut cfg c node = o at hheld hmoved herrs ⊢
  obtain ⟨schedulable, err, moved⟩ := o
  dsimp only at hheld hmoved herrs ⊢
  obtain ⟨hpool, -, -⟩ := keys_ne cfg
  cases err with
  | some e => simp at herrs
  | none =>
    cases schedulable with
    | false => exact (updateNodeLabels_lookup (by simpa using hpool) (by simp)).trans (hheld rfl)
    | true =>
      have hunmarked : (updateNodeLabels c moved [] [cfg.shouldBeExcludedLabelKey]).2.labels.lookup
          cfg.nodePoolNameLabel = moved.labels.lookup cfg.nodePoolNameLabel :=
        updateNodeLabels_lookup (by simp) (by simpa using hpool)
      by_cases hmarked : (moved.labels.lookup cfg.shouldBeExcludedLabelKey).isSome
      · simpa [hmarked, hunmarked] using hmoved rfl
      · simpa [hmarked] using hmoved rfl

section

variable {values : List String} (hvalues : listPartitionLabelValues c = .ok values)
include hvalues

theorem waits_fullTurn (hunread : OwnLabelsUnread cfg c.inclusionCriteria)
    (herrs : waits cfg c node → (excludeNode cfg c true node).2.1 = []) :
    waits cfg c (fullTurn cfg c values node) = (waits cfg c node && (excludeNode cfg c true node).1.isSome) := by
  have hmanaged : isManaged cfg c node = decide (node.labels.value cfg.nodePoolNameLabel ∉ values) :=
    isManaged_eq hvalues node
  unfold fullTurn
  split_ifs with hvalue hexcluded hmeets hmeets
  · simp [waits, hmanaged, hvalue]
  · have hmeets' := (meetsCriteria_congr hunread (includeNode_sameButOwn cfg c node)).trans hmeets
    simp [waits, hexcluded, hmeets']
  · simp [waits, hexcluded]
  · have hmeets' := (meetsCriteria_congr hunread (revertNode_sameButOwn cfg c node)).trans hmeets
    simp [waits, hmeets, hmeets']
  · have hwaits : waits cfg c node = true := by simp [waits, hmanaged, hvalue, hexcluded, hmeets]
    have hmeets' := meetsCriteria_congr hunread (excludeNode_sameButOwn cfg c node true)
    have hlabel := excludeNode_of_ok (herrs hwaits)
    rw [hwaits, Bool.true_and]
    cases hwaiting : (excludeNode cfg c true node).1.isSome with
    | true =>
      rw [hwaiting, if_pos rfl] at hlabel
      exact (waits_congr hmeets' hlabel).trans hwaits
    | false =>
      rw [hwaiting, if_neg Bool.false_ne_true] at hlabel
      simp [waits, Labels.value, hlabel]

end

theorem fullTurn_name (values : List String) (node : Node) : (fullTurn cfg c values node).name = node.name := by
  unfold fullTurn
  split_ifs
  · rfl
  · exact includeNode_name node
  · rfl
  · exact revertNode_name node
  · exact excludeNode_name cfg c true node

theorem reconcileManagedNodesConfig_ok (h : (reconcileManagedNodesConfig cfg c nodes).errs = []) :
    ∃ values, listPartitionLabelValues c = .ok values ∧
      (reconcileIncludedNodesThatShouldBeExcluded cfg c (includedOf cfg values nodes.items) nodes).errs = [] ∧
      (reconcileManagedNodesConfig cfg c nodes).toBeExcludedNodes = (reconcileIncludedNodesThatShouldBeExcluded cfg c
        (includedOf cfg values nodes.items) nodes).toBeExcludedNodes ∧
      ∀ name, (reconcileManagedNodesConfig cfg c nodes).nodes.get name =
        (nodes.get name).map (fullTurn cfg c values) := by
  -- What is known of a full reconcile without an error.
  cases hlist : c.fault .listNodes with
  | some e =>
    simp only [reconcileManagedNodesConfig, Cluster.attempt, hlist] at h
    cases h
  | none =>
    cases hvalues : listPartitionLabelValues c with
    | error e =>
      have hsplit : splitNodeToIncludedExcluded cfg c nodes.items = .error e := by
        unfold splitNodeToIncludedExcluded
        rw [hvalues]
        rfl
      simp only [reconcileManagedNodesConfig, Cluster.attempt, hlist, hsplit] at h
      cases h
    | ok values =>
      have hsplit := splitNode_eq cfg nodes.items hvalues
      have herrs := h
      simp only [reconcileManagedNodesConfig, Cluster.attempt, hlist, hsplit, List.append_eq_nil_iff] at herrs
      refine ⟨values, rfl, herrs.1.1, ?_, reconcileManagedNodesConfig_get hvalues hlist herrs.1.1⟩
      simp only [reconcileManagedNodesConfig, Cluster.attempt, hlist, hsplit]

/-! ## The nodes that a reconcile leaves -/

section

variable (cfg c)

def partitionLabelValues : List String :=
  match listPartitionLabelValues c with
  | .ok values => values
  | .error _ => []

/-- What the request of a node, or of all of them, makes of a node. -/
def turnOf (request : Option String) (node : Node) : Node :=
  match request with
  | none => fullTurn cfg c (partitionLabelValues c) node
  | some name => if node.name = name then nodeTurn cfg c (partitionLabelValues c) node else node

end

theorem turnOf_none {values : List String} (hvalues : listPartitionLabelValues c = .ok values) :
    turnOf cfg c none = fullTurn cfg c values := by
  funext node
  simp only [turnOf, partitionLabelValues, hvalues]

theorem reconcileNode_ok {name : String} (h : (reconcileNode cfg c name nodes).errs = []) (k : String) :
    (reconcileNode cfg c name nodes).nodes.get k = (nodes.get k).map (turnOf cfg c (some name)) := by
  cases hfault : c.fault (.getNode name) with
  | some e =>
    simp only [reconcileNode, hfault] at h
    cases h
  | none =>
    cases hget : nodes.get name with
    | none =>
      simp only [reconcileNode, hfault, hget] at h
      cases h
    | some node =>
      cases hvalues : listPartitionLabelValues c with
      | error e =>
        have hsplit : splitNodeToIncludedExcluded cfg c [node] = .error e := by
          unfold splitNodeToIncludedExcluded
          rw [hvalues]
          rfl
        simp only [reconcileNode, hfault, hget, hsplit] at h
        cases h
      | ok values =>
        simp only [reconcileNode, hfault, hget, splitNode_eq cfg [node] hvalues, List.append_eq_nil_iff] at h
        rw [reconcileNode_get hvalues hfault (fun other hother => ?_) k]
        · cases hk : nodes.get k with
          | none => simp
          | some other =>
            have hname : other.name = k := Store.get_key hk
            simp only [Option.map_some, turnOf, partitionLabelValues, hvalues, hname]
            split_ifs <;> rfl
        · cases hget.symm.trans hother
          exact h.1

theorem reconcileManaged_items {request : Option String} (hconfig : c.fault .getManagedNodesConfig = none)
    (h : (reconcileManaged cfg c request nodes).errs = []) :
    (reconcileManaged cfg c request nodes).nodes.items = nodes.items.map (turnOf cfg c request) := by
  have hkeys := localSteps_keys (show Reaches cfg c nodes _ from reconcileManaged_reaches request nodes)
  refine Store.items_eq_map hkeys fun name => ?_
  unfold reconcileManaged at h ⊢
  rw [hconfig] at h ⊢
  cases request with
  | some other => exact reconcileNode_ok h name
  | none =>
    obtain ⟨values, hvalues, -, -, hget⟩ := reconcileManagedNodesConfig_ok h
    rw [hget, turnOf_none hvalues]

/-! ## The nodes that a full reconcile returns -/

theorem excludeNode_names (l : List Node) :
    (l.filterMap fun node => (excludeNode cfg c true node).1).map Node.name =
      (l.filter fun node => (excludeNode cfg c true node).1.isSome).map Node.name := by
  rw [List.map_filterMap, ← List.filterMap_eq_map, List.filterMap_filter]
  apply List.filterMap_congr
  intro node _
  cases hwaiting : (excludeNode cfg c true node).1 with
  | none => rfl
  | some waiting => exact congrArg some (excludeNode_waiting_name hwaiting)

theorem included_filter {values : List String} (hvalues : listPartitionLabelValues c = .ok values) :
    ((includedOf cfg values nodes.items).filter fun node => meetsCriteria c.inclusionCriteria node = false) =
      nodes.items.filter (waits cfg c) := by
  rw [List.filter_filter]
  apply List.filter_congr
  intro node _
  rw [waits, isManaged_eq hvalues]
  cases meetsCriteria c.inclusionCriteria node <;> simp [Bool.and_comm]

/-- A full reconcile returns the nodes that wait after it, in their order. -/
theorem reconcileManagedNodesConfig_waiting (hconfig : c.fault .getManagedNodesConfig = none)
    (h : (reconcileManagedNodesConfig cfg c nodes).errs = []) (hunread : OwnLabelsUnread cfg c.inclusionCriteria) :
    (reconcileManagedNodesConfig cfg c nodes).toBeExcludedNodes.map Node.name =
      (waitingNodes cfg c (reconcileManagedNodesConfig cfg c nodes).nodes).map Node.name := by
  obtain ⟨values, hvalues, herrs, hreturned, -⟩ := reconcileManagedNodesConfig_ok h
  have hmanaged : (reconcileManaged cfg c none nodes).errs = [] := by rwa [reconcileManaged, hconfig]
  have hitems := reconcileManaged_items hconfig hmanaged
  rw [reconcileManaged, hconfig, turnOf_none hvalues] at hitems
  have hclean := foldl_excludeStep_errs cfg c (nodes.items.filter (waits cfg c)) ⟨nodes, [], []⟩
  rw [reconcileIncluded_eq, included_filter hvalues] at hreturned herrs
  rw [herrs, List.isEmpty_nil, Bool.true_and] at hclean
  have hturn (node : Node) (hnode : node ∈ nodes.items) : waits cfg c (fullTurn cfg c values node) =
      (waits cfg c node && (excludeNode cfg c true node).1.isSome) := by
    refine waits_fullTurn hvalues hunread fun hwaits => List.isEmpty_iff.1 ?_
    exact List.all_eq_true.1 hclean.symm node (List.mem_filter.2 ⟨hnode, hwaits⟩)
  calc (reconcileManagedNodesConfig cfg c nodes).toBeExcludedNodes.map Node.name
      = ((nodes.items.filter (waits cfg c)).filterMap fun node => (excludeNode cfg c true node).1).map Node.name := by
        rw [hreturned, foldl_excludeStep_clean hclean.symm]
        rfl
    _ = ((nodes.items.filter (waits cfg c)).filter fun node => (excludeNode cfg c true node).1.isSome).map Node.name :=
        excludeNode_names _
    _ = (nodes.items.filter fun node => waits cfg c (fullTurn cfg c values node)).map Node.name := by
        rw [List.filter_filter]
        congr 1
        apply List.filter_congr
        intro node hnode
        rw [hturn node hnode, Bool.and_comm]
    _ = (waitingNodes cfg c (reconcileManagedNodesConfig cfg c nodes).nodes).map Node.name := by
        rw [waitingNodes, hitems, List.filter_map, List.map_map]
        exact List.map_congr_left fun node _ => (fullTurn_name values node).symm

end Krm.Nodes
