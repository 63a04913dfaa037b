import Krm.Nodes.Moves

/-! # The loop that excludes nodes -/

open Krm.Lib

namespace Krm.Nodes

section

variable (cfg : NodePoolControllerConfig) (c : Cluster)

def excludeStep (acc : Exclusion) (node : Node) : Exclusion :=
  let excluded := excludeNode cfg c acc.errs.isEmpty node
  ⟨acc.nodes.replace excluded.2.2, acc.toBeExcludedNodes ++ excluded.1.toList, acc.errs ++ excluded.2.1⟩

/-- No node of the list fails. -/
def clean (nodes : List Node) : Bool := nodes.all fun node => (excludeNode cfg c true node).2.1.isEmpty

end

variable {cfg : NodePoolControllerConfig} {c : Cluster} {nodes : NodeStore}

/-! ## The loop -/

theorem reconcileIncluded_eq (includedNodes : List Node) (nodes : NodeStore) :
    reconcileIncludedNodesThatShouldBeExcluded cfg c includedNodes nodes =
      (includedNodes.filter fun node => meetsCriteria c.inclusionCriteria node = false).foldl (excludeStep cfg c)
        ⟨nodes, [], []⟩ := by
  unfold reconcileIncludedNodesThatShouldBeExcluded
  rw [filterNodes_eq]
  rfl

variable (cfg c) in
theorem changeNodePoolForNode_name (node : Node) (newNodePoolName oldNodePoolName : String) :
    (changeNodePoolForNode cfg c node newNodePoolName oldNodePoolName).node.name = node.name :=
  Turn.apply_name (.change newNodePoolName oldNodePoolName []) node

variable (cfg c) in
theorem excludeNode_name (b : Bool) (node : Node) : (excludeNode cfg c b node).2.2.name = node.name :=
  key_of_steps (NodeStep.name cfg c) excludeNode_steps

theorem excludeNode_waiting_name {b : Bool} {node waiting : Node} (h : waiting ∈ (excludeNode cfg c b node).1) :
    waiting.name = node.name := by
  have hname := changeNodePoolForNode_name cfg c node cfg.excludedNodepoolName
    (getNodePoolNameFromLabels cfg node.labels)
  unfold excludeNode at h
  dsimp only at h
  split_ifs at h
  · cases h
    exact hname
  all_goals cases h

variable (cfg c) in
theorem foldl_excludeStep_errs (l : List Node) (acc : Exclusion) :
    (l.foldl (excludeStep cfg c) acc).errs.isEmpty = (acc.errs.isEmpty && clean cfg c l) := by
  induction l generalizing acc with
  | nil => simp [clean]
  | cons node l ih =>
    rw [List.foldl_cons, ih]
    cases hacc : acc.errs.isEmpty with
    | true =>
      rw [List.isEmpty_iff] at hacc
      simp [excludeStep, hacc, clean]
    | false =>
      have hstep : (excludeStep cfg c acc node).errs.isEmpty = false := by
        rw [List.isEmpty_eq_false_iff] at hacc ⊢
        exact List.append_ne_nil_of_left_ne_nil hacc _
      rw [hstep, Bool.false_and, Bool.false_and]

variable (cfg c) in
theorem foldl_excludeStep_waiting (l : List Node) (acc : Exclusion) :
    ∃ waiting, (l.foldl (excludeStep cfg c) acc).toBeExcludedNodes = acc.toBeExcludedNodes ++ waiting ∧
      ∀ node ∈ waiting, node.name ∈ l.map Node.name := by
  induction l generalizing acc with
  | nil => exact ⟨[], (List.append_nil _).symm, fun node hnode => nomatch hnode⟩
  | cons first l ih =>
    obtain ⟨waiting, hwaiting, hnames⟩ := ih (excludeStep cfg c acc first)
    refine ⟨(excludeNode cfg c acc.errs.isEmpty first).1.toList ++ waiting, ?_, ?_⟩
    · rw [List.foldl_cons, hwaiting, excludeStep, List.append_assoc]
    · intro node hnode
      rw [List.map_cons, List.mem_cons]
      rcases List.mem_append.1 hnode with hfirst | hrest
      · exact .inl (excludeNode_waiting_name (Option.mem_toList.1 hfirst))
      · exact .inr (hnames node hrest)

variable (cfg c) in
/-- A node's own state decides, and whether one before it failed. -/
theorem foldl_excludeStep_at {before after : List Node} {node : Node}
    (hnodup : ((before ++ node :: after).map Node.name).Nodup) (hmem : node ∈ nodes.items) :
    ((before ++ node :: after).foldl (excludeStep cfg c) ⟨nodes, [], []⟩).nodes.get node.name =
        some (excludeNode cfg c (clean cfg c before) node).2.2 ∧
      (node.name ∈
          ((before ++ node :: after).foldl (excludeStep cfg c) ⟨nodes, [], []⟩).toBeExcludedNodes.map Node.name ↔
        (excludeNode cfg c (clean cfg c before) node).1.isSome) := by
  rw [List.map_append, List.map_cons, List.nodup_append, List.nodup_cons] at hnodup
  obtain ⟨-, ⟨hafter, -⟩, hbefore⟩ := hnodup
  replace hbefore : node.name ∉ before.map Node.name := fun h => hbefore _ h _ (by simp) rfl
  rw [List.foldl_append, List.foldl_cons]
  -- The nodes before it leave it as it is, and have either failed or not.
  have hkept : node ∈ (before.foldl (excludeStep cfg c) ⟨nodes, [], []⟩).nodes.items :=
    foldl_frame (NodeStep.name cfg c) Exclusion.nodes _ (fun _ _ _ => ⟨_, excludeNode_steps, rfl⟩) hmem hbefore
  have hclean := foldl_excludeStep_errs cfg c before ⟨nodes, [], []⟩
  obtain ⟨waitingBefore, hwaiting, hnames⟩ := foldl_excludeStep_waiting cfg c before ⟨nodes, [], []⟩
  generalize before.foldl (excludeStep cfg c) ⟨nodes, [], []⟩ = acc at hkept hclean hwaiting ⊢
  replace hclean : acc.errs.isEmpty = clean cfg c before := hclean
  replace hwaiting : acc.toBeExcludedNodes = waitingBefore := hwaiting
  obtain ⟨waitingAfter, hwaiting', hnames'⟩ := foldl_excludeStep_waiting cfg c after (excludeStep cfg c acc node)
  have hname := excludeNode_name cfg c (clean cfg c before) node
  constructor
  · have hstored : (excludeNode cfg c (clean cfg c before) node).2.2 ∈ (excludeStep cfg c acc node).nodes.items := by
      rw [excludeStep, hclean]
      exact Store.get_mem (Store.get_replace_self _ _ hname (by simp [Store.get_of_mem hkept]))
    rw [← hname] at hafter ⊢
    exact Store.get_of_mem (foldl_frame (NodeStep.name cfg c) Exclusion.nodes _
      (fun _ _ _ => ⟨_, excludeNode_steps, rfl⟩) hstored hafter)
  · rw [hwaiting', excludeStep, hclean, hwaiting]
    constructor
    · intro h
      obtain ⟨waiting, hwaiting, heq⟩ := List.mem_map.1 h
      rcases List.mem_append.1 hwaiting with hwaiting | hwaiting
      · rcases List.mem_append.1 hwaiting with hwaiting | hwaiting
        · exact absurd (heq ▸ hnames waiting hwaiting) hbefore
        · exact Option.isSome_of_mem (Option.mem_toList.1 hwaiting)
      · exact absurd (heq ▸ hnames' waiting hwaiting) hafter
    · intro h
      obtain ⟨waiting, hwaiting⟩ := Option.isSome_iff_exists.1 h
      refine List.mem_map.2 ⟨waiting, ?_, excludeNode_waiting_name hwaiting⟩
      simp [hwaiting]

/-! ## The calls of one node -/

/-- The node that a call is made for. -/
def Call.node : Call → Option String
  | .getNode name => some name
  | .listPods nodeName => some nodeName
  | .patchUnschedulable node _ => some node
  | .patchLabels node _ _ => some node
  | _ => none

/-- The cluster where no call for another node fails. -/
def Cluster.failingOnlyAt (c : Cluster) (name : String) : Cluster :=
  { c with fault := fun call => if call.node ∈ [none, some name] then c.fault call else none }

theorem failingOnlyAt_fault {call : Call} {name : String} (h : call.node = none ∨ call.node = some name) :
    (c.failingOnlyAt name).fault call = c.fault call := by
  unfold Cluster.failingOnlyAt
  exact if_pos (by simpa using h)

section

variable {node : Node}

theorem updateNodeLabels_failingOnlyAt {name : String} (hname : node.name = name) (add : List (String × String))
    (remove : List String) :
    updateNodeLabels (c.failingOnlyAt name) node add remove = updateNodeLabels c node add remove := by
  subst hname
  unfold updateNodeLabels
  rw [failingOnlyAt_fault (.inr rfl)]

theorem patchNodeUnschedulable_failingOnlyAt (unschedulable : Bool) :
    patchNodeUnschedulable cfg (c.failingOnlyAt node.name) node unschedulable =
      patchNodeUnschedulable cfg c node unschedulable := by
  unfold patchNodeUnschedulable
  rw [failingOnlyAt_fault (.inr rfl)]

theorem updateNodeUnschedulableIfNeeded_failingOnlyAt (unschedulable : Bool) :
    updateNodeUnschedulableIfNeeded cfg (c.failingOnlyAt node.name) node unschedulable =
      updateNodeUnschedulableIfNeeded cfg c node unschedulable := by
  unfold updateNodeUnschedulableIfNeeded validateNodeLabeledWithUnschedulable
  simp only [updateNodeLabels_failingOnlyAt, patchNodeUnschedulable_failingOnlyAt]

theorem filterPods_failingOnlyAt (name : String) (pods : List Pod) :
    filterPodsWithIncorrectNodepoolLabel cfg (c.failingOnlyAt name) pods =
      filterPodsWithIncorrectNodepoolLabel cfg c pods := by
  have hget : getPodGroup (c.failingOnlyAt name) = getPodGroup c := by
    funext namespaceName podGroupName
    unfold getPodGroup
    rw [failingOnlyAt_fault (.inl rfl)]
    rfl
  have hgroup : filterGroup cfg (c.failingOnlyAt name) = filterGroup cfg c := by
    funext podGroupName pods
    cases pods with
    | nil => rfl
    | cons first rest => rw [filterGroup, filterGroup, hget]
  unfold filterPodsWithIncorrectNodepoolLabel
  rw [hgroup]

theorem arePodsRunning_failingOnlyAt (name nodePoolName : String) :
    arePodsRunningWithSameNodePool cfg (c.failingOnlyAt name) name nodePoolName =
      arePodsRunningWithSameNodePool cfg c name nodePoolName := by
  have hlist (requirement : Requirement) : listPodsWithSelectors cfg (c.failingOnlyAt name) name requirement =
      listPodsWithSelectors cfg c name requirement := by
    unfold listPodsWithSelectors Cluster.attempt
    rw [failingOnlyAt_fault (.inr rfl)]
    rfl
  unfold arePodsRunningWithSameNodePool arePodsRunningWithNodePool getRunningPodsWithNodePoolOnNode
  simp only [hlist, filterPods_failingOnlyAt]

theorem changeNodePoolForNode_failingOnlyAt (newNodePoolName oldNodePoolName : String) :
    changeNodePoolForNode cfg (c.failingOnlyAt node.name) node newNodePoolName oldNodePoolName =
      changeNodePoolForNode cfg c node newNodePoolName oldNodePoolName := by
  have hvalidated : validateNodeStatusWhenChangingNodePool cfg (c.failingOnlyAt node.name) node oldNodePoolName =
      validateNodeStatusWhenChangingNodePool cfg c node oldNodePoolName := by
    unfold validateNodeStatusWhenChangingNodePool validateNodeStatus
    rw [arePodsRunning_failingOnlyAt, updateNodeUnschedulableIfNeeded_failingOnlyAt,
      updateNodeUnschedulableIfNeeded_failingOnlyAt]
  have hname : (validateNodeStatusWhenChangingNodePool cfg c node oldNodePoolName).node.name = node.name :=
    validateNodeStatus_name ..
  unfold changeNodePoolForNode changeNodePoolForNodeGeneric updateNodeWithNodePoolNameIfNeeded
  simp only [hvalidated, updateNodeLabels_failingOnlyAt hname]

theorem excludeNode_failingOnlyAt (b : Bool) :
    excludeNode cfg (c.failingOnlyAt node.name) b node = excludeNode cfg c b node := by
  have hname := changeNodePoolForNode_name cfg c node cfg.excludedNodepoolName
    (getNodePoolNameFromLabels cfg node.labels)
  unfold excludeNode
  rw [changeNodePoolForNode_failingOnlyAt]
  simp only [updateNodeLabels_failingOnlyAt hname]

end

/-! ## The result -/

section

variable (cfg : NodePoolControllerConfig)

/-- The pool label, the mark of exclusion, and the cordon. -/
def Node.view (node : Node) : Option String × Option String × Bool :=
  (node.labels.lookup cfg.nodePoolNameLabel, node.labels.lookup cfg.shouldBeExcludedLabelKey, node.unschedulable)

/-- The first thing that is done with a node to exclude it. -/
def moveOut (c : Cluster) (node : Node) : Outcome :=
  changeNodePoolForNode cfg c node cfg.excludedNodepoolName (getNodePoolNameFromLabels cfg node.labels)

def Exclusion.SameAt (name : String) (e e' : Exclusion) : Prop :=
  (e.nodes.get name).map (Node.view cfg) = (e'.nodes.get name).map (Node.view cfg) ∧
    (name ∈ e.toBeExcludedNodes.map Node.name ↔ name ∈ e'.toBeExcludedNodes.map Node.name)

end

section

variable {node : Node}

variable (cfg c node) in
theorem moveOut_sameBut : SameBut cfg node (moveOut cfg c node).node :=
  (changeNodePoolForNodeGeneric_spec cfg c node _ _ (List.forall_mem_nil _)).1

theorem updateNodeLabels_ok (node : Node) (add : List (String × String)) (remove : List String)
    (h : c.fault (.patchLabels node.name add remove) = none) :
    updateNodeLabels c node add remove = (none, { node with labels := patchedLabels node.labels add remove }) := by
  unfold updateNodeLabels
  rw [h]

theorem excludeNode_regardless_iff (hown : ∀ call : Call, call.node = some node.name → c.fault call = none) :
    ((excludeNode cfg c true node).2.2.view cfg = (excludeNode cfg c false node).2.2.view cfg ∧
      ((excludeNode cfg c true node).1.isSome ↔ (excludeNode cfg c false node).1.isSome)) ↔
      (moveOut cfg c node).err.isSome ∨
        (moveOut cfg c node).schedulable ∧ node.labels.lookup cfg.shouldBeExcludedLabelKey = none := by
  -- Only a node that is neither to be marked nor marked is left alike before and after a failure.
  have hname := (moveOut_sameBut cfg c node).name
  have hmark := (moveOut_sameBut cfg c node).lookup (keys_ne cfg).1.symm (keys_ne cfg).2.1.symm
  unfold excludeNode
  rw [← moveOut]
  generalize moveOut cfg c node = o at hmark hname ⊢
  obtain ⟨schedulable, err, moved⟩ := o
  dsimp only at hmark hname ⊢
  cases err with
  | some e => simp
  | none =>
    cases schedulable with
    | false => simp
    | true =>
      have hunmark := updateNodeLabels_ok moved [] [cfg.shouldBeExcludedLabelKey] (hown _ (congrArg some hname))
      cases hmarked : node.labels.lookup cfg.shouldBeExcludedLabelKey with
      | none => simp [hmark, hmarked]
      | some value => simp [hmark, hmarked, hunmark, Node.view, patchedLabels]

end

/-- A failure elsewhere changes nothing exactly when a node cannot tell. -/
theorem failures_stay_apart_iff (cfg : NodePoolControllerConfig) (c : Cluster) (nodes : NodeStore)
    (includedNodes before after : List Node) (node : Node) (hlisted : ∀ node ∈ includedNodes, node ∈ nodes.items)
    (hnodup : (includedNodes.map Node.name).Nodup)
    (hnodes : filterNodesBasedOnNodeSelector includedNodes c.inclusionCriteria false = before ++ node :: after)
    (hown : ∀ call : Call, call.node = some node.name → c.fault call = none) :
    Exclusion.SameAt cfg node.name (reconcileIncludedNodesThatShouldBeExcluded cfg c includedNodes nodes)
        (reconcileIncludedNodesThatShouldBeExcluded cfg (c.failingOnlyAt node.name) includedNodes nodes) ↔
      clean cfg c before = clean cfg (c.failingOnlyAt node.name) before ∨ (moveOut cfg c node).err.isSome ∨
        (moveOut cfg c node).schedulable ∧ node.labels.lookup cfg.shouldBeExcludedLabelKey = none := by
  rw [filterNodes_eq] at hnodes
  have hmem : node ∈ nodes.items := by
    refine hlisted node (List.mem_of_mem_filter (p := fun node => meetsCriteria c.inclusionCriteria node = false) ?_)
    rw [hnodes]
    simp
  replace hnodup : ((before ++ node :: after).map Node.name).Nodup := by
    rw [← hnodes]
    exact hnodup.sublist (List.filter_sublist.map Node.name)
  obtain ⟨hget, hwaits⟩ := foldl_excludeStep_at cfg c hnodup hmem
  obtain ⟨hget', hwaits'⟩ := foldl_excludeStep_at cfg (c.failingOnlyAt node.name) hnodup hmem
  have hcriteria : (c.failingOnlyAt node.name).inclusionCriteria = c.inclusionCriteria := rfl
  rw [Exclusion.SameAt, reconcileIncluded_eq, reconcileIncluded_eq, hcriteria, hnodes, hget, hget', hwaits, hwaits',
    excludeNode_failingOnlyAt, Option.map_some, Option.map_some, Option.some.injEq, ← excludeNode_regardless_iff hown]
  cases clean cfg c before <;> cases clean cfg (c.failingOnlyAt node.name) before
  · simp
  · rw [eq_comm, iff_comm (a := ((excludeNode cfg c false node).1.isSome = true))]
    simp
  · simp
  · simp

namespace FailingNeighbour

open TwoNamespaces

theorem names_nodup : ["x", "y"].Nodup := by decide

def twoNodes : NodeStore := ⟨[⟨"x", pool "a", false⟩, ⟨"y", pool "a", false⟩], names_nodup⟩

def podOn (name : String) : Pod := ⟨"n2", name ++ "-pod", pool "a", some "g", "kai-scheduler", name, .running⟩

/-- No node is to be managed, and the pods of the first cannot be listed. -/
def cluster (pods : List Pod) : Cluster :=
  { bareCluster pods podGroups [fun _ => .ok false] with
    fault := fun call => if call = .listPods "x" then some (.failed "timeout") else none }

theorem own_calls (pods : List Pod) (call : Call) (h : call.node = some "y") : (cluster pods).fault call = none := by
  refine if_neg ?_
  rintro rfl
  exact absurd h (by decide)

end FailingNeighbour

open FailingNeighbour TwoNamespaces in
theorem free_node_excluded_regardless :
    Exclusion.SameAt .default "y"
      (reconcileIncludedNodesThatShouldBeExcluded .default (cluster []) twoNodes.items twoNodes)
      (reconcileIncludedNodesThatShouldBeExcluded .default ((cluster []).failingOnlyAt "y") twoNodes.items twoNodes) :=
  (failures_stay_apart_iff .default (cluster []) twoNodes twoNodes.items [⟨"x", pool "a", false⟩] []
    ⟨"y", pool "a", false⟩ (fun _ h => h) twoNodes.nodup rfl (own_calls [])).2 (.inr (.inr (by decide)))

open FailingNeighbour TwoNamespaces in
/-- Another node's failed listing leaves the node unmarked and unreported. -/
theorem waiting_node_passed_over :
    (∀ call : Call, call.node = some "y" → (cluster [podOn "y"]).fault call = none) ∧
    let after := reconcileIncludedNodesThatShouldBeExcluded .default (cluster [podOn "y"]) twoNodes.items twoNodes
    let spared := reconcileIncludedNodesThatShouldBeExcluded .default ((cluster [podOn "y"]).failingOnlyAt "y")
      twoNodes.items twoNodes
    (after.nodes.get "y").map (Node.view .default) = some (some "a", none, true) ∧
    after.toBeExcludedNodes.map Node.name = [] ∧
    (spared.nodes.get "y").map (Node.view .default) = some (some "a", some "true", true) ∧
    spared.toBeExcludedNodes.map Node.name = ["y"] :=
  ⟨own_calls _, by decide⟩

end Krm.Nodes
