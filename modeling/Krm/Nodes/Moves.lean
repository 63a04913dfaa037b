import Krm.Nodes.Passes
import Mathlib.Data.List.Find

/-! # Where reconciles of NodePools put nodes -/

open Krm.Lib Relation

namespace Krm.Nodes

variable {cfg : NodePoolControllerConfig} {c : Cluster} {nodes : NodeStore} {node after : Node}

/-! ## Changes of one node -/

/-- Nothing differs but the node-pool label and what belongs to the cordon. -/
structure SameBut (cfg : NodePoolControllerConfig) (node after : Node) : Prop where
  name : after.name = node.name
  lookup : ∀ {k}, k ≠ cfg.nodePoolNameLabel → k ≠ cfg.unschedulableLabelKey →
    after.labels.lookup k = node.labels.lookup k

theorem SameBut.refl (node : Node) : SameBut cfg node node := ⟨rfl, fun _ _ => rfl⟩

theorem SameBut.trans {next : Node} (h : SameBut cfg node after) (h' : SameBut cfg after next) :
    SameBut cfg node next :=
  ⟨h'.name.trans h.name, fun hk hk' => (h'.lookup hk hk').trans (h.lookup hk hk')⟩

variable (cfg c) in
theorem validateNodeStatus_sameBut (arePodsRunning : Except ApiError Bool) (node : Node) :
    SameBut cfg node (validateNodeStatus cfg c arePodsRunning node).node :=
  ⟨validateNodeStatus_name arePodsRunning node, fun _ hk => validateNodeStatus_lookup hk arePodsRunning node⟩

variable (cfg c) in
theorem updateNodeWithNodePoolNameIfNeeded_spec (node : Node) (nodePoolName : String) :
    let updated := updateNodeWithNodePoolNameIfNeeded cfg c node nodePoolName
    SameBut cfg node updated.2 ∧
      (updated.2.labels.lookup cfg.nodePoolNameLabel = poolLabel cfg nodePoolName ∨
        updated.1 ≠ none ∧ updated.2 = node) := by
  unfold updateNodeWithNodePoolNameIfNeeded updateNodeLabels poolLabel
  split_ifs with hdefault hnone hsame
  · exact ⟨.refl node, .inl (by simpa using hnone)⟩
  · split
    · exact ⟨.refl node, .inr ⟨by simp, rfl⟩⟩
    · exact ⟨⟨rfl, fun hk _ => Finmap.lookup_erase_ne hk⟩, .inl (Finmap.lookup_erase ..)⟩
  · exact ⟨.refl node, .inl hsame⟩
  · split
    · exact ⟨.refl node, .inr ⟨by simp, rfl⟩⟩
    · exact ⟨⟨rfl, fun hk _ => Finmap.lookup_insert_of_ne _ hk⟩, .inl (Finmap.lookup_insert ..)⟩

variable {pools : List NodePool} {labels : Labels}

theorem findMatchingNodePoolFromList_congr
    (h : ∀ nodePool ∈ pools, after.labels.lookup nodePool.labelKey = node.labels.lookup nodePool.labelKey) :
    findMatchingNodePoolFromList cfg after pools = findMatchingNodePoolFromList cfg node pools := by
  have hfind : pools.find? (fun nodePool => after.labels.lookup nodePool.labelKey = some nodePool.labelValue) =
      pools.find? fun nodePool => node.labels.lookup nodePool.labelKey = some nodePool.labelValue :=
    List.find?_congr fun nodePool hmem => by rw [h nodePool hmem]
  rw [findMatchingNodePoolFromList, findMatchingNodePoolFromList, hfind]

variable (cfg c) in
/-- A change that misses its pool keeps the label and is reported. -/
theorem changeNodePoolForNodeGeneric_spec (node : Node) (newNodePoolName oldNodePoolName : String)
    {pools : List NodePool} (hmark : ∀ nodePool ∈ pools, nodePool.labelKey ≠ cfg.unschedulableLabelKey) :
    let o := changeNodePoolForNodeGeneric cfg c node newNodePoolName oldNodePoolName pools
    SameBut cfg node o.node ∧
      (o.node.labels.lookup cfg.nodePoolNameLabel = poolLabel cfg
          (if newNodePoolName = "" then findMatchingNodePoolFromList cfg node pools else newNodePoolName) ∨
        o.reported.1 ≠ [] ∧
          o.node.labels.lookup cfg.nodePoolNameLabel = node.labels.lookup cfg.nodePoolNameLabel) := by
  unfold changeNodePoolForNodeGeneric validateNodeStatusWhenChangingNodePool
  generalize arePodsRunningWithSameNodePool cfg c node.name oldNodePoolName = running
  have hsame := validateNodeStatus_sameBut cfg c running node
  have hlabel := validateNodeStatus_lookup (c := c) (keys_ne cfg).2.2 running node
  have hfound : findMatchingNodePoolFromList cfg (validateNodeStatus cfg c running node).node pools =
      findMatchingNodePoolFromList cfg node pools :=
    findMatchingNodePoolFromList_congr fun nodePool hmem =>
      validateNodeStatus_lookup (hmark nodePool hmem) running node
  generalize validateNodeStatus cfg c running node = validated at hsame hlabel hfound ⊢
  dsimp only
  rw [hfound]
  generalize (if newNodePoolName = "" then findMatchingNodePoolFromList cfg node pools else newNodePoolName) = target
  split_ifs with hfree
  · obtain ⟨hupdated, hreached⟩ := updateNodeWithNodePoolNameIfNeeded_spec cfg c validated.node target
    refine ⟨hsame.trans hupdated, hreached.imp_right ?_⟩
    rintro ⟨herr, hnode⟩
    exact ⟨by simpa [Outcome.reported] using herr, by rw [hnode, hlabel]⟩
  · refine ⟨hsame, .inr ⟨?_, hlabel⟩⟩
    intro hnil
    simp only [Outcome.reported, List.append_eq_nil_iff, Option.toList_eq_nil_iff] at hnil
    refine hfree ⟨hnil.1, ?_⟩
    by_contra hnot
    simp [hnot] at hnil

/-! ## Moves -/

section

variable (cfg : NodePoolControllerConfig) (pools : List NodePool)

/-- The labels of a node that some reconcile has to move. -/
inductive Astray (labels : Labels) : Prop
  | mismatch {nodePool : NodePool} (hmem : nodePool ∈ pools) (hlive : nodePool.deleted = false)
    (hname : nodePool.name ≠ cfg.defaultNodepoolName)
    (hlabel : labels.lookup cfg.nodePoolNameLabel = some nodePool.name) (hpair : ¬ MatchesPair nodePool labels)
  | unclaimed {nodePool : NodePool} (hmem : nodePool ∈ pools) (hlive : nodePool.deleted = false)
    (hlabel : labels.lookup cfg.nodePoolNameLabel = none) (hpair : MatchesPair nodePool labels)
  | unavailable (hlabel : (labels.lookup cfg.nodePoolNameLabel).isSome)
    (hexcluded : getNodePoolNameFromLabels cfg labels ≠ cfg.excludedNodepoolName)
    (hpools : ∀ nodePool ∈ pools, isDeleting nodePool = false →
      nodePool.name ≠ getNodePoolNameFromLabels cfg labels)
  | deleted {nodePool : NodePool} (hmem : nodePool ∈ pools) (hdeleted : nodePool.deleted)
    (hlabel : labels.lookup cfg.nodePoolNameLabel = some nodePool.name)

/-- The labels of a node that a reconcile has moved. -/
inductive Arrived (labels : Labels) : Prop
  | claimed {nodePool : NodePool} (hmem : nodePool ∈ pools) (hlive : nodePool.deleted = false)
    (hname : nodePool.name ≠ cfg.defaultNodepoolName)
    (hlabel : labels.lookup cfg.nodePoolNameLabel = some nodePool.name) (hpair : MatchesPair nodePool labels)
  | unclaimed (hlabel : labels.lookup cfg.nodePoolNameLabel = none)
    (hpairs : ∀ nodePool ∈ pools, isDeleting nodePool = false → ¬ MatchesPair nodePool labels)

structure NodeMove (node after : Node) : Prop where
  same : SameBut cfg node after
  moved : after.labels.lookup cfg.nodePoolNameLabel = node.labels.lookup cfg.nodePoolNameLabel ∨
    Astray cfg pools node.labels ∧ Arrived cfg pools after.labels

/-- No pair selects by a label that the controller writes, but for its own name. -/
structure ProperKeys : Prop where
  mark : ∀ nodePool ∈ pools, nodePool.labelKey ≠ cfg.unschedulableLabelKey
  own : ∀ nodePool ∈ pools, nodePool.labelKey = cfg.nodePoolNameLabel →
    nodePool.name ≠ cfg.defaultNodepoolName ∧ nodePool.labelValue = nodePool.name

/-- The default pool's own pair selects no node. -/
def DefaultUnmatched (nodes : NodeStore) : Prop :=
  ∀ node ∈ nodes.items, ∀ nodePool ∈ pools, nodePool.name = cfg.defaultNodepoolName →
    ¬ MatchesPair nodePool node.labels

end

theorem NodeMove.stay (node : Node) : NodeMove cfg pools node node := ⟨.refl node, .inl rfl⟩

section

variable {pools : List NodePool} (hkeys : ProperKeys cfg pools)
include hkeys

theorem matchesPair_iff {nodePool : NodePool} (hmem : nodePool ∈ pools) (hsame : SameBut cfg node after)
    (hlabel : after.labels.lookup cfg.nodePoolNameLabel = node.labels.lookup cfg.nodePoolNameLabel) :
    MatchesPair nodePool after.labels ↔ MatchesPair nodePool node.labels := by
  have hlookup : after.labels.lookup nodePool.labelKey = node.labels.lookup nodePool.labelKey := by
    by_cases hkey : nodePool.labelKey = cfg.nodePoolNameLabel
    · rw [hkey, hlabel]
    · exact hsame.lookup hkey (hkeys.mark nodePool hmem)
  rw [MatchesPair, MatchesPair, hlookup]

theorem DefaultUnmatched.related (h : DefaultUnmatched cfg pools nodes) {nodes' : NodeStore}
    (hrelated : Store.Related (SameBut cfg) nodes nodes') : DefaultUnmatched cfg pools nodes' := by
  intro after hafter nodePool hmem hname hpair
  obtain ⟨node, hnode, hsame⟩ := hrelated.get_before (Store.get_of_mem hafter)
  have hkey : nodePool.labelKey ≠ cfg.nodePoolNameLabel := fun hkey => (hkeys.own nodePool hmem hkey).1 hname
  refine h node (Store.get_mem hnode) nodePool hmem hname ?_
  rwa [MatchesPair, ← hsame.lookup hkey (hkeys.mark nodePool hmem)]

omit hkeys in
theorem live_of_available {nodePool : NodePool} (h : isDeleting nodePool = false) : nodePool.deleted = false := by
  simp only [isDeleting, Bool.or_eq_false_iff] at h
  exact h.1

omit hkeys in
theorem found_of_ne {available : List NodePool}
    (h : findMatchingNodePoolFromList cfg node available ≠ cfg.defaultNodepoolName) :
    ∃ nodePool ∈ available, findMatchingNodePoolFromList cfg node available = nodePool.name ∧
      MatchesPair nodePool node.labels := by
  unfold findMatchingNodePoolFromList at h ⊢
  split at h
  · rename_i nodePool hfind
    exact ⟨nodePool, List.mem_of_find?_eq_some hfind, rfl, by simpa [MatchesPair] using List.find?_some hfind⟩
  · exact absurd rfl h

theorem arrived_of_found
    (hdefault : ∀ nodePool ∈ pools, nodePool.name = cfg.defaultNodepoolName → ¬ MatchesPair nodePool node.labels)
    (hsame : SameBut cfg node after)
    (hlabel : after.labels.lookup cfg.nodePoolNameLabel =
      poolLabel cfg (findMatchingNodePoolFromList cfg node (pools.filter fun nodePool => !isDeleting nodePool))) :
    Arrived cfg pools after.labels := by
  unfold findMatchingNodePoolFromList at hlabel
  split at hlabel
  · rename_i nodePool hfind
    obtain ⟨hmem, havailable⟩ := List.mem_filter.1 (List.mem_of_find?_eq_some hfind)
    have hpair : MatchesPair nodePool node.labels := by simpa [MatchesPair] using List.find?_some hfind
    have hname : nodePool.name ≠ cfg.defaultNodepoolName := fun hname => hdefault nodePool hmem hname hpair
    rw [poolLabel, if_neg hname] at hlabel
    refine .claimed hmem (live_of_available (by simpa using havailable)) hname hlabel ?_
    by_cases hkey : nodePool.labelKey = cfg.nodePoolNameLabel
    · rw [MatchesPair, hkey, hlabel, (hkeys.own nodePool hmem hkey).2]
    · rwa [MatchesPair, hsame.lookup hkey (hkeys.mark nodePool hmem)]
  · rename_i hfind
    rw [poolLabel, if_pos rfl] at hlabel
    refine .unclaimed hlabel fun nodePool hmem havailable hpair => ?_
    have hnot := List.find?_eq_none.1 hfind nodePool (List.mem_filter.2 ⟨hmem, by simpa using havailable⟩)
    by_cases hkey : nodePool.labelKey = cfg.nodePoolNameLabel
    · rw [MatchesPair, hkey, hlabel] at hpair
      cases hpair
    · rw [MatchesPair, hsame.lookup hkey (hkeys.mark nodePool hmem)] at hpair
      exact hnot (by simpa using hpair)

end

/-! ## Passes -/

theorem getAvailableNodePools_ok (h : getAvailableNodePools c = .ok pools) :
    pools = c.nodePools.filter fun nodePool => !isDeleting nodePool := by
  unfold getAvailableNodePools Cluster.attempt at h
  split at h
  · cases h
  · exact (Except.ok.inj h).symm

theorem changeNodePoolForNodeGeneric_name {newNodePoolName oldNodePoolName : String} (node : Node) :
    (changeNodePoolForNodeGeneric cfg c node newNodePoolName oldNodePoolName pools).node.name = node.name :=
  Turn.apply_name (.change newNodePoolName oldNodePoolName pools) node

section

variable (hkeys : ProperKeys cfg c.nodePools)
include hkeys

theorem findAndChange_spec (hdefault : DefaultUnmatched cfg c.nodePools nodes) (hnode : node ∈ nodes.items)
    {pools : List NodePool} (hpools : getAvailableNodePools c = .ok pools) (oldNodePoolName : String) :
    let o := findAndChangeNodePoolForNode cfg c node oldNodePoolName pools
    SameBut cfg node o.node ∧ (Arrived cfg c.nodePools o.node.labels ∨
      o.reported.1 ≠ [] ∧
        o.node.labels.lookup cfg.nodePoolNameLabel = node.labels.lookup cfg.nodePoolNameLabel) := by
  rw [getAvailableNodePools_ok hpools]
  have hmark : ∀ nodePool ∈ c.nodePools.filter (fun nodePool => !isDeleting nodePool),
      nodePool.labelKey ≠ cfg.unschedulableLabelKey :=
    fun nodePool hmem => hkeys.mark nodePool (List.mem_of_mem_filter hmem)
  obtain ⟨hsame, hmoved⟩ := changeNodePoolForNodeGeneric_spec cfg c node "" oldNodePoolName hmark
  exact ⟨hsame, hmoved.imp_left fun hlabel => arrived_of_found hkeys (hdefault node hnode) hsame hlabel⟩

variable (hdefault : DefaultUnmatched cfg c.nodePools nodes)
include hdefault

section

variable {nodePool : NodePool} (hmem : nodePool ∈ c.nodePools) (hlive : nodePool.deleted = false)
  (hname : nodePool.name ≠ cfg.defaultNodepoolName)
include hmem hlive hname

theorem reconcileNodesMatchingNodePoolNameNoLabel_moves : Store.Related (NodeMove cfg c.nodePools) nodes
    (reconcileNodesMatchingNodePoolNameNoLabel cfg c nodePool nodes).nodes := by
  refine (reconcileListed_related (lists_nameNoLabel nodePool)
    fun _ _ => changeNodePoolForNodeGeneric_name _).mono ?_
  rintro node hnode after (rfl | ⟨hlisted, pools, hpools, rfl⟩)
  · exact .stay after
  · obtain ⟨hlabel, hpair⟩ := of_decide_eq_true hlisted
    obtain ⟨hsame, hmoved⟩ := findAndChange_spec hkeys hdefault hnode hpools nodePool.name
    exact ⟨hsame, hmoved.symm.imp And.right fun h => ⟨.mismatch hmem hlive hname hlabel hpair, h⟩⟩

omit hdefault hlive in
theorem claimed_of_change (hpair : MatchesPair nodePool node.labels) :
    let o := changeNodePoolForNode cfg c node nodePool.name cfg.defaultNodepoolName
    SameBut cfg node o.node ∧
      (o.node.labels.lookup cfg.nodePoolNameLabel = some nodePool.name ∧ MatchesPair nodePool o.node.labels ∨
        o.reported.1 ≠ [] ∧
          o.node.labels.lookup cfg.nodePoolNameLabel = node.labels.lookup cfg.nodePoolNameLabel) := by
  have hmark : ∀ other ∈ ([] : List NodePool), other.labelKey ≠ cfg.unschedulableLabelKey := by simp
  obtain ⟨hsame, hmoved⟩ :=
    changeNodePoolForNodeGeneric_spec cfg c node nodePool.name cfg.defaultNodepoolName hmark
  rw [if_neg nodePool.name_ne, poolLabel, if_neg hname] at hmoved
  refine ⟨hsame, hmoved.imp_left fun hlabel => ⟨hlabel, ?_⟩⟩
  by_cases hkey : nodePool.labelKey = cfg.nodePoolNameLabel
  · rw [MatchesPair, hkey, (hkeys.own nodePool hmem hkey).2]
    exact hlabel
  · rw [MatchesPair, ← hpair]
    exact hsame.lookup hkey (hkeys.mark nodePool hmem)

omit hdefault in
variable (nodes) in
theorem reconcileNodesInDefaultNodePoolMatchingOtherNodePoolLabel_moves :
    Store.Related (NodeMove cfg c.nodePools) nodes
      (reconcileNodesInDefaultNodePoolMatchingOtherNodePoolLabel cfg c nodePool nodes).nodes := by
  refine (reconcileListed_related (lists_defaultMatching nodePool)
    fun _ _ => changeNodePoolForNodeGeneric_name _).mono ?_
  rintro node hnode after (rfl | ⟨hlisted, -, -, rfl⟩)
  · exact .stay after
  · obtain ⟨hlabel, hpair⟩ := of_decide_eq_true hlisted
    obtain ⟨hsame, hmoved⟩ := claimed_of_change hkeys hmem hname hpair
    refine ⟨hsame, hmoved.symm.imp And.right ?_⟩
    rintro ⟨hlabel', hpair'⟩
    exact ⟨.unclaimed hmem hlive hlabel hpair, .claimed hmem hlive hname hlabel' hpair'⟩

end

omit hkeys hdefault in
theorem reconcileNodesMatchingNodePoolNameAndLabel_validates (nodePool : NodePool) :
    Store.Related (fun node after => SameBut cfg node after ∧
        after.labels.lookup cfg.nodePoolNameLabel = node.labels.lookup cfg.nodePoolNameLabel) nodes
      (reconcileNodesMatchingNodePoolNameAndLabel cfg c nodePool nodes).nodes := by
  refine (reconcileListed_related (lists_nameAndLabel nodePool) fun _ node => ?_).mono ?_
  · rw [validateNodeStatusInNodePoolWrapper_node]
    exact validateNodeStatus_name ..
  · rintro node hnode after (rfl | ⟨-, -, -, rfl⟩)
    · exact ⟨.refl after, rfl⟩
    · rw [validateNodeStatusInNodePoolWrapper_node]
      exact ⟨validateNodeStatus_sameBut cfg c _ _, validateNodeStatus_lookup (keys_ne cfg).2.2 ..⟩

omit hkeys hdefault in
theorem handleNodeInDefaultNodePool_name (pools : List NodePool) (node : Node) :
    (handleNodeInDefaultNodePool cfg c pools node).2.name = node.name := by
  unfold handleNodeInDefaultNodePool
  dsimp only
  split_ifs
  · rw [validateNodeStatusInNodePoolWrapper_node]
    exact (validateNodeStatus_name ..).trans (updateNodeWithNodePoolNameIfNeeded_name ..)
  · exact changeNodePoolForNodeGeneric_name node

omit hdefault in
variable (nodes) in
theorem reconcileNodesInDefaultNodePool_moves :
    Store.Related (NodeMove cfg c.nodePools) nodes (reconcileNodesInDefaultNodePool cfg c nodes).nodes := by
  refine (reconcileListed_related lists_default fun pools node => handleNodeInDefaultNodePool_name pools node).mono ?_
  rintro node hnode after (rfl | ⟨hlisted, pools, hpools, rfl⟩)
  · exact .stay after
  · have hlabel := of_decide_eq_true hlisted
    unfold handleNodeInDefaultNodePool
    dsimp only
    split_ifs with hfound
    · have hsame : (validateDefaultNodePoolLabel cfg c node).2 = node := by
        simp [validateDefaultNodePoolLabel, updateNodeWithNodePoolNameIfNeeded, hlabel]
      rw [validateNodeStatusInNodePoolWrapper_node, hsame]
      exact ⟨validateNodeStatus_sameBut cfg c _ _, .inl (validateNodeStatus_lookup (keys_ne cfg).2.2 ..)⟩
    · obtain ⟨nodePool, hmem, hname, hpair⟩ := found_of_ne hfound
      rw [getAvailableNodePools_ok hpools, List.mem_filter] at hmem
      rw [hname] at hfound ⊢
      have hlive : nodePool.deleted = false := live_of_available (by simpa using hmem.2)
      obtain ⟨hsame, hmoved⟩ := claimed_of_change hkeys hmem.1 hfound hpair
      refine ⟨hsame, hmoved.symm.imp And.right ?_⟩
      rintro ⟨hlabel', hpair'⟩
      exact ⟨.unclaimed hmem.1 hlive hlabel hpair, .claimed hmem.1 hlive hfound hlabel' hpair'⟩

omit hkeys hdefault in
theorem availableNodePoolsMap_ok {available : List NodePool × List String}
    (h : availableNodePoolsMap cfg c = .ok available) :
    ∃ unmanaged, getAvailableNodePools c = .ok available.1 ∧ listPartitionLabelValues c = .ok unmanaged ∧
      available.2 = cfg.excludedNodepoolName :: unmanaged ++ available.1.map NodePool.name := by
  unfold availableNodePoolsMap at h
  cases hpools : getAvailableNodePools c with
  | error e =>
    rw [hpools] at h
    cases h
  | ok pools =>
    cases hunmanaged : listPartitionLabelValues c with
    | error e =>
      rw [hpools, hunmanaged] at h
      cases h
    | ok unmanaged =>
      rw [hpools, hunmanaged] at h
      cases h
      exact ⟨unmanaged, rfl, rfl, rfl⟩

omit hkeys hdefault in
theorem handleNodeNotInDefaultNodePool_name (available : List NodePool × List String) (node : Node) :
    (handleNodeNotInDefaultNodePool cfg c available node).2.name = node.name := by
  unfold handleNodeNotInDefaultNodePool
  dsimp only
  split_ifs
  · rfl
  · exact changeNodePoolForNodeGeneric_name node

theorem reconcileNodesNotInDefaultNodePool_moves :
    Store.Related (NodeMove cfg c.nodePools) nodes (reconcileNodesNotInDefaultNodePool cfg c nodes).nodes := by
  refine (reconcileListed_related lists_notDefault
    fun available node => handleNodeNotInDefaultNodePool_name available node).mono ?_
  rintro node hnode after (rfl | ⟨hlisted, available, havailable, rfl⟩)
  · exact .stay after
  · obtain ⟨unmanaged, hpools, -, hnames⟩ := availableNodePoolsMap_ok havailable
    unfold handleNodeNotInDefaultNodePool
    dsimp only
    split_ifs with hin
    · exact .stay node
    · rw [hnames, List.mem_append, List.mem_cons, not_or, not_or] at hin
      have hastray : Astray cfg c.nodePools node.labels := by
        refine .unavailable hlisted hin.1.1 fun nodePool hmem hnot hname => hin.2 ?_
        rw [getAvailableNodePools_ok hpools]
        exact List.mem_map.2 ⟨nodePool, List.mem_filter.2 ⟨hmem, by simpa using hnot⟩, hname⟩
      obtain ⟨hsame, hmoved⟩ := findAndChange_spec hkeys hdefault hnode hpools (getNodePoolNameFromLabels cfg node.labels)
      exact ⟨hsame, hmoved.symm.imp And.right fun h => ⟨hastray, h⟩⟩

theorem reassignNodeForDeletingNodePool_moves (hnodup : (c.nodePools.map NodePool.name).Nodup) {nodePool : NodePool}
    (hmem : nodePool ∈ c.nodePools) (hdeleted : nodePool.deleted) (hname : nodePool.name ≠ cfg.defaultNodepoolName) :
    Store.Related (NodeMove cfg c.nodePools) nodes (reassignNodeForDeletingNodePool cfg c nodePool nodes).nodes := by
  refine (reconcileListed_related (lists_pool hname) fun _ node => changeNodePoolForNodeGeneric_name node).mono ?_
  rintro node hnode after (rfl | ⟨hlisted, pools, hpools, rfl⟩)
  · exact .stay after
  · obtain ⟨available, havailable, rfl⟩ : ∃ available, getAvailableNodePools c = .ok available ∧
        pools = available.filter fun other => other.name ≠ nodePool.name := by
      cases h : getAvailableNodePools c with
      | error e =>
        rw [h] at hpools
        cases hpools
      | ok available =>
        rw [h] at hpools
        exact ⟨available, rfl, (Except.ok.inj hpools).symm⟩
    -- The pool itself is not among those that are available.
    have hall : available.filter (fun other => other.name ≠ nodePool.name) = available := by
      rw [List.filter_eq_self]
      intro other hother
      rw [getAvailableNodePools_ok havailable, List.mem_filter] at hother
      by_contra hnot
      rw [decide_eq_true_eq, not_not] at hnot
      rw [List.inj_on_of_nodup_map hnodup hother.1 hmem hnot] at hother
      simp [isDeleting, hdeleted] at hother
    rw [hall]
    obtain ⟨hsame, hmoved⟩ := findAndChange_spec hkeys hdefault hnode havailable nodePool.name
    exact ⟨hsame, hmoved.symm.imp And.right fun h => ⟨.deleted hmem hdeleted (of_decide_eq_true hlisted), h⟩⟩

theorem reconcileNodes_moves {nodePool : NodePool} (hmem : nodePool ∈ c.nodePools) (hlive : nodePool.deleted = false) :
    ReflTransGen (Store.Related (NodeMove cfg c.nodePools)) nodes (reconcileNodes cfg c nodePool nodes).nodes := by
  have hsame {s s' : NodeStore} (h : Store.Related (NodeMove cfg c.nodePools) s s') : Store.Related (SameBut cfg) s s' :=
    h.mono fun _ _ _ hmove => hmove.same
  unfold reconcileNodes
  split_ifs with hname
  · have hfirst := reconcileNodesMatchingNodePoolNameNoLabel_moves hkeys hdefault hmem hlive hname
    have hsecond := reconcileNodesInDefaultNodePoolMatchingOtherNodePoolLabel_moves
      (reconcileNodesMatchingNodePoolNameNoLabel cfg c nodePool nodes).nodes hkeys hmem hlive hname
    exact ((ReflTransGen.single hfirst).tail hsecond).tail
      ((reconcileNodesMatchingNodePoolNameAndLabel_validates nodePool).mono fun _ _ _ h => ⟨h.1, .inl h.2⟩)
  · have hfirst := reconcileNodesInDefaultNodePool_moves nodes hkeys
    exact (ReflTransGen.single hfirst).tail
      (reconcileNodesNotInDefaultNodePool_moves hkeys (hdefault.related hkeys (hsame hfirst)))

end

/-! ## Passes without errors -/

/-- A node in the pool matches its pair, and one in no pool does not. -/
structure Sorted (cfg : NodePoolControllerConfig) (nodePool : NodePool) (labels : Labels) : Prop where
  pair : labels.lookup cfg.nodePoolNameLabel = some nodePool.name → MatchesPair nodePool labels
  unclaimed : labels.lookup cfg.nodePoolNameLabel = none → ¬ MatchesPair nodePool labels

/-- Labels that stand for the default pool without being absent. -/
def Blank (cfg : NodePoolControllerConfig) (labels : Labels) : Prop :=
  labels.lookup cfg.nodePoolNameLabel = some "" ∨ labels.lookup cfg.nodePoolNameLabel = some cfg.defaultNodepoolName

/-- In the default pool, the excluded one, or one that stays. -/
def Placed (cfg : NodePoolControllerConfig) (pools : List NodePool) (labels : Labels) : Prop :=
  labels.lookup cfg.nodePoolNameLabel = none ∨
    labels.lookup cfg.nodePoolNameLabel = some cfg.excludedNodepoolName ∨
    ∃ nodePool ∈ pools, nodePool.deleted = false ∧ nodePool.name ≠ cfg.defaultNodepoolName ∧
      labels.lookup cfg.nodePoolNameLabel = some nodePool.name

theorem Arrived.placed (h : Arrived cfg pools labels) : Placed cfg pools labels := by
  cases h with
  | claimed hmem hlive hname hlabel _ => exact .inr (.inr ⟨_, hmem, hlive, hname, hlabel⟩)
  | unclaimed hlabel _ => exact .inl hlabel

theorem Arrived.pair (hnodup : (pools.map NodePool.name).Nodup) (h : Arrived cfg pools labels) {nodePool : NodePool}
    (hmem : nodePool ∈ pools) (hname : labels.lookup cfg.nodePoolNameLabel = some nodePool.name) :
    MatchesPair nodePool labels := by
  cases h with
  | claimed hmem' _ _ hlabel hpair =>
    rw [hlabel, Option.some.injEq] at hname
    rwa [← List.inj_on_of_nodup_map hnodup hmem' hmem hname]
  | unclaimed hlabel _ =>
    rw [hlabel] at hname
    cases hname

theorem Sorted.same (hkeys : ProperKeys cfg pools) {nodePool : NodePool} (hmem : nodePool ∈ pools)
    (hsame : SameBut cfg node after)
    (hlabel : after.labels.lookup cfg.nodePoolNameLabel = node.labels.lookup cfg.nodePoolNameLabel)
    (h : Sorted cfg nodePool node.labels) : Sorted cfg nodePool after.labels := by
  have hpair := matchesPair_iff hkeys hmem hsame hlabel
  exact ⟨fun hname => hpair.2 (h.pair (hlabel ▸ hname)), fun hnone => mt hpair.1 (h.unclaimed (hlabel ▸ hnone))⟩

theorem unmanaged_eq_nil (hshards : ∀ shard ∈ c.shards, isUnmanaged shard = false) {unmanaged : List String}
    (h : listPartitionLabelValues c = .ok unmanaged) : unmanaged = [] := by
  unfold listPartitionLabelValues Cluster.attempt at h
  split at h
  · cases h
  · have hnil : (c.shards.filter fun shard => (shard.labels.lookup ignoreShardLabelKey).isSome).filter isUnmanaged = [] := by
      rw [List.filter_eq_nil_iff]
      intro shard hshard
      simp [hshards shard (List.mem_of_mem_filter hshard)]
    cases h
    rw [hnil, List.map_nil]

theorem placed_of_poolName {nodePoolName : String} (hlabel : labels.lookup cfg.nodePoolNameLabel = some nodePoolName)
    (h : getNodePoolNameFromLabels cfg labels = cfg.excludedNodepoolName ∨
      ∃ nodePool ∈ pools.filter (fun nodePool => !isDeleting nodePool),
        nodePool.name = getNodePoolNameFromLabels cfg labels) : Placed cfg pools labels ∨ Blank cfg labels := by
  by_cases hempty : nodePoolName = ""
  · exact .inr (.inl (hlabel.trans (by rw [hempty])))
  · rw [poolName_of_lookup hlabel hempty] at h
    rcases h with rfl | ⟨nodePool, hmem, rfl⟩
    · exact .inl (.inr (.inl hlabel))
    · by_cases hname : nodePool.name = cfg.defaultNodepoolName
      · exact .inr (.inr (hlabel.trans (by rw [hname])))
      · obtain ⟨hmem, havailable⟩ := List.mem_filter.1 hmem
        exact .inl (.inr (.inr ⟨nodePool, hmem, live_of_available (by simpa using havailable), hname, hlabel⟩))

theorem andThen_errs {first : Pass} {next : NodeStore → Pass} (h : (first.andThen next).errs = []) :
    first.errs = [] ∧ (next first.nodes).errs = [] :=
  List.append_eq_nil_iff.1 h

section

variable (hkeys : ProperKeys cfg c.nodePools) (hdefault : DefaultUnmatched cfg c.nodePools nodes)
include hkeys hdefault

variable {nodePool : NodePool}

theorem reconcileNodesMatchingNodePoolNameNoLabel_ok (hnodup : (c.nodePools.map NodePool.name).Nodup)
    (hmem : nodePool ∈ c.nodePools)
    (herrs : (reconcileNodesMatchingNodePoolNameNoLabel cfg c nodePool nodes).errs = []) :
    ∀ node ∈ (reconcileNodesMatchingNodePoolNameNoLabel cfg c nodePool nodes).nodes.items,
      node.labels.lookup cfg.nodePoolNameLabel = some nodePool.name → MatchesPair nodePool node.labels := by
  intro after hafter hlabel
  obtain ⟨node, hnode, hhandled⟩ := (reconcileListed_ok (lists_nameNoLabel nodePool)
    (fun _ _ => changeNodePoolForNodeGeneric_name _) herrs).get_before (Store.get_of_mem hafter)
  split_ifs at hhandled with hlisted
  · obtain ⟨pools, hpools, hnil, rfl⟩ := hhandled
    obtain ⟨hsame, hmoved⟩ := findAndChange_spec hkeys hdefault (Store.get_mem hnode) hpools nodePool.name
    exact (hmoved.resolve_right fun h => h.1 hnil).pair hnodup hmem hlabel
  · subst hhandled
    by_contra hpair
    exact hlisted (decide_eq_true ⟨hlabel, hpair⟩)

omit hdefault in
theorem reconcileNodesInDefaultNodePoolMatchingOtherNodePoolLabel_ok {nodePool : NodePool}
    (hmem : nodePool ∈ c.nodePools) (hname : nodePool.name ≠ cfg.defaultNodepoolName)
    (hpairs : ∀ node ∈ nodes.items,
      node.labels.lookup cfg.nodePoolNameLabel = some nodePool.name → MatchesPair nodePool node.labels)
    (herrs : (reconcileNodesInDefaultNodePoolMatchingOtherNodePoolLabel cfg c nodePool nodes).errs = []) :
    ∀ node ∈ (reconcileNodesInDefaultNodePoolMatchingOtherNodePoolLabel cfg c nodePool nodes).nodes.items,
      Sorted cfg nodePool node.labels := by
  intro after hafter
  obtain ⟨node, hnode, hhandled⟩ := (reconcileListed_ok (lists_defaultMatching nodePool)
    (fun _ _ => changeNodePoolForNodeGeneric_name _) herrs).get_before (Store.get_of_mem hafter)
  split_ifs at hhandled with hlisted
  · obtain ⟨-, -, hnil, rfl⟩ := hhandled
    obtain ⟨hlabel, hpair⟩ := of_decide_eq_true hlisted
    obtain ⟨hsame, hmoved⟩ := claimed_of_change hkeys hmem hname hpair
    obtain ⟨hlabel', hpair'⟩ := hmoved.resolve_right fun h => h.1 hnil
    refine ⟨fun _ => hpair', fun hnone => ?_⟩
    cases hlabel'.symm.trans hnone
  · subst hhandled
    exact ⟨hpairs after (Store.get_mem hnode), fun hnone hpair => hlisted (decide_eq_true ⟨hnone, hpair⟩)⟩

theorem reconcileNodes_sorted (hnodup : (c.nodePools.map NodePool.name).Nodup) (hmem : nodePool ∈ c.nodePools)
    (hname : nodePool.name ≠ cfg.defaultNodepoolName) (herrs : (reconcileNodes cfg c nodePool nodes).errs = []) :
    ∀ node ∈ (reconcileNodes cfg c nodePool nodes).nodes.items, Sorted cfg nodePool node.labels := by
  unfold reconcileNodes at herrs ⊢
  rw [if_pos hname] at herrs ⊢
  obtain ⟨herrs, -⟩ := andThen_errs herrs
  obtain ⟨hfirst, hsecond⟩ := andThen_errs herrs
  have hsorted := reconcileNodesInDefaultNodePoolMatchingOtherNodePoolLabel_ok hkeys hmem hname
    (reconcileNodesMatchingNodePoolNameNoLabel_ok hkeys hdefault hnodup hmem hfirst) hsecond
  -- The last pass changes nothing that the order depends on.
  intro after hafter
  obtain ⟨node, hnode, hsame, hlabel⟩ := (reconcileNodesMatchingNodePoolNameAndLabel_validates nodePool).get_before
    (Store.get_of_mem hafter)
  exact (hsorted node (Store.get_mem hnode)).same hkeys hmem hsame hlabel

theorem reconcileNodes_placed (hshards : ∀ shard ∈ c.shards, isUnmanaged shard = false)
    (hname : nodePool.name = cfg.defaultNodepoolName) (herrs : (reconcileNodes cfg c nodePool nodes).errs = []) :
    ∀ node ∈ (reconcileNodes cfg c nodePool nodes).nodes.items,
      Placed cfg c.nodePools node.labels ∨ Blank cfg node.labels := by
  unfold reconcileNodes at herrs ⊢
  rw [if_neg (not_not.2 hname)] at herrs ⊢
  obtain ⟨-, herrs⟩ := andThen_errs herrs
  have hdefault' := hdefault.related hkeys
    ((reconcileNodesInDefaultNodePool_moves nodes hkeys).mono fun _ _ _ hmove => hmove.same)
  intro after hafter
  obtain ⟨node, hnode, hhandled⟩ := (reconcileListed_ok lists_notDefault
    (fun available node => handleNodeNotInDefaultNodePool_name available node) herrs).get_before (Store.get_of_mem hafter)
  split_ifs at hhandled with hlisted
  · obtain ⟨available, havailable, hnil, rfl⟩ := hhandled
    obtain ⟨unmanaged, hpools, hunmanaged, hnames⟩ := availableNodePoolsMap_ok havailable
    obtain ⟨nodePoolName, hlabel⟩ := Option.isSome_iff_exists.1 hlisted
    unfold handleNodeNotInDefaultNodePool at hnil ⊢
    dsimp only at hnil ⊢
    split_ifs at hnil ⊢ with hin
    · rw [hnames, unmanaged_eq_nil hshards hunmanaged, getAvailableNodePools_ok hpools, List.mem_append,
        List.mem_singleton, List.mem_map] at hin
      exact placed_of_poolName hlabel hin
    · obtain ⟨-, hmoved⟩ := findAndChange_spec hkeys hdefault' (Store.get_mem hnode) hpools
        (getNodePoolNameFromLabels cfg node.labels)
      exact .inl (hmoved.resolve_right fun h => h.1 hnil).placed
  · subst hhandled
    exact .inl (.inl (by simpa using hlisted))

end

end Krm.Nodes
