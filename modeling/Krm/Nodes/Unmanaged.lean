import Krm.Nodes.Statuses

/-! # Nodes of unmanaged partitions are left alone -/

open Krm.Lib

namespace Krm.Nodes

variable {cfg : NodePoolControllerConfig} {c : Cluster} {env : Surroundings} {nodes : NodeStore} {node : Node}

/-! ## Passes that spare a node -/

/-- The pass leaves the node, and hands on no changed copy. -/
structure Spares (node : Node) (pass : Pass) : Prop where
  kept : pass.nodes.get node.name = some node
  copies : ∀ copy ∈ pass.resultNodes, copy.name = node.name → copy = node

theorem Spares.andThen {first : Pass} {next : NodeStore → Pass} (hfirst : Spares node first)
    (hnext : Spares node (next first.nodes)) : Spares node (first.andThen next) := by
  refine ⟨hnext.kept, fun copy hcopy => ?_⟩
  rcases List.mem_append.1 hcopy with h | h
  · exact hfirst.copies copy h
  · exact hnext.copies copy h

section

variable {α : Type} {listed : Except ApiError (List Node)} {needed : Except ApiError α}
  {handle : α → Node → List ApiError × Node} {p : Node → Bool} (hlisted : Lists nodes listed p)
include hlisted

theorem mem_resultNodes {copy : Node} (h : copy ∈ (reconcileListed nodes listed needed handle).resultNodes) :
    ∃ a, needed = .ok a ∧ ∃ other ∈ nodes.items, p other ∧ copy = (handle a other).2 := by
  unfold reconcileListed at h
  split at h
  · cases h
  · cases h
  · rename_i l _
    split at h
    · cases h
    · rename_i a
      rw [hlisted l rfl, forNodes_resultNodes] at h
      obtain ⟨other, hother, rfl⟩ := List.mem_map.1 h
      obtain ⟨hmem, hp⟩ := List.mem_filter.1 hother
      exact ⟨a, rfl, other, hmem, hp, rfl⟩

variable (hname : ∀ a node, (handle a node).2.name = node.name) (hnode : node ∈ nodes.items)
include hname hnode

theorem not_mem_resultNodes (h : p node = false) {copy : Node}
    (hcopy : copy ∈ (reconcileListed nodes listed needed handle).resultNodes) : copy.name ≠ node.name := by
  obtain ⟨a, -, other, hother, hp, rfl⟩ := mem_resultNodes hlisted hcopy
  intro hsame
  rw [hname] at hsame
  rw [Store.eq_of_mem hother hnode hsame, h] at hp
  cases hp

theorem reconcileListed_spares (h : p node → ∀ a, needed = .ok a → (handle a node).2 = node) :
    Spares node (reconcileListed nodes listed needed handle) := by
  constructor
  · obtain ⟨after, hafter, hsame | ⟨hp, a, ha, hhandled⟩⟩ :=
      (reconcileListed_related hlisted hname).get (Store.get_of_mem hnode)
    · rw [hafter, hsame]
    · rw [hafter, hhandled, h hp a ha]
  · intro copy hcopy hsame
    obtain ⟨a, ha, other, hother, hp, rfl⟩ := mem_resultNodes hlisted hcopy
    rw [hname] at hsame
    obtain rfl := Store.eq_of_mem hother hnode hsame
    exact h hp a ha

theorem reconcileListed_spares_unlisted (h : p node = false) :
    Spares node (reconcileListed nodes listed needed handle) :=
  reconcileListed_spares hlisted hname hnode fun hp => absurd hp (by simp [h])

end

/-! ## NodePool reconciles -/

section

variable {u : String} (hnode : node ∈ nodes.items) (hlabel : node.labels.lookup cfg.nodePoolNameLabel = some u)
include hnode hlabel

theorem reassignNodeForDeletingNodePool_spares {nodePool : NodePool} (hu : nodePool.name ≠ u) :
    Spares node (reassignNodeForDeletingNodePool cfg c nodePool nodes) ∧
      ∀ copy ∈ (reassignNodeForDeletingNodePool cfg c nodePool nodes).resultNodes, copy.name ≠ node.name := by
  have hunlisted : decide (node.labels.lookup cfg.nodePoolNameLabel = poolLabel cfg nodePool.name) = false := by
    rw [decide_eq_false_iff_not, hlabel, poolLabel]
    split_ifs
    · simp
    · simpa using Ne.symm hu
  exact ⟨reconcileListed_spares_unlisted (lists_getNodePoolNodes _)
      (fun _ node => changeNodePoolForNodeGeneric_name node) hnode hunlisted,
    fun copy => not_mem_resultNodes (lists_getNodePoolNodes _)
      (fun _ node => changeNodePoolForNodeGeneric_name node) hnode hunlisted⟩

omit hnode hlabel in
theorem mem_unmanaged {shard : SchedulingShard} (hmem : shard ∈ c.shards) (hunmanaged : isUnmanaged shard)
    (hu : shard.partitionLabelValue = u) {unmanaged : List String} (h : listPartitionLabelValues c = .ok unmanaged) :
    u ∈ unmanaged := by
  unfold listPartitionLabelValues Cluster.attempt at h
  split at h
  · cases h
  · cases h
    simp only [isUnmanaged, Bool.and_eq_true, decide_eq_true_eq] at hunmanaged
    have hexists : (shard.labels.lookup ignoreShardLabelKey).isSome := by
      have hvalue := hunmanaged.1.1
      unfold Labels.value at hvalue
      cases hlookup : shard.labels.lookup ignoreShardLabelKey with
      | some _ => rfl
      | none =>
        rw [hlookup] at hvalue
        exact absurd hvalue (by decide)
    exact List.mem_map.2 ⟨shard, by simp [hmem, hexists, isUnmanaged, hunmanaged], hu⟩

variable {shard : SchedulingShard} (hshard : shard ∈ c.shards) (hunmanaged : isUnmanaged shard)
  (hu : shard.partitionLabelValue = u)
include hshard hunmanaged hu

omit hnode hlabel hshard in
theorem partition_ne : u ≠ "" := by
  simp only [isUnmanaged, Bool.and_eq_true, decide_eq_true_eq] at hunmanaged
  exact hu ▸ hunmanaged.1.2

theorem reconcileNodes_spares {nodePool : NodePool} (hname : nodePool.name ≠ u) :
    Spares node (reconcileNodes cfg c nodePool nodes) := by
  have hnot : node.labels.lookup cfg.nodePoolNameLabel ≠ some nodePool.name := by
    rw [hlabel]
    simpa using Ne.symm hname
  have hsome : node.labels.lookup cfg.nodePoolNameLabel ≠ none := by
    rw [hlabel]
    exact Option.some_ne_none u
  have hpool := poolName_of_lookup hlabel (partition_ne hunmanaged hu)
  unfold reconcileNodes
  split_ifs
  · have hfirst : Spares node (reconcileNodesMatchingNodePoolNameNoLabel cfg c nodePool nodes) :=
      reconcileListed_spares_unlisted (lists_nameNoLabel nodePool)
        (fun _ _ => changeNodePoolForNodeGeneric_name _) hnode (decide_eq_false fun h => hnot h.1)
    have hsecond : Spares node ((reconcileNodesMatchingNodePoolNameNoLabel cfg c nodePool nodes).andThen
        (reconcileNodesInDefaultNodePoolMatchingOtherNodePoolLabel cfg c nodePool)) :=
      hfirst.andThen (reconcileListed_spares_unlisted (lists_defaultMatching nodePool)
        (fun _ _ => changeNodePoolForNodeGeneric_name _) (Store.get_mem hfirst.kept) (decide_eq_false fun h => hsome h.1))
    refine hsecond.andThen (reconcileListed_spares_unlisted (lists_nameAndLabel nodePool) (fun _ _ => ?_)
      (Store.get_mem hsecond.kept) (decide_eq_false fun h => hnot h.1))
    rw [validateNodeStatusInNodePoolWrapper_node]
    exact validateNodeStatus_name ..
  · have hfirst : Spares node (reconcileNodesInDefaultNodePool cfg c nodes) :=
      reconcileListed_spares_unlisted lists_default
        (fun pools node => handleNodeInDefaultNodePool_name pools node) hnode (decide_eq_false hsome)
    refine hfirst.andThen (reconcileListed_spares lists_notDefault
      (fun available node => handleNodeNotInDefaultNodePool_name available node) (Store.get_mem hfirst.kept) ?_)
    -- The partition's name is among those under which a node is left alone.
    intro _ available havailable
    obtain ⟨unmanaged, -, hvalues, hnames⟩ := availableNodePoolsMap_ok havailable
    have hin : u ∈ available.2 := by
      rw [hnames]
      exact List.mem_append_left _ (List.mem_cons_of_mem _ (mem_unmanaged hshard hunmanaged hu hvalues))
    unfold handleNodeNotInDefaultNodePool
    rw [hpool]
    simp only [hin, if_true]

end

/-! ## ManagedNodesConfig reconciles -/

section

variable {u : String} (hlabel : node.labels.lookup cfg.nodePoolNameLabel = some u) {shard : SchedulingShard}
  (hshard : shard ∈ c.shards) (hunmanaged : isUnmanaged shard) (hu : shard.partitionLabelValue = u)
include hlabel hshard hunmanaged hu

variable {l : List Node} {values : List String} (hvalues : listPartitionLabelValues c = .ok values)
include hvalues

theorem not_mem_passes : node ∉ includedOf cfg values l ∧ node ∉ excludedOf cfg values l := by
  have hin := mem_unmanaged hshard hunmanaged hu hvalues
  simp [Labels.value, hlabel, hin]

variable (hnode : node ∈ nodes.items)
include hnode

theorem mem_twoPasses (hl : l.Sublist nodes.items) : node ∈ (twoPasses cfg c values l nodes).items := by
  obtain ⟨hnotIn, hnotEx⟩ := not_mem_passes hlabel hshard hunmanaged hu hvalues
  refine mem_reconcileExcluded (fun other hother => (mem_excludedOf values hother).1) ?_
    (name_not_mem (List.filter_sublist.trans hl) hnode hnotEx)
  exact mem_reconcileIncluded (List.filter_sublist.trans hl) hnode fun hmem => absurd hmem hnotIn

omit hvalues in
theorem reconcileManaged_spares (request : Option String) :
    node ∈ (reconcileManaged cfg c request nodes).nodes.items := by
  refine reconcileManaged_cases (motive := fun nodes => node ∈ nodes.items) request hnode
    (fun values l hvalues hl => mem_twoPasses hlabel hshard hunmanaged hu hvalues hnode hl) fun values l hvalues hl => ?_
  have htwo := mem_twoPasses hlabel hshard hunmanaged hu hvalues hnode hl
  have hname := name_not_mem (List.filter_sublist.trans hl) hnode
    (not_mem_passes hlabel hshard hunmanaged hu hvalues).1
  unfold reconcileMarkedToBeExcludedAndRevertedToBeIncluded forNodes
  rw [filterNodes_eq]
  refine foldl_frame (NodeStep.name cfg c) Pass.nodes _ (fun _ _ _ => ⟨_, revertNode_steps, rfl⟩) htwo ?_
  intro hmem
  obtain ⟨other, hother, hsame⟩ := List.mem_map.1 hmem
  exact hname (hsame ▸ List.mem_map_of_mem (List.mem_of_mem_filter hother))

end

/-! ## Statuses -/

variable {name : String} {details : Details} {l : List Node} {nodePool : StoredNodePool}

theorem mem_filterNodePoolNodes {nodePoolName : String} {copy : Node}
    (h : copy ∈ filterNodePoolNodes cfg l nodePoolName) :
    copy ∈ l ∧ getNodePoolNameFromLabels cfg copy.labels = nodePoolName := by
  have hsub (l : List Node) : ∀ copy ∈ l.foldr
      (fun node rest => if rest.any (fun other => other.name = node.name) then rest else node :: rest) [],
      copy ∈ l := by
    induction l with
    | nil => simp
    | cons first l ih =>
      intro copy hcopy
      rw [List.foldr_cons] at hcopy
      split_ifs at hcopy
      · exact List.mem_cons_of_mem _ (ih copy hcopy)
      · rcases List.mem_cons.1 hcopy with rfl | hrest
        · exact List.mem_cons_self
        · exact List.mem_cons_of_mem _ (ih copy hrest)
  simpa using hsub _ copy h

theorem handleNodesOfNodePool_details (h : ∀ copy ∈ filterNodePoolNodes cfg l nodePool.name, copy.name ≠ name) :
    (handleNodesOfNodePool cfg env nodePool l details).2.2 name = details name := by
  unfold handleNodesOfNodePool
  dsimp only
  generalize filterNodePoolNodes cfg l nodePool.name = listed at h
  generalize ([] : List ApiError) = errs
  induction listed generalizing errs details with
  | nil => rfl
  | cons first listed ih =>
    rw [List.forall_mem_cons] at h
    rw [List.foldl_cons, ih h.2, Function.update_of_ne (Ne.symm h.1)]

theorem getNodesSituation_names {entry : NodeInNodePool} (h : entry ∈ (getNodesSituation details l).nodesInNodePool) :
    ∃ copy ∈ l, entry.name = copy.name := by
  simp only [getNodesSituation, List.mem_insertionSort, List.mem_map] at h
  obtain ⟨copy, hcopy, rfl⟩ := h
  exact ⟨copy, hcopy, rfl⟩

theorem calculateNodePoolStatus_names {entry : NodeInNodePool}
    (h : entry ∈ (calculateNodePoolStatus cfg c env nodePool l nodes details).2.nodes) :
    ∃ copy ∈ l, entry.name = copy.name := by
  unfold calculateNodePoolStatus at h
  dsimp only at h
  split at h
  · exact getNodesSituation_names h
  · exact getNodesSituation_names h
  · split_ifs at h
    · exact getNodesSituation_names h
    · unfold getNodePoolStatusByNodes at h
      dsimp only at h
      split at h
      · exact getNodesSituation_names h
      · obtain ⟨other, hother, rfl⟩ := List.mem_map.1 h
        obtain ⟨copy, hcopy, hname⟩ := getNodesSituation_names hother
        exact ⟨copy, hcopy, hname⟩

/-- Nothing about the node is written. -/
structure WorldSpares (node : Node) (w w' : World) : Prop where
  kept : w'.nodes.get node.name = some node
  details : w'.details node.name = w.details node.name

section

variable {w : World} {nodePool : StoredNodePool}

theorem WorldSpares.refl (hnode : w.nodes.get node.name = some node) : WorldSpares node w w := ⟨hnode, rfl⟩

theorem addControllerAsFinalizerIfNeeded_nodes {nodePool' : StoredNodePool} {w' : World}
    (h : addControllerAsFinalizerIfNeeded cfg c nodePool w = .ok (nodePool', w')) :
    w'.nodes = w.nodes ∧ w'.details = w.details := by
  unfold addControllerAsFinalizerIfNeeded at h
  split_ifs at h
  · cases h
    exact ⟨rfl, rfl⟩
  · split at h
    · cases h
    · cases h
      exact ⟨rfl, rfl⟩

variable {u : String} (hnode : node ∈ w.nodes.items) (hlabel : node.labels.lookup cfg.nodePoolNameLabel = some u)
  (hname : nodePool.name ≠ u)
include hnode hlabel hname

theorem finalizeNodePool_spares (huninstalling : c.uninstalling = false) :
    WorldSpares node w (finalizeNodePool cfg c env nodePool w).2 := by
  obtain ⟨hspares, -⟩ := reassignNodeForDeletingNodePool_spares (c := w.cluster c) hnode hlabel hname
  unfold finalizeNodePool
  rw [huninstalling, if_neg Bool.false_ne_true]
  by_cases hfinalizer : cfg.finalizerName ∈ nodePool.finalizers
  · rw [if_neg (not_not.2 hfinalizer)]
    dsimp only
    split_ifs
    · exact ⟨hspares.kept, rfl⟩
    · split
      · exact ⟨hspares.kept, rfl⟩
      · split_ifs
        · exact ⟨hspares.kept, rfl⟩
        · exact ⟨hspares.kept, rfl⟩
        · constructor
          · rw [(deleteFinalizer_nodes cfg c _ _).1]
            exact hspares.kept
          · rw [(deleteFinalizer_nodes cfg c _ _).2]
  · rw [if_pos hfinalizer]
    exact .refl (Store.get_of_mem hnode)

variable {shard : SchedulingShard} (hshard : shard ∈ c.shards) (hunmanaged : isUnmanaged shard)
  (hu : shard.partitionLabelValue = u)
include hshard hunmanaged hu

theorem not_mem_nodePoolNodes {copy : Node} (hcopy : copy ∈ filterNodePoolNodes cfg
    (reconcileNodes cfg (w.cluster c) nodePool.toNodePool w.nodes).resultNodes nodePool.name) :
    copy.name ≠ node.name := by
  intro hsame
  obtain ⟨hcopy, hpool⟩ := mem_filterNodePoolNodes hcopy
  have hspares := reconcileNodes_spares (c := w.cluster c) hnode hlabel hshard hunmanaged hu hname
  rw [hspares.copies copy hcopy hsame, poolName_of_lookup hlabel (partition_ne hunmanaged hu)] at hpool
  exact hname hpool.symm

theorem reconcileNodePool_spares : WorldSpares node w (reconcileNodePool cfg c env nodePool w).2 := by
  have hspares := reconcileNodes_spares (c := w.cluster c) hnode hlabel hshard hunmanaged hu hname
  unfold reconcileNodePool
  exact ⟨hspares.kept, handleNodesOfNodePool_details fun copy hcopy =>
    not_mem_nodePoolNodes hnode hlabel hname hshard hunmanaged hu hcopy⟩

theorem computedStatus_names {entry : NodeInNodePool} (hentry : entry ∈ (computedStatus cfg c env nodePool w).nodes) :
    entry.name ≠ node.name := by
  obtain ⟨copy, hcopy, hsame⟩ := calculateNodePoolStatus_names hentry
  rw [hsame]
  exact not_mem_nodePoolNodes hnode hlabel hname hshard hunmanaged hu (mem_filterNodePoolNodes hcopy).1

omit hname in
theorem Computed.lists {status : NodePoolStatus} (h : Computed cfg c env w nodePool status)
    (hget : w.nodePools.get nodePool.name = some nodePool) (hname : nodePool.name ≠ u)
    (hlisted : node.name ∈ status.nodes.map NodeInNodePool.name) : status.nodes = nodePool.nodes := by
  obtain ⟨entry, hentry, hsame⟩ := List.mem_map.1 hlisted
  cases h with
  | live _ hadded =>
    obtain ⟨-, -, hpool⟩ := Assignment.addControllerAsFinalizerIfNeeded_evolves hget hadded
    have hnodes := (addControllerAsFinalizerIfNeeded_nodes hadded).1
    exact absurd hsame (computedStatus_names (hnodes ▸ hnode) hlabel (hpool.name ▸ hname) hshard hunmanaged hu hentry)
  | failed _ _ => rfl
  | deleting _ _ hstatus =>
    obtain ⟨-, hcopies⟩ := reassignNodeForDeletingNodePool_spares (c := w.cluster c) hnode hlabel hname
    unfold getNodePoolDeletionStatus at hstatus
    cases hprojects : getProjectsReferencingNodePool env nodePool.name with
    | error e =>
      rw [hprojects] at hstatus
      cases hstatus
    | ok projects =>
      rw [hprojects] at hstatus
      cases hstatus
      obtain ⟨copy, hcopy, hsame'⟩ := getNodesSituation_names hentry
      exact absurd (hsame'.symm.trans hsame) (hcopies copy hcopy)

end

/-! ## Messages -/

def PhaseMessageNodes.all (names : PhaseMessageNodes) : List String :=
  names.assignedToNodePoolWaitingForDrain ++ names.unschedulableByUs ++ names.notReady

section

variable (cfg c env)

/-- The nodes that the message of a computed status names. -/
def messageNodes (nodePool : NodePool) (nodePoolNodes : List Node) (nodes : NodeStore) (details : Details) :
    List String :=
  match env.schedulerStatus with
  | .error _ => []
  | .ok status =>
    if !status.ready then [] else (phaseMessageNodes cfg c nodePool nodePoolNodes nodes details).all

def nodesNamedFor (nodePool : StoredNodePool) (w : World) : List String :=
  let pass := reconcileNodes cfg (w.cluster c) nodePool.toNodePool w.nodes
  let (resultNodes, _, details) := handleNodesOfNodePool cfg env nodePool pass.resultNodes w.details
  messageNodes cfg (w.cluster c) env nodePool.toNodePool (filterNodePoolNodes cfg resultNodes nodePool.name) pass.nodes
    details

/-- The nodes that the message names which a reconcile computes. -/
def nodesNamed (name : String) (w : World) : List String :=
  match env.fault .getNodePool, w.nodePools.get name with
  | some _, _ => []
  | none, none => []
  | none, some nodePool =>
    if nodePool.deleted then
      let pass := reassignNodeForDeletingNodePool cfg (w.cluster c) nodePool.toNodePool w.nodes
      if !pass.errs.isEmpty then [] else (getNodesSituation w.details pass.resultNodes).unschedulableNodes
    else
      match addControllerAsFinalizerIfNeeded cfg c nodePool w with
      | .error _ => []
      | .ok (nodePool, w) => nodesNamedFor cfg c env nodePool w

/-- The list of the nodes that wait for the pool can be read. -/
def WaitingRead (nodePool : NodePool) : Prop :=
  (getNodesAssignedToNodePoolWaitingForDrain cfg c nodePool .empty).isOk

/-- Held outside the pool until it can move in. -/
def WaitsFor (nodePool : NodePool) (node : Node) : Prop :=
  node.unschedulable ∧ node.labels.lookup cfg.unschedulableLabelKey = some "true" ∧
    (nodePool.labelKey ≠ "" ∧ nodePool.labelValue ≠ "" → MatchesPair nodePool node.labels)

end

theorem notNodePool_matches {nodePoolName : String} {r : Requirement}
    (h : getNotNodePoolLabelSelector cfg nodePoolName = .ok r) {u : String} {labels : Labels}
    (hlabel : labels.lookup cfg.nodePoolNameLabel = some u) (hu : nodePoolName ≠ u) : r.Matches labels := by
  unfold getNotNodePoolLabelSelector at h
  split_ifs at h
  · rw [newRequirement_ok h]
    simp [Requirement.Matches, hlabel]
  · rw [newRequirement_ok h]
    simpa [Requirement.Matches, hlabel] using Ne.symm hu

theorem name_mem_filter (hnode : node ∈ nodes.items) (p : Node → Bool) :
    node.name ∈ (nodes.items.filter p).map Node.name ↔ p node := by
  constructor
  · intro h
    obtain ⟨other, hother, hsame⟩ := List.mem_map.1 h
    obtain ⟨hmem, hp⟩ := List.mem_filter.1 hother
    rwa [← Store.eq_of_mem hmem hnode hsame]
  · exact fun hp => List.mem_map_of_mem (List.mem_filter.2 ⟨hnode, hp⟩)

/-- The requirement for the pool's own pair, none for an empty one. -/
def pairRequirement (nodePool : NodePool) : Except ApiError Selector :=
  if nodePool.labelKey ≠ "" ∧ nodePool.labelValue ≠ "" then
    (requirementNodePoolLabelMatching nodePool.labelKey nodePool.labelValue).map fun r => [r]
  else .ok []

theorem pairRequirement_matches {nodePool : NodePool} {rs : Selector} (h : pairRequirement nodePool = .ok rs)
    (labels : Labels) :
    rs.Matches labels ↔ (nodePool.labelKey ≠ "" ∧ nodePool.labelValue ≠ "" → MatchesPair nodePool labels) := by
  unfold pairRequirement at h
  split_ifs at h with hpair
  · cases hr : requirementNodePoolLabelMatching nodePool.labelKey nodePool.labelValue with
    | error e =>
      rw [hr] at h
      cases h
    | ok r =>
      rw [hr] at h
      cases h
      rw [newRequirement_ok hr]
      simp [Selector.Matches, Requirement.matches_doubleEquals, MatchesPair, hpair]
  · cases h
    simp only [hpair, false_implies, iff_true]
    rfl

theorem getNodesAssigned_eq (nodePool : NodePool) (nodes : NodeStore) :
    getNodesAssignedToNodePoolWaitingForDrain cfg c nodePool nodes = (do
      let notNamed ← getNotNodePoolLabelSelector cfg nodePool.name
      let marked ← requirementNodePoolLabelMatching cfg.unschedulableLabelKey
        markedUnschedulableByNodePoolControllerLabelValue
      let pair ← pairRequirement nodePool
      let listed ← listNodesWithRequirements c nodes ([notNamed, marked] ++ pair)
      return (listed.filter Node.unschedulable).map Node.name) := by
  unfold getNodesAssignedToNodePoolWaitingForDrain pairRequirement
  split_ifs <;> rfl

theorem getNodesAssigned_iff {nodePool : NodePool} {u : String} (hnode : node ∈ nodes.items)
    (hlabel : node.labels.lookup cfg.nodePoolNameLabel = some u) (hu : nodePool.name ≠ u) :
    (∃ names, getNodesAssignedToNodePoolWaitingForDrain cfg c nodePool nodes = .ok names ∧ node.name ∈ names) ↔
      WaitingRead cfg c nodePool ∧ WaitsFor cfg nodePool node := by
  rw [WaitingRead, getNodesAssigned_eq, getNodesAssigned_eq]
  cases hnot : getNotNodePoolLabelSelector cfg nodePool.name with
  | error e => simp [bind, Except.bind, Except.isOk, Except.toBool]
  | ok notNamed =>
    cases hmark : requirementNodePoolLabelMatching cfg.unschedulableLabelKey
        markedUnschedulableByNodePoolControllerLabelValue with
    | error e => simp [bind, Except.bind, Except.isOk, Except.toBool]
    | ok marked =>
      cases hpair : pairRequirement nodePool with
      | error e => simp [bind, Except.bind, Except.isOk, Except.toBool]
      | ok pair =>
        have hmatch : Selector.Matches ([notNamed, marked] ++ pair) node.labels ∧ node.unschedulable ↔
            WaitsFor cfg nodePool node := by
          have hfirst := notNodePool_matches hnot hlabel hu
          have hlast := pairRequirement_matches hpair node.labels
          have hsecond : marked.Matches node.labels ↔ node.labels.lookup cfg.unschedulableLabelKey = some "true" := by
            unfold requirementNodePoolLabelMatching requirementNodePoolLabel at hmark
            rw [if_pos rfl] at hmark
            obtain rfl := newRequirement_ok hmark
            exact Requirement.matches_doubleEquals ..
          unfold Selector.Matches at hlast ⊢
          rw [List.all_append, Bool.and_eq_true, hlast, List.all_cons, List.all_cons, List.all_nil, hfirst,
            Bool.and_true, Bool.true_and, hsecond]
          exact and_comm
        simp only [bind, Except.bind, pure, Except.pure, listNodesWithRequirements, Cluster.attempt]
        cases c.fault .listNodes with
        | some e => simp [Except.isOk, Except.toBool]
        | none =>
          simp only [Except.ok.injEq, exists_eq_left', Except.isOk, Except.toBool, Store.list, true_and]
          rw [List.filter_filter, name_mem_filter hnode, ← hmatch, Bool.and_eq_true, and_comm]

theorem mem_phaseMessageNodes {nodePool : NodePool} (hl : ∀ copy ∈ l, copy.name ≠ name) :
    name ∈ (phaseMessageNodes cfg c nodePool l nodes details).all ↔
      ∃ names, getNodesAssignedToNodePoolWaitingForDrain cfg c nodePool nodes = .ok names ∧ name ∈ names := by
  have hnot (p : Node → Bool) : name ∉ sortNames ((l.filter p).map Node.name) := by
    rw [sortNames, List.mem_insertionSort, List.mem_map]
    rintro ⟨copy, hcopy, hsame⟩
    exact hl copy (List.mem_of_mem_filter hcopy) hsame
  unfold phaseMessageNodes getNodesFullSituationForFullPhaseMessage
  cases getNodesAssignedToNodePoolWaitingForDrain cfg c nodePool nodes with
  | error e => simp [bind, Except.bind, PhaseMessageNodes.all]
  | ok names =>
    have houtside : name ∉ l.map Node.name := by
      rintro hmem
      obtain ⟨copy, hcopy, hsame⟩ := List.mem_map.1 hmem
      exact hl copy hcopy hsame
    simp only [bind, Except.bind, pure, Except.pure, PhaseMessageNodes.all, List.mem_append, hnot, or_false]
    rw [sortNames, List.mem_insertionSort, List.mem_filter]
    simp [houtside]

section

variable {w : World} {u : String} (hnode : node ∈ w.nodes.items)
  (hlabel : node.labels.lookup cfg.nodePoolNameLabel = some u) {shard : SchedulingShard} (hshard : shard ∈ c.shards)
  (hunmanaged : isUnmanaged shard) (hu : shard.partitionLabelValue = u)
include hnode hlabel hshard hunmanaged hu

variable (cfg c env) in
omit hnode hlabel hshard hunmanaged hu in
/-- The reconcile of the node pool gets to the nodes that wait for it. -/
structure Tells (nodePool : StoredNodePool) : Prop where
  found : env.fault .getNodePool = none
  ready : ∃ status, env.schedulerStatus = .ok status ∧ status.ready
  finalizer : cfg.finalizerName ∈ nodePool.finalizers ∨ c.fault (.patchFinalizers nodePool.name) = none
  read : WaitingRead cfg c nodePool.toNodePool

omit hnode hlabel hshard hunmanaged hu in
theorem addControllerAsFinalizerIfNeeded_ok_iff {nodePool : StoredNodePool} :
    (∃ added, addControllerAsFinalizerIfNeeded cfg c nodePool w = .ok added) ↔
      cfg.finalizerName ∈ nodePool.finalizers ∨ c.fault (.patchFinalizers nodePool.name) = none := by
  unfold addControllerAsFinalizerIfNeeded
  by_cases hfinalizer : cfg.finalizerName ∈ nodePool.finalizers
  · simp [hfinalizer]
  · cases hpatch : c.fault (.patchFinalizers nodePool.name) <;> simp [hfinalizer]

omit hnode hlabel hshard hunmanaged hu in
theorem waitingRead_of_same {nodePool after : NodePool} (h : SamePool nodePool after) :
    WaitingRead cfg c after ↔ WaitingRead cfg c nodePool := by
  unfold WaitingRead getNodesAssignedToNodePoolWaitingForDrain
  rw [h.name, h.labelKey, h.labelValue]

omit hnode hlabel hshard hunmanaged hu in
theorem waitsFor_of_same {nodePool after : NodePool} (h : SamePool nodePool after) :
    WaitsFor cfg after node ↔ WaitsFor cfg nodePool node := by
  unfold WaitsFor
  rw [h.labelKey, h.labelValue, Assignment.matchesPair_of_same h]

theorem mem_nodesNamedFor {nodePool : StoredNodePool} (hname : nodePool.name ≠ u) :
    node.name ∈ nodesNamedFor cfg c env nodePool w ↔
      (∃ status, env.schedulerStatus = .ok status ∧ status.ready) ∧ WaitingRead cfg c nodePool.toNodePool ∧
        WaitsFor cfg nodePool.toNodePool node := by
  have hspares := reconcileNodes_spares (c := w.cluster c) hnode hlabel hshard hunmanaged hu hname
  have hcopies : ∀ copy ∈ filterNodePoolNodes cfg (handleNodesOfNodePool cfg env nodePool
      (reconcileNodes cfg (w.cluster c) nodePool.toNodePool w.nodes).resultNodes w.details).1 nodePool.name,
      copy.name ≠ node.name := fun copy hcopy =>
    not_mem_nodePoolNodes hnode hlabel hname hshard hunmanaged hu (mem_filterNodePoolNodes hcopy).1
  unfold nodesNamedFor messageNodes
  dsimp only
  cases env.schedulerStatus with
  | error e => simp
  | ok status =>
    by_cases hready : status.ready
    · simp only [hready, Bool.not_true, Bool.false_eq_true, if_false, Except.ok.injEq, exists_eq_left', true_and]
      rw [mem_phaseMessageNodes hcopies, getNodesAssigned_iff (Store.get_mem hspares.kept) hlabel hname]
      exact Iff.rfl
    · simp [hready]

variable (env) in
theorem mem_nodesNamed (hpools : ∀ nodePool ∈ w.nodePools.items, nodePool.name ≠ u) (name : String) :
    node.name ∈ nodesNamed cfg c env name w ↔
      ∃ nodePool, w.nodePools.get name = some nodePool ∧ nodePool.deleted = false ∧ Tells cfg c env nodePool ∧
        WaitsFor cfg nodePool.toNodePool node := by
  unfold nodesNamed
  split
  · rename_i hfault
    refine iff_of_false (by simp) ?_
    rintro ⟨nodePool, -, -, htells, -⟩
    cases htells.found.symm.trans hfault
  · rename_i hget
    simp [hget]
  · rename_i nodePool hfault hget
    obtain ⟨hmem, rfl⟩ := (Store.get_eq_some_iff _ _ _).1 hget
    have hname := hpools nodePool hmem
    simp only [hget, Option.some.injEq, exists_eq_left']
    by_cases hdeleted : nodePool.deleted
    · -- a pool on its way out only lists nodes that carry its label
      obtain ⟨-, hcopies⟩ := reassignNodeForDeletingNodePool_spares (c := w.cluster c) hnode hlabel hname
      refine iff_of_false ?_ (by simp [hdeleted])
      rw [if_pos hdeleted]
      split_ifs
      · simp
      · intro hin
        simp only [getNodesSituation, sortNames, List.mem_insertionSort, List.mem_map] at hin
        obtain ⟨copy, hcopy, hsame⟩ := hin
        exact hcopies copy (List.mem_of_mem_filter hcopy) hsame
    · rw [if_neg hdeleted]
      have hlive : nodePool.deleted = false := by simpa using hdeleted
      cases hadded : addControllerAsFinalizerIfNeeded cfg c nodePool w with
      | error e =>
        refine iff_of_false (by simp) ?_
        rintro ⟨-, htells, -⟩
        obtain ⟨added, hok⟩ := addControllerAsFinalizerIfNeeded_ok_iff.2 htells.finalizer
        cases hadded.symm.trans hok
      | ok added =>
        obtain ⟨nodePool', w'⟩ := added
        obtain ⟨-, -, hsame⟩ := Assignment.addControllerAsFinalizerIfNeeded_evolves hget hadded
        have hnodes := (addControllerAsFinalizerIfNeeded_nodes hadded).1
        dsimp only
        rw [mem_nodesNamedFor (hnodes ▸ hnode) hlabel hshard hunmanaged hu (hsame.name ▸ hname),
          waitingRead_of_same hsame, waitsFor_of_same hsame]
        have hfinalizer := addControllerAsFinalizerIfNeeded_ok_iff.1 ⟨_, hadded⟩
        constructor
        · rintro ⟨hready, hread, hwaits⟩
          exact ⟨hlive, ⟨hfault, hready, hfinalizer, hread⟩, hwaits⟩
        · rintro ⟨-, htells, hwaits⟩
          exact ⟨htells.ready, htells.read, hwaits⟩

theorem reconcileRequest_spares (huninstalling : c.uninstalling = false)
    (hpools : ∀ nodePool ∈ w.nodePools.items, nodePool.name ≠ u) (name : String) :
    WorldSpares node w (reconcileRequest cfg c env name w).2 := by
  have hkept := Store.get_of_mem hnode
  unfold reconcileRequest
  split
  · exact .refl hkept
  · exact .refl hkept
  · rename_i nodePool _ hget
    obtain ⟨hmem, rfl⟩ := (Store.get_eq_some_iff _ _ _).1 hget
    have hname := hpools nodePool hmem
    split_ifs with hdeleted
    · exact finalizeNodePool_spares hnode hlabel hname huninstalling
    · split
      · exact .refl hkept
      · rename_i nodePool' w' hadded
        obtain ⟨-, -, hsame⟩ := Assignment.addControllerAsFinalizerIfNeeded_evolves hget hadded
        obtain ⟨hnodes, hdetails⟩ := addControllerAsFinalizerIfNeeded_nodes hadded
        have hspares : WorldSpares node w' (reconcileNodePool cfg c env nodePool' w').2 :=
          reconcileNodePool_spares (hnodes ▸ hnode) hlabel (hsame.name ▸ hname) hshard hunmanaged hu
        exact ⟨hspares.kept, hspares.details.trans (congrFun hdetails _)⟩

end

/-! ## The stored messages -/

/-- A message that names these nodes. -/
inductive MessageNames : String → List String → Prop
  | notReady (reason : String) : MessageNames (schedulerNotReadyMessage ++ reason) []
  | phase (names : PhaseMessageNodes) (prerequisites : String) :
    MessageNames (joinNodePoolStatusMessages [names.text, prerequisites]) names.all
  | deleting (names : List String) (references : String) :
    MessageNames (joinNodePoolStatusMessages [getNodePoolDeletingMessage names, references]) names
  | failed : MessageNames errorDeletingMessage []

theorem calculateNodePoolStatus_message (nodePool : StoredNodePool) (l : List Node) (details : Details) :
    MessageNames (calculateNodePoolStatus cfg c env nodePool l nodes details).2.message
      (messageNodes cfg c env nodePool.toNodePool l nodes details) := by
  unfold calculateNodePoolStatus messageNodes
  dsimp only
  cases env.schedulerStatus with
  | error e =>
    cases e with
    | failed _ => exact .notReady ""
    | unresolvable message =>
      dsimp only
      rw [String.append_assoc]
      exact .notReady _
  | ok status =>
    dsimp only
    split_ifs
    · dsimp only
      rw [String.append_assoc]
      exact .notReady _
    · unfold getNodePoolStatusByNodes
      dsimp only
      split <;> exact .phase _ _

theorem Computed.message {w : World} {status : NodePoolStatus} (h : Computed cfg c env w nodePool status)
    (hget : w.nodePools.get name = some nodePool) (hfault : env.fault .getNodePool = none) :
    MessageNames status.message (nodesNamed cfg c env name w) := by
  unfold nodesNamed
  rw [hfault, hget]
  cases h with
  | live hlive hadded =>
    simp only [hlive, Bool.false_eq_true, if_false, hadded]
    exact calculateNodePoolStatus_message ..
  | failed hdeleted herrs =>
    have hnonempty : (!(deletionPass cfg c nodePool w).errs.isEmpty) = true := by simpa using herrs
    unfold deletionPass at hnonempty
    simp only [hdeleted, if_true, hnonempty]
    exact .failed
  | deleting hdeleted herrs hstatus =>
    unfold deletionPass at herrs hstatus
    simp only [hdeleted, if_true, herrs, List.isEmpty_nil, Bool.not_true, Bool.false_eq_true, if_false]
    unfold getNodePoolDeletionStatus at hstatus
    cases hprojects : getProjectsReferencingNodePool env nodePool.name with
    | error e =>
      rw [hprojects] at hstatus
      cases hstatus
    | ok projects =>
      rw [hprojects] at hstatus
      cases hstatus
      exact .deleting _ _

/-- A message was there before, or names the nodes of the computed status. -/
theorem reconcileRequest_message {w : World} (name : String) :
    ∀ after ∈ (reconcileRequest cfg c env name w).2.nodePools.items, ∃ old ∈ w.nodePools.items,
      old.name = after.name ∧
        (after.message = old.message ∨ MessageNames after.message (nodesNamed cfg c env name w)) := by
  intro after hafter
  cases hfault : env.fault .getNodePool with
  | some e =>
    unfold reconcileRequest at hafter
    rw [hfault] at hafter
    exact ⟨after, hafter, rfl, .inl rfl⟩
  | none =>
    obtain ⟨old, hold, hname, hstatus | ⟨hget, hcomputed⟩⟩ := reconcileRequest_statuses name after hafter
    · exact ⟨old, hold, hname, .inl (congrArg NodePoolStatus.message hstatus)⟩
    · exact ⟨old, hold, hname, .inr (hcomputed.message hget hfault)⟩

/-! ## The result -/

/-- Nothing is written about the node, nor is it listed or named. -/
structure LeftAlone (cfg : NodePoolControllerConfig) (c : Cluster) (env : Surroundings) (w : World) (node : Node) :
    Prop where
  reconciles : ∀ name, WorldSpares node w (reconcileRequest cfg c env name w).2
  /-- A status that lists the node is one that lists it already. -/
  unlisted : ∀ name, ∀ after ∈ (reconcileRequest cfg c env name w).2.nodePools.items,
    node.name ∈ after.nodes.map NodeInNodePool.name →
      ∃ old ∈ w.nodePools.items, old.name = after.name ∧ old.nodes = after.nodes
  managed : ∀ request, (reconcileManaged cfg (w.cluster c) request w.nodes).nodes.get node.name = some node
  unnamed : ∀ name, node.name ∉ nodesNamed cfg c env name w

/-- A node is left alone exactly when no pool's message names it. -/
theorem unmanaged_node_left_alone_iff {cfg : NodePoolControllerConfig} {c : Cluster} {env : Surroundings} {w : World}
    {node : Node} {u : String} {shard : SchedulingShard} (huninstalling : c.uninstalling = false)
    (hshard : shard ∈ c.shards) (hunmanaged : isUnmanaged shard) (hu : shard.partitionLabelValue = u)
    (hpools : ∀ nodePool ∈ w.nodePools.items, nodePool.name ≠ u) (hnode : node ∈ w.nodes.items)
    (hlabel : node.labels.lookup cfg.nodePoolNameLabel = some u) :
    LeftAlone cfg c env w node ↔ ∀ nodePool ∈ w.nodePools.items, nodePool.deleted = false →
      Tells cfg c env nodePool → ¬ WaitsFor cfg nodePool.toNodePool node := by
  have hnamed := mem_nodesNamed env hnode hlabel hshard hunmanaged hu hpools
  constructor
  · intro halone nodePool hmem hlive htells hwaits
    exact halone.unnamed nodePool.name
      ((hnamed nodePool.name).2 ⟨nodePool, Store.get_of_mem hmem, hlive, htells, hwaits⟩)
  · intro hnone
    refine ⟨reconcileRequest_spares hnode hlabel hshard hunmanaged hu huninstalling hpools, ?_, fun request => ?_, ?_⟩
    · intro name after hafter hlisted
      obtain ⟨old, hold, hname, hstatus | ⟨hget, hcomputed⟩⟩ := reconcileRequest_statuses name after hafter
      · exact ⟨old, hold, hname, congrArg NodePoolStatus.nodes hstatus.symm⟩
      · exact ⟨old, hold, hname, (hcomputed.lists hnode hlabel hshard hunmanaged hu (Store.get_of_mem hold)
          (hpools old hold) hlisted).symm⟩
    · exact Store.get_of_mem (reconcileManaged_spares (c := w.cluster c) hlabel hshard hunmanaged hu hnode request)
    · intro name hin
      obtain ⟨nodePool, hget, hlive, htells, hwaits⟩ := (hnamed name).1 hin
      exact hnone nodePool (Store.get_mem hget) hlive htells hwaits

namespace TeamPartition

def shard : SchedulingShard :=
  ⟨"team", (∅ : Labels).insert "kai/ignore-shard-for-krm" "true", [], "team"⟩

def cluster : Cluster := { bareCluster [] .empty [] with shards := [shard] }

def defaultPool : StoredNodePool := plainPool "default" "" "" default_ne

def inPartition (unschedulable : Bool) (labels : Labels) : Node :=
  ⟨"x", labels.insert "kai.scheduler/node-pool" "team", unschedulable⟩

def world (node : Node) : World := ⟨only node, fun _ => ⟨∅, []⟩, .single defaultPool⟩

end TeamPartition

open TeamPartition in
theorem open_node_left_alone : LeftAlone .default cluster allReady (world (inPartition false ∅)) (inPartition false ∅) := by
  refine (unmanaged_node_left_alone_iff rfl (List.mem_singleton_self shard) (by decide) rfl ?_
    (List.mem_singleton_self _) (by decide)).2 ?_
  · simp [world, Store.single, defaultPool, plainPool, shard]
  · intro nodePool _ _ _ hwaits
    cases hwaits.1

open TeamPartition in
theorem partition_node_named :
    let node := inPartition true ((∅ : Labels).insert "kai.scheduler/unschedulable" "true")
    isUnmanaged shard = true ∧ node.labels.lookup "kai.scheduler/node-pool" = some shard.partitionLabelValue ∧
    nodesNamed .default cluster allReady "default" (world node) = ["x"] ∧
    (reconcileRequest .default cluster allReady "default" (world node)).2.nodePools.items.map StoredNodePool.message =
      ["The following node(s) are assigned to this node pool and will be added once they finish draining: x"] := by
  -- The default pool's message takes a node that came cordoned into the partition for one that waits.
  decide +kernel

end Krm.Nodes
