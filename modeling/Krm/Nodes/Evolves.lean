import Krm.Nodes.Moves
import Krm.Nodes.NodePoolController

/-! # What the reconcile of a NodePool does to nodes and node pools -/

open Krm.Lib Relation

namespace Krm.Nodes

/-! ## What a reconcile does to node pools -/

def World.pools (w : World) : List NodePool := w.nodePools.items.map StoredNodePool.toNodePool

/-- A node pool that is not being deleted does not come to look so. -/
structure SamePool (nodePool after : NodePool) : Prop where
  name : after.name = nodePool.name
  labelKey : after.labelKey = nodePool.labelKey
  labelValue : after.labelValue = nodePool.labelValue
  deleted : after.deleted = nodePool.deleted
  phase : nodePool.deleted = false → after.phase = .deleting → nodePool.phase = .deleting

theorem SamePool.refl (nodePool : NodePool) : SamePool nodePool nodePool := ⟨rfl, rfl, rfl, rfl, fun _ h => h⟩

theorem SamePool.trans {nodePool after next : NodePool} (h : SamePool nodePool after) (h' : SamePool after next) :
    SamePool nodePool next :=
  ⟨h'.name.trans h.name, h'.labelKey.trans h.labelKey, h'.labelValue.trans h.labelValue, h'.deleted.trans h.deleted,
    fun hlive hphase => h.phase hlive (h'.phase (h.deleted.trans hlive) hphase)⟩

/-- Only node pools that are being deleted go. -/
structure PoolsKept (pools pools' : List NodePool) : Prop where
  before : ∀ after ∈ pools', ∃ nodePool ∈ pools, SamePool nodePool after
  kept : ∀ nodePool ∈ pools, nodePool.deleted = false → ∃ after ∈ pools', SamePool nodePool after

theorem PoolsKept.refl (pools : List NodePool) : PoolsKept pools pools :=
  ⟨fun after h => ⟨after, h, .refl after⟩, fun nodePool h _ => ⟨nodePool, h, .refl nodePool⟩⟩

theorem PoolsKept.trans {pools pools' pools'' : List NodePool} (h : PoolsKept pools pools')
    (h' : PoolsKept pools' pools'') : PoolsKept pools pools'' := by
  constructor
  · intro next hnext
    obtain ⟨after, hafter, hsame'⟩ := h'.before next hnext
    obtain ⟨nodePool, hmem, hsame⟩ := h.before after hafter
    exact ⟨nodePool, hmem, hsame.trans hsame'⟩
  · intro nodePool hmem hlive
    obtain ⟨after, hafter, hsame⟩ := h.kept nodePool hmem hlive
    obtain ⟨next, hnext, hsame'⟩ := h'.kept after hafter (hsame.deleted.trans hlive)
    exact ⟨next, hnext, hsame.trans hsame'⟩

section

variable {cfg : NodePoolControllerConfig} {c : Cluster} {env : Surroundings} {w : World} {nodePool after : StoredNodePool}

theorem World.pools_nodup (w : World) : (w.pools.map NodePool.name).Nodup := by
  rw [World.pools, List.map_map]
  exact w.nodePools.nodup

theorem mem_pools (h : nodePool ∈ w.nodePools.items) : nodePool.toNodePool ∈ w.pools := List.mem_map.2 ⟨nodePool, h, rfl⟩

theorem kept_replace (hget : w.nodePools.get nodePool.name = some nodePool)
    (hsame : SamePool nodePool.toNodePool after.toNodePool) :
    PoolsKept w.pools ((w.nodePools.replace after).items.map StoredNodePool.toNodePool) := by
  have hiff (other : StoredNodePool) := Store.mem_replace w.nodePools after other hsame.name (by rw [hget]; rfl)
  constructor
  · intro p hp
    obtain ⟨other, hother, rfl⟩ := List.mem_map.1 hp
    rcases (hiff other).1 hother with rfl | ⟨hmem, -⟩
    · exact ⟨_, mem_pools (Store.get_mem hget), hsame⟩
    · exact ⟨_, mem_pools hmem, .refl _⟩
  · intro p hp _
    obtain ⟨other, hother, rfl⟩ := List.mem_map.1 hp
    by_cases hname : other.name = nodePool.name
    · refine ⟨after.toNodePool, List.mem_map.2 ⟨after, (hiff after).2 (.inl rfl), rfl⟩, ?_⟩
      rwa [Store.eq_of_mem hother (Store.get_mem hget) hname]
    · exact ⟨_, List.mem_map.2 ⟨other, (hiff other).2 (.inr ⟨hother, hname⟩), rfl⟩, .refl _⟩

theorem kept_remove (hget : w.nodePools.get nodePool.name = some nodePool) (hdeleted : nodePool.deleted) :
    PoolsKept w.pools ((w.nodePools.remove nodePool.name).items.map StoredNodePool.toNodePool) := by
  constructor
  · intro p hp
    obtain ⟨other, hother, rfl⟩ := List.mem_map.1 hp
    exact ⟨_, mem_pools ((Store.mem_remove ..).1 hother).1, .refl _⟩
  · intro p hp hlive
    obtain ⟨other, hother, rfl⟩ := List.mem_map.1 hp
    refine ⟨_, List.mem_map.2 ⟨other, (Store.mem_remove ..).2 ⟨hother, fun hname => ?_⟩, rfl⟩, .refl _⟩
    rw [Store.eq_of_mem hother (Store.get_mem hget) hname, hdeleted] at hlive
    cases hlive

/-! ## Statuses -/

theorem nodePoolPhaseForNodeSituation_ne (ready unschedulable missing : Bool) :
    nodePoolPhaseForNodeSituation ready unschedulable missing ≠ .deleting := by
  unfold nodePoolPhaseForNodeSituation
  cases ready <;> cases unschedulable <;> cases missing <;> decide

theorem calculateNodePoolStatus_phase (nodePool : StoredNodePool) (nodePoolNodes : List Node) (nodes : NodeStore)
    (details : Details) :
    (calculateNodePoolStatus cfg c env nodePool nodePoolNodes nodes details).2.phase ≠ .deleting := by
  unfold calculateNodePoolStatus
  dsimp only
  split
  · simp
  · simp
  · split_ifs
    · simp
    · unfold getNodePoolStatusByNodes
      dsimp only
      split <;> exact nodePoolPhaseForNodeSituation_ne _ _ _

variable (cfg c) in
theorem deleteFinalizer_nodes (nodePool : StoredNodePool) (w : World) :
    (deleteFinalizer cfg c nodePool w).2.nodes = w.nodes ∧ (deleteFinalizer cfg c nodePool w).2.details = w.details := by
  unfold deleteFinalizer
  dsimp only
  split
  · exact ⟨rfl, rfl⟩
  · split_ifs <;> exact ⟨rfl, rfl⟩

variable (c) in
theorem World.find_nodePool (w : World) (name : String) :
    ((w.cluster c).nodePools.find? fun nodePool => nodePool.name = name) =
      (w.nodePools.get name).map StoredNodePool.toNodePool := List.find?_map ..

variable (cfg c env) in
theorem finalizeNodePool_nodes (nodePool : StoredNodePool) (w : World) :
    (finalizeNodePool cfg c env nodePool w).2.nodes =
      (finalize cfg (w.cluster c) nodePool.toNodePool w.nodes).nodes := by
  unfold finalizeNodePool finalize
  rw [show (w.cluster c).uninstalling = c.uninstalling from rfl]
  split_ifs
  · rfl
  · dsimp only
    split_ifs
    · rfl
    · split
      · rfl
      · split_ifs
        · rfl
        · rfl
        · exact (deleteFinalizer_nodes ..).1
  · rfl

variable (cfg c) in
/-- A request reconciles the nodes as `reconcile` does. -/
theorem reconcileRequest_nodes (hread : env.fault .getNodePool = none) (name : String) (w : World) :
    ∃ nodePools, (nodePools = w.nodePools ∨ ∃ nodePool ∈ w.nodePools.get name, nodePools =
        w.nodePools.replace (nodePool.withFinalizers (nodePool.finalizers ++ [cfg.finalizerName]))) ∧
      (reconcileRequest cfg c env name w).2.nodes =
        (reconcile cfg (World.cluster c { w with nodePools }) name w.nodes).nodes := by
  unfold reconcileRequest reconcile
  simp only [hread, World.find_nodePool]
  cases hget : w.nodePools.get name with
  | none => exact ⟨_, .inl rfl, by simp [hget]⟩
  | some nodePool =>
    by_cases hdeleted : nodePool.deleted
    · exact ⟨_, .inl rfl, by simp [hget, hdeleted, finalizeNodePool_nodes]⟩
    · unfold addControllerAsFinalizerIfNeeded
      by_cases hfinalizer : cfg.finalizerName ∈ nodePool.finalizers
      · exact ⟨_, .inl rfl, by simp [hget, hdeleted, hfinalizer, reconcileNodePool]⟩
      · cases hfault : c.fault (.patchFinalizers nodePool.name) with
        | some e => exact ⟨_, .inl rfl, by simp [hget, hdeleted, hfinalizer, hfault, World.cluster]⟩
        | none =>
          obtain rfl : nodePool.name = name := ((Store.get_eq_some_iff _ _ _).1 hget).2
          let added := nodePool.withFinalizers (nodePool.finalizers ++ [cfg.finalizerName])
          have hadded : (w.nodePools.replace added).get nodePool.name = some added :=
            Store.get_replace_self _ _ rfl (by rw [hget]; rfl)
          refine ⟨_, .inr ⟨nodePool, rfl, rfl⟩, ?_⟩
          rw [hadded]
          simp [hdeleted, hfinalizer, hfault, reconcileNodePool, added, StoredNodePool.withFinalizers]

variable (env) in
theorem updateNodePoolStatusIfNeeded_cases (nodePool : StoredNodePool) (status : NodePoolStatus) :
    (updateNodePoolStatusIfNeeded env nodePool status).2 = nodePool ∨
      (updateNodePoolStatusIfNeeded env nodePool status).2 = nodePool.withStatus status := by
  unfold updateNodePoolStatusIfNeeded
  split_ifs
  · exact .inl rfl
  · split
    · exact .inl rfl
    · exact .inr rfl

variable (env) in
theorem updateNodePoolStatusIfNeeded_name (nodePool : StoredNodePool) (status : NodePoolStatus) :
    (updateNodePoolStatusIfNeeded env nodePool status).2.name = nodePool.name := by
  rcases updateNodePoolStatusIfNeeded_cases env nodePool status with h | h <;> rw [h]
  rfl

variable (env) in
theorem updateAnnotationStatusFields_cases (nodePool : StoredNodePool) (nodePoolNodes : List Node) :
    ∃ annotations, (updateAnnotationStatusFields env nodePool nodePoolNodes).2 =
      { nodePool with annotations := annotations } := by
  unfold updateAnnotationStatusFields
  dsimp only
  split_ifs
  · exact ⟨_, rfl⟩
  · exact ⟨_, rfl⟩
  · split <;> exact ⟨_, rfl⟩

theorem updateNodePoolStatusIfNeeded_same {status : NodePoolStatus}
    (h : nodePool.deleted = false → status.phase ≠ .deleting) :
    SamePool nodePool.toNodePool (updateNodePoolStatusIfNeeded env nodePool status).2.toNodePool := by
  rcases updateNodePoolStatusIfNeeded_cases env nodePool status with hsame | hwritten
  · rw [hsame]
    exact .refl _
  · rw [hwritten]
    exact ⟨rfl, rfl, rfl, rfl, fun hlive hphase => absurd hphase (h hlive)⟩

theorem updateNodePoolStatusIfNeeded_phase {status : NodePoolStatus}
    (h : (updateNodePoolStatusIfNeeded env nodePool status).1 = []) :
    (updateNodePoolStatusIfNeeded env nodePool status).2.phase = status.phase := by
  unfold updateNodePoolStatusIfNeeded at h ⊢
  split_ifs at h ⊢ with hequal
  · simp only [isStatusEqual, Bool.and_eq_true, decide_eq_true_eq] at hequal
    exact hequal.1.1.1.symm
  · split at h
    · cases h
    · rfl

theorem updateAnnotationStatusFields_toNodePool (nodePool : StoredNodePool) (nodePoolNodes : List Node) :
    (updateAnnotationStatusFields env nodePool nodePoolNodes).2.toNodePool = nodePool.toNodePool := by
  obtain ⟨annotations, h⟩ := updateAnnotationStatusFields_cases env nodePool nodePoolNodes
  rw [h]

theorem reconcileNodePoolStatus_same (nodePool : StoredNodePool) (resultNodes : List Node) (nodes : NodeStore)
    (details : Details) :
    SamePool nodePool.toNodePool (reconcileNodePoolStatus cfg c env nodePool resultNodes nodes details).2.toNodePool := by
  unfold reconcileNodePoolStatus
  dsimp only
  rw [updateAnnotationStatusFields_toNodePool]
  exact updateNodePoolStatusIfNeeded_same fun _ => calculateNodePoolStatus_phase _ _ _ _

theorem reconcileNodePoolStatus_phase {resultNodes : List Node} {nodes : NodeStore} {details : Details}
    (h : (reconcileNodePoolStatus cfg c env nodePool resultNodes nodes details).1 = []) :
    (reconcileNodePoolStatus cfg c env nodePool resultNodes nodes details).2.phase ≠ .deleting := by
  unfold reconcileNodePoolStatus at h ⊢
  dsimp only at h ⊢
  rw [List.append_eq_nil_iff, List.append_eq_nil_iff] at h
  rw [updateAnnotationStatusFields_toNodePool, updateNodePoolStatusIfNeeded_phase h.1.2]
  exact calculateNodePoolStatus_phase _ _ _ _

end

namespace Assignment

/-! ## What a reconcile does -/

section

variable (cfg : NodePoolControllerConfig)

/-- A reconcile moves nodes that are astray and updates node pools. -/
inductive Evolves : World → World → Prop
  | move {w : World} {nodes : NodeStore} {details : Details}
    (h : Store.Related (NodeMove cfg w.pools) w.nodes nodes) : Evolves w ⟨nodes, details, w.nodePools⟩
  | update {w : World} {nodePools : Store fun nodePool : StoredNodePool => nodePool.name}
    (h : PoolsKept w.pools (nodePools.items.map StoredNodePool.toNodePool)) :
    Evolves w ⟨w.nodes, w.details, nodePools⟩

/-- The default pool is available, no pair selects by written labels, the excluded name is free. -/
structure Proper (w : World) : Prop where
  available : ∃ nodePool ∈ w.pools, nodePool.name = cfg.defaultNodepoolName ∧ isDeleting nodePool = false
  keys : ProperKeys cfg w.pools
  unmatched : DefaultUnmatched cfg w.pools w.nodes
  reserved : ∀ nodePool ∈ w.pools, nodePool.name ≠ cfg.excludedNodepoolName

end

variable {cfg : NodePoolControllerConfig} {c : Cluster} {env : Surroundings} {w w' : World}

theorem available_of_same {nodePool after : NodePool} (hsame : SamePool nodePool after)
    (h : isDeleting nodePool = false) : isDeleting after = false := by
  simp only [isDeleting, Bool.or_eq_false_iff, decide_eq_false_iff_not] at h ⊢
  exact ⟨hsame.deleted.trans h.1, fun hphase => h.2 (hsame.phase h.1 hphase)⟩

theorem matchesPair_of_same {nodePool after : NodePool} (hsame : SamePool nodePool after) (labels : Labels) :
    MatchesPair after labels ↔ MatchesPair nodePool labels := by
  rw [MatchesPair, MatchesPair, hsame.labelKey, hsame.labelValue]

theorem Proper.evolves (h : Proper cfg w) (hstep : Evolves cfg w w') : Proper cfg w' := by
  cases hstep with
  | move hmoves =>
    exact ⟨h.available, h.keys, h.unmatched.related h.keys (hmoves.mono fun _ _ _ hmove => hmove.same), h.reserved⟩
  | update hkept =>
    constructor
    · obtain ⟨nodePool, hmem, hname, havailable⟩ := h.available
      obtain ⟨after, hafter, hsame⟩ := hkept.kept nodePool hmem (live_of_available havailable)
      exact ⟨after, hafter, hsame.name.trans hname, available_of_same hsame havailable⟩
    · constructor
      · intro after hafter
        obtain ⟨nodePool, hmem, hsame⟩ := hkept.before after hafter
        rw [hsame.labelKey]
        exact h.keys.mark nodePool hmem
      · intro after hafter
        obtain ⟨nodePool, hmem, hsame⟩ := hkept.before after hafter
        rw [hsame.labelKey, hsame.labelValue, hsame.name]
        exact h.keys.own nodePool hmem
    · intro node hnode after hafter
      obtain ⟨nodePool, hmem, hsame⟩ := hkept.before after hafter
      rw [hsame.name, matchesPair_of_same hsame]
      exact h.unmatched node hnode nodePool hmem
    · intro after hafter
      obtain ⟨nodePool, hmem, hsame⟩ := hkept.before after hafter
      rw [hsame.name]
      exact h.reserved nodePool hmem

theorem Proper.reaches (h : Proper cfg w) (hsteps : ReflTransGen (Evolves cfg) w w') : Proper cfg w' := by
  induction hsteps with
  | refl => exact h
  | tail _ hstep ih => exact ih.evolves hstep

theorem reaches_of_moves {nodes : NodeStore} (details : Details)
    (h : ReflTransGen (Store.Related (NodeMove cfg w.pools)) w.nodes nodes) :
    ReflTransGen (Evolves cfg) w ⟨nodes, details, w.nodePools⟩ := by
  have hmoved : ReflTransGen (Evolves cfg) w ⟨nodes, w.details, w.nodePools⟩ := by
    induction h with
    | refl => exact .refl
    | tail _ hstep ih => exact ih.tail (.move hstep)
  exact hmoved.tail (.move (.refl fun node _ => .stay node))

section

variable {nodePool : StoredNodePool} (hproper : Proper cfg w) (hget : w.nodePools.get nodePool.name = some nodePool)
include hproper hget

theorem reconcileNodePool_evolves (hlive : nodePool.deleted = false) :
    ReflTransGen (Evolves cfg) w (reconcileNodePool cfg c env nodePool w).2 := by
  have hmoves := reconcileNodes_moves (c := w.cluster c) hproper.keys hproper.unmatched
    (mem_pools (Store.get_mem hget)) hlive
  unfold reconcileNodePool
  dsimp only
  refine (reaches_of_moves _ hmoves).tail (.update (kept_replace hget ?_))
  exact reconcileNodePoolStatus_same ..

omit hproper in
theorem addControllerAsFinalizerIfNeeded_evolves {nodePool' : StoredNodePool}
    (h : addControllerAsFinalizerIfNeeded cfg c nodePool w = .ok (nodePool', w')) :
    ReflTransGen (Evolves cfg) w w' ∧ w'.nodePools.get nodePool'.name = some nodePool' ∧
      SamePool nodePool.toNodePool nodePool'.toNodePool := by
  unfold addControllerAsFinalizerIfNeeded at h
  split_ifs at h with hhas
  · cases h
    exact ⟨.refl, hget, .refl _⟩
  · split at h
    · cases h
    · cases h
      refine ⟨.single (.update (kept_replace hget ⟨rfl, rfl, rfl, rfl, fun _ h => h⟩)), ?_, rfl, rfl, rfl, rfl, fun _ h => h⟩
      exact Store.get_replace_self _ _ rfl (by rw [StoredNodePool.withFinalizers_name, hget]; rfl)

omit hproper in
theorem deleteFinalizer_evolves (hdeleted : nodePool.deleted) :
    ReflTransGen (Evolves cfg) w (deleteFinalizer cfg c nodePool w).2 := by
  unfold deleteFinalizer
  dsimp only
  split
  · exact .refl
  · split_ifs
    · exact .single (.update (kept_remove hget hdeleted))
    · exact .single (.update (kept_replace hget ⟨rfl, rfl, rfl, rfl, fun _ h => h⟩))

theorem finalizeNodePool_evolves (huninstalling : c.uninstalling = false) (hdeleted : nodePool.deleted) :
    ReflTransGen (Evolves cfg) w (finalizeNodePool cfg c env nodePool w).2 := by
  have hname : nodePool.name ≠ cfg.defaultNodepoolName := by
    intro hname
    obtain ⟨other, hother, hdefault, havailable⟩ := hproper.available
    have heq := List.inj_on_of_nodup_map w.pools_nodup (mem_pools (Store.get_mem hget)) hother (hname.trans hdefault.symm)
    have hlive := live_of_available havailable
    rw [← heq, hdeleted] at hlive
    cases hlive
  have hmoves := ReflTransGen.single (reassignNodeForDeletingNodePool_moves (c := w.cluster c) hproper.keys
    hproper.unmatched w.pools_nodup (mem_pools (Store.get_mem hget)) hdeleted hname)
  have hsame {other : StoredNodePool} (heq : other.toNodePool = nodePool.toNodePool) (status : NodePoolStatus) :
      SamePool nodePool.toNodePool (updateNodePoolStatusIfNeeded env other status).2.toNodePool := by
    rw [← heq]
    refine updateNodePoolStatusIfNeeded_same fun hlive => ?_
    rw [heq, hdeleted] at hlive
    cases hlive
  unfold finalizeNodePool
  rw [huninstalling, if_neg (Bool.false_ne_true)]
  by_cases hfinalizer : cfg.finalizerName ∈ nodePool.finalizers
  · rw [if_neg (not_not.2 hfinalizer)]
    dsimp only
    have hmoved := reaches_of_moves w.details hmoves
    split_ifs
    · refine hmoved.tail (.update (kept_replace hget ?_))
      apply hsame
      rfl
    · split
      · exact hmoved
      · rename_i status _
        have hupdated := hmoved.tail (.update (kept_replace hget (hsame rfl status)))
        split_ifs
        · exact hupdated
        · exact hupdated
        · refine hupdated.trans (deleteFinalizer_evolves ?_ ((hsame rfl status).deleted.trans hdeleted))
          exact Store.get_replace_self _ _ rfl (by rw [(hsame rfl status).name, hget]; rfl)
  · rw [if_pos hfinalizer]

end

theorem reconcileRequest_evolves (hproper : Proper cfg w) (huninstalling : c.uninstalling = false) (name : String) :
    ReflTransGen (Evolves cfg) w (reconcileRequest cfg c env name w).2 := by
  unfold reconcileRequest
  split
  · exact .refl
  · exact .refl
  · rename_i nodePool _ hget
    obtain rfl : nodePool.name = name := ((Store.get_eq_some_iff _ _ _).1 hget).2
    split_ifs with hdeleted
    · exact finalizeNodePool_evolves hproper hget huninstalling hdeleted
    · split
      · exact .refl
      · rename_i nodePool' w' hadded
        obtain ⟨hsteps, hget', hsame⟩ := addControllerAsFinalizerIfNeeded_evolves hget hadded
        exact hsteps.trans (reconcileNodePool_evolves (hproper.reaches hsteps) hget'
          (hsame.deleted.trans (by simpa using hdeleted)))

theorem kept_of_reaches (h : ReflTransGen (Evolves cfg) w w') : PoolsKept w.pools w'.pools := by
  induction h with
  | refl => exact .refl _
  | tail _ hstep ih =>
    cases hstep with
    | move _ => exact ih
    | update hkept => exact ih.trans hkept

theorem reconcileRequest_ok {name : String} {nodePool : StoredNodePool}
    (hget : w.nodePools.get name = some nodePool) (hlive : nodePool.deleted = false)
    (hok : (reconcileRequest cfg c env name w).1 = []) :
    ∃ w₁ : World, ∃ nodePool₁ nodePool₂ : StoredNodePool, ReflTransGen (Evolves cfg) w w₁ ∧
      w₁.nodePools.get name = some nodePool₁ ∧ SamePool nodePool.toNodePool nodePool₁.toNodePool ∧
      (reconcileNodes cfg (w₁.cluster c) nodePool₁.toNodePool w₁.nodes).errs = [] ∧
      (reconcileRequest cfg c env name w).2.nodes =
        (reconcileNodes cfg (w₁.cluster c) nodePool₁.toNodePool w₁.nodes).nodes ∧
      (reconcileRequest cfg c env name w).2.nodePools = w₁.nodePools.replace nodePool₂ ∧
      SamePool nodePool₁.toNodePool nodePool₂.toNodePool ∧ nodePool₂.phase ≠ .deleting := by
  -- A reconcile without errors of a node pool that is not being deleted.
  obtain rfl : nodePool.name = name := ((Store.get_eq_some_iff _ _ _).1 hget).2
  unfold reconcileRequest at hok ⊢
  rw [hget] at hok ⊢
  split at hok
  · cases hok
  · rename_i h
    cases h
  · rename_i nodePool' _ h
    cases h
    rw [if_neg (by simp [hlive])] at hok ⊢
    split at hok
    · cases hok
    · rename_i nodePool₁ w₁ hadded
      obtain ⟨hsteps, hget₁, hsame⟩ := addControllerAsFinalizerIfNeeded_evolves hget hadded
      unfold reconcileNodePool at hok ⊢
      dsimp only at hok ⊢
      rw [List.append_eq_nil_iff, List.append_eq_nil_iff, List.append_eq_nil_iff] at hok
      obtain ⟨⟨⟨herrs, -⟩, -⟩, hstatus⟩ := hok
      exact ⟨w₁, nodePool₁, _, hsteps, hsame.name ▸ hget₁, hsame, herrs, rfl, rfl, reconcileNodePoolStatus_same ..,
        reconcileNodePoolStatus_phase hstatus⟩

theorem sorted_of_same {nodePool after : NodePool} (hsame : SamePool nodePool after) {labels : Labels} :
    Sorted cfg after labels ↔ Sorted cfg nodePool labels := by
  constructor <;> rintro ⟨hpair, hunclaimed⟩ <;> constructor
  · rwa [hsame.name, matchesPair_of_same hsame] at hpair
  · rwa [matchesPair_of_same hsame] at hunclaimed
  · rwa [hsame.name, matchesPair_of_same hsame]
  · rwa [matchesPair_of_same hsame]

theorem placed_of_kept {pools pools' : List NodePool} (hkept : PoolsKept pools pools') {labels : Labels}
    (h : Placed cfg pools labels) : Placed cfg pools' labels := by
  rcases h with h | h | ⟨nodePool, hmem, hlive, hname, hlabel⟩
  · exact .inl h
  · exact .inr (.inl h)
  · obtain ⟨after, hafter, hsame⟩ := hkept.kept nodePool hmem hlive
    exact .inr (.inr ⟨after, hafter, hsame.deleted.trans hlive, hsame.name ▸ hname, hsame.name ▸ hlabel⟩)

section

variable {name : String} {nodePool : StoredNodePool} (hget : w.nodePools.get name = some nodePool)
  (hlive : nodePool.deleted = false) (hok : (reconcileRequest cfg c env name w).1 = [])
include hget hlive hok

theorem reconcileRequest_phase :
    ∀ after ∈ (reconcileRequest cfg c env name w).2.pools, after.name = name → after.phase ≠ .deleting := by
  obtain ⟨w₁, nodePool₁, nodePool₂, -, hget₁, -, -, -, hpools, hsame₂, hphase⟩ := reconcileRequest_ok hget hlive hok
  have hname₁ : nodePool₁.name = name := ((Store.get_eq_some_iff _ _ _).1 hget₁).2
  intro after hafter hname
  rw [World.pools, hpools] at hafter
  obtain ⟨stored, hstored, rfl⟩ := List.mem_map.1 hafter
  rcases (Store.mem_replace w₁.nodePools nodePool₂ stored (hsame₂.name.trans hname₁) (by rw [hget₁]; rfl)).1 hstored with rfl | ⟨-, hne⟩
  · exact hphase
  · exact absurd hname hne

variable (hproper : Proper cfg w)
include hproper

theorem reconcileRequest_sorted (hname : name ≠ cfg.defaultNodepoolName) :
    ∀ node ∈ (reconcileRequest cfg c env name w).2.nodes.items, Sorted cfg nodePool.toNodePool node.labels := by
  obtain ⟨w₁, nodePool₁, -, hsteps, hget₁, hsame, herrs, hnodes, -, -, -⟩ := reconcileRequest_ok hget hlive hok
  have hproper₁ := hproper.reaches hsteps
  obtain ⟨hmem₁, hname₁⟩ := (Store.get_eq_some_iff _ _ _).1 hget₁
  have hsorted := reconcileNodes_sorted (c := w₁.cluster c) hproper₁.keys hproper₁.unmatched w₁.pools_nodup
    (mem_pools hmem₁) (hname₁ ▸ hname) herrs
  intro node hnode
  rw [hnodes] at hnode
  exact (sorted_of_same hsame).1 (hsorted node hnode)

theorem reconcileRequest_placed (hshards : ∀ shard ∈ c.shards, isUnmanaged shard = false)
    (hname : name = cfg.defaultNodepoolName) :
    ∀ node ∈ (reconcileRequest cfg c env name w).2.nodes.items,
      Placed cfg (reconcileRequest cfg c env name w).2.pools node.labels ∨ Blank cfg node.labels := by
  obtain ⟨w₁, nodePool₁, nodePool₂, hsteps, hget₁, -, herrs, hnodes, hpools, hsame₂, -⟩ :=
    reconcileRequest_ok hget hlive hok
  have hproper₁ := hproper.reaches hsteps
  have hname₁ : nodePool₁.name = name := ((Store.get_eq_some_iff _ _ _).1 hget₁).2
  have hplaced := reconcileNodes_placed (c := w₁.cluster c) hproper₁.keys hproper₁.unmatched hshards
    (hname₁.trans hname) herrs
  have hkept := kept_replace (hname₁ ▸ hget₁) hsame₂
  intro node hnode
  rw [World.pools, hpools]
  rw [hnodes] at hnode
  exact (hplaced node hnode).imp_left (placed_of_kept hkept)

end

end Assignment

end Krm.Nodes
