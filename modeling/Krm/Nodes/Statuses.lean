import Krm.Nodes.Evolves

/-! # The statuses that reconciles store -/

open Krm.Lib

namespace Krm.Nodes

abbrev NodePoolStore := Store fun nodePool : StoredNodePool => nodePool.name

section

variable (cfg : NodePoolControllerConfig) (c : Cluster) (env : Surroundings)

def computedStatus (nodePool : StoredNodePool) (w : World) : NodePoolStatus :=
  let pass := reconcileNodes cfg (w.cluster c) nodePool.toNodePool w.nodes
  let (resultNodes, _, details) := handleNodesOfNodePool cfg env nodePool pass.resultNodes w.details
  let nodePoolNodes := filterNodePoolNodes cfg resultNodes nodePool.name
  (calculateNodePoolStatus cfg (w.cluster c) env nodePool nodePoolNodes pass.nodes details).2

def deletionPass (nodePool : StoredNodePool) (w : World) : Pass :=
  reassignNodeForDeletingNodePool cfg (w.cluster c) nodePool.toNodePool w.nodes

/-- A status that a reconcile comes to for a node pool. -/
inductive Computed (w : World) (nodePool : StoredNodePool) : NodePoolStatus → Prop
  | live {nodePool' : StoredNodePool} {w' : World} (hlive : nodePool.deleted = false)
    (hadded : addControllerAsFinalizerIfNeeded cfg c nodePool w = .ok (nodePool', w')) :
    Computed w nodePool (computedStatus cfg c env nodePool' w')
  | failed (hdeleted : nodePool.deleted) (herrs : (deletionPass cfg c nodePool w).errs ≠ []) :
    Computed w nodePool ⟨.deleting, errorDeletingMessage, nodePool.nodes, nodePool.conditions⟩
  | deleting {status : NodePoolStatus} (hdeleted : nodePool.deleted)
    (herrs : (deletionPass cfg c nodePool w).errs = [])
    (hstatus : getNodePoolDeletionStatus env nodePool (deletionPass cfg c nodePool w).resultNodes w.details =
      .ok status) : Computed w nodePool status

end

variable {cfg : NodePoolControllerConfig} {c : Cluster} {env : Surroundings} {w : World}

/-- Every node pool was there before, its status kept or related. -/
def StatusesFrom (computed : StoredNodePool → NodePoolStatus → Prop) (before after : NodePoolStore) : Prop :=
  ∀ nodePool ∈ after.items, ∃ old ∈ before.items,
    old.name = nodePool.name ∧ (nodePool.status = old.status ∨ computed old nodePool.status)

section

variable {computed : StoredNodePool → NodePoolStatus → Prop} {nodePools : NodePoolStore}

theorem StatusesFrom.refl : StatusesFrom computed nodePools nodePools :=
  fun nodePool hmem => ⟨nodePool, hmem, rfl, .inl rfl⟩

theorem StatusesFrom.after {computed' : StoredNodePool → NodePoolStatus → Prop} {mid after : NodePoolStore}
    (h : StatusesFrom (fun _ _ => False) nodePools mid) (h' : StatusesFrom computed' mid after)
    (hcomputed : ∀ old ∈ nodePools.items, ∀ nodePool ∈ mid.items, old.name = nodePool.name →
      ∀ status, computed' nodePool status → computed old status) : StatusesFrom computed nodePools after := by
  intro nodePool hmem
  obtain ⟨between, hbetween, hname', hstatus'⟩ := h' nodePool hmem
  obtain ⟨old, hold, hname, hstatus⟩ := h between hbetween
  refine ⟨old, hold, hname.trans hname', hstatus'.imp (fun h => h.trans (hstatus.resolve_right id)) ?_⟩
  exact hcomputed old hold between hbetween hname nodePool.status

theorem StatusesFrom.before {mid after : NodePoolStore} (h : StatusesFrom computed nodePools mid)
    (h' : StatusesFrom (fun _ _ => False) mid after) : StatusesFrom computed nodePools after := by
  intro nodePool hmem
  obtain ⟨between, hbetween, hname', hstatus'⟩ := h' nodePool hmem
  obtain ⟨old, hold, hname, hstatus⟩ := h between hbetween
  refine ⟨old, hold, hname.trans hname', ?_⟩
  rwa [hstatus'.resolve_right id]

theorem statusesFrom_replace {nodePool after : StoredNodePool} (hget : nodePools.get nodePool.name = some nodePool)
    (hname : after.name = nodePool.name) (h : after.status = nodePool.status ∨ computed nodePool after.status) :
    StatusesFrom computed nodePools (nodePools.replace after) := by
  intro other hother
  rcases (Store.mem_replace nodePools after other hname (by rw [hget]; rfl)).1 hother with rfl | ⟨hmem, -⟩
  · exact ⟨nodePool, Store.get_mem hget, hname.symm, h⟩
  · exact ⟨other, hmem, rfl, .inl rfl⟩

theorem deleteFinalizer_statuses {nodePool : StoredNodePool} (hget : w.nodePools.get nodePool.name = some nodePool) :
    StatusesFrom computed w.nodePools (deleteFinalizer cfg c nodePool w).2.nodePools := by
  unfold deleteFinalizer
  dsimp only
  split
  · exact .refl
  · split_ifs
    · exact fun other hother => ⟨other, ((Store.mem_remove ..).1 hother).1, rfl, .inl rfl⟩
    · exact statusesFrom_replace hget rfl (.inl rfl)

end

variable (env) in
theorem updateNodePoolStatusIfNeeded_status (nodePool : StoredNodePool) (status : NodePoolStatus) :
    (updateNodePoolStatusIfNeeded env nodePool status).2.status = nodePool.status ∨
      (updateNodePoolStatusIfNeeded env nodePool status).2.status = status := by
  rcases updateNodePoolStatusIfNeeded_cases env nodePool status with h | h
  · exact .inl (congrArg _ h)
  · exact .inr (congrArg _ h)

theorem reconcileNodePoolStatus_status (nodePool : StoredNodePool) (resultNodes : List Node) (nodes : NodeStore)
    (details : Details) :
    (reconcileNodePoolStatus cfg c env nodePool resultNodes nodes details).2.status = nodePool.status ∨
      (reconcileNodePoolStatus cfg c env nodePool resultNodes nodes details).2.status =
        (calculateNodePoolStatus cfg c env nodePool (filterNodePoolNodes cfg resultNodes nodePool.name) nodes details).2 := by
  unfold reconcileNodePoolStatus
  dsimp only
  generalize (calculateNodePoolStatus cfg c env nodePool (filterNodePoolNodes cfg resultNodes nodePool.name) nodes
    details).2 = status
  obtain ⟨annotations, hannotated⟩ := updateAnnotationStatusFields_cases env
    (updateNodePoolStatusIfNeeded env nodePool status).2 (filterNodePoolNodes cfg resultNodes nodePool.name)
  rw [hannotated]
  exact updateNodePoolStatusIfNeeded_status env nodePool status

theorem reconcileNodePool_statuses {nodePool : StoredNodePool} (hget : w.nodePools.get nodePool.name = some nodePool) :
    StatusesFrom (fun old status => old = nodePool ∧ status = computedStatus cfg c env nodePool w) w.nodePools
      (reconcileNodePool cfg c env nodePool w).2.nodePools := by
  unfold reconcileNodePool
  dsimp only
  refine statusesFrom_replace hget (reconcileNodePoolStatus_same ..).name ?_
  exact (reconcileNodePoolStatus_status ..).imp_right fun h => ⟨rfl, h⟩

theorem finalizeNodePool_statuses {nodePool : StoredNodePool} (hget : w.nodePools.get nodePool.name = some nodePool)
    (hdeleted : nodePool.deleted) : StatusesFrom (fun old status => old = nodePool ∧ Computed cfg c env w old status)
      w.nodePools (finalizeNodePool cfg c env nodePool w).2.nodePools := by
  unfold finalizeNodePool
  by_cases hfinalizer : cfg.finalizerName ∈ nodePool.finalizers
  · rw [if_neg (not_not.2 hfinalizer)]
    split_ifs with huninstalling
    · exact deleteFinalizer_statuses hget
    · dsimp only
      change StatusesFrom _ _ (if !(deletionPass cfg c nodePool w).errs.isEmpty then _ else _ : List ApiError × World).2.nodePools
      split_ifs with herrs
      · let status : NodePoolStatus := ⟨.deleting, errorDeletingMessage, nodePool.nodes, nodePool.conditions⟩
        let copied : StoredNodePool :=
          { nodePool with nodes := (getNodesSituation w.details (deletionPass cfg c nodePool w).resultNodes).nodesInNodePool }
        rcases updateNodePoolStatusIfNeeded_cases env copied status with h | h
        · refine statusesFrom_replace hget (congrArg (·.name) h) (.inl ?_)
          exact congrArg (fun written : StoredNodePool => { written with nodes := nodePool.nodes }.status) h
        · refine statusesFrom_replace hget (congrArg (·.name) h) (.inr ⟨rfl, ?_⟩)
          have hwritten := congrArg (fun written : StoredNodePool => { written with nodes := nodePool.nodes }.status) h
          exact hwritten ▸ .failed hdeleted (by simpa using herrs)
      · split
        · exact .refl
        · rename_i status hstatus
          have hupdated : StatusesFrom (fun old status => old = nodePool ∧ Computed cfg c env w old status) w.nodePools
              (w.nodePools.replace (updateNodePoolStatusIfNeeded env nodePool status).2) := by
            refine statusesFrom_replace hget (updateNodePoolStatusIfNeeded_name env nodePool status)
              ((updateNodePoolStatusIfNeeded_status env nodePool status).imp_right fun h => ?_)
            rw [h]
            exact ⟨rfl, .deleting hdeleted (by simpa using herrs) hstatus⟩
          split_ifs
          · exact hupdated
          · exact hupdated
          · refine hupdated.before (deleteFinalizer_statuses (w := ⟨_, _, _⟩) ?_)
            refine Store.get_replace_self _ _ rfl ?_
            rw [updateNodePoolStatusIfNeeded_name, hget]
            rfl
  · rw [if_pos hfinalizer]
    exact .refl

theorem addControllerAsFinalizerIfNeeded_statuses {nodePool nodePool' : StoredNodePool} {w' : World}
    (hget : w.nodePools.get nodePool.name = some nodePool)
    (h : addControllerAsFinalizerIfNeeded cfg c nodePool w = .ok (nodePool', w')) :
    StatusesFrom (fun _ _ => False) w.nodePools w'.nodePools := by
  unfold addControllerAsFinalizerIfNeeded at h
  split_ifs at h
  · cases h
    exact .refl
  · split at h
    · cases h
    · cases h
      exact statusesFrom_replace hget rfl (.inl rfl)

theorem reconcileRequest_statuses (name : String) :
    StatusesFrom (fun old status => w.nodePools.get name = some old ∧ Computed cfg c env w old status) w.nodePools
      (reconcileRequest cfg c env name w).2.nodePools := by
  unfold reconcileRequest
  split
  · exact .refl
  · exact .refl
  · rename_i nodePool _ hget
    obtain ⟨hmem, rfl⟩ := (Store.get_eq_some_iff _ _ _).1 hget
    split_ifs with hdeleted
    · intro after hafter
      obtain ⟨old, hold, hname, hstatus⟩ := finalizeNodePool_statuses hget hdeleted after hafter
      refine ⟨old, hold, hname, hstatus.imp_right ?_⟩
      rintro ⟨rfl, hcomputed⟩
      exact ⟨hget, hcomputed⟩
    · split
      · exact .refl
      · rename_i nodePool' w' hadded
        obtain ⟨-, hget', hsame⟩ := Assignment.addControllerAsFinalizerIfNeeded_evolves hget hadded
        refine (addControllerAsFinalizerIfNeeded_statuses hget hadded).after (reconcileNodePool_statuses hget') ?_
        rintro old hold mid - hname status ⟨rfl, rfl⟩
        obtain rfl : old = nodePool := Store.eq_of_mem hold hmem (hname.trans hsame.name)
        exact ⟨hget, .live (by simpa using hdeleted) hadded⟩

end Krm.Nodes
