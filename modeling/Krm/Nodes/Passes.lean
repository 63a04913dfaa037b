import Krm.Lib.Related
import Krm.Nodes.Drain

/-! # What a pass over listed nodes does, node by node -/

open Krm.Lib

namespace Krm.Nodes

variable {cfg : NodePoolControllerConfig} {c : Cluster} {nodes : NodeStore}

/-! ## Loops -/

section

variable {handle : Node → List ApiError × Node}

theorem forNodes_results (listed : List Node) (acc : Pass) :
    let last := listed.foldl
      (fun acc node => (⟨acc.nodes.replace (handle node).2, acc.resultNodes ++ [(handle node).2],
        acc.errs ++ (handle node).1⟩ : Pass)) acc
    last.resultNodes = acc.resultNodes ++ listed.map (fun node => (handle node).2) ∧
      last.errs = acc.errs ++ listed.flatMap (fun node => (handle node).1) := by
  induction listed generalizing acc with
  | nil => simp
  | cons node listed ih =>
    obtain ⟨hnodes, herrs⟩ := ih ⟨acc.nodes.replace (handle node).2, acc.resultNodes ++ [(handle node).2],
      acc.errs ++ (handle node).1⟩
    simp only [List.foldl_cons, hnodes, herrs, List.map_cons, List.flatMap_cons, List.append_assoc,
      List.singleton_append, and_self]

theorem forNodes_resultNodes (listed : List Node) :
    (forNodes nodes listed handle).resultNodes = listed.map fun node => (handle node).2 :=
  (forNodes_results listed ⟨nodes, [], []⟩).1

theorem forNodes_errs (listed : List Node) :
    (forNodes nodes listed handle).errs = listed.flatMap fun node => (handle node).1 :=
  (forNodes_results listed ⟨nodes, [], []⟩).2

theorem forNodes_related (hname : ∀ node, (handle node).2.name = node.name) (p : Node → Bool) :
    Store.Related (fun node after => after = if p node then (handle node).2 else node) nodes
      (forNodes nodes (nodes.items.filter p) handle).nodes :=
  Store.related_foldl_replace Pass.nodes (fun _ _ => rfl) hname p ⟨nodes, [], []⟩

end

/-- The list, where there is one, is that of the nodes with the property. -/
def Lists (nodes : NodeStore) (listed : Except ApiError (List Node)) (p : Node → Bool) : Prop :=
  ∀ l, listed = .ok l → l = nodes.items.filter p

section

variable {α : Type} {listed : Except ApiError (List Node)} {needed : Except ApiError α}
  {handle : α → Node → List ApiError × Node} {p : Node → Bool} (hlisted : Lists nodes listed p)
  (hname : ∀ a node, (handle a node).2.name = node.name)
include hlisted hname

theorem reconcileListed_related : Store.Related (fun node after => after = node ∨ p node ∧ ∃ a, needed = .ok a ∧
    after = (handle a node).2) nodes (reconcileListed nodes listed needed handle).nodes := by
  unfold reconcileListed
  split
  · exact .refl fun _ _ => .inl rfl
  · exact .refl fun _ _ => .inl rfl
  · rename_i l _
    split
    · exact .refl fun _ _ => .inl rfl
    · rename_i a
      rw [hlisted l rfl]
      refine (forNodes_related (hname a) p).mono ?_
      rintro node _ after rfl
      split_ifs with hp
      · exact .inr ⟨hp, a, rfl, rfl⟩
      · exact .inl rfl

theorem reconcileListed_ok (herrs : (reconcileListed nodes listed needed handle).errs = []) :
    Store.Related (fun node after => if p node then ∃ a, needed = .ok a ∧ (handle a node).1 = [] ∧
      after = (handle a node).2 else after = node) nodes (reconcileListed nodes listed needed handle).nodes := by
  rcases listed with e | (_ | ⟨first, rest⟩)
  · simp [reconcileListed] at herrs
  · have hnil := hlisted [] rfl
    refine .refl fun node hnode => ?_
    rw [if_neg]
    intro hp
    have hmem : node ∈ nodes.items.filter p := List.mem_filter.2 ⟨hnode, hp⟩
    rw [← hnil] at hmem
    cases hmem
  · rcases needed with e | a
    · simp [reconcileListed] at herrs
    · simp only [reconcileListed] at herrs ⊢
      rw [hlisted _ rfl] at herrs ⊢
      rw [forNodes_errs, List.flatMap_eq_nil_iff] at herrs
      refine (forNodes_related (hname a) p).mono ?_
      rintro node hnode after rfl
      split_ifs with hp
      · exact ⟨a, rfl, herrs node (List.mem_filter.2 ⟨hnode, hp⟩), rfl⟩
      · rfl

omit hname in
theorem reconcileListed_results (herrs : (reconcileListed nodes listed needed handle).errs = []) {a : α}
    (hneeded : needed = .ok a) {node : Node} (hnode : node ∈ nodes.items) (hp : p node) :
    (handle a node).2 ∈ (reconcileListed nodes listed needed handle).resultNodes := by
  have hmem : node ∈ nodes.items.filter p := List.mem_filter.2 ⟨hnode, hp⟩
  rcases listed with e | (_ | ⟨first, rest⟩)
  · simp [reconcileListed] at herrs
  · rw [← hlisted [] rfl] at hmem
    cases hmem
  · rw [hneeded]
    simp only [reconcileListed]
    rw [hlisted _ rfl, forNodes_resultNodes]
    exact List.mem_map.2 ⟨node, hmem, rfl⟩

end

/-! ## The lists -/

theorem lists_bind {α : Type} {x : Except ApiError α} {f : α → Except ApiError (List Node)} {p : Node → Bool}
    (h : ∀ a, x = .ok a → Lists nodes (f a) p) : Lists nodes (x >>= f) p := by
  intro l hl
  cases hx : x with
  | error e =>
    rw [hx] at hl
    cases hl
  | ok a =>
    rw [hx] at hl
    exact h a hx l hl

theorem lists_requirements {requirements : Selector} {p : Node → Bool}
    (h : ∀ node : Node, requirements.Matches node.labels ↔ p node) :
    Lists nodes (listNodesWithRequirements c nodes requirements) p := by
  intro l hl
  rw [mem_listNodes hl]
  exact List.filter_congr fun node _ => Bool.eq_iff_iff.2 (h node)

/-- The node carries the label pair of the node pool. -/
def MatchesPair (nodePool : NodePool) (labels : Labels) : Prop :=
  labels.lookup nodePool.labelKey = some nodePool.labelValue

instance (nodePool : NodePool) (labels : Labels) : Decidable (MatchesPair nodePool labels) :=
  inferInstanceAs (Decidable (_ = _))

theorem matches_notEquals (k v : String) (labels : Labels) :
    Requirement.Matches ⟨k, .notEquals, [v]⟩ labels ↔ labels.lookup k ≠ some v := by
  cases h : labels.lookup k <;> simp [Requirement.Matches, h]

theorem matches_exists (k : String) (labels : Labels) :
    Requirement.Matches ⟨k, .exists, []⟩ labels ↔ (labels.lookup k).isSome := by
  simp [Requirement.Matches]

section

variable (nodePool : NodePool)

theorem lists_nameNoLabel : Lists nodes (getNodesMatchingNodePoolNameNoLabel cfg c nodePool nodes) fun node =>
    node.labels.lookup cfg.nodePoolNameLabel = some nodePool.name ∧ ¬ MatchesPair nodePool node.labels := by
  refine lists_bind fun r hr => lists_bind fun r' hr' => lists_requirements fun node => ?_
  rw [newRequirement_ok hr, newRequirement_ok hr', decide_eq_true_eq]
  simp [Selector.Matches, Requirement.matches_doubleEquals, matches_notEquals, MatchesPair]

theorem lists_defaultMatching :
    Lists nodes (getNodesInDefaultNodePoolMatchingOtherNodePoolLabel cfg c nodePool nodes) fun node =>
      node.labels.lookup cfg.nodePoolNameLabel = none ∧ MatchesPair nodePool node.labels := by
  refine lists_bind fun r hr => lists_bind fun r' hr' => lists_requirements fun node => ?_
  unfold getNodePoolLabelSelector requirementNodePoolName at hr
  rw [if_pos rfl, if_neg Bool.false_ne_true] at hr
  rw [newRequirement_ok hr, newRequirement_ok hr', decide_eq_true_eq]
  simp [Selector.Matches, Requirement.matches_doubleEquals, Requirement.matches_doesNotExist, MatchesPair]

theorem lists_nameAndLabel : Lists nodes (getNodesMatchingNodePoolNameAndLabel cfg c nodePool nodes) fun node =>
    node.labels.lookup cfg.nodePoolNameLabel = some nodePool.name ∧ MatchesPair nodePool node.labels := by
  refine lists_bind fun r hr => lists_bind fun r' hr' => lists_requirements fun node => ?_
  rw [newRequirement_ok hr, newRequirement_ok hr', decide_eq_true_eq]
  simp [Selector.Matches, Requirement.matches_doubleEquals, MatchesPair]

end

theorem lists_default : Lists nodes (getDefaultNodePoolNodes cfg c nodes) fun node =>
    node.labels.lookup cfg.nodePoolNameLabel = none := by
  refine lists_bind fun r hr => lists_requirements fun node => ?_
  unfold getNodePoolLabelSelector requirementNodePoolName at hr
  rw [if_pos rfl, if_neg Bool.false_ne_true] at hr
  rw [newRequirement_ok hr]
  simp [Selector.Matches, Requirement.matches_doesNotExist]

theorem lists_notDefault : Lists nodes (getNodesNotInDefaultNodePool cfg c nodes) fun node =>
    (node.labels.lookup cfg.nodePoolNameLabel).isSome := by
  refine lists_bind fun r hr => lists_requirements fun node => ?_
  unfold getNotNodePoolLabelSelector at hr
  rw [if_pos rfl] at hr
  rw [newRequirement_ok hr]
  simp [Selector.Matches, matches_exists]

theorem lists_pool {nodePoolName : String} (hne : nodePoolName ≠ cfg.defaultNodepoolName) :
    Lists nodes (getNodePoolNodes cfg c nodePoolName nodes) fun node =>
      node.labels.lookup cfg.nodePoolNameLabel = some nodePoolName := by
  refine lists_bind fun r hr => lists_requirements fun node => ?_
  unfold getNodePoolLabelSelector at hr
  rw [if_neg hne] at hr
  rw [newRequirement_ok hr]
  simp [Selector.Matches, Requirement.matches_doubleEquals]

theorem lists_getNodePoolNodes (nodePoolName : String) :
    Lists nodes (getNodePoolNodes cfg c nodePoolName nodes) fun node =>
      node.labels.lookup cfg.nodePoolNameLabel = poolLabel cfg nodePoolName := by
  unfold poolLabel
  split_ifs with hname
  · subst hname
    exact lists_default
  · exact lists_pool hname

end Krm.Nodes
