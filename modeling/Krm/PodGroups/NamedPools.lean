import Krm.PodGroups.DefaultPools
import Krm.PodGroups.Requested

/-! # The node pools that an affinity names, at submission and at assignment -/

open Krm.Lib

namespace Krm.PodGroups

open PodMutator

/-- An expression asks for the node pool, in any phase. -/
def NamedBy (cfg : PodGroupAssignerConfig) (c : Cluster) (affinity : Affinity) (name : String) : Prop :=
  ∃ term ∈ nodeSelectorTerms (some affinity), ∃ expr ∈ term.matchExpressions, NamesByAbsence cfg expr name ∨
    ∃ nodePool ∈ c.nodePools.items, nodePool.name = name ∧ NamesByPair expr nodePool

/-- It asks for it in a way that counts at assignment. -/
def StillNamedBy (cfg : PodGroupAssignerConfig) (c : Cluster) (affinity : Affinity) (name : String) : Prop :=
  ∃ term ∈ nodeSelectorTerms (some affinity), ∃ expr ∈ term.matchExpressions, NamesByAbsence cfg expr name ∨
    ∃ nodePool ∈ c.nodePools.items, nodePool.name = name ∧ NamesByPair expr nodePool ∧ nodePool.phase ≠ .deleting

section

variable {cfg : PodGroupAssignerConfig} {c : Cluster} {affinity : Affinity}

theorem StillNamedBy.namedBy {name : String} (h : StillNamedBy cfg c affinity name) : NamedBy cfg c affinity name := by
  obtain ⟨term, hterm, expr, hexpr, habsence | ⟨nodePool, hmem, hname, hpair, -⟩⟩ := h
  · exact ⟨term, hterm, expr, hexpr, .inl habsence⟩
  · exact ⟨term, hterm, expr, hexpr, .inr ⟨nodePool, hmem, hname, hpair⟩⟩

/-! ## What the converter reads -/

section

variable (hpairs : PairsDistinct c.nodePools.items)
include hpairs

theorem mem_namedInTerms {name : String} (h : name ∈ namedInTerms cfg c affinity) :
    StillNamedBy cfg c affinity name := by
  obtain ⟨term, hterm, hname⟩ := List.mem_flatMap.1 h
  obtain ⟨expr, hexpr, hnamed⟩ := mem_getNodePoolsForTerm hname
  exact ⟨term, hterm, expr, hexpr, (mem_named_iff hpairs).1 hnamed⟩

theorem namedInTerms_ne {name : String} (h : StillNamedBy cfg c affinity name) :
    namedInTerms cfg c affinity ≠ [] := by
  obtain ⟨term, hterm, expr, hexpr, hnames⟩ := h
  have hnamed := (mem_named_iff hpairs).2 hnames
  rw [namedInTerms, Ne, List.flatMap_eq_nil_iff]
  intro hnone
  have hempty := getNodePoolsForTerm_eq_nil.1 (hnone term hterm) expr hexpr
  rw [hempty] at hnamed
  cases hnamed

theorem requestedNodePoolsFromAffinity_named {sources : NodePoolsSources}
    (haffinity : sources.affinity = some affinity) (hlist : c.fault .affinityNodePools = none)
    (hitems : c.nodePools.items ≠ []) {name : String} (hnamed : StillNamedBy cfg c affinity name) :
    requestedNodePoolsFromAffinity cfg c sources ≠ .ok [] := by
  intro h
  rw [requestedNodePoolsFromAffinity, haffinity] at h
  dsimp only at h
  rw [convertNodeAffinityToNodePoolNames_eq hlist hitems] at h
  obtain ⟨other, hother⟩ := List.exists_mem_of_ne_nil _ (namedInTerms_ne hpairs hnamed)
  have hmem := (mem_removeDuplicates _ other).2 hother
  rw [Except.ok.inj h] at hmem
  cases hmem

end

/-! ## What the webhook reads -/

theorem hasNodePoolInNodeAffinity_named {pm : PodMutator} {mapping : List (String × String)}
    (hmapping : pm.getNodePoolsMapping = .ok mapping)
    (h : pm.hasNodePoolInNodeAffinity (nodeSelectorTerms (some affinity)) mapping = true) :
    ∃ name, NamedBy pm.config.toPodGroupAssignerConfig pm.cluster affinity name := by
  obtain ⟨term, hterm, h⟩ := List.any_eq_true.1 h
  obtain ⟨expr, hexpr, h⟩ := List.any_eq_true.1 h
  split_ifs at h with hop
  · simp only [Bool.and_eq_true, decide_eq_true_eq] at h
    exact ⟨_, term, hterm, expr, hexpr, .inl ⟨h.1, h.2, rfl⟩⟩
  · obtain ⟨value, hvalue, hpair⟩ := List.any_eq_true.1 h
    unfold getNodePoolsMapping at hmapping
    obtain ⟨nodePools, hlist, hmapping⟩ := bind_ok hmapping
    cases attempt_ok hlist
    cases hmapping
    obtain ⟨nodePool, hmem, heq⟩ := List.mem_map.1 (of_decide_eq_true hpair)
    obtain ⟨hkey, rfl⟩ := Prod.mk.inj heq
    exact ⟨_, term, hterm, expr, hexpr, .inr ⟨nodePool, List.mem_of_mem_filter hmem, rfl, not_not.1 hop, hkey.symm, hvalue⟩⟩

/-! ## What is requested -/

theorem requestedNodePoolsFromAffinity_readable {sources : NodePoolsSources} (haffinity : sources.affinity = some affinity)
    {names : List String} (h : requestedNodePoolsFromAffinity cfg c sources = .ok names) (hne : names ≠ []) :
    c.fault .affinityNodePools = none ∧ c.nodePools.items ≠ [] := by
  unfold requestedNodePoolsFromAffinity at h
  rw [haffinity] at h
  dsimp only at h
  split at h
  · rename_i converted hconverted
    cases h
    unfold convertNodeAffinityToNodePoolNames at hconverted
    split at hconverted
    · exact absurd (Except.ok.inj hconverted).symm hne
    · exact absurd (Except.ok.inj hconverted).symm hne
    · obtain ⟨allNodePools, hall, -⟩ := bind_ok hconverted
      unfold getAllNodePools Cluster.attempt at hall
      split at hall
      · cases hall
      · rename_i hfault
        split_ifs at hall with hempty
        exact ⟨hfault, by simpa using hempty⟩
  · split_ifs at h
    exact absurd (Except.ok.inj h).symm hne

/-- Only named pools are requested exactly if one stays or is the fallback. -/
theorem only_named_pools_requested_iff (pm : PodMutator)
    (hpairs : ∀ first ∈ pm.cluster.nodePools.items, ∀ second ∈ pm.cluster.nodePools.items,
      first.labelKey = second.labelKey → first.labelValue = second.labelValue → first = second)
    {mapping : List (String × String)} (hmapping : pm.getNodePoolsMapping = .ok mapping) {sources : NodePoolsSources}
    (hunannotated : sources.podAnnotations.value pm.config.annotationNodepoolsKey = "")
    (haffinity : sources.affinity = some affinity)
    (hhas : pm.hasNodePoolInNodeAffinity (nodeSelectorTerms (some affinity)) mapping = true) {labels : Labels}
    (hlabel : labels.lookup pm.config.nodePoolLabelKey = some pm.config.unexistingNodepoolSentinel) {names : List String}
    (h : getRequestedNodePools pm.config.toPodGroupAssignerConfig pm.cluster labels sources = .ok names) :
    (∃ name, NamedBy pm.config.toPodGroupAssignerConfig pm.cluster affinity name) ∧
      ((∀ name ∈ names, NamedBy pm.config.toPodGroupAssignerConfig pm.cluster affinity name) ↔
        (pm.cluster.fault .affinityNodePools = none ∧ pm.cluster.nodePools.items ≠ [] ∧
          ∃ name, StillNamedBy pm.config.toPodGroupAssignerConfig pm.cluster affinity name) ∨
        ∀ name ∈ fallbackNodePools pm.config.toPodGroupAssignerConfig sources,
          NamedBy pm.config.toPodGroupAssignerConfig pm.cluster affinity name) := by
  refine ⟨hasNodePoolInNodeAffinity_named hmapping hhas, ?_⟩
  rcases getRequestedNodePools_ok h with ⟨hannotated, -⟩ | ⟨-, hne, hrequested⟩ | ⟨hunnamed, rfl⟩
  · exact absurd hunannotated hannotated
  · obtain ⟨hlist, hitems⟩ := requestedNodePoolsFromAffinity_readable haffinity hrequested hne
    have hstill : ∀ name ∈ names, StillNamedBy pm.config.toPodGroupAssignerConfig pm.cluster affinity name := by
      rcases requestedNodePoolsFromAffinity_ok hrequested with rfl | ⟨other, hother, rfl⟩
      · exact absurd rfl hne
      · cases haffinity.symm.trans hother
        intro name hname
        exact mem_namedInTerms hpairs ((mem_removeDuplicates _ name).1 hname)
    obtain ⟨name, hname⟩ := List.exists_mem_of_ne_nil names hne
    exact ⟨fun _ => .inl ⟨hlist, hitems, name, hstill name hname⟩, fun _ name hname => (hstill name hname).namedBy⟩
  · have hsentinel : labelledNodePool pm.config.toPodGroupAssignerConfig labels = none := by
      simp [labelledNodePool, hlabel]
    rw [hsentinel, Option.elim_none]
    refine (or_iff_right ?_).symm
    rintro ⟨hlist, hitems, name, hnamed⟩
    exact requestedNodePoolsFromAffinity_named hpairs haffinity hlist hitems hnamed hunnamed.2

end

namespace Sample

/-- A pod that requires the node pool with the value. -/
def requiring (nodePoolName : String) : NodePoolsSources where
  podAnnotations := ∅
  affinity := some ⟨some ⟨some [⟨[⟨"pool", .in, [nodePoolName]⟩], []⟩]⟩⟩
  ignoreConversionErrors := false
  project := none

def unassignedLabels : Labels := (∅ : Labels).insert "kai.scheduler/node-pool" "kai-unexisting-node-pool"

end Sample

open Sample in
theorem ready_pool_requested :
    getRequestedNodePools config (defaultsMutator .ready).cluster unassignedLabels (requiring "train") = .ok ["train"] ∧
      ∀ name ∈ ["train"], NamedBy config (defaultsMutator .ready).cluster
        ⟨some ⟨some [⟨[⟨"pool", .in, ["train"]⟩], []⟩]⟩⟩ name := by
  have hrequested : getRequestedNodePools config (defaultsMutator .ready).cluster unassignedLabels (requiring "train") =
      .ok ["train"] := rfl
  have hstill : StillNamedBy config (defaultsMutator .ready).cluster
      ⟨some ⟨some [⟨[⟨"pool", .in, ["train"]⟩], []⟩]⟩⟩ "train" :=
    ⟨_, List.mem_cons_self, _, List.mem_cons_self, .inr ⟨⟨"train", "pool", "train", .ready, "", train_ne⟩,
      List.mem_cons_of_mem _ List.mem_cons_self, rfl, ⟨rfl, rfl, by decide⟩, by decide⟩⟩
  have h := only_named_pools_requested_iff (defaultsMutator .ready) (poolsWithDefault_pairs .ready) rfl rfl rfl rfl rfl
    hrequested
  exact ⟨hrequested, h.2.2 (.inl ⟨rfl, by simp [defaultsMutator, poolsWithDefault], _, hstill⟩)⟩

open Sample in
theorem deleting_pool_replaced :
    (∃ mapping, (defaultsMutator .ready).getNodePoolsMapping = .ok mapping ∧ (defaultsMutator .ready).hasNodePoolInNodeAffinity
      (nodeSelectorTerms (requiring "infer").affinity) mapping = true) ∧
    getRequestedNodePools config (defaultsMutator .ready).cluster unassignedLabels (requiring "infer") = .ok ["default"] ∧
    ¬ NamedBy config (defaultsMutator .ready).cluster ⟨some ⟨some [⟨[⟨"pool", .in, ["infer"]⟩], []⟩]⟩⟩ "default" := by
  -- The webhook keeps the project's node pools out for the sake of `infer`, which is being deleted; the assigner
  -- then falls back on the default node pool.
  refine ⟨⟨_, rfl, rfl⟩, rfl, ?_⟩
  rintro ⟨term, hterm, expr, hexpr, hnames⟩
  cases List.mem_singleton.1 hterm
  cases List.mem_singleton.1 hexpr
  rcases hnames with ⟨hop, -⟩ | ⟨nodePool, hmem, hname, -, hkey, -⟩
  · cases hop
  · have hdefault : nodePool = ⟨"default", "", "", .ready, "", default_ne⟩ := Store.eq_of_mem hmem List.mem_cons_self hname
    rw [hdefault] at hkey
    exact absurd hkey (by decide)

end Krm.PodGroups
