import Krm.Lib.RoundRobin
import Krm.PodGroups.Conversion
import Krm.PodGroups.Handoff
import Krm.PodGroups.Search

/-! # The requested list, as round robin needs it -/

open Krm.Lib

namespace Krm.PodGroups

section

variable {cfg : PodGroupAssignerConfig} {c : Cluster} {labels : Labels} {sources : NodePoolsSources} {names : List String}

/-! ## The sources -/

theorem requestedNodePoolsFromAffinity_ok (h : requestedNodePoolsFromAffinity cfg c sources = .ok names) :
    names = [] ∨ ∃ affinity, sources.affinity = some affinity ∧ names = removeDuplicates (namedInTerms cfg c affinity) := by
  unfold requestedNodePoolsFromAffinity at h
  split at h
  · exact .inl (Except.ok.inj h).symm
  · rename_i affinity haffinity
    split at h
    · rename_i converted hconverted
      cases h
      exact .inr ⟨affinity, haffinity, convertNodeAffinityToNodePoolNames_ok hconverted⟩
    · split_ifs at h
      exact .inl (Except.ok.inj h).symm

theorem affinity_names_distinct (h : requestedNodePoolsFromAffinity cfg c sources = .ok names) : names.Nodup := by
  rcases requestedNodePoolsFromAffinity_ok h with rfl | ⟨affinity, -, rfl⟩
  · exact List.nodup_nil
  · exact nodup_removeDuplicates _

theorem affinity_names_ne (hdefault : cfg.defaultNodepoolName ≠ "")
    (h : requestedNodePoolsFromAffinity cfg c sources = .ok names) : "" ∉ names := by
  rcases requestedNodePoolsFromAffinity_ok h with rfl | ⟨affinity, -, rfl⟩
  · exact List.not_mem_nil
  · rw [mem_removeDuplicates]
    intro hempty
    obtain ⟨term, -, hterm⟩ := List.mem_flatMap.1 hempty
    obtain ⟨matchExpression, -, hnamed⟩ := mem_getNodePoolsForTerm hterm
    rcases mem_named hnamed with ⟨-, -, hname⟩ | ⟨-, -, nodePool, -, hname, -⟩
    · exact hdefault hname.symm
    · exact nodePool.name_ne hname

/-- The annotation's words; an extra space makes an empty one. -/
def annotatedNodePools (cfg : PodGroupAssignerConfig) (sources : NodePoolsSources) : List String :=
  ((sources.podAnnotations.value cfg.annotationNodepoolsKey).toList.splitOn ' ').map String.ofList

theorem annotatedNodePools_ne : annotatedNodePools cfg sources ≠ [] := by
  rw [annotatedNodePools, Ne, List.map_eq_nil_iff]
  exact List.splitOn_ne_nil _ _

/-- Neither the annotation nor the affinity names a node pool. -/
def Unnamed (cfg : PodGroupAssignerConfig) (c : Cluster) (sources : NodePoolsSources) : Prop :=
  sources.podAnnotations.value cfg.annotationNodepoolsKey = "" ∧ requestedNodePoolsFromAffinity cfg c sources = .ok []

/-- The label of the object, unless it holds the sentinel. -/
def labelledNodePool (cfg : PodGroupAssignerConfig) (labels : Labels) : Option String :=
  (labels.lookup cfg.nodePoolLabelKey).filter fun nodePoolName => nodePoolName ≠ cfg.unexistingNodepoolSentinel

/-- The node pools of an object that names none itself. -/
def fallbackNodePools (cfg : PodGroupAssignerConfig) (sources : NodePoolsSources) : List String :=
  if sources.project.getD [] ≠ [] then sources.project.getD [] else [cfg.defaultNodepoolName]

theorem getRequestedNodePools_ok (h : getRequestedNodePools cfg c labels sources = .ok names) :
    (sources.podAnnotations.value cfg.annotationNodepoolsKey ≠ "" ∧ names = annotatedNodePools cfg sources) ∨
    (sources.podAnnotations.value cfg.annotationNodepoolsKey = "" ∧ names ≠ [] ∧
      requestedNodePoolsFromAffinity cfg c sources = .ok names) ∨
    (Unnamed cfg c sources ∧ names = (labelledNodePool cfg labels).elim (fallbackNodePools cfg sources) ([·])) := by
  unfold getRequestedNodePools at h
  dsimp only at h
  rw [← fallbackNodePools] at h
  split_ifs at h with hannotated
  · exact .inl ⟨hannotated, (Except.ok.inj h).symm⟩
  · rw [not_not] at hannotated
    obtain ⟨fromAffinity, haffinity, h⟩ := bind_ok h
    split_ifs at h with hnamed
    · cases h
      exact .inr (.inl ⟨hannotated, hnamed, haffinity⟩)
    · rw [not_not] at hnamed
      subst hnamed
      refine .inr (.inr ⟨⟨hannotated, haffinity⟩, ?_⟩)
      unfold labelledNodePool
      split at h
      · rename_i nodePoolName hlabel
        rw [hlabel]
        split_ifs at h with hsentinel
        · simp [Option.filter, hsentinel, ← Except.ok.inj h]
        · simp [Option.filter, hsentinel, ← Except.ok.inj h]
      · rename_i hlabel
        rw [hlabel]
        exact (Except.ok.inj h).symm

/-- The list's source has no empty name and none twice; affinities never do. -/
structure Tidy (cfg : PodGroupAssignerConfig) (c : Cluster) (labels : Labels) (sources : NodePoolsSources) : Prop where
  annotated : sources.podAnnotations.value cfg.annotationNodepoolsKey ≠ "" →
    "" ∉ annotatedNodePools cfg sources ∧ (annotatedNodePools cfg sources).Nodup
  label : Unnamed cfg c sources → labelledNodePool cfg labels ≠ some ""
  project : Unnamed cfg c sources → labelledNodePool cfg labels = none →
    "" ∉ sources.project.getD [] ∧ (sources.project.getD []).Nodup

theorem tidy_iff (hdefault : cfg.defaultNodepoolName ≠ "") (h : getRequestedNodePools cfg c labels sources = .ok names) :
    Tidy cfg c labels sources ↔ names ≠ [] ∧ "" ∉ names ∧ names.Nodup := by
  rcases getRequestedNodePools_ok h with ⟨hannotated, rfl⟩ | ⟨hannotated, hne, haffinity⟩ | ⟨hunnamed, rfl⟩
  · constructor
    · exact fun htidy => ⟨annotatedNodePools_ne, htidy.annotated hannotated⟩
    · exact fun hformed => ⟨fun _ => hformed.2, fun hunnamed => absurd hunnamed.1 hannotated,
        fun hunnamed => absurd hunnamed.1 hannotated⟩
  · have hnamed : ¬ Unnamed cfg c sources := fun hunnamed => hne (Except.ok.inj (haffinity.symm.trans hunnamed.2))
    constructor
    · exact fun _ => ⟨hne, affinity_names_ne hdefault haffinity, affinity_names_distinct haffinity⟩
    · exact fun _ => ⟨fun h => absurd hannotated h, fun h => absurd h hnamed, fun h => absurd h hnamed⟩
  · have hannotated : ¬ sources.podAnnotations.value cfg.annotationNodepoolsKey ≠ "" := not_not.2 hunnamed.1
    cases hlabel : labelledNodePool cfg labels with
    | some nodePoolName =>
      simp only [Option.elim_some]
      constructor
      · intro htidy
        have hname : nodePoolName ≠ "" := fun hempty => htidy.label hunnamed (hlabel.trans (congrArg some hempty))
        simpa using hname.symm
      · rintro ⟨-, hname, -⟩
        refine ⟨fun h => absurd h hannotated, fun _ hempty => ?_, fun _ hnone => ?_⟩
        · rw [hlabel] at hempty
          simp [Option.some.inj hempty] at hname
        · rw [hlabel] at hnone
          cases hnone
    | none =>
      simp only [Option.elim_none]
      have hlabelled : labelledNodePool cfg labels ≠ some "" := by simp [hlabel]
      have hfallback : "" ∉ sources.project.getD [] ∧ (sources.project.getD []).Nodup ↔
          fallbackNodePools cfg sources ≠ [] ∧ "" ∉ fallbackNodePools cfg sources ∧ (fallbackNodePools cfg sources).Nodup := by
        unfold fallbackNodePools
        split_ifs with hproject
        · rw [and_iff_right hproject]
        · rw [not_not] at hproject
          simp [hproject, hdefault.symm]
      rw [← hfallback]
      exact ⟨fun htidy => htidy.project hunnamed hlabel,
        fun hproject => ⟨fun h => absurd h hannotated, fun _ => hlabelled, fun _ _ => hproject⟩⟩

end

/-! ## The rotation -/

/-- A condition for the one is followed by an assignment to the other. -/
def Follows (mark : Option Bool) (assigned : String) (requested : List String) (last next : String) : Prop :=
  ∃ params, getInitialNodePoolAssignmentParams mark (some ⟨.unschedulableOnNodePool, last⟩) assigned requested = .ok params ∧
    params.nodePoolName = next

section

variable {requested : List String} {mark : Option Bool} {assigned : String}

theorem follows_of_nodup (hnodup : requested.Nodup) {i : Nat} {last next : String} (hlast : requested[i]? = some last)
    (hnext : requested[(i + 1) % requested.length]? = some next) : Follows mark assigned requested last next := by
  have hmem : last ∈ requested := List.mem_of_getElem? hlast
  obtain ⟨params, hparams⟩ := getInitialNodePoolAssignmentParams_of_ne_nil (List.ne_nil_of_mem hmem) mark
    (some ⟨.unschedulableOnNodePool, last⟩) assigned
  have hname := (getInitialNodePoolAssignmentParams_after hmem hparams).1
  obtain ⟨hi, rfl⟩ := List.getElem?_eq_some_iff.1 hlast
  rw [hnodup.idxOf_getElem, hnext] at hname
  exact ⟨params, hparams, (Option.some.inj hname).symm⟩

theorem reaches_of_nodup (hnodup : requested.Nodup) {i : Nat} {first : String} (hfirst : requested[i]? = some first)
    (t : Nat) {next : String} (hnext : requested[(i + t) % requested.length]? = some next) :
    Relation.ReflTransGen (Follows mark assigned requested) first next := by
  have hi : i < requested.length := (List.getElem?_eq_some_iff.1 hfirst).1
  induction t generalizing next with
  | zero =>
    rw [Nat.add_zero, Nat.mod_eq_of_lt hi, hfirst] at hnext
    cases hnext
    exact .refl
  | succ t ih =>
    have hplace : (i + t) % requested.length < requested.length := Nat.mod_lt _ (Nat.zero_lt_of_lt hi)
    have hlast := List.getElem?_eq_getElem hplace
    refine (ih hlast).tail (follows_of_nodup hnodup hlast ?_)
    rwa [Nat.mod_add_mod, Nat.add_assoc]

theorem every_entry_reached (hnodup : requested.Nodup) {first name : String} (hfirst : first ∈ requested)
    (hname : name ∈ requested) : Relation.ReflTransGen (Follows mark assigned requested) first name := by
  obtain ⟨i, hi⟩ := List.getElem?_of_mem hfirst
  obtain ⟨j, hj⟩ := List.getElem?_of_mem hname
  obtain ⟨t, -, ht⟩ := exists_mod_eq (List.getElem?_eq_some_iff.1 hj).1 i
  exact reaches_of_nodup hnodup hi t (by rw [ht, hj])

end

/-- Well formed exactly if the source is, and the rotation reaches all. -/
theorem requested_well_formed_iff {cfg : PodGroupAssignerConfig} {c : Cluster} {labels : Labels}
    {sources : NodePoolsSources} {names : List String} (hdefault : cfg.defaultNodepoolName ≠ "")
    (h : getRequestedNodePools cfg c labels sources = .ok names) :
    (names ≠ [] ∧ "" ∉ names ∧ names.Nodup ↔ Tidy cfg c labels sources) ∧
      (names.Nodup → ∀ mark assigned, ∀ first ∈ names, ∀ name ∈ names,
        Relation.ReflTransGen (Follows mark assigned names) first name) :=
  ⟨(tidy_iff hdefault h).symm, fun hnodup _ _ _ hfirst _ hname => every_entry_reached hnodup hfirst hname⟩

namespace Sample

/-- A pod with the given annotation, and nothing else. -/
def annotated (text : String) : NodePoolsSources where
  podAnnotations := (∅ : Labels).insert "kai.scheduler/node-pools" text
  affinity := none
  ignoreConversionErrors := false
  project := none

end Sample

open Sample in
theorem annotated_pools_take_turns :
    getRequestedNodePools config (cluster .ready) ∅ (annotated "train infer") = .ok ["train", "infer"] ∧
      Relation.ReflTransGen (Follows none "train" ["train", "infer"]) "infer" "train" := by
  have hrequested : getRequestedNodePools config (cluster .ready) ∅ (annotated "train infer") = .ok ["train", "infer"] := rfl
  have h := requested_well_formed_iff (by decide) hrequested
  exact ⟨hrequested, h.2 (by decide) none "train" "infer" (by decide) "train" (by decide)⟩

open Sample in
theorem repeated_pool_blocks_rotation :
    getRequestedNodePools config (cluster .ready) ∅ (annotated "train train infer") = .ok ["train", "train", "infer"] ∧
      ∀ mark assigned, ¬ Relation.ReflTransGen (Follows mark assigned ["train", "train", "infer"]) "train" "infer" := by
  -- With `train` twice in the annotation, the rotation stays there.
  refine ⟨rfl, fun mark assigned hreaches => ?_⟩
  have hstays : ∀ name, Relation.ReflTransGen (Follows mark assigned ["train", "train", "infer"]) "train" name →
      name = "train" := by
    intro name hname
    induction hname with
    | refl => rfl
    | tail _ hstep ih =>
      subst ih
      obtain ⟨params, hparams, rfl⟩ := hstep
      have hnext := (getInitialNodePoolAssignmentParams_after (by decide) hparams).1
      exact (Option.some.inj hnext).symm
  exact absurd (hstays "infer" hreaches) (by decide)

end Krm.PodGroups
