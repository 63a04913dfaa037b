import Krm.PodGroups.Reinvocation

/-! # The project's default node pools, through the affinity and back -/

open Krm.Lib

namespace Krm.PodGroups

open PodMutator

/-- The node pool is there and is not being deleted. -/
def isKept (pm : PodMutator) (name : String) : Bool :=
  (pm.cluster.nodePools.get name).any fun nodePool => nodePool.phase ≠ .deleting

section

variable {pm : PodMutator}

/-! ## The expressions of the default node pools -/

variable {name : String} {expr : NodeSelectorRequirement} {exprs : List (Option NodeSelectorRequirement)}
  {pod : SubmittedPod} {names : List String} {cfg : PodGroupAssignerConfig} {affinity : Option Affinity}

/-- The key of the expression that the webhook makes for a node pool. -/
def keyOf (pm : PodMutator) (name : String) : String :=
  if name = pm.config.defaultNodepoolName then pm.config.nodePoolLabelKey
  else ((pm.cluster.nodePools.get name).map NodePool.labelKey).getD ""

/-- The default node pool gets its expression whatever its phase is. -/
def isAdded (pm : PodMutator) (name : String) : Bool := isKept pm name || name = pm.config.defaultNodepoolName

/-- The expression made for the node pool converts to it. -/
def Converts (pm : PodMutator) (name : String) (expr : NodeSelectorRequirement) : Prop :=
  expr.key = keyOf pm name ∧
    named pm.config.toPodGroupAssignerConfig (getNodePoolsMap pm.cluster.nodePools.items) expr = [name]

section

variable (hcalls : ∀ call, pm.fault call = none) (hpairs : PairsDistinct pm.cluster.nodePools.items)
include hcalls hpairs

theorem createMatchExpressionForNodePool_converts (hexists : (pm.cluster.nodePools.get name).isSome) :
    ∃ made, pm.createMatchExpressionForNodePool name = .ok made ∧
      List.Forall₂ (Converts pm) ([name].filter (isAdded pm)) made.toList := by
  by_cases hdefault : name = pm.config.defaultNodepoolName
  · refine ⟨some ⟨pm.config.nodePoolLabelKey, .doesNotExist, []⟩, ?_, ?_⟩
    · simp [createMatchExpressionForNodePool, hdefault]
    · simp [isAdded, Converts, keyOf, named, hdefault]
  · obtain ⟨nodePool, hget⟩ := Option.isSome_iff_exists.1 hexists
    have hname : nodePool.name = name := Store.get_key hget
    by_cases hphase : nodePool.phase = .deleting
    · refine ⟨none, ?_, ?_⟩
      · simp [createMatchExpressionForNodePool, hdefault, reading, Cluster.getNodePool, Cluster.attempt, hcalls, hget,
          Cluster.found, Lib.found, hphase]
      · simp [isAdded, isKept, hget, hphase, hdefault]
    · obtain ⟨expr, hexpr, hkey, hself⟩ := createMatchExpressionForNodePool_ok hcalls hpairs (Store.get_mem hget) hphase
      rw [hname] at hexpr hself
      refine ⟨some expr, hexpr, ?_⟩
      simp [isAdded, isKept, hget, hphase, Converts, hkey, poolKey, keyOf, hname, hdefault, hself]

theorem mapM_createMatchExpressionForNodePool (hexist : ∀ name ∈ names, (pm.cluster.nodePools.get name).isSome) :
    ∃ exprs, names.mapM pm.createMatchExpressionForNodePool = .ok exprs ∧
      List.Forall₂ (Converts pm) (names.filter (isAdded pm)) exprs.reduceOption := by
  induction names with
  | nil => exact ⟨[], rfl, .nil⟩
  | cons name names ih =>
    obtain ⟨made, hmade, hfirst⟩ := createMatchExpressionForNodePool_converts hcalls hpairs (hexist name List.mem_cons_self)
    obtain ⟨exprs, hexprs, hrest⟩ := ih fun other hother => hexist other (List.mem_cons_of_mem _ hother)
    refine ⟨made :: exprs, by rw [List.mapM_cons, hmade, hexprs]; rfl, ?_⟩
    have hboth : List.Forall₂ _ (_ ++ _) (_ ++ _) := List.rel_append hfirst hrest
    rw [← List.filter_append, List.singleton_append] at hboth
    cases made with
    | none => exact hboth
    | some expr => exact hboth

end

/-! ## The affinity that they are added to -/

/-- Asks for the node pool, for the default one by absence. -/
def NamesByAbsence (cfg : PodGroupAssignerConfig) (expr : NodeSelectorRequirement) (name : String) : Prop :=
  expr.operator = .doesNotExist ∧ expr.key = cfg.nodePoolLabelKey ∧ name = cfg.defaultNodepoolName

/-- The expression asks for a node pool by its pair. -/
def NamesByPair (expr : NodeSelectorRequirement) (nodePool : NodePool) : Prop :=
  expr.operator = .in ∧ expr.key = nodePool.labelKey ∧ nodePool.labelValue ∈ expr.values

theorem mem_named_iff {c : Cluster} (hpairs : PairsDistinct c.nodePools.items) :
    name ∈ named cfg (getNodePoolsMap c.nodePools.items) expr ↔ NamesByAbsence cfg expr name ∨
      ∃ nodePool ∈ c.nodePools.items, nodePool.name = name ∧ NamesByPair expr nodePool ∧ nodePool.phase ≠ .deleting := by
  constructor
  · intro h
    rcases mem_named h with habsence | ⟨hop, hkept, nodePool, hmem, rfl, hkey, hvalue⟩
    · exact .inl habsence
    · exact .inr ⟨nodePool, hmem, rfl, ⟨hop, hkey.symm, hvalue⟩, (kept_lookup hmem).1 hkept⟩
  · rintro (⟨hop, hkey, rfl⟩ | ⟨nodePool, hmem, rfl, ⟨hop, hkey, hvalue⟩, hphase⟩)
    · simp [named, hop, hkey]
    · have hname := nameOf_pair hpairs hmem
      have hkept := (kept_lookup hmem).2 hphase
      unfold named
      rw [if_neg (not_not.2 hop), hkey]
      refine List.mem_filterMap.2 ⟨nodePool.labelValue, hvalue, ?_⟩
      unfold nameOf at hname
      rw [pick, hname]
      simp [Option.filter, hkept]

/-- The expression asks for the default node pool by its pair. -/
def NamesDefault (pm : PodMutator) (expr : NodeSelectorRequirement) : Prop :=
  ∃ nodePool, pm.cluster.nodePools.get pm.config.defaultNodepoolName = some nodePool ∧ nodePool.phase ≠ .deleting ∧
    NamesByPair expr nodePool

/-- A term does so in an expression that is not replaced by one on the key. -/
def AsksForDefault (pm : PodMutator) (affinity : Option Affinity) (key : String) : Prop :=
  ∃ term ∈ nodeSelectorTerms affinity, ∃ expr ∈ term.matchExpressions, expr.key ≠ key ∧ NamesDefault pm expr

theorem named_of_pod (hnone : pm.hasNodePoolInPodsNodeAffinity pod = .ok false) {term : NodeSelectorTerm}
    (hterm : term ∈ nodeSelectorTerms pod.affinity) (hexpr : expr ∈ term.matchExpressions)
    (hname : name ∈ named pm.config.toPodGroupAssignerConfig (getNodePoolsMap pm.cluster.nodePools.items) expr) :
    name = pm.config.defaultNodepoolName ∧ NamesDefault pm expr := by
  unfold hasNodePoolInPodsNodeAffinity at hnone
  dsimp only at hnone
  rw [if_neg (by simpa using List.ne_nil_of_mem hterm)] at hnone
  obtain ⟨mapping, hmapping, hnone⟩ := bind_ok hnone
  have hunseen := List.any_eq_false.1 (Bool.eq_false_iff.2 (List.any_eq_false.1 (Except.ok.inj hnone) term hterm)) expr hexpr
  rcases mem_named hname with ⟨hop, hkey, -⟩ | ⟨hop, hkept, nodePool, hmem, rfl, hkey, hvalue⟩
  · simp [hop, hkey] at hunseen
  · by_cases hdefault : nodePool.name = pm.config.defaultNodepoolName
    · exact ⟨hdefault, nodePool, hdefault ▸ Store.get_of_mem hmem, (kept_lookup hmem).1 hkept, hop, hkey.symm, hvalue⟩
    · have hpair := mem_mapping hmapping hmem hdefault
      rw [hkey] at hpair
      simp only [hop, ne_eq, not_true_eq_false, if_false, List.any_eq_true, decide_eq_true_eq, not_exists] at hunseen
      exact absurd ⟨hvalue, hpair⟩ (hunseen nodePool.labelValue)

/-- Added expressions convert to their node pools if nothing else names one. -/
theorem convert_added {c : Cluster} (hlist : c.fault .affinityNodePools = none) (hsome : c.nodePools.items ≠ [])
    {exprs : List NodeSelectorRequirement} (hne : exprs ≠ [])
    (hnamed : List.Forall₂ (fun name expr => named cfg (getNodePoolsMap c.nodePools.items) expr = [name] ∧
      ∀ term ∈ nodeSelectorTerms affinity, ∀ other ∈ term.matchExpressions, other.key ≠ expr.key →
        named cfg (getNodePoolsMap c.nodePools.items) other = []) names exprs) :
    convertNodeAffinityToNodePoolNames cfg c (addNodeAffinityToPodSpec affinity exprs) = .ok (removeDuplicates names) := by
  have hterm : ∀ (name : String) (expr : NodeSelectorRequirement), ∀ term ∈ startTerms affinity,
      (named cfg (getNodePoolsMap c.nodePools.items) expr = [name] ∧
        ∀ term ∈ nodeSelectorTerms affinity, ∀ other ∈ term.matchExpressions, other.key ≠ expr.key →
          named cfg (getNodePoolsMap c.nodePools.items) other = []) →
      getNodePoolsForTerm cfg (getNodePoolsMap c.nodePools.items) [] (replaced expr term).matchExpressions = [name] := by
    rintro name expr term hterm ⟨hself, hrest⟩
    rw [replaced, getNodePoolsForTerm_concat, hself]
    refine if_pos (getNodePoolsForTerm_eq_nil.2 fun other hother => ?_)
    obtain ⟨hother, hkey⟩ := List.mem_filter.1 hother
    unfold startTerms at hterm
    split_ifs at hterm
    · cases List.mem_singleton.1 hterm
      cases hother
    · exact hrest term hterm other hother (by simpa using hkey)
  have hterms : namedInTerms cfg c (addNodeAffinityToPodSpec affinity exprs) = exprs.flatMap fun expr =>
      (startTerms affinity).flatMap fun term =>
        getNodePoolsForTerm cfg (getNodePoolsMap c.nodePools.items) [] (replaced expr term).matchExpressions := by
    rw [namedInTerms, nodeSelectorTerms_added affinity hne, List.flatMap_assoc]
    simp only [List.flatMap_map]
  rw [convertNodeAffinityToNodePoolNames_eq hlist hsome, hterms]
  refine congrArg Except.ok (removeDuplicates_flatMap (hnamed.imp fun name expr hself => ⟨?_, ?_⟩) [])
  · obtain ⟨term, hmem⟩ := List.exists_mem_of_ne_nil _ (startTerms_ne affinity)
    rw [Ne, List.flatMap_eq_nil_iff]
    intro hempty
    have hnil := hempty term hmem
    rw [hterm name expr term hmem hself] at hnil
    cases hnil
  · intro copy hcopy
    obtain ⟨term, hmem, hcopy⟩ := List.mem_flatMap.1 hcopy
    rw [hterm name expr term hmem hself] at hcopy
    exact List.mem_singleton.1 hcopy

theorem default_of_asked (hpairs : PairsDistinct pm.cluster.nodePools.items)
    (hnone : pm.hasNodePoolInPodsNodeAffinity pod = .ok false) {exprs : List NodeSelectorRequirement}
    (hexpr : expr ∈ exprs) (hasks : AsksForDefault pm pod.affinity expr.key) :
    pm.config.defaultNodepoolName ∈ namedInTerms pm.config.toPodGroupAssignerConfig pm.cluster
      (addNodeAffinityToPodSpec pod.affinity exprs) := by
  obtain ⟨term, hterm, other, hother, hkey, nodePool, hget, hphase, hnames⟩ := hasks
  have hleft : other ∈ term.matchExpressions.filter fun other => other.key ≠ expr.key :=
    List.mem_filter.2 ⟨hother, by simpa using hkey⟩
  have hfound : getNodePoolsForTerm pm.config.toPodGroupAssignerConfig (getNodePoolsMap pm.cluster.nodePools.items) []
      (term.matchExpressions.filter fun other => other.key ≠ expr.key) ≠ [] := by
    intro hempty
    have hunnamed := getNodePoolsForTerm_eq_nil.1 hempty other hleft
    have hmem : _ ∈ named pm.config.toPodGroupAssignerConfig _ other := (mem_named_iff hpairs).2
      (.inr ⟨nodePool, Store.get_mem hget, rfl, hnames, hphase⟩)
    rw [hunnamed] at hmem
    cases hmem
  obtain ⟨name, hname⟩ := List.exists_mem_of_ne_nil _ hfound
  obtain ⟨first, hfirst, hnamed⟩ := mem_getNodePoolsForTerm hname
  obtain ⟨rfl, -⟩ := named_of_pod hnone hterm (List.mem_of_mem_filter hfirst) hnamed
  rw [namedInTerms, nodeSelectorTerms_added _ (List.ne_nil_of_mem hexpr)]
  refine List.mem_flatMap.2 ⟨replaced expr term, List.mem_flatMap.2 ⟨expr, hexpr, List.mem_map.2 ⟨term, ?_, rfl⟩⟩, ?_⟩
  · rw [startTerms, if_neg (List.ne_nil_of_mem hterm)]
    exact hterm
  · rw [replaced, getNodePoolsForTerm_concat, if_neg hfound]
    exact hname

/-! ## The round trip -/

theorem mutateProjectNameLabel_other {key : String} (hkey : key ≠ pm.config.podProjectLabelKey) (pod : SubmittedPod)
    (name : String) : (pm.mutateProjectNameLabel pod name).labels.lookup key = pod.labels.lookup key := by
  unfold mutateProjectNameLabel
  split
  · rfl
  · split
    · rfl
    · exact Finmap.lookup_insert_of_ne _ hkey

theorem mutate_unlabelled (hcalls : ∀ call, pm.fault call = none) {name projectName : String} {namespaceObj : Namespace}
    (hget : pm.cluster.namespaces.get name = some namespaceObj)
    (hproject : namespaceObj.labels.lookup pm.config.namespaceProjectLabelKey = some projectName)
    (hread : projectName ∈ pm.cluster.projects) (hkeys : pm.config.nodePoolLabelKey ≠ pm.config.podProjectLabelKey)
    (hlabel : pod.labels.lookup pm.config.nodePoolLabelKey = none)
    (hnone : pm.hasNodePoolInPodsNodeAffinity pod = .ok false)
    (hexprs : (pm.defaultNodePools projectName).mapM pm.createMatchExpressionForNodePool = .ok exprs)
    (hne : exprs.reduceOption ≠ []) :
    (pm.mutate pod name).affinity = some (addNodeAffinityToPodSpec pod.affinity exprs.reduceOption) := by
  have hfound : (pm.reading .project).getProject .externalProject projectName = .ok () := by
    simp [reading, Cluster.getProject, Cluster.attempt, hcalls, hread, Cluster.found, Lib.found]
  have hdefaults : pm.defaultNodePools projectName ≠ [] := by
    intro hempty
    rw [hempty] at hexprs
    cases hexprs
    exact hne rfl
  have haffinity : (pm.mutateProjectNameLabel (pm.mutateSchedulerName pod) name).affinity = pod.affinity := by
    rw [mutateProjectNameLabel_affinity, (mutateSchedulerName_keeps pod).1]
  have hunlabelled : (pm.mutateProjectNameLabel (pm.mutateSchedulerName pod) name).labels.lookup
      pm.config.nodePoolLabelKey = none := by
    rw [mutateProjectNameLabel_other hkeys, (mutateSchedulerName_keeps pod).2, hlabel]
  have hunseen : pm.hasNodePoolInPodsNodeAffinity (pm.mutateProjectNameLabel (pm.mutateSchedulerName pod) name) =
      .ok false := by
    unfold hasNodePoolInPodsNodeAffinity at hnone ⊢
    rw [haffinity, hnone]
  rw [mutate, mutateNodeAffinityForDefaultNodePools, getProjectNameOfNamespace_found hcalls hget hproject]
  dsimp only
  rw [hunlabelled, hfound]
  dsimp only
  rw [if_neg (by simpa using hdefaults), hunseen]
  dsimp only
  rw [setNodeAffinityForNodePools, hexprs]
  simp only [bind, Except.bind, if_neg (show ¬ exprs.reduceOption.isEmpty by simpa using hne), haffinity]
  rfl

section

variable {exprs : List NodeSelectorRequirement}

theorem converts_to_added (hlist : pm.cluster.fault .affinityNodePools = none) (hitems : pm.cluster.nodePools.items ≠ [])
    (hnone : pm.hasNodePoolInPodsNodeAffinity pod = .ok false) (hne : exprs ≠ [])
    (hexprs : List.Forall₂ (Converts pm) (names.filter (isAdded pm)) exprs)
    (hspared : ∀ name ∈ names, isKept pm name → ¬ AsksForDefault pm pod.affinity (keyOf pm name)) :
    removeDuplicates (namedInTerms pm.config.toPodGroupAssignerConfig pm.cluster
      (addNodeAffinityToPodSpec pod.affinity exprs)) = removeDuplicates (names.filter (isAdded pm)) := by
  refine Except.ok.inj ((convertNodeAffinityToNodePoolNames_eq hlist hitems _).symm.trans
    (convert_added hlist hitems hne ?_))
  refine ((List.forall₂_and_left _ _).2 ⟨fun _ hname => hname, hexprs⟩).imp fun name expr hself => ?_
  obtain ⟨hname, hexprKey, hself⟩ := hself
  refine ⟨hself, fun term hterm other hother hkey => List.eq_nil_iff_forall_not_mem.2 fun found hfound => ?_⟩
  obtain ⟨-, hdefault⟩ := named_of_pod hnone hterm hother hfound
  obtain ⟨hmem, hadded⟩ := List.mem_filter.1 hname
  refine hspared name hmem ?_ ⟨term, hterm, other, hother, hexprKey ▸ hkey, hdefault⟩
  obtain ⟨nodePool, hget, hphase, -⟩ := hdefault
  rcases Bool.or_eq_true_iff.1 hadded with hkept | hsame
  · exact hkept
  · simp [isKept, of_decide_eq_true hsame, hget, hphase]

theorem filter_isAdded (hkeeps : pm.config.defaultNodepoolName ∈ names → isKept pm pm.config.defaultNodepoolName) :
    names.filter (isAdded pm) = names.filter (isKept pm) := by
  refine List.filter_congr fun name hname => ?_
  by_cases hdefault : name = pm.config.defaultNodepoolName
  · simp [isAdded, hdefault, hkeeps (hdefault ▸ hname)]
  · simp [isAdded, hdefault]

end

/-- The affinity converts to the kept default node pools, in their order. -/
def RoundTrips (pm : PodMutator) (projectName : String) (mutated : SubmittedPod) : Prop :=
  ∃ affinity, mutated.affinity = some affinity ∧
    convertNodeAffinityToNodePoolNames pm.config.toPodGroupAssignerConfig pm.cluster affinity =
      .ok (removeDuplicates ((pm.defaultNodePools projectName).filter (isKept pm)))

/-- The defaults come back unless the default pool is deleted, or a term asks for it by its pair. -/
theorem default_pools_round_trip_iff (hcalls : ∀ call, pm.fault call = none)
    (hlist : pm.cluster.fault .affinityNodePools = none)
    (hpairs : PairsDistinct pm.cluster.nodePools.items)
    (hkeys : pm.config.nodePoolLabelKey ≠ pm.config.podProjectLabelKey) {requestNamespace : String}
    {pod mutated : SubmittedPod} {namespaceObj : Namespace} {projectName : String}
    (hnamespace : pm.cluster.namespaces.get
      (if requestNamespace = "" then pod.namespaceName else requestNamespace) = some namespaceObj)
    (hproject : namespaceObj.labels.lookup pm.config.namespaceProjectLabelKey = some projectName)
    (hread : projectName ∈ pm.cluster.projects)
    (hexist : ∀ name ∈ pm.defaultNodePools projectName, (pm.cluster.nodePools.get name).isSome)
    (hlabel : pod.labels.lookup pm.config.nodePoolLabelKey = none)
    (hnone : pm.hasNodePoolInPodsNodeAffinity pod = .ok false)
    (hsome : ∃ name ∈ pm.defaultNodePools projectName, isKept pm name)
    (hmutated : pm.handle requestNamespace pod = .patched mutated) :
    ((∀ name ∈ pm.defaultNodePools projectName, isKept pm name → ¬ AsksForDefault pm pod.affinity (keyOf pm name)) →
      (RoundTrips pm projectName mutated ↔ (pm.config.defaultNodepoolName ∈ pm.defaultNodePools projectName →
        isKept pm pm.config.defaultNodepoolName))) ∧
    (pm.config.defaultNodepoolName ∉ pm.defaultNodePools projectName → (RoundTrips pm projectName mutated ↔
      ∀ name ∈ pm.defaultNodePools projectName, isKept pm name → ¬ AsksForDefault pm pod.affinity (keyOf pm name))) := by
  obtain ⟨kept, hmem, hkept⟩ := hsome
  obtain ⟨exprs, hexprs, hnamed⟩ := mapM_createMatchExpressionForNodePool hcalls hpairs hexist
  have hne : exprs.reduceOption ≠ [] := by
    rw [← List.length_pos_iff, ← hnamed.length_eq]
    exact List.length_pos_of_mem (List.mem_filter.2 ⟨hmem, by simp [isAdded, hkept]⟩)
  have hitems : pm.cluster.nodePools.items ≠ [] := by
    obtain ⟨nodePool, hget⟩ := Option.isSome_iff_exists.1 (hexist kept hmem)
    exact List.ne_nil_of_mem (Store.get_mem hget)
  have htrips : RoundTrips pm projectName mutated ↔
      removeDuplicates (namedInTerms pm.config.toPodGroupAssignerConfig pm.cluster
        (addNodeAffinityToPodSpec pod.affinity exprs.reduceOption)) =
        removeDuplicates ((pm.defaultNodePools projectName).filter (isKept pm)) := by
    simp only [RoundTrips, handle_patched hmutated, mutate_unlabelled hcalls hnamespace hproject hread hkeys hlabel hnone
      hexprs hne, Option.some.injEq, exists_eq_left', convertNodeAffinityToNodePoolNames_eq hlist hitems, Except.ok.injEq]
  refine ⟨fun hspared => ?_, fun hout => ?_⟩
  · -- without a request for the default node pool the added expressions alone decide
    rw [htrips, converts_to_added hlist hitems hnone hne hnamed hspared]
    refine ⟨fun h hdefault => ?_, fun hkeeps => by rw [filter_isAdded hkeeps]⟩
    have hback : pm.config.defaultNodepoolName ∈
        removeDuplicates ((pm.defaultNodePools projectName).filter (isKept pm)) := by
      rw [← h, mem_removeDuplicates]
      exact List.mem_filter.2 ⟨hdefault, by simp [isAdded]⟩
    exact (List.mem_filter.1 ((mem_removeDuplicates _ _).1 hback)).2
  · -- a pool whose expression asks for the default one would bring it back
    rw [htrips]
    refine ⟨fun h name hname hkept hasks => hout ?_, fun hspared => ?_⟩
    · obtain ⟨i, rfl⟩ := List.mem_iff_get.1 (List.mem_filter.2 ⟨hname, show isAdded pm name by simp [isAdded, hkept]⟩)
      obtain ⟨hlength, hget⟩ := List.forall₂_iff_get.1 hnamed
      have hkey := (hget i i.2 (hlength ▸ i.2)).1
      have hback := (mem_removeDuplicates _ _).2 (default_of_asked hpairs hnone (List.get_mem _ _) (hkey ▸ hasks))
      rw [h] at hback
      exact List.mem_of_mem_filter ((mem_removeDuplicates _ _).1 hback)
    · rw [converts_to_added hlist hitems hnone hne hnamed hspared, filter_isAdded (absurd · hout)]

end

namespace Sample

/-- The default node pool in a phase, a ready one, a deleted one. -/
def poolsWithDefault (phase : Nodes.NodePoolPhase) : List NodePool :=
  [⟨"default", "", "", phase, "", default_ne⟩, ⟨"train", "pool", "train", .ready, "", train_ne⟩,
    ⟨"infer", "pool", "infer", .deleting, "", infer_ne⟩]

variable (phase : Nodes.NodePoolPhase)

theorem poolsWithDefault_nodup : ((poolsWithDefault phase).map NodePool.name).Nodup := by
  simp [poolsWithDefault]

def defaultsMutator (phase : Nodes.NodePoolPhase) : PodMutator where
  config := ⟨config, "kai.resources/enforce-scheduler-name", "kai-scheduler", "project"⟩
  cluster := { cluster .ready with nodePools := ⟨poolsWithDefault phase, poolsWithDefault_nodup phase⟩ }
  namespaceAnnotations := fun _ => ∅
  defaultNodePools := fun _ => ["infer", "default", "train"]
  fault := fun _ => none

/-- A pod without a label, with an affinity to a zone. -/
def zoned : SubmittedPod where
  toPod := { pod with affinity := some ⟨some ⟨some [⟨[⟨"zone", .in, ["a"]⟩], []⟩]⟩⟩ }
  labels := ∅
  schedulerName := "kai-scheduler"

theorem poolsWithDefault_pairs : PairsDistinct (poolsWithDefault phase) := by
  simp [PairsDistinct, poolsWithDefault]

end Sample

open Sample in
theorem ready_pools_round_trip :
    RoundTrips (defaultsMutator .ready) "research" ((defaultsMutator .ready).mutate zoned "ns") ∧
      removeDuplicates (["infer", "default", "train"].filter (isKept (defaultsMutator .ready))) = ["default", "train"] := by
  have hmutated : (defaultsMutator .ready).handle "ns" zoned = .patched ((defaultsMutator .ready).mutate zoned "ns") := rfl
  have h := default_pools_round_trip_iff (fun _ => rfl) rfl (poolsWithDefault_pairs .ready) (by decide) rfl rfl (by decide)
    (by decide) rfl rfl ⟨"train", by decide, by decide⟩ hmutated
  refine ⟨(h.1 ?_).2 fun _ => by decide, by decide⟩
  rintro name - - ⟨term, hterm, expr, hexpr, -, nodePool, hget, -, -, hkey, -⟩
  cases hget
  cases List.mem_singleton.1 hterm
  cases List.mem_singleton.1 hexpr
  exact absurd hkey (by decide)

open Sample in
/-- The deleted default node pool keeps its expression and comes back. -/
theorem deleted_default_pool_comes_back :
    ∃ mutated affinity, (defaultsMutator .deleting).handle "ns" zoned = .patched mutated ∧
      mutated.affinity = some affinity ∧
      convertNodeAffinityToNodePoolNames config (defaultsMutator .deleting).cluster affinity = .ok ["default", "train"] ∧
      isKept (defaultsMutator .deleting) "default" = false :=
  ⟨_, _, rfl, rfl, rfl, rfl⟩

end Krm.PodGroups
