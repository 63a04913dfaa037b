import Krm.PodGroups.PoolLabel

/-! # The webhook on its own output -/

open Krm.Lib

namespace Krm.PodGroups

open PodMutator

/-! ## An expression twice -/

theorem replaced_replaced (expr : NodeSelectorRequirement) (term : NodeSelectorTerm) :
    replaced expr (replaced expr term) = replaced expr term := by
  simp [replaced, List.filter_append]

theorem addNodeAffinityToPodSpec_twice (affinity : Option Affinity) (expr : NodeSelectorRequirement) :
    addNodeAffinityToPodSpec (some (addNodeAffinityToPodSpec affinity [expr])) [expr] =
      addNodeAffinityToPodSpec affinity [expr] := by
  have hne : [expr] ≠ [] := List.cons_ne_nil _ _
  have hstart : startTerms (some (addNodeAffinityToPodSpec affinity [expr])) = (startTerms affinity).map (replaced expr) := by
    rw [startTerms, nodeSelectorTerms_added affinity hne, List.flatMap_singleton, if_neg (by simpa using startTerms_ne affinity)]
  have htwice : replaced expr ∘ replaced expr = replaced expr := funext (replaced_replaced expr)
  rw [addNodeAffinityToPodSpec_eq (some _) hne, hstart, addNodeAffinityToPodSpec_eq affinity hne]
  simp [htwice]

namespace PodMutator

variable {pm : PodMutator}

/-! ## Expressions that are recognised -/

theorem createMatchExpressionForNodePool_some {nodePoolName : String} {expr : NodeSelectorRequirement}
    (h : pm.createMatchExpressionForNodePool nodePoolName = .ok (some expr)) :
    expr = ⟨pm.config.nodePoolLabelKey, .doesNotExist, []⟩ ∨ ∃ nodePool ∈ pm.cluster.nodePools.items,
      nodePool.name ≠ pm.config.defaultNodepoolName ∧ expr = ⟨nodePool.labelKey, .in, [nodePool.labelValue]⟩ := by
  unfold createMatchExpressionForNodePool at h
  split_ifs at h with hdefault
  · exact .inl (Option.some.inj (Except.ok.inj h)).symm
  · split at h
    · split_ifs at h
    · rename_i nodePool hread
      have hget : pm.cluster.nodePools.get nodePoolName = some nodePool := found_ok (attempt_ok hread)
      have hname := Store.get_key hget
      split_ifs at h
      · cases h
      · exact .inr ⟨nodePool, Store.get_mem hget, hname ▸ hdefault, (Option.some.inj (Except.ok.inj h)).symm⟩

theorem mem_mapping {mapping : List (String × String)} (hmapping : pm.getNodePoolsMapping = .ok mapping)
    {nodePool : NodePool} (hmem : nodePool ∈ pm.cluster.nodePools.items)
    (hname : nodePool.name ≠ pm.config.defaultNodepoolName) : (nodePool.labelKey, nodePool.labelValue) ∈ mapping := by
  unfold getNodePoolsMapping at hmapping
  obtain ⟨nodePools, hlist, hmapping⟩ := bind_ok hmapping
  cases attempt_ok hlist
  cases hmapping
  exact List.mem_map.2 ⟨nodePool, List.mem_filter.2 ⟨hmem, by simpa using hname⟩, rfl⟩

/-- What the webhook adds is the sign by which it knows it. -/
theorem recognised {nodePoolName : String} {expr : NodeSelectorRequirement}
    (h : pm.createMatchExpressionForNodePool nodePoolName = .ok (some expr)) {mapping : List (String × String)}
    (hmapping : pm.getNodePoolsMapping = .ok mapping) {terms : List NodeSelectorTerm} {term : NodeSelectorTerm}
    (hterm : term ∈ terms) (hexpr : expr ∈ term.matchExpressions) : pm.hasNodePoolInNodeAffinity terms mapping = true := by
  refine List.any_eq_true.2 ⟨term, hterm, List.any_eq_true.2 ⟨expr, hexpr, ?_⟩⟩
  rcases createMatchExpressionForNodePool_some h with rfl | ⟨nodePool, hmem, hname, rfl⟩
  · simp
  · have hpair := mem_mapping hmapping hmem hname
    simpa using hpair

/-! ## The affinity twice -/

theorem setNodeAffinityForNodePools_ok {pod mutated : SubmittedPod} {names : List String}
    (h : pm.setNodeAffinityForNodePools pod names = .ok mutated) :
    mutated = pod ∨ ∃ exprs, exprs ≠ [] ∧
      (∀ expr ∈ exprs, ∃ name ∈ names, pm.createMatchExpressionForNodePool name = .ok (some expr)) ∧
      mutated = { pod with affinity := some (addNodeAffinityToPodSpec pod.affinity exprs) } := by
  unfold setNodeAffinityForNodePools at h
  obtain ⟨exprs, hexprs, h⟩ := bind_ok h
  split_ifs at h with hnone
  · exact .inl (Except.ok.inj h).symm
  · refine .inr ⟨exprs.reduceOption, by simpa using hnone, fun expr hexpr => ?_, (Except.ok.inj h).symm⟩
    exact (mapM_ok hexprs).2 (some expr) (List.reduceOption_mem_iff.1 hexpr)

theorem mutateNodeAffinityForDefaultNodePools_cases (pm : PodMutator) (pod : SubmittedPod) (name : String) :
    pm.mutateNodeAffinityForDefaultNodePools pod name = pod ∨
    (∃ projectName nodePoolName expr,
      getProjectNameOfNamespace pm.config.toPodGroupAssignerConfig (pm.reading .affinityNamespace) name = .ok projectName ∧
      pod.labels.lookup pm.config.nodePoolLabelKey = some nodePoolName ∧
      pm.createMatchExpressionForNodePool nodePoolName = .ok (some expr) ∧
      pm.mutateNodeAffinityForDefaultNodePools pod name =
        { pod with affinity := some (addNodeAffinityToPodSpec pod.affinity [expr]) }) ∨
    (pod.labels.lookup pm.config.nodePoolLabelKey = none ∧ ∃ exprs, exprs ≠ [] ∧
      (∀ expr ∈ exprs, ∃ nodePoolName, pm.createMatchExpressionForNodePool nodePoolName = .ok (some expr)) ∧
      pm.mutateNodeAffinityForDefaultNodePools pod name =
        { pod with affinity := some (addNodeAffinityToPodSpec pod.affinity exprs) }) := by
  unfold mutateNodeAffinityForDefaultNodePools
  split
  · exact .inl rfl
  · rename_i projectName hproject
    split
    · rename_i nodePoolName hlabel
      cases hset : pm.setNodeAffinityForNodePools pod [nodePoolName] with
      | error e => exact .inl rfl
      | ok mutated =>
        rcases setNodeAffinityForNodePools_ok hset with rfl | ⟨exprs, hne, hexprs, rfl⟩
        · exact .inl rfl
        · -- one name gives at most one expression
          obtain ⟨expr, hexpr⟩ := List.exists_mem_of_ne_nil exprs hne
          obtain ⟨other, hother, hcreated⟩ := hexprs expr hexpr
          cases List.mem_singleton.1 hother
          refine .inr (.inl ⟨projectName, nodePoolName, expr, hproject, hlabel, hcreated, ?_⟩)
          rw [setNodeAffinityForNodePools_single pod hcreated] at hset
          rw [← Except.ok.inj hset]
          rfl
    · rename_i hlabel
      split
      · exact .inl rfl
      · dsimp only
        split_ifs
        · exact .inl rfl
        · split
          · exact .inl rfl
          · exact .inl rfl
          · cases hset : pm.setNodeAffinityForNodePools pod (pm.defaultNodePools projectName) with
            | error e => exact .inl rfl
            | ok mutated =>
              rcases setNodeAffinityForNodePools_ok hset with rfl | ⟨exprs, hne, hexprs, rfl⟩
              · exact .inl rfl
              · refine .inr (.inr ⟨hlabel, exprs, hne, fun expr hexpr => ?_, rfl⟩)
                obtain ⟨nodePoolName, -, hcreated⟩ := hexprs expr hexpr
                exact ⟨nodePoolName, hcreated⟩

theorem mutateNodeAffinityForDefaultNodePools_named (pod : SubmittedPod)
    (hlabel : pod.labels.lookup pm.config.nodePoolLabelKey = none) (hterms : nodeSelectorTerms pod.affinity ≠ [])
    (hnamed : ∀ mapping, pm.getNodePoolsMapping = .ok mapping →
      pm.hasNodePoolInNodeAffinity (nodeSelectorTerms pod.affinity) mapping = true) (name : String) :
    pm.mutateNodeAffinityForDefaultNodePools pod name = pod := by
  have hhas : pm.hasNodePoolInPodsNodeAffinity pod ≠ .ok false := by
    intro hfalse
    unfold hasNodePoolInPodsNodeAffinity at hfalse
    dsimp only at hfalse
    rw [if_neg (by simpa using hterms)] at hfalse
    obtain ⟨mapping, hmapping, hfalse⟩ := bind_ok hfalse
    rw [hnamed mapping hmapping] at hfalse
    cases hfalse
  unfold mutateNodeAffinityForDefaultNodePools
  rw [hlabel]
  split
  · rfl
  · dsimp only
    split
    · rfl
    · split_ifs
      · rfl
      · split
        · rfl
        · rfl
        · rename_i hfalse
          exact absurd hfalse hhas

theorem mutateNodeAffinityForDefaultNodePools_twice (pm : PodMutator) (pod : SubmittedPod) (name : String) :
    pm.mutateNodeAffinityForDefaultNodePools (pm.mutateNodeAffinityForDefaultNodePools pod name) name =
      pm.mutateNodeAffinityForDefaultNodePools pod name := by
  rcases pm.mutateNodeAffinityForDefaultNodePools_cases pod name with
    h | ⟨projectName, nodePoolName, expr, hproject, hlabel, hcreated, h⟩ | ⟨hlabel, exprs, hne, hexprs, h⟩
  · rw [h, h]
  · have htwice := mutateNodeAffinityForDefaultNodePools_labelled
      { pod with affinity := some (addNodeAffinityToPodSpec pod.affinity [expr]) } hproject hlabel hcreated
    rw [addNodeAffinityToPodSpec_twice] at htwice
    rw [h, htwice]
  · rw [h]
    obtain ⟨expr, hexpr⟩ := List.exists_mem_of_ne_nil exprs hne
    obtain ⟨term, hterm⟩ := List.exists_mem_of_ne_nil _ (startTerms_ne pod.affinity)
    obtain ⟨nodePoolName, hcreated⟩ := hexprs expr hexpr
    have hadded : replaced expr term ∈ nodeSelectorTerms (some (addNodeAffinityToPodSpec pod.affinity exprs)) := by
      rw [nodeSelectorTerms_added pod.affinity hne]
      exact List.mem_flatMap.2 ⟨expr, hexpr, List.mem_map.2 ⟨term, hterm, rfl⟩⟩
    have hlast : expr ∈ (replaced expr term).matchExpressions := List.mem_append_right _ (List.mem_singleton_self expr)
    exact mutateNodeAffinityForDefaultNodePools_named
      { pod with affinity := some (addNodeAffinityToPodSpec pod.affinity exprs) } hlabel (List.ne_nil_of_mem hadded)
      (fun _ hmapping => recognised hcreated hmapping hadded hlast) name

/-! ## The whole webhook twice -/

theorem mutateNodeAffinityForDefaultNodePools_keeps (pm : PodMutator) (pod : SubmittedPod) (name : String) :
    (pm.mutateNodeAffinityForDefaultNodePools pod name).labels = pod.labels ∧
      (pm.mutateNodeAffinityForDefaultNodePools pod name).schedulerName = pod.schedulerName ∧
      (pm.mutateNodeAffinityForDefaultNodePools pod name).namespaceName = pod.namespaceName := by
  rcases pm.mutateNodeAffinityForDefaultNodePools_cases pod name with h | ⟨_, _, _, -, -, -, h⟩ | ⟨-, _, -, -, h⟩
  · rw [h]
    exact ⟨rfl, rfl, rfl⟩
  · rw [h]
    exact ⟨rfl, rfl, rfl⟩
  · rw [h]
    exact ⟨rfl, rfl, rfl⟩

theorem mutateProjectNameLabel_keeps (pm : PodMutator) (pod : SubmittedPod) (name : String) :
    (pm.mutateProjectNameLabel pod name).schedulerName = pod.schedulerName ∧
      (pm.mutateProjectNameLabel pod name).namespaceName = pod.namespaceName := by
  unfold mutateProjectNameLabel
  split
  · exact ⟨rfl, rfl⟩
  · split
    · exact ⟨rfl, rfl⟩
    · exact ⟨rfl, rfl⟩

theorem mutateProjectNameLabel_settled {pod settled : SubmittedPod} {name : String}
    (h : settled.labels = (pm.mutateProjectNameLabel pod name).labels) : pm.mutateProjectNameLabel settled name = settled := by
  unfold mutateProjectNameLabel at h ⊢
  split at h
  · rename_i projectName hlabel
    rw [h, hlabel]
  · rename_i hlabel
    split at h
    · rw [h, hlabel]
    · rw [h]
      simp [Finmap.lookup_insert]

theorem mutateSchedulerName_schedulerName (pm : PodMutator) (pod : SubmittedPod) :
    (pm.mutateSchedulerName pod).schedulerName = pm.config.schedulerName ∧
      (pm.mutateSchedulerName pod).namespaceName = pod.namespaceName := by
  unfold mutateSchedulerName
  split_ifs with h
  · exact ⟨h, rfl⟩
  · exact ⟨rfl, rfl⟩

theorem mutate_keeps (pm : PodMutator) (pod : SubmittedPod) (name : String) :
    (pm.mutate pod name).schedulerName = pm.config.schedulerName ∧
      (pm.mutate pod name).namespaceName = pod.namespaceName := by
  obtain ⟨-, hscheduler, hnamespace⟩ := pm.mutateNodeAffinityForDefaultNodePools_keeps
    (pm.mutateProjectNameLabel (pm.mutateSchedulerName pod) name) name
  rw [mutate, hscheduler, hnamespace, (pm.mutateProjectNameLabel_keeps _ _).1, (pm.mutateProjectNameLabel_keeps _ _).2]
  exact pm.mutateSchedulerName_schedulerName pod

theorem mutate_twice (pm : PodMutator) (pod : SubmittedPod) (name : String) :
    pm.mutate (pm.mutate pod name) name = pm.mutate pod name := by
  have hscheduler : pm.mutateSchedulerName (pm.mutate pod name) = pm.mutate pod name :=
    if_pos (pm.mutate_keeps pod name).1
  have hlabel : pm.mutateProjectNameLabel (pm.mutate pod name) name = pm.mutate pod name :=
    mutateProjectNameLabel_settled (pm.mutateNodeAffinityForDefaultNodePools_keeps _ name).1
  rw [mutate, hscheduler, hlabel, mutate, mutateNodeAffinityForDefaultNodePools_twice]

/-- The pod that a request leaves to be stored. -/
def Response.pod (submitted : SubmittedPod) : Response → Option SubmittedPod
  | .errored _ => none
  | .allowed _ => some submitted
  | .patched pod => some pod

/-- A pod that has been through the webhook goes through it unchanged. -/
theorem mutation_idempotent {requestNamespace : String} {pod mutated : SubmittedPod}
    (h : (pm.handle requestNamespace pod).pod pod = some mutated) :
    (pm.handle requestNamespace mutated).pod mutated = some mutated := by
  cases hresponse : pm.handle requestNamespace pod with
  | errored e =>
    rw [hresponse] at h
    cases h
  | allowed reason =>
    rw [hresponse] at h
    cases h
    rw [hresponse]
    rfl
  | patched patched =>
    rw [hresponse] at h
    cases h
    obtain rfl := handle_patched hresponse
    obtain ⟨hscheduler, hnamespace⟩ := pm.mutate_keeps pod
      (if requestNamespace = "" then pod.namespaceName else requestNamespace)
    rw [handle, if_pos hscheduler, hnamespace, mutate_twice]
    rfl

open Sample in
theorem labelled_pod_settles :
    ∃ mutated, ((mutator "pool" "zone").handle "ns" (labelled "zone")).pod (labelled "zone") = some mutated ∧
      ((mutator "pool" "zone").handle "ns" mutated).pod mutated = some mutated := by
  have hmutated : ((mutator "pool" "zone").handle "ns" (labelled "zone")).pod (labelled "zone") =
      some ((mutator "pool" "zone").mutate (labelled "zone") "ns") := rfl
  exact ⟨_, hmutated, mutation_idempotent hmutated⟩

end PodMutator

end Krm.PodGroups
