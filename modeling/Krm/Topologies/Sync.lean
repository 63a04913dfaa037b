import Krm.Topologies.Controller

/-! # A topology that is left alone is in sync with the bindings -/

open Krm.Lib
open Relation

namespace Krm.Topologies

/-! ## No event is missed -/

theorem view_grove_of_not_wakes {before after : BindingStore} {request : String}
    (h : ¬ wakes .grove before after request) : view .grove after request = view .grove before request := by
  have hsame : ∀ name, before.get name = after.get name ∨
      ((∀ old, before.get name = some old → request ∉ mapGroveToKaiReconcileRequest old) ∧
        ∀ new, after.get name = some new → request ∉ mapGroveToKaiReconcileRequest new) := by
    intro name
    by_contra hchanged
    simp only [not_or, not_and_or, not_forall, not_not] at hchanged
    obtain ⟨hne, hmapped⟩ := hchanged
    refine h ⟨name, hne, hmapped.imp ?_ ?_⟩
    · rintro ⟨old, hold, hreq⟩
      exact ⟨old, hold, hreq⟩
    · rintro ⟨new, hnew, hreq⟩
      exact ⟨new, hnew, hreq⟩
  ext binding
  simp only [view, Set.mem_ofPred_eq]
  constructor
  · rintro ⟨hmem, hreq⟩
    rcases hsame binding.name with heq | ⟨-, hnew⟩
    · exact ⟨Store.get_mem (heq.trans (Store.get_of_mem hmem)), hreq⟩
    · exact absurd hreq (hnew binding (Store.get_of_mem hmem))
  · rintro ⟨hmem, hreq⟩
    rcases hsame binding.name with heq | ⟨hold, -⟩
    · exact ⟨Store.get_mem (heq.symm.trans (Store.get_of_mem hmem)), hreq⟩
    · exact absurd hreq (hold binding (Store.get_of_mem hmem))

theorem mem_request_iff {binding : ClusterTopologyBinding} {request : String} :
    request ∈ mapGroveToKaiReconcileRequest binding ↔ request ≠ "" ∧ groveToKaiTopologyName binding = request := by
  unfold mapGroveToKaiReconcileRequest
  split_ifs with hempty
  · simp only [List.not_mem_nil, false_iff, not_and, hempty]
    exact fun hne heq => hne heq.symm
  · simp only [List.mem_singleton]
    constructor
    · rintro rfl
      exact ⟨hempty, rfl⟩
    · exact fun h => h.2.symm

/-! ## A run that saw what is there -/

theorem lookup_of_value {annotations : Labels} {key text : String} (htext : text ≠ "")
    (h : annotations.value key = text) : annotations.lookup key = some text := by
  unfold Labels.value at h
  cases hkey : annotations.lookup key with
  | none => exact absurd (by rw [← h, hkey, Option.getD_none]) htext
  | some v => rw [← h, hkey, Option.getD_some]

section

variable {cfg : TopologyConfig} {bindings : Set ClusterTopologyBinding} {listed : List ClusterTopologyBinding}
  {kaiTopology : Topology}

theorem inSync_of_setAnnotations {binding : ClusterTopologyBinding} (hmem : binding ∈ bindings)
    (h : setAnnotations cfg kaiTopology binding = none) : InSync cfg bindings kaiTopology := by
  unfold setAnnotations at h
  dsimp only at h
  split_ifs at h with hcurrent
  exact .inl ⟨binding, hmem, lookup_of_value binding.named hcurrent.1, lookup_of_value binding.versioned hcurrent.2⟩

theorem inSync_of_removeAnnotations (h : removeAnnotations cfg kaiTopology = none) : InSync cfg ∅ kaiTopology := by
  unfold removeAnnotations at h
  split_ifs at h with hnone
  exact .inr ⟨rfl, hnone⟩

theorem find_grove_cases {request : String} (hrequest : request ≠ "")
    (hlisted : {binding | binding ∈ listed ∧ request ∈ mapGroveToKaiReconcileRequest binding} = bindings) :
    (∃ binding ∈ bindings, findGroveTopologyForKai listed request = some binding) ∨
      (bindings = ∅ ∧ findGroveTopologyForKai listed request = none) := by
  unfold findGroveTopologyForKai
  cases hfind : listed.find? fun grove => groveToKaiTopologyName grove = request with
  | some binding =>
    have hmaps : groveToKaiTopologyName binding = request := by simpa using List.find?_some hfind
    refine .inl ⟨binding, ?_, rfl⟩
    rw [← hlisted]
    exact ⟨List.mem_of_find?_eq_some hfind, mem_request_iff.2 ⟨hrequest, hmaps⟩⟩
  | none =>
    refine .inr ⟨?_, rfl⟩
    rw [← hlisted, Set.eq_empty_iff_forall_notMem]
    rintro binding ⟨hmem, hreq⟩
    have hother := List.find?_eq_none.1 hfind binding hmem
    exact hother (by simpa using (mem_request_iff.1 hreq).2)

theorem inSync_of_reconcile
    (hlisted : {binding | binding ∈ listed ∧ kaiTopology.name ∈ mapGroveToKaiReconcileRequest binding} = bindings)
    (h : reconcile cfg kaiTopology.name (.ok kaiTopology) (.ok listed) = .ok none) :
    InSync cfg bindings kaiTopology := by
  unfold reconcile at h
  dsimp only at h
  rcases find_grove_cases kaiTopology.named hlisted with ⟨binding, hmem, hfind⟩ | ⟨rfl, hfind⟩
  · rw [hfind] at h
    exact inSync_of_setAnnotations hmem (Except.ok.inj h)
  · rw [hfind] at h
    exact inSync_of_removeAnnotations (Except.ok.inj h)

/-- What a reconcile sends brings the topology in sync. -/
theorem inSync_of_patch (hkeys : cfg.groveTopologyAnnotation ≠ cfg.groveTopologyResourceVersionAnnotation)
    {kaiTopology stored : Topology} {patch : Patch}
    (hlisted : {binding | binding ∈ listed ∧ kaiTopology.name ∈ mapGroveToKaiReconcileRequest binding} = bindings)
    (h : reconcile cfg kaiTopology.name (.ok kaiTopology) (.ok listed) = .ok (some patch)) :
    InSync cfg bindings { stored with annotations := patch.apply stored.annotations } := by
  unfold reconcile at h
  dsimp only at h
  rcases find_grove_cases kaiTopology.named hlisted with ⟨binding, hmem, hfind⟩ | ⟨rfl, hfind⟩
  · simp only [hfind, setAnnotations, Except.ok.injEq] at h
    split_ifs at h
    obtain rfl := Option.some.inj h
    refine .inl ⟨binding, hmem, ?_, ?_⟩
    · simp [Patch.apply, Finmap.lookup_insert_of_ne, hkeys]
    · simp [Patch.apply]
  · simp only [hfind, removeAnnotations, Except.ok.injEq] at h
    split_ifs at h
    obtain rfl := Option.some.inj h
    refine .inr ⟨rfl, ?_, ?_⟩
    · simp [Patch.apply, Finmap.mem_erase]
    · simp [Patch.apply, Finmap.mem_erase]

theorem patchAnnotation_get {patch : Patch} {request : String} {before after : TopologyStore}
    (h : patchAnnotation patch request before = .ok after) :
    ∃ stored, before.get request = some stored ∧
      after.get request = some { stored with annotations := patch.apply stored.annotations } := by
  unfold patchAnnotation at h
  split at h
  · cases h
  · rename_i stored hstored
    cases h
    have hname : stored.name = request := Store.get_key hstored
    refine ⟨stored, hstored, ?_⟩
    exact Store.get_replace_self before { stored with annotations := patch.apply stored.annotations } hname
      (by simp [hstored])

theorem topologyController_sound (hkeys : cfg.groveTopologyAnnotation ≠ cfg.groveTopologyResourceVersionAnnotation) :
    (topologyController cfg).Sound where
  covered := by
    intro kind before after request h
    cases kind with
    | kai => exact (not_not.1 h).symm
    | grove => exact view_grove_of_not_wakes h
  settles := by
    rintro request seen before after hseen ⟨kaiTopology, listed, patch, hkai, hgrove, hrun, -, hafter⟩ hquiet stored hstored
    have hread : kaiTopology = some stored := (hseen .kai kaiTopology hkai).trans hstored
    subst hread
    have hname : stored.name = request := Store.get_key hstored
    subst hname
    have hlisted := hseen .grove _ (hgrove rfl)
    cases patch with
    | none => exact inSync_of_reconcile hlisted hrun
    | some patch =>
      -- a patch that wakes nobody has changed nothing
      obtain ⟨current, hcurrent, hpatched⟩ := patchAnnotation_get hafter
      have hsame : (before .kai).get stored.name = (after .kai).get stored.name := not_not.1 (hquiet .kai)
      obtain rfl := Option.some.inj (hstored.symm.trans hcurrent)
      have hstays := Option.some.inj (hstored.symm.trans (hsame.trans hpatched))
      rw [hstays]
      exact inSync_of_patch hkeys hlisted hrun

/-- A settled topology is annotated with a binding that maps to it, if one does. -/
theorem annotations_follow_bindings
    (hkeys : cfg.groveTopologyAnnotation ≠ cfg.groveTopologyResourceVersionAnnotation)
    {stored : ∀ kind, Stored kind} {q : WorkQueue Kind Stored String Seen}
    (hreach : ReflTransGen (WorkQueue.Step (topologyController cfg)) (.start nothing stored) q)
    {kaiTopology : Topology} (hmem : kaiTopology ∈ (q.server .kai).items)
    (hquiet : q.Quiet (topologyController cfg) kaiTopology.name) :
    InSync cfg {binding | binding ∈ (q.server .grove).items ∧ groveToKaiTopologyName binding = kaiTopology.name}
      kaiTopology := by
  have hnothing : ∀ request, (topologyController cfg).good request fun kind =>
      (topologyController cfg).view kind (nothing kind) request := by
    intro request topology htopology
    cases htopology
  have hgood := WorkQueue.good_of_quiet (topologyController_sound hkeys) hnothing hreach hquiet kaiTopology
    (Store.get_of_mem hmem)
  have hview : view .grove (q.server .grove) kaiTopology.name =
      {binding | binding ∈ (q.server .grove).items ∧ groveToKaiTopologyName binding = kaiTopology.name} := by
    ext binding
    simp [view, mem_request_iff, kaiTopology.named]
  exact hview ▸ hgood

end

/-! ## A controller that annotates a topology -/

namespace Sample

def config : TopologyConfig := ⟨"kai.scheduler/grove-topology-name", "kai.scheduler/grove-topology-resource-version"⟩

def binding : ClusterTopologyBinding := ⟨"g", "7", [⟨kaiSchedulerName, "t"⟩], by decide, by decide⟩

def topology (annotations : Labels) : Topology := ⟨"t", annotations, by decide⟩

def patch : Patch := [(config.groveTopologyAnnotation, some "g"), (config.groveTopologyResourceVersionAnnotation, some "7")]

def stored (annotations : Labels) : (kind : Kind) → Stored kind
  | .kai => .single (topology annotations)
  | .grove => .single binding

end Sample

open Sample in
theorem annotated_topology_in_sync :
    ∃ q : WorkQueue Kind Stored String Seen,
      ReflTransGen (WorkQueue.Step (topologyController config)) (.start nothing (stored ∅)) q ∧
      topology (patch.apply ∅) ∈ (q.server .kai).items ∧ q.Quiet (topologyController config) "t" ∧
      InSync config {binding | binding ∈ (q.server .grove).items ∧ groveToKaiTopologyName binding = "t"}
        (topology (patch.apply ∅)) := by
  -- The controller starts, lists both kinds, takes the topology up, reads it and its binding and patches it.
  have hkai : ReflTransGen (WorkQueue.Step (topologyController config)) (.start nothing (stored ∅)) _ :=
    .single (.delivered _ .kai (stored ∅ .kai) [] rfl)
  have hgrove := hkai.tail (.delivered _ .grove (stored ∅ .grove) [] rfl)
  have hstarted := hgrove.tail (.started _ "t" (.inl (.inr nofun)) rfl)
  have hread := (hstarted.tail (.read _ "t" .kai _ rfl)).tail (.read _ "t" .grove _ rfl)
  have hpatched := hread.tail (.finished _ "t" _ (stored (patch.apply ∅)) rfl
    ⟨some (topology ∅), [binding], some patch, rfl, fun _ => rfl, by decide, rfl, rfl⟩)
  -- Its own patch wakes it, and now it writes nothing.
  have hchanged : (stored ∅ .kai).get "t" ≠ (stored (patch.apply ∅) .kai).get "t" := fun hsame => by
    have hname := congrArg (·.bind fun topology => topology.annotations.lookup config.groveTopologyAnnotation) hsame
    exact absurd hname (by decide)
  have htold := hpatched.tail (.delivered _ .kai (stored (patch.apply ∅) .kai) [] rfl)
  have hagain := htold.tail (.started _ "t" (.inr hchanged) rfl)
  have hreread := (hagain.tail (.read _ "t" .kai _ rfl)).tail (.read _ "t" .grove _ rfl)
  have hdone := hreread.tail (.finished _ "t" _ (stored (patch.apply ∅)) rfl
    ⟨some (topology (patch.apply ∅)), [binding], none, rfl, fun _ => rfl, by decide, rfl, rfl⟩)
  have hmem : topology (patch.apply ∅) ∈ (stored (patch.apply ∅) .kai).items := List.mem_singleton.2 rfl
  refine ⟨_, hdone, hmem, ?quiet, annotations_follow_bindings (by decide) hdone hmem ?quiet⟩
  refine ⟨fun hwaits => hwaits.2 rfl, rfl, fun kind => ?_⟩
  -- what is still undelivered is what the caches hold
  cases kind with
  | kai => exact fun hdue => hdue.elim (fun hchanged => hchanged rfl) id
  | grove =>
    rintro (⟨name, hchanged, -⟩ | ⟨name, hchanged, -⟩ | hdue)
    · exact hchanged rfl
    · exact hchanged rfl
    · exact hdue

end Krm.Topologies
