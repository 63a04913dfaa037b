import Krm.HelmHooks.Stopped

/-! # What an uninstall leaves, whatever happens beside the hook -/

open Krm.Lib
open Krm.Shards (Cluster ConfiguredNodePool StoredShard)

namespace Krm.HelmHooks

section

variable {σ : Type} {outside : OwnerReference → Bool} {opts : CleanupOptions} {s : Uninstall σ} {answer : Answer}
  {c c' : Cluster σ} {finalizer : String} {nodePool : ConfiguredNodePool σ} {todo : List (ConfiguredNodePool σ)}

/-- Every NodePool with the finalizer is still to come. -/
structure Listed (finalizer : String) (c : Cluster σ) (todo : List (ConfiguredNodePool σ)) : Prop where
  listed : ∀ nodePool ∈ todo, finalizer ∈ nodePool.finalizers
  complete : ∀ nodePool ∈ c.nodePools.items, finalizer ∈ nodePool.finalizers →
    nodePool.name ∈ todo.map fun listed => listed.name

theorem Listed.mono (h : Listed finalizer c todo)
    (hback : ∀ nodePool ∈ c'.nodePools.items, finalizer ∈ nodePool.finalizers →
      ∃ old ∈ c.nodePools.items, old.name = nodePool.name ∧ finalizer ∈ old.finalizers) :
    Listed finalizer c' todo where
  listed := h.listed
  complete := by
    intro nodePool hmem hfinalizer
    obtain ⟨old, hold, hname, hfinalizer⟩ := hback nodePool hmem hfinalizer
    exact hname ▸ h.complete old hold hfinalizer

theorem mem_storeNodePool {nodePool other : ConfiguredNodePool σ} {stored : ConfiguredNodePool σ}
    (hget : c.nodePools.get nodePool.name = some stored)
    (h : other ∈ (storeNodePool c nodePool).nodePools.items) :
    other = nodePool ∨ other ∈ c.nodePools.items ∧ other.name ≠ nodePool.name := by
  unfold storeNodePool at h
  split_ifs at h
  · obtain ⟨hmem, hname⟩ := List.mem_filter.1 h
    exact .inr ⟨hmem, of_decide_eq_true hname⟩
  · exact (Store.mem_replace _ _ _ rfl (Option.isSome_of_eq_some hget)).1 h

theorem mergeNodePool_finalizers {listed : ConfiguredNodePool σ} (hlisted : finalizer ∈ listed.finalizers)
    (current : ConfiguredNodePool σ) :
    finalizer ∉ (mergeNodePool listed (removeFinalizer finalizer listed).1 current).finalizers := by
  have hnot : finalizer ∉ listed.finalizers.filter (· ≠ finalizer) := by simp
  have hdiffers : listed.finalizers.filter (· ≠ finalizer) ≠ listed.finalizers := by
    intro heq
    rw [heq] at hnot
    exact hnot hlisted
  unfold mergeNodePool removeFinalizer setFinalizers
  dsimp only
  rw [if_neg hdiffers]
  exact hnot

theorem Listed.patch (h : Listed opts.nodePoolFinalizer s.cluster (nodePool :: todo)) :
    Listed opts.nodePoolFinalizer (patchNodePool opts s nodePool) todo where
  listed := fun other hother => h.listed other (List.mem_cons_of_mem _ hother)
  complete := by
    intro other hother hfinalizer
    have hlater : other ∈ s.cluster.nodePools.items → other.name ≠ nodePool.name →
        other.name ∈ todo.map fun listed => listed.name := fun hmem hname =>
      (List.mem_cons.1 (h.complete other hmem hfinalizer)).resolve_left hname
    unfold patchNodePool at hother
    split at hother
    · rename_i hnone
      exact hlater hother ((Store.get_eq_none_iff _ _).1 hnone other hother)
    · rename_i current hget
      have hname := Store.get_key hget
      rcases mem_storeNodePool (hname ▸ hget) hother with rfl | ⟨hmem, hne⟩
      · exact absurd hfinalizer (mergeNodePool_finalizers (h.listed nodePool List.mem_cons_self) current)
      · exact hlater hmem fun heq => hne (heq.trans hname.symm)

/-- Where the hook is with the NodePools. -/
def Hook.Strips (finalizer : String) (c : Cluster σ) : Hook σ → Prop
  | .nodePools nodePool todo => Listed finalizer c (nodePool :: todo)
  | .config _ => Listed finalizer c []
  | .returned none => Listed finalizer c []
  | _ => True

theorem Hook.Strips.mono {hook : Hook σ} (h : hook.Strips finalizer c)
    (hback : ∀ nodePool ∈ c'.nodePools.items, finalizer ∈ nodePool.finalizers →
      ∃ old ∈ c.nodePools.items, old.name = nodePool.name ∧ finalizer ∈ old.finalizers) :
    hook.Strips finalizer c' := by
  cases hook with
  | listDeployments | deployments | listShards | shards | listNodePools => trivial
  | nodePools | config => exact Listed.mono h hback
  | returned err =>
    cases err with
    | none => exact Listed.mono h hback
    | some e => trivial

theorem Hook.strips_of_not_isPast {hook : Hook σ} (h : hook.IsPast = false) (c : Cluster σ) :
    hook.Strips finalizer c := by
  cases hook with
  | listDeployments | deployments => trivial
  | listShards | shards | listNodePools | nodePools | config => cases h
  | returned err =>
    cases err with
    | none => cases h
    | some e => trivial

theorem nextNodePool_strips (h : Listed finalizer c todo) : (nextNodePool opts todo).Strips finalizer c := by
  cases todo with
  | nil =>
    unfold nextNodePool afterNodePools
    split_ifs <;> exact h
  | cons nodePool todo => exact h

section Strip

variable (hfinalizer : opts.nodePoolFinalizer ≠ "")
include hfinalizer

theorem afterShards_strips (c : Cluster σ) : (afterShards opts : Hook σ).Strips opts.nodePoolFinalizer c := by
  rw [afterShards, if_pos hfinalizer]
  trivial

theorem nextShard_strips (todo : List (StoredShard σ)) : (nextShard opts todo).Strips opts.nodePoolFinalizer c := by
  cases todo with
  | nil => exact afterShards_strips hfinalizer c
  | cons shard todo => trivial

theorem nextDeployment_strips (names : List String) :
    (nextDeployment opts names : Hook σ).Strips opts.nodePoolFinalizer c := by
  cases names with
  | nil =>
    unfold nextDeployment afterDeployments
    split_ifs
    · trivial
    · exact afterShards_strips hfinalizer c
  | cons name names => trivial

omit hfinalizer in
theorem afterPatch_strips {context : String} {next : Hook σ} (hnext : answer.error = none → next.Strips finalizer c)
    (hfound : ∀ e, answer.error = some e → e.isNotFound = false) :
    (afterPatch answer context next).Strips finalizer c := by
  unfold afterPatch
  split
  · rename_i e herror
    rw [if_neg (by simp [hfound e herror])]
    trivial
  · rename_i herror
    exact hnext herror

theorem cleanup_strips (hhonest : answer.isHonest s) (h : s.hook.Strips opts.nodePoolFinalizer s.cluster) :
    (cleanup opts s answer).hook.Strips opts.nodePoolFinalizer (cleanup opts s answer).cluster := by
  have hfound := found_of_isHonest hhonest
  unfold cleanup
  split <;> rename_i hhook
  · unfold listDeployments
    split
    · trivial
    · exact nextDeployment_strips hfinalizer _
  · unfold deleteDeployment
    dsimp only
    split
    · trivial
    · exact nextDeployment_strips hfinalizer _
    · trivial
  · unfold listAdoptedShards
    split
    · split_ifs
      · exact afterShards_strips hfinalizer _
      · trivial
    · exact nextShard_strips hfinalizer _
  · unfold releaseAdoptedShard
    split_ifs
    · exact afterPatch_strips (fun _ => nextShard_strips hfinalizer _) hfound
    · exact afterPatch_strips (fun _ => nextShard_strips hfinalizer _) hfound
    · exact nextShard_strips hfinalizer _
  · unfold listNodePools
    split
    · rename_i e herror
      split_ifs with hnoMatch
      · -- Without the kind there are no NodePools.
        have hnone := lacksKind_of_isHonest hhonest herror hnoMatch
        rw [Uninstall.lacksKind, hhook] at hnone
        have hlisted : Listed opts.nodePoolFinalizer s.cluster [] := by
          refine ⟨nofun, fun nodePool hmem => ?_⟩
          rw [List.isEmpty_iff.1 hnone] at hmem
          cases hmem
        exact nextNodePool_strips hlisted
      · trivial
    · refine nextNodePool_strips ⟨fun nodePool hmem => of_decide_eq_true (List.mem_filter.1 hmem).2, ?_⟩
      exact fun nodePool hmem hmine => List.mem_map_of_mem (List.mem_filter.2 ⟨hmem, decide_eq_true hmine⟩)
  · rw [hhook] at h
    unfold stripNodePoolFinalizer
    dsimp only
    refine afterPatch_strips (fun herror => nextNodePool_strips ?_) hfound
    -- a patch that reports no error was applied
    have heffect : answer.takesEffect = true := by
      cases answer with
      | served => rfl
      | refused e => cases herror
      | lost e => cases herror
    rw [if_pos heffect]
    exact h.patch
  · rw [hhook] at h
    unfold deleteConfig
    dsimp only
    split
    · exact h
    · exact h
    · split_ifs
      · exact h
      · trivial
  · exact h

theorem Accounted.step_strips (haccounted : Accounted opts s) {event : Event σ} (hallowed : s.allows opts event)
    (h : s.hook.Strips opts.nodePoolFinalizer s.cluster) :
    (s.step outside opts event).hook.Strips opts.nodePoolFinalizer (s.step outside opts event).cluster := by
  cases event with
  | hook answer => exact cleanup_strips hfinalizer hallowed h
  | restarted => trivial
  | controllerWrote cluster =>
    apply Hook.strips_of_not_isPast
    cases hpast : s.hook.IsPast with
    | false => exact hpast
    | true => simp [Uninstall.allows, haccounted.controllers_eq_nil hpast] at hallowed
  | nodePoolCreated nodePool =>
    refine h.mono (Store.forall_insert (fun other hmem hmine => ⟨other, hmem, rfl, hmine⟩) fun hmine => ?_)
    exact absurd hmine (of_decide_eq_true hallowed)
  | nodePoolDeleted name =>
    rw [Uninstall.step, Uninstall.deleteNodePool]
    split
    · exact h
    · rename_i nodePool hget
      have hname := Store.get_key hget
      refine h.mono fun other hmem hmine => ?_
      rcases mem_storeNodePool (hname ▸ hget) hmem with rfl | ⟨hmem, -⟩
      · exact ⟨nodePool, Store.get_mem hget, rfl, hmine⟩
      · exact ⟨other, hmem, rfl, hmine⟩
  | shardEdited name edit =>
    rw [Uninstall.step, Uninstall.editShard]
    split
    · exact h
    · exact h.mono fun other hmem hmine => ⟨other, hmem, rfl, hmine⟩
  | shardCollected name =>
    rw [Uninstall.step, Uninstall.collect]
    split
    · exact h
    · split_ifs
      · exact h.mono fun other hmem hmine => ⟨other, hmem, rfl, hmine⟩
      · exact h
  | deploymentCreated | podsEnded | deploymentGone | configGone => exact h

/-- When the hook has succeeded, no NodePool has the finalizer. -/
theorem no_nodePool_keeps_finalizer (h : Accounted opts s) (hhook : s.hook = .listDeployments)
    {events : List (Event σ)} (hallowed : s.Along outside opts events)
    (hreturned : (s.run outside opts events).hook = .returned none) :
    ∀ nodePool ∈ (s.run outside opts events).cluster.nodePools.items,
      opts.nodePoolFinalizer ∉ nodePool.finalizers := by
  have hforeground : deletePropagation opts = .foreground := deletePropagation_eq (.inr hfinalizer)
  have hstart : Accounted opts s ∧ s.hook.Strips opts.nodePoolFinalizer s.cluster := ⟨h, by rw [hhook]; trivial⟩
  have hend := run_invariant (fun s event (hs : Accounted opts s ∧ s.hook.Strips opts.nodePoolFinalizer s.cluster) he =>
    ⟨hs.1.step hforeground he, hs.1.step_strips hfinalizer he hs.2⟩) hstart hallowed
  have hstrips := hend.2
  rw [hreturned] at hstrips
  intro nodePool hmem hmine
  exact absurd (hstrips.complete nodePool hmem hmine) List.not_mem_nil

end Strip

end

/-! ## An uninstall during which a NodePool is deleted -/

section

def uninstallOptions : CleanupOptions := ⟨"kai-resource-management", "", true, "nodepool.kai.scheduler/finalize"⟩

def owningNodePool : ConfiguredNodePool Unit := { teamA with finalizers := [uninstallOptions.nodePoolFinalizer] }

/-- A shard with the label of a team. -/
def teamShard : StoredShard Unit := { freeShard "team-a" "team-a" with labels := (∅ : Labels).insert "team" "a" }

def owned : StoredShard Unit := adopted owningNodePool teamShard

def controllerDeployment : Deployment where
  namespaceName := "kai-resource-management"
  name := "nodepool-controller"
  labels := (∅ : Labels).insert operatorManagedByLabelKey operatorManagedByLabelValue
  uid := "uid-of-controller"
  deletion := none

def installed : Uninstall Unit where
  cluster := ⟨.single owningNodePool, .single owned⟩
  deployments := .single controllerDeployment
  controllers := [controllerDeployment.uid]
  configs := .empty
  hook := .listDeployments

def noOutsiders : OwnerReference → Bool := fun _ => false

def controllerStops : List (Event Unit) :=
  [.hook .served, .hook .served, .hook .served, .podsEnded controllerDeployment.uid,
    .deploymentGone controllerDeployment.key, .hook .served]

def stopped : Uninstall Unit := installed.run noOutsiders uninstallOptions controllerStops

theorem installed_accounted : Accounted uninstallOptions installed := by
  intro uid huid
  rw [List.mem_singleton.1 huid]
  exact ⟨controllerDeployment, List.mem_singleton_self _, rfl, by decide, by decide, trivial⟩

/-- The hook comes to the shards when the controller's pods have ended. -/
theorem no_controller_at_release : stopped.hook.IsPast ∧ stopped.controllers = [] :=
  ⟨by decide, no_controller_beside_release (.inl rfl) installed_accounted
    (show installed.Along noOutsiders uninstallOptions controllerStops by decide) (by decide)⟩

/-- The NodePool that nobody deleted stays, without the finalizer. -/
theorem remaining_nodePool_without_finalizer :
    let final := installed.run noOutsiders uninstallOptions (controllerStops ++ List.replicate 4 (.hook .served))
    (final.cluster.nodePools.items.map fun nodePool => nodePool.name) = ["team-a"] ∧
      ∀ nodePool ∈ final.cluster.nodePools.items, uninstallOptions.nodePoolFinalizer ∉ nodePool.finalizers :=
  ⟨by decide, no_nodePool_keeps_finalizer (by decide) installed_accounted rfl (by decide) rfl⟩

end

end Krm.HelmHooks
