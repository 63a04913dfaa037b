import Krm.HelmHooks.Release

/-! # The cleanup hook goes on only when the controllers have stopped -/

open Krm.Lib
open Krm.Nodes (isNodePoolReference)
open Krm.Shards (Cluster ConfiguredNodePool StoredShard)
open Krm.Operator (isNoMatchError)

namespace Krm.HelmHooks

section

variable {σ : Type} {outside : OwnerReference → Bool} {opts : CleanupOptions} {s : Uninstall σ} {answer : Answer}
  {shard target : StoredShard σ}

/-! ## What cannot happen -/

theorem found_of_isHonest (h : answer.isHonest s) : ∀ e, answer.error = some e → e.isNotFound = false := by
  intro e he
  rw [Answer.isHonest, he, Option.all_some, Bool.and_eq_true] at h
  simpa using h.1

theorem lacksKind_of_isHonest (h : answer.isHonest s) {e : ApiError} (he : answer.error = some e)
    (hnoMatch : isNoMatchError e) : s.lacksKind := by
  rw [Answer.isHonest, he, Option.all_some, Bool.and_eq_true, hnoMatch] at h
  exact h.2

theorem controller_ended {deployment : Deployment} (hmem : deployment ∈ s.deployments.items)
    (h : s.allows opts (.deploymentGone deployment.key)) (hnot : deployment.deletion ≠ some .background) :
    deployment.uid ∉ s.controllers := by
  rw [Uninstall.allows, Store.get_of_mem hmem, Option.all_some, Bool.or_eq_true, Bool.and_eq_true,
    decide_eq_true_eq] at h
  rcases h with hbackground | ⟨-, hended⟩
  · exact absurd hbackground hnot
  · exact of_decide_eq_true hended

/-! ## No controller is left -/

/-- The deletion is of the object with the UID. -/
def Deletion.Meets (uid : String) : Deletion → Prop
  | .get => True
  | .delete uid' => uid' = uid
  | .wait uid' => uid' = uid

/-- The hook has not seen the Deployment go. -/
def Hook.Awaits (deployment : Deployment) : Hook σ → Prop
  | .listDeployments => True
  | .deployments deletion name names =>
    deployment.name ∈ names ∨ deployment.name = name ∧ deletion.Meets deployment.uid
  | .returned err => err.isSome
  | _ => False

/-- A Deployment that the hook will delete, and that goes after its pods. -/
structure Awaited (opts : CleanupOptions) (hook : Hook σ) (deployment : Deployment) : Prop where
  managed : isOperatorManaged opts deployment
  propagation : deployment.deletion ≠ some .background
  awaits : hook.Awaits deployment

/-- A controller that runs is one the hook still waits for. -/
def Accounted (opts : CleanupOptions) (s : Uninstall σ) : Prop :=
  ∀ uid ∈ s.controllers, ∃ deployment ∈ s.deployments.items, deployment.uid = uid ∧ Awaited opts s.hook deployment

theorem nextDeployment_awaits {deployment : Deployment} {names : List String} (h : deployment.name ∈ names) :
    (nextDeployment opts names : Hook σ).Awaits deployment := by
  cases names with
  | nil => cases h
  | cons name names =>
    rcases List.mem_cons.1 h with hname | hname
    · exact .inr ⟨hname, trivial⟩
    · exact .inl hname

theorem listDeployments_accounted (h : Accounted opts s) : Accounted opts (listDeployments opts s answer) := by
  unfold listDeployments
  split
  · intro uid huid
    obtain ⟨deployment, hmem, huid, hawaited⟩ := h uid huid
    exact ⟨deployment, hmem, huid, hawaited.managed, hawaited.propagation, rfl⟩
  · intro uid huid
    obtain ⟨deployment, hmem, huid, hawaited⟩ := h uid huid
    refine ⟨deployment, hmem, huid, hawaited.managed, hawaited.propagation, nextDeployment_awaits ?_⟩
    exact List.mem_map_of_mem (List.mem_filter.2 ⟨hmem, hawaited.managed⟩)

theorem markDeployment_keeps (hforeground : deletePropagation opts = .foreground) {key : String × String}
    {deployment : Deployment} (hmem : deployment ∈ s.deployments.items) (hnot : deployment.deletion ≠ some .background) :
    ∃ deletion, deletion ≠ some .background ∧
      { deployment with deletion := deletion } ∈ (markDeployment opts s key).items := by
  unfold markDeployment
  split
  · exact ⟨_, hnot, hmem⟩
  · rename_i stored hget
    by_cases hkey : deployment.key = key
    · have hstored : stored = deployment := Option.some.inj (hget.symm.trans (hkey ▸ Store.get_of_mem hmem))
      subst hstored
      refine ⟨some (stored.deletion.getD (deletePropagation opts)), ?_, ?_⟩
      · rw [hforeground]
        cases hdeletion : stored.deletion with
        | none => simp
        | some propagation => simpa [hdeletion] using hnot
      · refine (Store.mem_replace _ _ _ ?_ (Option.isSome_of_eq_some hget)).2 (.inl rfl)
        exact hkey
    · have hstored : stored.key = key := Store.get_key hget
      refine ⟨_, hnot, (Store.mem_replace _ _ _ ?_ (Option.isSome_of_eq_some hget)).2 (.inr ⟨hmem, hkey⟩)⟩
      exact hstored

theorem deleteAndWait_meets {deletion : Deletion} {uid name : String} (hmeets : deletion.Meets uid)
    (hhonest : ∀ e, answer.error = some e → e.isNotFound = false) :
    (∃ e, deleteAndWait deletion (deletionResult answer name (some uid)) = .failed e) ∨
      ∃ deletion', deleteAndWait deletion (deletionResult answer name (some uid)) = .next deletion' ∧
        deletion'.Meets uid := by
  -- The Deployment under the name that the hook is at stays under it, so the hook goes on with that one.
  unfold deletionResult
  cases herror : answer.error with
  | some e => exact .inl ⟨e, by simp [deleteAndWait, hhonest e herror]⟩
  | none =>
    refine .inr ?_
    cases deletion with
    | get => exact ⟨.delete uid, rfl, rfl⟩
    | delete uid' => exact ⟨.wait uid', rfl, hmeets⟩
    | wait uid' =>
      refine ⟨.wait uid', ?_, hmeets⟩
      have hsame : uid' = uid := hmeets
      simp [deleteAndWait, hsame]

theorem deleteDeployment_accounted (hforeground : deletePropagation opts = .foreground) (h : Accounted opts s)
    {deletion : Deletion} {name : String} {names : List String} (hhook : s.hook = .deployments deletion name names)
    (hhonest : ∀ e, answer.error = some e → e.isNotFound = false) :
    Accounted opts (deleteDeployment opts s answer deletion name names) := by
  intro uid huid
  obtain ⟨deployment, hmem, huid, hmanaged, hnot, hawaits⟩ := h uid huid
  -- The Deployment is stored as it was, or marked as being deleted.
  obtain ⟨marked, hmarked, hmem'⟩ : ∃ marked, marked ≠ some .background ∧ { deployment with deletion := marked } ∈
      (deleteDeployment opts s answer deletion name names).deployments.items := by
    unfold deleteDeployment
    dsimp only
    split
    · split_ifs
      · exact markDeployment_keeps hforeground hmem hnot
      · exact ⟨_, hnot, hmem⟩
    · exact ⟨_, hnot, hmem⟩
  refine ⟨_, hmem', huid, hmanaged, hmarked, ?_⟩
  rw [hhook] at hawaits
  unfold deleteDeployment
  dsimp only
  rcases hawaits with hlater | ⟨rfl, hmeets⟩
  · split
    · exact .inl hlater
    · exact nextDeployment_awaits hlater
    · rfl
  · have hkey : deployment.key = (opts.namespaceName, deployment.name) := by
      rw [isOperatorManaged, Bool.and_eq_true, decide_eq_true_eq] at hmanaged
      rw [Deployment.key, hmanaged.1]
    have hstored : (s.deployments.get (opts.namespaceName, deployment.name)).map (fun d => d.uid) =
        some deployment.uid := by
      rw [← hkey, Store.get_of_mem hmem]
      rfl
    rw [hstored]
    rcases deleteAndWait_meets hmeets hhonest with ⟨e, heq⟩ | ⟨deletion', heq, hmeets'⟩
    · rw [heq]
      rfl
    · rw [heq]
      exact .inr ⟨rfl, hmeets'⟩

/-- Once the hook waits for no Deployment any more. -/
def Hook.IsPast : Hook σ → Bool
  | .listDeployments => false
  | .deployments _ _ _ => false
  | .returned err => err.isNone
  | _ => true

theorem Accounted.controllers_eq_nil (h : Accounted opts s) (hpast : s.hook.IsPast) : s.controllers = [] := by
  apply List.eq_nil_iff_forall_not_mem.2
  intro uid huid
  obtain ⟨deployment, -, -, hawaited⟩ := h uid huid
  have hawaits := hawaited.awaits
  cases hhook : s.hook with
  | listDeployments | deployments => simp [hhook, Hook.IsPast] at hpast
  | returned err => cases err <;> simp [hhook, Hook.IsPast, Hook.Awaits] at hpast hawaits
  | listShards | shards | listNodePools | nodePools | config =>
    rw [hhook] at hawaits
    exact hawaits

theorem accounted_of_nil (h : s.controllers = []) : Accounted opts s := by
  intro uid huid
  rw [h] at huid
  cases huid

theorem cleanup_controllers (s : Uninstall σ) (answer : Answer) : (cleanup opts s answer).controllers = s.controllers := by
  -- Only the steps with Deployments need a look: before the others no controller is left.
  unfold cleanup
  split
  · unfold listDeployments
    split <;> rfl
  · rfl
  · unfold listAdoptedShards
    split
    · split_ifs <;> rfl
    · rfl
  · unfold releaseAdoptedShard
    split_ifs <;> rfl
  · unfold listNodePools
    split
    · split_ifs <;> rfl
    · rfl
  · rfl
  · rfl
  · rfl

theorem cleanup_accounted (hforeground : deletePropagation opts = .foreground) (h : Accounted opts s)
    (hhonest : answer.isHonest s) : Accounted opts (cleanup opts s answer) := by
  by_cases hpast : s.hook.IsPast
  · apply accounted_of_nil
    rw [cleanup_controllers, h.controllers_eq_nil hpast]
  · unfold cleanup
    split
    · exact listDeployments_accounted h
    · rename_i hhook
      exact deleteDeployment_accounted hforeground h hhook (found_of_isHonest hhonest)
    · rename_i hhook
      exact absurd (hhook ▸ rfl) hpast
    · rename_i hhook
      exact absurd (hhook ▸ rfl) hpast
    · rename_i hhook
      exact absurd (hhook ▸ rfl) hpast
    · rename_i hhook
      exact absurd (hhook ▸ rfl) hpast
    · rename_i hhook
      exact absurd (hhook ▸ rfl) hpast
    · exact h

theorem Accounted.step (hforeground : deletePropagation opts = .foreground) (h : Accounted opts s) {event : Event σ}
    (hallowed : s.allows opts event) : Accounted opts (s.step outside opts event) := by
  cases event with
  | hook answer => exact cleanup_accounted hforeground h hallowed
  | restarted =>
    intro uid huid
    obtain ⟨deployment, hmem, huid, hawaited⟩ := h uid huid
    exact ⟨deployment, hmem, huid, hawaited.managed, hawaited.propagation, trivial⟩
  | deploymentCreated deployment =>
    intro uid huid
    obtain ⟨stored, hmem, huid, hawaited⟩ := h uid huid
    have hspares : Store.Spares (fun _ => True) s.deployments (s.deployments.insert deployment) := .insert deployment
    exact ⟨stored, hspares stored hmem trivial, huid, hawaited⟩
  | podsEnded uid => exact fun uid' huid' => h uid' (List.mem_filter.1 huid').1
  | deploymentGone key =>
    intro uid huid
    obtain ⟨deployment, hmem, hdeployment, hawaited⟩ := h uid huid
    refine ⟨deployment, ?_, hdeployment, hawaited⟩
    refine List.mem_filter.2 ⟨hmem, decide_eq_true ?_⟩
    rintro rfl
    exact controller_ended hmem hallowed hawaited.propagation (hdeployment ▸ huid)
  | controllerWrote cluster => exact h
  | nodePoolCreated nodePool => exact h
  | nodePoolDeleted name =>
    rw [Uninstall.step, Uninstall.deleteNodePool]
    split <;> exact h
  | shardEdited name edit =>
    rw [Uninstall.step, Uninstall.editShard]
    split <;> exact h
  | shardCollected name =>
    rw [Uninstall.step, Uninstall.collect]
    split
    · exact h
    · split_ifs <;> exact h
  | configGone name => exact h

theorem deletePropagation_eq (h : opts.releaseAdoptedSchedulingShards ∨ opts.nodePoolFinalizer ≠ "") :
    deletePropagation opts = .foreground := by
  rw [deletePropagation, if_pos]
  simpa using h

theorem Accounted.run (hopts : opts.releaseAdoptedSchedulingShards ∨ opts.nodePoolFinalizer ≠ "") (h : Accounted opts s)
    {events : List (Event σ)} (hallowed : s.Along outside opts events) : Accounted opts (s.run outside opts events) :=
  run_invariant (fun _ _ hs he => hs.step (deletePropagation_eq hopts) he) h hallowed

/-- No controller runs once the hook releases shards. -/
theorem no_controller_beside_release
    (hopts : opts.releaseAdoptedSchedulingShards ∨ opts.nodePoolFinalizer ≠ "") (h : Accounted opts s)
    {events : List (Event σ)} (hallowed : s.Along outside opts events)
    (hpast : (s.run outside opts events).hook.IsPast) :
    (s.run outside opts events).controllers = [] :=
  (h.run hopts hallowed).controllers_eq_nil hpast

end

end Krm.HelmHooks
