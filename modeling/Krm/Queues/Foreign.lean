import Krm.Queues.Frames

/-! # Queues of someone else, when external queues are allowed -/

open Krm.Lib

namespace Krm.Queues

/-- A reconcile of a Project or Department with its deletions, or the deletion of a Project. -/
inductive QueueRun where
  | reconcileProject (project : Project)
  | reconcileDepartment (department : Department)
  | deleteProject (project : Project)

namespace QueueRun

def uid : QueueRun → String
  | .reconcileProject project => project.uid
  | .reconcileDepartment department => department.uid
  | .deleteProject project => project.uid

def exec (cfg : Config) (env : Environment) (s : QueueStore) : QueueRun → QueueStore
  | .reconcileProject project => (QueueResourceHandler.handleResourceInner cfg env project s).2
  | .reconcileDepartment department => (DepartmentHandler.handle cfg env department s).2.2
  | .deleteProject project => (QueueDeletionHandler.onDeleteInner cfg (env 0 s) project).2

end QueueRun

section

variable {cfg : Config} {p : Queue → Prop} {uid : String}

theorem QueueResourceHandler.handleExisting_foreign {m : Moment} {e existing : Queue} {s' : QueueStore}
    (hp : ∀ q, p q → isExternalQueue cfg q uid) (hsame : Same m.store existing)
    (h : handleExisting cfg m e existing uid = .ok s') : m.store.Spares p s' := by
  unfold handleExisting at h
  split_ifs at h
  · exact Except.ok.inj h ▸ .refl
  · exact Except.ok.inj h ▸ .refl
  · exact updateExistingQueue_spares hsame (fun hext hexisting => by simp [hp existing hexisting] at hext) h

theorem DepartmentHandler.handleExisting_foreign {m : Moment} {e existing : Queue} {s' : QueueStore}
    (hp : ∀ q, p q → isExternalQueue cfg q uid) (hsame : Same m.store existing)
    (h : handleExisting cfg m e existing uid = .ok s') : m.store.Spares p s' := by
  unfold handleExisting at h
  split_ifs at h
  · exact Except.ok.inj h ▸ .refl
  · exact updateExistingQueue_spares hsame (fun hext hexisting => by simp [hp existing hexisting] at hext) h

theorem unnecessary_foreign {reconciled : List String} {kind : String} {d : Queue}
    (hp : ∀ q, p q → isExternalQueue cfg q uid) (h : unnecessary cfg reconciled uid kind d) : ¬ p d := by
  intro hd
  simp [unnecessary, hp d hd] at h

end

/-- A queue with other owners stays as it is. -/
theorem foreign_queue_untouched {cfg : Config} (hallow : cfg.allowExternalQueues = true) {env : Environment}
    (henv : ∀ i s, Current (env i s)) {q : Queue}
    (hothers : ∀ i (s : QueueStore), q ∈ s.items → q ∈ (env i s).store.items) (queueRun : QueueRun)
    (hforeign : isOwnedByUID q.ownerReferences queueRun.uid = false) {s : QueueStore} (hq : q ∈ s.items) :
    q ∈ (queueRun.exec cfg env s).items := by
  have hothers : ∀ i (s : QueueStore), s.Spares (· = q) (env i s).store := by
    rintro i s _ hmem rfl
    exact hothers i s hmem
  have hp : ∀ q', q' = q → isExternalQueue cfg q' queueRun.uid := by
    rintro _ rfl
    simp [isExternalQueue, hallow, hforeign]
  have hspares : s.Spares (· = q) (queueRun.exec cfg env s) := by
    cases queueRun with
    | reconcileProject project =>
      refine QueueResourceHandler.handleResourceInner_spares henv hothers ?_ ?_
      · intro i s e existing s' hread
        exact QueueResourceHandler.handleExisting_foreign hp (henv i s existing hread)
      · intro listed _ d _
        exact unnecessary_foreign hp
    | reconcileDepartment department =>
      refine DepartmentHandler.handle_spares henv hothers ?_ ?_
      · intro i s e existing s' hread _
        exact DepartmentHandler.handleExisting_foreign hp (henv i s existing hread)
      · intro listed _ d _
        exact unnecessary_foreign hp
    | deleteProject project =>
      refine (hothers 0 s).trans (QueueDeletionHandler.onDeleteInner_spares (henv 0 s) ?_)
      intro d _ hext _ hd
      exact absurd (hext.symm.trans (hp d hd)) (by simp)
  exact hspares q hq rfl

/-- A Project, and a queue like its own with another Project's UID. -/
def claimant : Project := ⟨"p", "u1", "", [⟨"", "default", none, none⟩]⟩

def lookalike : Queue where
  name := "p"
  labels := QueueResourceHandler.queueLabels (.default true) claimant "default"
  ownerReferences := [ownerReference projectKind "p" "u0"]
  spec := populateQueueSpec none "p" "" none
  resourceVersion := 1

theorem lookalike_untouched :
    lookalike ∈ ((QueueRun.reconcileProject claimant).exec (.default true)
      (.fresh .empty (fun _ _ _ => "aaaa") fun i => .willing (i + 2)) (.single lookalike)).items :=
  foreign_queue_untouched rfl (current_fresh _ _ _) (fun _ _ h => h) _ (by decide) (List.mem_singleton.2 rfl)

end Krm.Queues
