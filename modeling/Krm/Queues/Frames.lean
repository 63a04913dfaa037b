import Krm.Queues.Deletion
import Krm.Queues.DepartmentEntry

/-! # The queues that a reconcile leaves as they are

What a handler writes over or deletes, it has read. A set of queues is spared when no queue of it passes the handler's
own tests. -/

open Krm.Lib

namespace Krm.Queues

/-! ## What is read -/

def Read (v : View) (q : Queue) : Prop :=
  (∃ name, v.getQueue name = .ok q) ∨ ∃ sel l, v.listQueues sel = .ok l ∧ q ∈ l

/-- If the name is still held, then by the queue itself. -/
def Same (s : QueueStore) (q : Queue) : Prop := ∀ q' ∈ s.items, q'.name = q.name → q' = q

/-- Nothing that is read has changed when it is written. -/
def Current (m : Moment) : Prop := ∀ q, Read m.view q → Same m.store q

theorem read_listed {v : View} {key value : String} {l : List Queue}
    (h : listQueuesWithLabelSelector v key value = .ok l) {q : Queue} (hq : q ∈ l) : Read v q :=
  .inr ⟨_, l, h, hq⟩

theorem current_fresh (departments : DepartmentStore) (rand : Nat → Nat → Nat → String) (server : Nat → Server)
    (i : Nat) (s : QueueStore) : Current (Environment.fresh departments rand server i s) := by
  rintro q (⟨name, hget⟩ | ⟨sel, l, hlist, hq⟩) q' hq' hname
  · cases hstored : s.get name with
    | none => simp [Environment.fresh, View.getQueue_fresh_none hstored] at hget
    | some stored =>
      simp only [Environment.fresh, View.getQueue_fresh_some hstored, Except.ok.injEq] at hget
      subst hget
      exact Store.eq_of_mem hq' (Store.get_mem hstored) hname
  · obtain rfl := Except.ok.inj hlist
    exact Store.eq_of_mem hq' (List.mem_of_mem_filter hq) hname

/-! ## One write -/

section

variable {cfg : Config} {p : Queue → Prop} {s s' : QueueStore}

theorem createQueue_spares {server : Server} {e : Queue} (h : createQueue server e s = .ok s') : s.Spares p s' := by
  rcases createQueue_cases h with ⟨-, rfl⟩ | ⟨-, rfl⟩
  · exact .insert _
  · exact .refl

theorem updateExistingQueue_spares {server : Server} {e existing : Queue} {uid : String} (hsame : Same s existing)
    (hp : isExternalQueue cfg existing uid = false → ¬ p existing)
    (h : updateExistingQueue cfg server e existing uid s = .ok s') : s.Spares p s' := by
  unfold updateExistingQueue at h
  split_ifs at h with hext
  · exact Except.ok.inj h ▸ .refl
  · obtain ⟨-, rfl⟩ := clientUpdate_ok h
    refine .replace fun q hq hname => ?_
    rw [hsame q hq hname]
    exact hp (by simpa using hext)

theorem removals_spare {f : List ApiError × QueueStore → Queue → List ApiError × QueueStore} {gone : Queue → Prop}
    (hf : ∀ acc d, (f acc d).2 = acc.2 ∨ (gone d ∧ (f acc d).2 = acc.2.remove d.name)) {listed : List Queue}
    (hp : ∀ d ∈ listed, gone d → ¬ p d) (acc : List ApiError × QueueStore) (hsame : ∀ d ∈ listed, Same acc.2 d) :
    acc.2.Spares p (listed.foldl f acc).2 := by
  induction listed generalizing acc with
  | nil => exact .refl
  | cons d listed ih =>
    rw [List.foldl_cons]
    obtain ⟨hgone, hrest⟩ := List.forall_mem_cons.1 hp
    obtain ⟨hd, hlisted⟩ := List.forall_mem_cons.1 hsame
    rcases hf acc d with hkeep | ⟨hdgone, hremove⟩
    · rw [← hkeep] at hlisted ⊢
      exact ih hrest (f acc d) hlisted
    · have hremoved : acc.2.Spares p (f acc d).2 := by
        rw [hremove]
        refine .remove fun q hq hname => ?_
        rw [hd q hq hname]
        exact hgone hdgone
      refine hremoved.trans (ih hrest (f acc d) fun d' hd' q hq => ?_)
      rw [hremove, Store.mem_remove] at hq
      exact hlisted d' hd' q hq.1

theorem deleteUnnecessaryQueues_spares {m : Moment} (hm : Current m) {reconciled : List String}
    {uid key value kind : String} (hp : ∀ listed, listQueuesWithLabelSelector m.view key value = .ok listed →
      ∀ d ∈ listed, unnecessary cfg reconciled uid kind d → ¬ p d) :
    m.store.Spares p (deleteUnnecessaryQueues cfg m reconciled uid key value kind).2 := by
  unfold deleteUnnecessaryQueues
  split
  · exact .refl
  · rename_i listed hlist
    exact removals_spare deleteUnnecessaryQueue_cases (hp listed hlist) ([], m.store)
      fun d hd => hm d (read_listed hlist hd)

theorem QueueDeletionHandler.deleteListed_cases {server : Server} {uid : String} (acc : List ApiError × QueueStore)
    (d : Queue) :
    (deleteListed cfg server uid acc d).2 = acc.2 ∨
      ((isExternalQueue cfg d uid = false ∧ isManuallyOverridden cfg d = false) ∧
        (deleteListed cfg server uid acc d).2 = acc.2.remove d.name) := by
  unfold deleteListed deleteExistingResourceIfNeeded deleteResource
  split_ifs with hext hoverridden
  · exact .inl rfl
  · exact .inl rfl
  · cases hdelete : clientDelete server d.name acc.2 with
    | error e =>
      dsimp only
      split_ifs <;> exact .inl rfl
    | ok s => exact .inr ⟨by simp_all, clientDelete_ok hdelete⟩

theorem QueueDeletionHandler.onDeleteInner_spares {m : Moment} (hm : Current m) {project : Project}
    (hp : ∀ d, Read m.view d → isExternalQueue cfg d project.uid = false → isManuallyOverridden cfg d = false → ¬ p d) :
    m.store.Spares p (onDeleteInner cfg m project).2 := by
  unfold onDeleteInner
  split
  · exact .refl
  · rename_i listed hlist
    exact removals_spare deleteListed_cases (fun d hd h => hp d (read_listed hlist hd) h.1 h.2) ([], m.store)
      fun d hd => hm d (read_listed hlist hd)

end

/-! ## Reconciles -/

namespace QueueResourceHandler

variable {cfg : Config} {p : Queue → Prop} {project : Project}

theorem isQueueTaken_read {v : View} {department project name uid : String} {taken : Bool} {q : Queue}
    (h : isQueueTakenByOtherResource cfg v department project name uid = (taken, some q)) : Read v q := by
  unfold isQueueTakenByOtherResource at h
  cases hget : v.getQueue name with
  | error e => simp [hget] at h
  | ok held =>
    have hheld : held = q := by
      simp only [hget] at h
      split_ifs at h
      all_goals exact Option.some.inj (Prod.mk.inj h).2
    exact .inl ⟨name, hheld ▸ hget⟩

theorem getExistingQueueOfResource_read {v : View} {n projectName departmentName name uid : String} {q : Queue}
    (h : getExistingQueueOfResource cfg v n projectName departmentName name uid = .ok q) : Read v q := by
  unfold getExistingQueueOfResource at h
  split at h
  · rename_i q' hlabels
    obtain rfl := Except.ok.inj h
    obtain ⟨sel, -, hlist⟩ := bind_ok hlabels
    obtain ⟨l, hl, hfind⟩ := bind_ok hlist
    cases hfirst : l.find? fun q => isOwnedByKind q.ownerReferences
        (if projectName ≠ "" then projectKind else departmentKind) && !isExternalQueue cfg q uid with
    | none => simp only [hfirst, reduceCtorEq] at hfind
    | some first =>
      simp only [hfirst, Except.ok.injEq] at hfind
      subst hfind
      exact .inr ⟨sel, l, hl, List.mem_of_find?_eq_some hfirst⟩
  · split_ifs at h
    split at h
    · rename_i q' htaken
      obtain rfl := Except.ok.inj h
      exact isQueueTaken_read htaken
    · simp at h

theorem reconcileEntry_spares {m : Moment} {entry : QueueConfig} {name : String} {s' : QueueStore}
    (hp : ∀ e existing s', Read m.view existing → handleExisting cfg m e existing project.uid = .ok s' →
      m.store.Spares p s')
    (h : reconcileEntry cfg m project entry = .ok (name, s')) : m.store.Spares p s' := by
  obtain ⟨queueObject, -, hreconcile⟩ := bind_ok h
  unfold reconcileQueueObject at hreconcile
  split at hreconcile
  · split_ifs at hreconcile
    obtain ⟨created, hcreate, hpair⟩ := map_ok hreconcile
    obtain ⟨-, rfl⟩ := Prod.mk.inj hpair
    exact createQueue_spares hcreate
  · rename_i existing hexisting
    obtain ⟨written, hwrite, hpair⟩ := map_ok hreconcile
    obtain ⟨-, rfl⟩ := Prod.mk.inj hpair
    exact hp _ existing _ (getExistingQueueOfResource_read hexisting) hwrite

theorem handleResourceInner_spares {env : Environment} (henv : ∀ i s, Current (env i s))
    (hothers : ∀ i (s : QueueStore), s.Spares p (env i s).store)
    (hp : ∀ i s e existing s', Read (env i s).view existing →
      handleExisting cfg (env i s) e existing project.uid = .ok s' → (env i s).store.Spares p s')
    {s : QueueStore}
    (hd : ∀ listed, listQueuesWithLabelSelector (env project.queues.length (handleEntries cfg env project s).store).view
        cfg.projectLabelKey project.name = .ok listed → ∀ d ∈ listed,
      unnecessary cfg (handleEntries cfg env project s).reconciledQueues project.uid projectKind d → ¬ p d) :
    s.Spares p (handleResourceInner cfg env project s).2 := by
  have hentries : s.Spares p (handleEntries cfg env project s).store :=
    (handles cfg env project).foldl_induction (fun i s' h => h.trans (hothers i s'))
      (fun i s' _ _ _ h hentry => (h.trans (hothers i s')).trans (reconcileEntry_spares (hp i s') hentry)) _ .refl
  simp only [handleResourceInner]
  split_ifs
  · exact hentries
  · refine hentries.trans ((hothers project.queues.length _).trans ?_)
    exact deleteUnnecessaryQueues_spares (henv _ _) hd

end QueueResourceHandler

namespace DepartmentHandler

variable {cfg : Config} {p : Queue → Prop} {department : Department}

theorem reconcileEntry_spares {m : Moment} {entry : QueueConfig} {name : String} {s' : QueueStore}
    (hp : ∀ e existing s', Read m.view existing → isOwnedByUID existing.ownerReferences department.uid →
      handleExisting cfg m e existing department.uid = .ok s' → m.store.Spares p s')
    (h : (reconcileEntry cfg m department entry).map Prod.snd = .ok (name, s')) : m.store.Spares p s' := by
  obtain ⟨⟨held, result⟩, hentry, rfl⟩ := map_ok h
  obtain ⟨parentQueueName, -, hreconcile⟩ := bind_ok hentry
  unfold reconcileQueueObject at hreconcile
  split at hreconcile
  · split_ifs at hreconcile
    obtain ⟨⟨heldAsRoot, queue⟩, -, hrest⟩ := bind_ok hreconcile
    obtain ⟨created, hcreate, hpair⟩ := bind_ok hrest
    simp only [Except.ok.injEq, Prod.mk.injEq] at hpair
    obtain ⟨-, -, rfl⟩ := hpair
    exact createQueue_spares hcreate
  · rename_i existing hexisting
    obtain ⟨⟨heldAsRoot, queue⟩, -, hrest⟩ := bind_ok hreconcile
    obtain ⟨written, hwrite, hpair⟩ := bind_ok hrest
    simp only [Except.ok.injEq, Prod.mk.injEq] at hpair
    obtain ⟨-, -, rfl⟩ := hpair
    obtain ⟨hlisted, howned⟩ := getExistingQueueOfDepartment_listed hexisting
    exact hp _ existing _ (.inr hlisted) howned hwrite

theorem handle_spares {env : Environment} (henv : ∀ i s, Current (env i s))
    (hothers : ∀ i (s : QueueStore), s.Spares p (env i s).store)
    (hp : ∀ i s e existing s', Read (env i s).view existing → isOwnedByUID existing.ownerReferences department.uid →
      handleExisting cfg (env i s) e existing department.uid = .ok s' → (env i s).store.Spares p s')
    {s : QueueStore}
    (hd : ∀ listed, listQueuesWithLabelSelector
        (env department.queues.length (handleEntries cfg env department s).store).view
        cfg.queueDepartmentNameLabelKey department.name = .ok listed → ∀ d ∈ listed,
      unnecessary cfg (handleEntries cfg env department s).reconciledQueues department.uid departmentKind d → ¬ p d) :
    s.Spares p (handle cfg env department s).2.2 := by
  have hentries : s.Spares p (handleEntries cfg env department s).store :=
    (handles cfg env department).foldl_induction (fun i s' h => h.trans (hothers i s'))
      (fun i s' _ _ _ h hentry => (h.trans (hothers i s')).trans (reconcileEntry_spares (hp i s') hentry)) _ .refl
  simp only [handle]
  split_ifs
  · exact hentries
  · refine hentries.trans ((hothers department.queues.length _).trans ?_)
    exact deleteUnnecessaryQueues_spares (henv _ _) hd

end DepartmentHandler

end Krm.Queues
