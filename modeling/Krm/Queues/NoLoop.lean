import Krm.Lib.Graph
import Krm.Queues.DepartmentEntry

/-! # Department reconciles never make a queue loop

Cached reads may be stale, and queues may be deleted by anyone while a reconcile runs. -/

open Krm.Lib Relation

namespace Krm.Queues.NoLoop

open DepartmentHandler

/-- There is an edge from a queue to its parent queue, held or not. -/
def Parent (s : QueueStore) (child parent : String) : Prop :=
  ∃ q ∈ s.items, q.name = child ∧ q.spec.parentQueue = parent ∧ parent ≠ ""

theorem Parent.mono {s s' : QueueStore} (h : ∀ q ∈ s'.items, q ∈ s.items) (a b : String) (hab : Parent s' a b) :
    Parent s a b := by
  obtain ⟨q, hq, hname, hparent, hb⟩ := hab
  exact ⟨q, h q hq, hname, hparent, hb⟩

/-! ## The loop walk -/

/-- How many queues of the store the walk has not met yet. -/
def unseen (s : QueueStore) (seen : List String) : Nat := (s.items.filter (·.name ∉ seen)).length

theorem unseen_cons {s : QueueStore} {seen : List String} {q : Queue} (hq : q ∈ s.items) (hname : q.name ∉ seen) :
    unseen s (q.name :: seen) < unseen s seen := by
  have hsplit : s.items.filter (·.name ∉ q.name :: seen) =
      (s.items.filter (·.name ∉ seen)).filter (·.name ≠ q.name) := by
    rw [List.filter_filter]
    apply List.filter_congr
    intro q' _
    by_cases h : q'.name = q.name <;> simp [h]
  unfold unseen
  rw [hsplit]
  apply List.length_filter_lt_length_iff_exists.2
  exact ⟨q, List.mem_filter.2 ⟨hq, by simpa using hname⟩, by simp⟩

/-- The walk misses no queue above its start. -/
theorem walkUp_finds {v : View} {s : QueueStore} (hfree : LoopFree (Parent s))
    (hlive : ∀ k s', v.live k = .ok s' → ∀ q ∈ s.items, q ∈ s'.items) {name : String} (fuel k : Nat)
    (seen : List String) (start : String) (hstart : start ≠ "") (hpath : ReflTransGen (Parent s) start name)
    (hseen : ∀ z ∈ seen, ¬ ReflTransGen (Parent s) start z) (hfuel : unseen s seen < fuel) :
    walkUp v name fuel k seen start ≠ .ok false := by
  induction fuel generalizing k seen start with
  | zero => omega
  | succ fuel ih =>
    simp only [walkUp, hstart, if_false]
    by_cases hname : start = name
    · simp [hname]
    · have hnot : start ∉ seen := fun h => hseen start h .refl
      simp only [hname, hnot, if_false]
      cases hread : v.live k with
      | error e => simp
      | ok s' =>
        rcases hpath.cases_head with heq | ⟨next, ⟨q, hq, hqname, hnext, hne⟩, hrest⟩
        · exact absurd heq hname
        · subst hqname hnext
          simp only [Store.get_of_mem (hlive k s' hread q hq)]
          refine ih (k + 1) (q.name :: seen) _ hne hrest ?_ ?_
          · intro z hz hreach
            have hedge : Parent s q.name q.spec.parentQueue := ⟨q, hq, rfl, rfl, hne⟩
            rcases List.mem_cons.1 hz with rfl | hz
            · exact hfree _ (.head' hedge hreach)
            · exact hseen z hz (.head hedge hreach)
          · have := unseen_cons hq hnot
            omega

/-! ## One write -/

/-- Others only delete queues, live reads see what the write meets, and so do cached copies of the stored version. -/
structure Faithful (s : QueueStore) (m : Moment) : Prop where
  deleted : ∀ q ∈ m.store.items, q ∈ s.items
  live : ∀ k s', m.view.live k = .ok s' → ∀ q ∈ m.store.items, q ∈ s'.items
  counted : m.store.items.length ≤ m.view.queueCount
  cached : ∀ sel l, m.view.listQueues sel = .ok l → ∀ q ∈ l, ∀ q' ∈ m.store.items, q'.name = q.name →
    q'.resourceVersion = q.resourceVersion → q' = q

theorem wouldCloseQueueLoop_false {s : QueueStore} {m : Moment} (hm : Faithful s m) (hfree : LoopFree (Parent m.store))
    {name parent : String} (hparent : parent ≠ "") (h : wouldCloseQueueLoop m.view name parent = .ok false) :
    ¬ ReflTransGen (Parent m.store) parent name := by
  intro hpath
  refine walkUp_finds hfree hm.live _ 0 [] parent hparent hpath (by simp) ?_ h
  have hle : unseen m.store [] ≤ m.store.items.length := List.length_filter_le _ _
  have := hm.counted
  omega

theorem loopFree_puts {e : Queue} {s s' : QueueStore} (hfree : LoopFree (Parent s)) (hputs : Puts e s s')
    (hsafe : e.spec.parentQueue = "" ∨ Parent s e.name e.spec.parentQueue ∨
      ¬ ReflTransGen (Parent s) e.spec.parentQueue e.name) : LoopFree (Parent s') := by
  obtain ⟨hagree, stored, hstored, hequal⟩ := hputs
  have hedge : ∀ a b, Parent s' a b → Parent s a b ∨ (a = e.name ∧ b = e.spec.parentQueue) := by
    rintro a b ⟨q, hq, rfl, rfl, hb⟩
    by_cases hname : q.name = e.name
    · right
      have hsame : q = stored := by
        rw [← hname, Store.get_of_mem hq, Option.some.injEq] at hstored
        exact hstored
      obtain ⟨-, -, -, hspec⟩ := (areQueuesEqual_iff e stored).1 hequal
      exact ⟨hname, by rw [hsame, hspec]⟩
    · left
      exact ⟨q, (hagree.mem_iff (by simpa using hname)).2 hq, rfl, rfl, hb⟩
  rcases hsafe with hroot | hold | hback
  · refine hfree.mono fun a b hab => ?_
    rcases hedge a b hab with h | ⟨-, hb⟩
    · exact h
    · obtain ⟨-, -, -, -, hne⟩ := hab
      exact absurd (hb.trans hroot) hne
  · refine hfree.mono fun a b hab => ?_
    rcases hedge a b hab with h | ⟨rfl, rfl⟩
    · exact h
    · exact hold
  · exact hfree.add_edge hedge hback

/-! ## One spec entry -/

section Entry

variable {cfg : Config} {s s' : QueueStore} {m : Moment} {department : Department}

theorem handleExisting_puts (hm : Faithful s m) {e existing : Queue} (hname : e.name = existing.name)
    (hlisted : ∃ sel l, m.view.listQueues sel = .ok l ∧ existing ∈ l)
    (h : handleExisting cfg m e existing department.uid = .ok s') :
    s' = m.store ∨ (existing ∈ m.store.items ∧ Puts e m.store s') := by
  unfold handleExisting at h
  split at h
  · cases h
    exact .inl rfl
  · by_cases hext : isExternalQueue cfg existing department.uid
    · simp only [updateExistingQueue, hext, if_true, Except.ok.injEq] at h
      exact .inl h.symm
    · right
      have hstored : existing ∈ m.store.items := by
        rw [updateExistingQueue, if_neg hext] at h
        obtain ⟨⟨stored, hget, hversion⟩, -⟩ := clientUpdate_ok h
        obtain ⟨sel, l, hlist, hmem⟩ := hlisted
        have hsame := hm.cached sel l hlist existing hmem stored (Store.get_mem hget) (Store.get_key hget) hversion
        exact hsame ▸ Store.get_mem hget
      exact ⟨hstored, updateExistingQueue_ok (Store.get_of_mem hstored) hname (by simpa using hext) h⟩

theorem heldParent_safe (hm : Faithful s m) (hfree : LoopFree (Parent m.store)) {name parent current : String}
    (hwalk : parent = "" ∨ parent = current ∨ ∃ loop, wouldCloseQueueLoop m.view name parent = .ok loop) :
    heldParent m.view name parent current = "" ∨ heldParent m.view name parent current = current ∨
      ¬ ReflTransGen (Parent m.store) (heldParent m.view name parent current) name := by
  unfold heldParent
  split_ifs with hsame
  · rcases hsame with h | h
    · exact .inl h
    · exact .inr (.inl h)
  · rw [not_or] at hsame
    obtain ⟨loop, hloop⟩ : ∃ loop, wouldCloseQueueLoop m.view name parent = .ok loop := by
      rcases hwalk with h | h | h
      · exact absurd h hsame.1
      · exact absurd h hsame.2
      · exact h
    rw [hloop]
    cases loop with
    | true => exact .inl rfl
    | false => exact .inr (.inr (wouldCloseQueueLoop_false hm hfree hsame.1 hloop))

theorem loopFree_entry (hm : Faithful s m) (hfree : LoopFree (Parent s)) {entry : QueueConfig} {held : Bool}
    {name : String} (h : reconcileEntry cfg m department entry = .ok (held, name, s')) : LoopFree (Parent s') := by
  have hfree' : LoopFree (Parent m.store) := hfree.mono (Parent.mono hm.deleted)
  unfold reconcileEntry at h
  cases hparent : departmentQueueName cfg m.view department.parent entry.nodepool with
  | error e => simp [hparent, bind, Except.bind] at h
  | ok parent =>
    simp only [hparent, bind, Except.bind, buildQueueFromSpec_eq] at h
    rcases reconcileQueueObject_ok h with ⟨existing, hget, rfl, hstore, hwalk⟩ | ⟨e, -, -, -, hstore, hwalk⟩
    · rcases handleExisting_puts hm (expectedQueue_name ..) (getExistingQueueOfDepartment_listed hget).1 hstore with
        rfl | ⟨hmem, hputs⟩
      · exact hfree'
      · refine loopFree_puts hfree' hputs ?_
        rcases heldParent_safe hm hfree' hwalk with hroot | hsame | hback
        · exact .inl hroot
        · by_cases hempty : existing.spec.parentQueue = ""
          · exact .inl (hsame.trans hempty)
          · exact .inr (.inl ⟨existing, hmem, rfl, hsame.symm, fun h => hempty (hsame.symm.trans h)⟩)
        · exact .inr (.inr hback)
    · rcases createQueue_ok hstore with ⟨-, hputs⟩ | ⟨-, rfl⟩
      · refine loopFree_puts hfree' hputs ?_
        rcases heldParent_safe hm hfree' (hwalk.imp_right .inr) with hroot | hroot | hback
        · exact .inl hroot
        · exact .inl hroot
        · exact .inr (.inr hback)
      · exact hfree'

end Entry

/-! ## Reconciles -/

section Reconcile

variable {cfg : Config} {env : Environment} (henv : ∀ i s, Faithful s (env i s)) {department : Department}
include henv

theorem loopFree_entries {s : QueueStore} (hfree : LoopFree (Parent s)) (entries : List (QueueConfig × Nat)) :
    LoopFree (Parent (entries.foldl (handleEntry cfg env department) (.start s)).store) := by
  refine (handles cfg env department).foldl_induction (P := fun s => LoopFree (Parent s)) ?_ ?_ entries hfree
  · exact fun i s h => h.mono (Parent.mono (henv i s).deleted)
  · intro i s entry name s' h hentry
    obtain ⟨⟨held, result⟩, hentry, rfl⟩ := map_ok hentry
    exact loopFree_entry (henv i s) h hentry

theorem loopFree_handle {s : QueueStore} (hfree : LoopFree (Parent s)) :
    LoopFree (Parent (handle cfg env department s).2.2) := by
  have hdone : LoopFree (Parent (handleEntries cfg env department s).store) :=
    loopFree_entries henv hfree department.queues.zipIdx
  unfold handle
  dsimp only
  split_ifs
  · exact hdone
  · refine hdone.mono (Parent.mono fun q hq => ?_)
    refine (henv department.queues.length _).deleted q ?_
    refine deleteUnnecessaryQueues_induction (R := fun s s' => q ∈ s'.items → q ∈ s.items) (fun _ hq => hq)
      (fun h h' hq => h (h' hq)) (fun _ _ d _ _ s hq => ?_) hq
    exact ((Store.mem_remove s d.name q).1 hq).1

end Reconcile

/-! ## Runs -/

/-- A reconcile comes with the spec that it reads. -/
inductive Event where
  | reconcile (department : Department) (env : Environment)
  /-- A reconcile that is cut off after its first `n` entries. -/
  | interrupted (department : Department) (env : Environment) (n : Nat)
  | delete (name : String)

def step (cfg : Config) (s : QueueStore) : Event → QueueStore
  | .reconcile department env => (handle cfg env department s).2.2
  | .interrupted department env n =>
    ((department.queues.zipIdx.take n).foldl (handleEntry cfg env department) (.start s)).store
  | .delete name => s.remove name

def Allowed (_ : QueueStore) : Event → Prop
  | .reconcile _ env => ∀ i s, Faithful s (env i s)
  | .interrupted _ env _ => ∀ i s, Faithful s (env i s)
  | .delete _ => True

/-- From queues without a loop, no run makes one. -/
theorem department_reconciles_make_no_loop {cfg : Config} {s : QueueStore} (hfree : LoopFree (Parent s))
    {events : List Event} (hrun : Along (step cfg) Allowed s events) :
    LoopFree (Parent (run (step cfg) s events)) := by
  refine run_invariant (P := fun s => LoopFree (Parent s)) (fun s event h hok => ?_) hfree hrun
  cases event with
  | reconcile department env => exact loopFree_handle hok h
  | interrupted department env n => exact loopFree_entries hok h _
  | delete name => exact h.mono (Parent.mono fun q hq => ((Store.mem_remove s name q).1 hq).1)

theorem faithful_fresh (departments : DepartmentStore) (rand : Nat → Nat → Nat → String) (server : Nat → Server)
    (i : Nat) (s : QueueStore) : Faithful s (Environment.fresh departments rand server i s) where
  deleted := fun _ hq => hq
  live := by
    intro k s' hread q hq
    cases hread
    exact hq
  counted := Nat.le_refl _
  cached := by
    intro sel l hread q hq q' hq' hname _
    cases hread
    exact Store.eq_of_mem hq' (List.mem_of_mem_filter hq) hname

namespace Sample

def above : Department := ⟨"a", "u1", "b", [⟨"", "default", none, none⟩]⟩

def below : Department := ⟨"b", "u2", "a", [⟨"", "default", none, none⟩]⟩

def env (version : Nat) : Environment :=
  .fresh ⟨[above, below], by decide⟩ (fun _ _ _ => "x") fun _ => .willing version

/-- Departments name each other after one was reconciled as a root. -/
def events : List Event :=
  [.reconcile { above with parent := "" } (env 1), .reconcile below (env 2), .reconcile above (env 3)]

end Sample

open Sample in
theorem mutual_parents_make_no_loop :
    (run (step (.default false)) .empty events).items.map (fun q => (q.name, q.spec.parentQueue)) =
      [("a", ""), ("b", "a")] ∧
    LoopFree (Parent (run (step (.default false)) .empty events)) := by
  refine ⟨by decide, department_reconciles_make_no_loop ?_ ?_⟩
  · intro a hloop
    obtain ⟨b, ⟨q, hq, -⟩, -⟩ := TransGen.head'_iff.1 hloop
    exact absurd hq List.not_mem_nil
  · exact ⟨faithful_fresh _ _ _, faithful_fresh _ _ _, faithful_fresh _ _ _, trivial⟩

end Krm.Queues.NoLoop
