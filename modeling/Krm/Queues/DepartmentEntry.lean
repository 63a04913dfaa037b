import Krm.Queues.Steps

/-! # What the work on one spec entry of a Department does -/

open Krm.Lib

namespace Krm.Queues.DepartmentHandler

/-- What the department searches for in the node pool. -/
def serves (cfg : Config) (department : Department) (n : String) (q : Queue) : Bool :=
  isOwnedByUID q.ownerReferences department.uid && inPool cfg n q

variable (cfg : Config) (department : Department) (entry : QueueConfig)

theorem getExistingQueueOfDepartment_fresh (departments : DepartmentStore) (rand : Nat → Nat → String)
    (department : Department) (s : QueueStore) (n : String) :
    (∃ e, getExistingQueueOfDepartment cfg (.fresh departments rand s) department n = .error e ∧
      e.isNotFound = false) ∨
    ((∃ r, nodePoolRequirement cfg n = .ok r) ∧
      getExistingQueueOfDepartment cfg (.fresh departments rand s) department n =
        match s.items.find? (serves cfg department n) with
        | some q => .ok q
        | none => .error (.notFound (department.name ++ "/" ++ n))) := by
  unfold getExistingQueueOfDepartment
  cases hreq : nodePoolRequirement cfg n with
  | error e =>
    left
    exact ⟨e, by simp [listQueuesForNodepool, hreq, bind, Except.bind], nodePoolRequirement_error hreq⟩
  | ok r =>
    right
    refine ⟨⟨r, rfl⟩, ?_⟩
    simp only [listQueuesForNodepool_fresh hreq, bind, Except.bind, find_list_inPool]
    rfl

theorem getExistingQueueOfDepartment_listed {cfg : Config} {v : View} {department : Department} {n : String} {q : Queue}
    (h : getExistingQueueOfDepartment cfg v department n = .ok q) :
    (∃ sel l, v.listQueues sel = .ok l ∧ q ∈ l) ∧ isOwnedByUID q.ownerReferences department.uid := by
  obtain ⟨l, hl, hfind⟩ := bind_ok h
  obtain ⟨r, -, hlist⟩ := bind_ok hl
  split at hfind
  · rename_i q' hq'
    cases hfind
    have howned := List.find?_some hq'
    exact ⟨⟨[r], l, hlist, List.mem_of_find?_eq_some hq'⟩, howned⟩
  · cases hfind

/-! ## The expected queue -/

def queueLabels (cfg : Config) (department : Department) (n : String) : Labels :=
  addNodePoolLabelIfNeeded cfg ((∅ : Labels).insert cfg.queueDepartmentNameLabelKey department.name) n

def expectedQueue (cfg : Config) (department : Department) (entry : QueueConfig) (parentQueue name : String) :
    Queue where
  name := name
  labels := queueLabels cfg department entry.nodepool
  ownerReferences := [ownerReference departmentKind department.name department.uid]
  spec := populateQueueSpec entry.resources department.name parentQueue entry.priority
  resourceVersion := 0

@[simp] theorem expectedQueue_name (parent name : String) :
    (expectedQueue cfg department entry parent name).name = name := rfl

theorem buildQueueFromSpec_eq (department : Department) (parent : String) :
    buildQueueFromSpec cfg entry department parent =
      expectedQueue cfg department entry parent (getQueueName cfg entry department.name) := rfl

theorem expectedQueue_rename (parent name name' : String) :
    { expectedQueue cfg department entry parent name with name := name' } =
      expectedQueue cfg department entry parent name' := rfl

/-- None when the wanted one is new and would close a loop. -/
def heldParent (v : View) (name parent current : String) : String :=
  if parent = "" ∨ parent = current then parent
  else match wouldCloseQueueLoop v name parent with
    | .ok true => ""
    | _ => parent

theorem heldParent_cases (v : View) (name parent current : String) :
    heldParent v name parent current = parent ∨
      (wouldCloseQueueLoop v name parent = .ok true ∧ heldParent v name parent current = "") := by
  unfold heldParent
  split_ifs
  · exact .inl rfl
  · split
    · rename_i hloop
      exact .inr ⟨hloop, rfl⟩
    · exact .inl rfl

theorem holdAsRootOnLoop_ok {cfg : Config} {v : View} {department : Department} {entry : QueueConfig}
    {parent name current : String} {held : Bool} {queue : Queue}
    (h : holdAsRootOnLoop v (expectedQueue cfg department entry parent name) current = .ok (held, queue)) :
    queue = expectedQueue cfg department entry (heldParent v name parent current) name ∧
      (parent = "" ∨ parent = current ∨ ∃ loop, wouldCloseQueueLoop v name parent = .ok loop) := by
  unfold holdAsRootOnLoop at h
  simp only [expectedQueue, populateQueueSpec, heldParent] at h ⊢
  by_cases hcur : parent = "" ∨ parent = current
  · simp only [hcur, if_true, Except.ok.injEq, Prod.mk.injEq] at h ⊢
    exact ⟨h.2.symm, hcur.imp_right .inl⟩
  · simp only [hcur, if_false] at h ⊢
    cases hloop : wouldCloseQueueLoop v name parent with
    | error e => simp [hloop, bind, Except.bind] at h
    | ok loop =>
      refine ⟨?_, .inr (.inr ⟨loop, rfl⟩)⟩
      cases loop <;>
        simp only [hloop, bind, Except.bind, Bool.false_eq_true, if_false, if_true, Except.ok.injEq,
          Prod.mk.injEq] at h <;>
        exact h.2.symm

theorem reconcileQueueObject_ok {cfg : Config} {m : Moment} {department : Department} {entry : QueueConfig}
    {parent suggested n name : String} {held : Bool} {s' : QueueStore}
    (h : reconcileQueueObject cfg m (expectedQueue cfg department entry parent suggested) department n =
      .ok (held, name, s')) :
    (∃ existing, getExistingQueueOfDepartment cfg m.view department n = .ok existing ∧ name = existing.name ∧
      handleExisting cfg m (expectedQueue cfg department entry
        (heldParent m.view name parent existing.spec.parentQueue) name) existing department.uid = .ok s' ∧
      (parent = "" ∨ parent = existing.spec.parentQueue ∨
        ∃ loop, wouldCloseQueueLoop m.view name parent = .ok loop)) ∨
    (∃ e, getExistingQueueOfDepartment cfg m.view department n = .error e ∧ e.isNotFound ∧
      name = generateQueueNameOfDepartment cfg m.view department.name suggested department.uid ∧
      createQueue m.server (expectedQueue cfg department entry (heldParent m.view name parent "") name) m.store =
        .ok s' ∧
      (parent = "" ∨ ∃ loop, wouldCloseQueueLoop m.view name parent = .ok loop)) := by
  unfold reconcileQueueObject at h
  cases hget : getExistingQueueOfDepartment cfg m.view department n with
  | ok existing =>
    left
    rw [hget] at h
    dsimp only at h
    rw [expectedQueue_rename] at h
    obtain ⟨⟨held', queue⟩, hhold, h⟩ := bind_ok h
    obtain ⟨rfl, hwalk⟩ := holdAsRootOnLoop_ok hhold
    obtain ⟨s'', hstore, h⟩ := bind_ok h
    cases h
    exact ⟨existing, rfl, rfl, hstore, hwalk⟩
  | error e =>
    right
    by_cases hnf : e.isNotFound
    · rw [hget] at h
      dsimp only at h
      rw [if_pos hnf, expectedQueue_rename, expectedQueue_name] at h
      obtain ⟨⟨held', queue⟩, hhold, h⟩ := bind_ok h
      obtain ⟨rfl, hwalk⟩ := holdAsRootOnLoop_ok hhold
      obtain ⟨s'', hstore, h⟩ := bind_ok h
      cases h
      refine ⟨e, rfl, hnf, rfl, hstore, ?_⟩
      -- a new queue has no parent yet
      rcases hwalk with hempty | hempty | hloop
      · exact .inl hempty
      · exact .inl hempty
      · exact .inr hloop
    · simp [hget, hnf] at h

/-! ## One entry -/

/-- The test for free names, project and department swapped, lets through names that give the entry no queue. -/
def claimedName (cfg : Config) (department : Department) (found held : Option Queue) (name drawn : String) :
    Option String :=
  match found, held with
  | some q, _ => some q.name
  | none, none => if name.toList.length ≤ maxNameLen then some name else some drawn
  | none, some q =>
    if name.toList.length ≤ maxNameLen ∧ takenBy cfg "" department.name department.uid q = false then none
    else some drawn

section Entry

variable {cfg : Config} {departments : DepartmentStore} {rand : Nat → Nat → String} {server : Server}
  {department : Department} {entry : QueueConfig} {s s' : QueueStore} {name : String} {held : Bool}

theorem handleExisting_fresh {m : Moment} {e existing : Queue}
    (hget : m.store.get existing.name = some existing) (hname : e.name = existing.name)
    (hext : isExternalQueue cfg existing department.uid = false)
    (h : handleExisting cfg m e existing department.uid = .ok s') : Puts e m.store s' := by
  unfold handleExisting at h
  split at h
  · rename_i heq
    cases h
    exact puts_of_equal hget heq
  · exact updateExistingQueue_ok hget hname hext h

def currentParent (cfg : Config) (department : Department) (n : String) (s : QueueStore) : String :=
  ((s.items.find? (serves cfg department n)).map fun q => q.spec.parentQueue).getD ""

theorem reconcileEntry_parts
    (h : reconcileEntry cfg ⟨.fresh departments rand s, server, s⟩ department entry = .ok (held, name, s')) :
    (∃ r, nodePoolRequirement cfg entry.nodepool = .ok r) ∧
    ∃ parent, departmentQueueName cfg (.fresh departments rand s) department.parent entry.nodepool = .ok parent ∧
      match s.items.find? (serves cfg department entry.nodepool) with
      | some q => name = q.name ∧ handleExisting cfg ⟨.fresh departments rand s, server, s⟩
          (expectedQueue cfg department entry (heldParent (.fresh departments rand s) name parent q.spec.parentQueue) name)
          q department.uid = .ok s'
      | none => name = generateQueueNameForResource cfg (.fresh departments rand s) "" department.name
          (getQueueName cfg entry department.name) department.uid ∧
          createQueue server (expectedQueue cfg department entry (heldParent (.fresh departments rand s) name parent "") name)
            s = .ok s' := by
  obtain ⟨parent, hparent, h⟩ := bind_ok h
  rw [buildQueueFromSpec_eq] at h
  rcases getExistingQueueOfDepartment_fresh cfg departments rand department s entry.nodepool with
    ⟨e, he, hnf⟩ | ⟨hrequirement, hfound⟩
  · obtain ⟨existing, hget, -⟩ | ⟨e', hget, hnf', -⟩ := reconcileQueueObject_ok h
    · cases he.symm.trans hget
    · cases he.symm.trans hget
      rw [hnf] at hnf'
      cases hnf'
  · refine ⟨hrequirement, parent, hparent, ?_⟩
    cases hq : s.items.find? (serves cfg department entry.nodepool) with
    | some q =>
      rw [hq] at hfound
      obtain ⟨existing, hget, hname, hstore, -⟩ | ⟨e', hget, -⟩ := reconcileQueueObject_ok h
      · cases hfound.symm.trans hget
        exact ⟨hname, hstore⟩
      · cases hfound.symm.trans hget
    | none =>
      rw [hq] at hfound
      obtain ⟨existing, hget, -⟩ | ⟨e', hget, -, hname, hstore, -⟩ := reconcileQueueObject_ok h
      · cases hfound.symm.trans hget
      · exact ⟨hname, hstore⟩

theorem not_external_of_serves {n : String} {q : Queue} (h : s.items.find? (serves cfg department n) = some q) :
    isExternalQueue cfg q department.uid = false := by
  have hserves := List.find?_some h
  simp only [serves, Bool.and_eq_true] at hserves
  simp [isExternalQueue, hserves.1]

theorem claimedName_unfound {held : Option Queue} {suggested drawn : String} :
    claimedName cfg department none held suggested drawn =
      if suggested.toList.length ≤ maxNameLen ∧ held.any (takenBy cfg "" department.name department.uid) = false
      then (if held.isSome then none else some suggested)
      else some drawn := by
  cases held with
  | none => simp [claimedName]
  | some q => simp [claimedName]

theorem reconcileEntry_fresh (hfree : s.get (drawnName rand (getQueueName cfg entry department.name)) = none)
    (h : reconcileEntry cfg ⟨.fresh departments rand s, server, s⟩ department entry = .ok (held, name, s')) :
    (∃ r, nodePoolRequirement cfg entry.nodepool = .ok r) ∧
    ∃ parent, departmentQueueName cfg (.fresh departments rand s) department.parent entry.nodepool = .ok parent ∧
      match claimedName cfg department (s.items.find? (serves cfg department entry.nodepool))
        (s.get (getQueueName cfg entry department.name)) (getQueueName cfg entry department.name)
        (drawnName rand (getQueueName cfg entry department.name)) with
      | some c => name = c ∧ Puts (expectedQueue cfg department entry (heldParent (.fresh departments rand s) c parent
          (currentParent cfg department entry.nodepool s)) c) s s'
      | none => name = getQueueName cfg entry department.name ∧ s' = s := by
  -- The work on an entry puts its queue under the claimed name, or does nothing when there is none.
  obtain ⟨hrequirement, parent, hparent, hparts⟩ := reconcileEntry_parts h
  refine ⟨hrequirement, parent, hparent, ?_⟩
  cases hq : s.items.find? (serves cfg department entry.nodepool) with
  | some q =>
    rw [hq] at hparts
    obtain ⟨rfl, hstore⟩ := hparts
    rw [currentParent, hq]
    refine ⟨rfl, handleExisting_fresh ?_ (expectedQueue_name ..) (not_external_of_serves hq) hstore⟩
    exact Store.get_of_mem (List.mem_of_find?_eq_some hq)
  | none =>
    rw [hq] at hparts
    rw [currentParent, hq, claimedName_unfound]
    exact createQueue_generated (e := fun name => expectedQueue cfg department entry (heldParent (.fresh departments rand s)
      name parent "") name) (fun _ => rfl) hfree hparts.1 hparts.2

end Entry

end Krm.Queues.DepartmentHandler
