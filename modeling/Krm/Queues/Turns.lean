import Krm.Lib.Search
import Krm.Queues.Frames

/-! # One turn of a queue reconcile

The work on one spec entry, for a Project or a Department: the queue that is found stays as it is or is written over; if
none is found one is created, unless its name is held. -/

open Krm.Lib

namespace Krm.Queues

/-- A turn, by what is found, reconciled, left as it is, or written. -/
inductive Turn (found : Option Queue) (name : String) (settled made : Queue → Prop) (s : QueueStore) :
    QueueStore → Prop
  | keep {q : Queue} (hfound : found = some q) (hname : q.name = name) (hsettled : settled q) :
    Turn found name settled made s s
  | update {q a : Queue} (hfound : found = some q) (hname : q.name = name) (ha : a.name = name) (hmade : made a) :
    Turn found name settled made s (s.replace a)
  | create {a : Queue} (hfound : found = none) (hfree : s.get name = none) (ha : a.name = name) (hmade : made a) :
    Turn found name settled made s (s.insert a)
  | refuse (hfound : found = none) (hheld : (s.get name).isSome) : Turn found name settled made s s

namespace Turn

variable {found : Option Queue} {name : String} {settled made : Queue → Prop} {s s' : QueueStore} {p : Queue → Bool}

/-- A search finds the turn's queue, or none where none was written. -/
theorem search (h : Turn found name settled made s s') (hmem : ∀ q, found = some q → q ∈ s.items)
    (hsearch : ∀ q, s.items.find? p = some q → found = some q) (hmade : ∀ a, made a → p a = true) :
    (∃ a, s'.items.find? p = some a ∧ a.name = name ∧ (settled a ∨ made a)) ∨
      (s.items.find? p = none ∧ s' = s ∧
        ((∃ q, found = some q ∧ q.name = name ∧ settled q) ∨ (found = none ∧ (s.get name).isSome))) := by
  cases hfind : s.items.find? p with
  | some q =>
    have hq := hsearch q hfind
    left
    cases h with
    | keep hfound hname hsettled =>
      cases hq.symm.trans hfound
      exact ⟨q, hfind, hname, .inl hsettled⟩
    | update hfound hname ha ha' =>
      cases hq.symm.trans hfound
      exact ⟨_, Store.find_replace hfind (ha.trans hname.symm) (hmade _ ha'), ha, .inr ha'⟩
    | create hfound => cases hq.symm.trans hfound
    | refuse hfound => cases hq.symm.trans hfound
  | none =>
    cases h with
    | keep hfound hname hsettled => exact .inr ⟨rfl, rfl, .inl ⟨_, hfound, hname, hsettled⟩⟩
    | update hfound hname ha ha' =>
      refine .inl ⟨_, Store.find_replace_of_none hfind ?_ (hmade _ ha'), ha, .inr ha'⟩
      have hheld := Store.get_of_mem (hmem _ hfound)
      rw [hname] at hheld
      rw [ha, hheld]
      rfl
    | create hfound hfree ha ha' =>
      exact .inl ⟨_, Store.find_insert_of_none hfind (by rw [ha]; exact hfree) (hmade _ ha'), ha, .inr ha'⟩
    | refuse hfound hheld => exact .inr ⟨rfl, rfl, .inr ⟨hfound, hheld⟩⟩

theorem found_wanted {q : Queue} (h : Turn (some q) name settled made s s') (hsame : s' = s) (hq : q ∈ s.items) :
    q.name = name ∧ (settled q ∨ made q) := by
  cases h with
  | keep hfound hname hsettled =>
    cases hfound
    exact ⟨hname, .inl hsettled⟩
  | update hfound hname ha hmade =>
    cases hfound
    have hget := Store.get_of_mem hq
    rw [hname] at hget
    have hwritten := Store.get_replace_self s _ ha (by rw [hget]; rfl)
    rw [hsame, hget] at hwritten
    cases hwritten
    exact ⟨hname, .inr hmade⟩
  | create hfound => cases hfound
  | refuse hfound => cases hfound

/-- The queue of the turn is found again later. -/
theorem search_later (h : Turn found name settled made s s') (hmem : ∀ q, found = some q → q ∈ s.items)
    (hsearch : ∀ q, s.items.find? p = some q → found = some q) (hmade : ∀ a, made a → p a = true) {later : QueueStore}
    (hthins : s'.Thins p later) (hget : later.get name = s'.get name) :
    (∃ a, later.items.find? p = some a ∧ a.name = name ∧ (settled a ∨ made a)) ∨
      (s.items.find? p = none ∧ later.items.find? p = none ∧ later.get name = s.get name ∧
        ((∃ q, found = some q ∧ q.name = name ∧ settled q) ∨ (found = none ∧ (s.get name).isSome))) := by
  rcases h.search hmem hsearch hmade with ⟨a, hfind, hname, ha⟩ | ⟨hfind, rfl, hcases⟩
  · refine .inl ⟨a, hthins.find_eq hfind ?_, hname, ha⟩
    have hstood := Store.get_of_mem (List.mem_of_find?_eq_some hfind)
    rw [hname, ← hget] at hstood
    exact Store.get_mem hstood
  · exact .inr ⟨hfind, hthins.find_none hfind, hget, hcases⟩

end Turn

/-! ## The writes behind a turn -/

variable {s s' : QueueStore} {project department name uid : String} {departments : DepartmentStore} {server : Server}
  {cfg : Config} {rand : Nat → Nat → String}

theorem createQueue_turn {e : Queue} {settled : Queue → Prop} (h : createQueue server e s = .ok s') :
    Turn none e.name settled (fun a => areQueuesEqual e a) s s' := by
  rcases createQueue_cases h with ⟨hfree, rfl⟩ | ⟨hheld, rfl⟩
  · exact .create rfl hfree rfl (by simp [areQueuesEqual_iff])
  · exact .refuse rfl hheld

theorem updateExistingQueue_turn {e existing : Queue} {uid : String} {settled : Queue → Prop}
    (hname : e.name = existing.name) (hext : isExternalQueue cfg existing uid = false)
    (h : updateExistingQueue cfg server e existing uid s = .ok s') :
    Turn (some existing) e.name settled (fun a => areQueuesEqual e a) s s' := by
  rw [updateExistingQueue, hext, if_neg Bool.false_ne_true] at h
  rw [(clientUpdate_ok h).2]
  refine .update rfl hname.symm hname.symm ?_
  simp [areQueuesEqual_iff, updateExistingQueueWithExpectedValues, hname]

/-! ## Generated names -/

theorem generateQueueName_suggested (departments : DepartmentStore) (rand : Nat → Nat → String) {s : QueueStore}
    (hlen : name.toList.length ≤ maxNameLen) (hfree : (s.get name).any (takenBy cfg project department uid) = false) :
    generateQueueNameForResource cfg (.fresh departments rand s) project department name uid = name := by
  have hshort : ¬ name.toList.length > maxNameLen := by omega
  simp only [generateQueueNameForResource, hshort, if_false, generateQueueNameTries, tryNames,
    isSuggestedQueueTakenByOtherResource, isQueueTaken_fresh, hfree, Bool.not_false, if_true]

theorem generated_held {s : QueueStore} (hfree : s.get (drawnName rand name) = none)
    (hheld : (s.get (generateQueueNameForResource cfg (.fresh departments rand s) project department name uid)).isSome) :
    generateQueueNameForResource cfg (.fresh departments rand s) project department name uid = name ∧
      name.toList.length ≤ maxNameLen ∧ (s.get name).any (takenBy cfg project department uid) = false := by
  rw [generateQueueName_fresh cfg departments rand s project department name uid hfree] at hheld ⊢
  split_ifs at hheld ⊢ with hsuggested
  · exact ⟨rfl, hsuggested⟩
  · rw [hfree] at hheld
    cases hheld

theorem generated_again {s later : QueueStore} {project department suggested uid name : String}
    (rand' : Nat → Nat → String) (hfree : s.get (drawnName rand suggested) = none)
    (hname : name = generateQueueNameForResource cfg (.fresh departments rand s) project department suggested uid)
    (hheld : (s.get name).isSome) (hstood : later.get name = s.get name) :
    name = suggested ∧
      generateQueueNameForResource cfg (.fresh departments rand' later) project department suggested uid = name := by
  rw [hname] at hheld
  obtain ⟨hsuggested, hlen, hnot⟩ := generated_held hfree hheld
  rw [hsuggested] at hname
  subst hname
  rw [← hstood] at hnot
  exact ⟨rfl, generateQueueName_suggested departments rand' hlen hnot⟩

theorem createQueue_held {e : Queue} (hheld : (s.get e.name).isSome) (h : createQueue server e s = .ok s') :
    s' = s := by
  rcases createQueue_ok h with ⟨hfree, -⟩ | ⟨-, hsame⟩
  · rw [hfree] at hheld
    cases hheld
  · exact hsame

/-! ## Deletions -/

section

variable {cfg : Config} {m : Moment} {reconciled : List String} {uid key value kind : String}

theorem deleteUnnecessaryQueues_thins (p : Queue → Bool) :
    m.store.Thins p (deleteUnnecessaryQueues cfg m reconciled uid key value kind).2 :=
  deleteUnnecessaryQueues_induction (.refl p) .trans fun _ _ d _ _ s => .remove s d.name

theorem deleteUnnecessaryQueues_get {name : String} (hname : name ∈ reconciled) :
    (deleteUnnecessaryQueues cfg m reconciled uid key value kind).2.get name = m.store.get name := by
  refine deleteUnnecessaryQueues_induction (R := fun s s' => s'.get name = s.get name) (fun _ => rfl)
    (fun h h' => h'.trans h) fun _ _ d _ hgone s => ?_
  have hne : name ≠ d.name := by
    rintro rfl
    simp [unnecessary, hname] at hgone
  exact ((Store.agreeOff_remove s d.name).get_eq (by simpa using hne)).symm

theorem deleteUnnecessaryQueues_nothing (h : ∀ listed, listQueuesWithLabelSelector m.view key value = .ok listed →
      ∀ d ∈ listed, unnecessary cfg reconciled uid kind d = false) :
    (deleteUnnecessaryQueues cfg m reconciled uid key value kind).2 = m.store := by
  refine Eq.symm (deleteUnnecessaryQueues_induction (R := Eq) (fun _ => rfl) Eq.trans ?_)
  intro listed hlisted d hd hgone
  rw [h listed hlisted d hd] at hgone
  cases hgone

/-- A deletion leaves nothing for one with the same reconciled names. -/
theorem deleteUnnecessaryQueues_again {departments : DepartmentStore} {rand : Nat → Nat → String} {server : Server}
    {s : QueueStore} (h : ∀ q ∈ s.items, ¬ (q.labels.lookup key = some value ∧ unnecessary cfg reconciled uid kind q)) :
    (deleteUnnecessaryQueues cfg ⟨.fresh departments rand s, server, s⟩ reconciled uid key value kind).2 = s := by
  refine deleteUnnecessaryQueues_nothing fun listed hlisted d hd => ?_
  cases hlisted
  obtain ⟨hmem, hlabel⟩ := List.mem_filter.1 hd
  simp only [Selector.Matches, List.all_cons, List.all_nil, Bool.and_true, Requirement.matches_doubleEquals] at hlabel
  exact Bool.eq_false_iff.2 fun hgone => h d hmem ⟨hlabel, hgone⟩

end

/-! ## The parent's queue -/

section

variable {cfg : Config} {departments : DepartmentStore} {rand rand' : Nat → Nat → String} {s s' : QueueStore}

/-- The department's queues, which alone decide which is taken. -/
def ofOwner (department : Department) (q : Queue) : Bool := isOwnedByUID q.ownerReferences department.uid

variable {department : Department}

theorem departmentQueueByOwner_keeps (h : s.Keeps (ofOwner department) s') (n : String) :
    departmentQueueByOwner cfg (.fresh departments rand' s') department n =
      departmentQueueByOwner cfg (.fresh departments rand s) department n := by
  unfold departmentQueueByOwner
  cases hrequirement : nodePoolRequirement cfg n with
  | error e => simp [listQueuesForNodepool, hrequirement, bind, Except.bind]
  | ok r =>
    have hfind (t : QueueStore) : (t.list (inPool cfg n)).find? (ofOwner department) =
        (t.items.filter (ofOwner department)).find? (inPool cfg n) := by
      rw [Store.list, ← List.head?_filter, ← List.head?_filter, List.filter_filter, List.filter_filter]
      simp only [Bool.and_comm]
    rw [listQueuesForNodepool_fresh hrequirement, listQueuesForNodepool_fresh hrequirement]
    have hsame : (s'.list (inPool cfg n)).find? (ofOwner department) = (s.list (inPool cfg n)).find? (ofOwner department) := by
      rw [hfind, hfind, h]
    unfold ofOwner at hsame
    simp only [bind, Except.bind, hsame]

theorem owned_get_keeps (h : s.Keeps (ofOwner department) s') (name : String) :
    (s'.get name).any (ofOwner department) = (s.get name).any (ofOwner department) := by
  have hiff (t : QueueStore) : (t.get name).any (ofOwner department) = true ↔
      ∃ q ∈ t.items, q.name = name ∧ ofOwner department q = true := by
    rw [Option.any_eq_true_iff_get]
    constructor
    · rintro ⟨hsome, howned⟩
      exact ⟨_, Store.get_mem (Option.some_get hsome).symm, Store.get_key (Option.some_get hsome).symm, howned⟩
    · rintro ⟨q, hq, rfl, howned⟩
      have hget := Store.get_of_mem hq
      exact ⟨by rw [hget]; rfl, by simpa [hget] using howned⟩
  rw [Bool.eq_iff_iff, hiff, hiff]
  refine exists_congr fun q => ?_
  constructor
  · rintro ⟨hq, hname, howned⟩
    exact ⟨(h.mem_iff howned).1 hq, hname, howned⟩
  · rintro ⟨hq, hname, howned⟩
    exact ⟨(h.mem_iff howned).2 hq, hname, howned⟩

theorem departmentQueueName_of_entry {name n : String} {queue : QueueConfig} (hname : name ≠ "")
    (hget : departments.get name = some department)
    (hqueue : (department.queues.find? fun queue => queue.nodepool = n) = some queue) :
    departmentQueueName cfg (.fresh departments rand s) name n =
      if (s.get (getQueueName cfg queue department.name)).any (ofOwner department) then
        .ok (getQueueName cfg queue department.name)
      else if getQueueName cfg queue department.name = "" then .ok ""
      else departmentQueueByOwner cfg (.fresh departments rand s) department n := by
  have hdepartment : (View.fresh departments rand s).getDepartment name = .ok department := by simp [View.fresh, hget]
  rw [departmentQueueName, if_neg hname, hdepartment]
  simp only [hqueue]
  cases hcandidate : s.get (getQueueName cfg queue department.name) with
  | none => simp [View.getQueue_fresh_none hcandidate, ApiError.isNotFound]
  | some q =>
    simp only [View.getQueue_fresh_some hcandidate, Option.any_some]
    rfl

theorem departmentQueueName_keeps {name : String} (h : ∀ department, departments.get name = some department →
      s.Keeps (ofOwner department) s') (n : String) :
    departmentQueueName cfg (.fresh departments rand' s') name n =
      departmentQueueName cfg (.fresh departments rand s) name n := by
  by_cases hname : name = ""
  · simp [departmentQueueName, hname]
  · cases hget : departments.get name with
    | none => simp [departmentQueueName, hname, View.fresh, hget]
    | some department =>
      cases hqueue : department.queues.find? fun queue => queue.nodepool = n with
      | none => simp [departmentQueueName, hname, View.fresh, hget, hqueue]
      | some queue =>
        have hkeeps := h department hget
        rw [departmentQueueName_of_entry hname hget hqueue, departmentQueueName_of_entry hname hget hqueue,
          owned_get_keeps hkeeps, departmentQueueByOwner_keeps hkeeps]

end

end Krm.Queues
