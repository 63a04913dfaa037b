import Krm.Queues.Steps

/-! # What the work on one spec entry of a Project does -/

open Krm.Lib

namespace Krm.Queues.QueueResourceHandler

/-- What the search by labels finds for node pool `n`. -/
def foundByLabels (cfg : Config) (project : Project) (n : String) (q : Queue) : Bool :=
  (decide (q.labels.lookup cfg.projectLabelKey = some project.name) && inPool cfg n q) &&
    (isOwnedByKind q.ownerReferences projectKind && !isExternalQueue cfg q project.uid)

/-- By labels, else under the suggested name if it is no one else's. -/
def foundQueue (cfg : Config) (project : Project) (n name : String) (s : QueueStore) : Option Queue :=
  (s.items.find? (foundByLabels cfg project n)).or
    ((s.get name).filter fun q => !takenBy cfg "" project.name project.uid q)

abbrev entryQueue (cfg : Config) (project : Project) (entry : QueueConfig) (s : QueueStore) : Option Queue :=
  foundQueue cfg project entry.nodepool (getQueueName cfg entry project.name) s

section Lookup

variable {cfg : Config} {n p : String}

theorem createRequirements_parts {sel : Selector} (h : createRequirementsForQueuesList cfg n p "" = .ok sel) :
    p ≠ "" ∧ ∃ r r', requirement cfg.projectLabelKey .doubleEquals [p] = .ok r ∧ nodePoolRequirement cfg n = .ok r' ∧
      sel = [r, r'] := by
  unfold createRequirementsForQueuesList at h
  by_cases hp : p = ""
  · simp [hp] at h
  · simp only [hp, false_and, if_false, ne_eq, not_false_eq_true, if_true, addRequirement] at h
    obtain ⟨result, hresult, h⟩ := bind_ok h
    obtain ⟨r, hr, hresult⟩ := bind_ok hresult
    obtain ⟨r', hr', h⟩ := bind_ok h
    cases hresult
    cases h
    exact ⟨hp, r, r', hr, hr', rfl⟩

theorem createRequirements_ok {sel : Selector} (h : createRequirementsForQueuesList cfg n p "" = .ok sel) (q : Queue) :
    p ≠ "" ∧ sel.Matches q.labels = (decide (q.labels.lookup cfg.projectLabelKey = some p) && inPool cfg n q) := by
  obtain ⟨hp, r, r', hproj, hpool, rfl⟩ := createRequirements_parts h
  refine ⟨hp, ?_⟩
  have hr : r.Matches q.labels = decide (q.labels.lookup cfg.projectLabelKey = some p) := by
    rw [requirement_ok hproj, Bool.eq_iff_iff, Requirement.matches_doubleEquals]
    simp
  simp [Selector.Matches, hr, nodePoolRequirement_ok hpool q]

theorem createRequirements_error {e : ApiError} (h : createRequirementsForQueuesList cfg n p "" = .error e) :
    e.isNotFound = false := by
  unfold createRequirementsForQueuesList at h
  by_cases hp : p = ""
  · simp only [hp, true_and, if_true, Except.error.injEq] at h
    subst h
    rfl
  · simp only [hp, false_and, if_false, ne_eq, not_false_eq_true, if_true, addRequirement] at h
    obtain hresult | ⟨result, -, h⟩ := bind_error h
    · obtain hproj | ⟨r, -, hresult⟩ := bind_error hresult
      · exact requirement_error hproj
      · cases hresult
    · obtain hpool | ⟨r', -, h⟩ := bind_error h
      · exact nodePoolRequirement_error hpool
      · cases h

theorem getExistingQueueByLabels_fresh (cfg : Config) (departments : DepartmentStore)
    (rand : Nat → Nat → String) (project : Project) (s : QueueStore) (n : String) :
    (∃ e, getExistingQueueByLabels cfg (.fresh departments rand s) n project.name "" project.uid = .error e ∧
      e.isNotFound = false) ∨
    (project.name ≠ "" ∧ getExistingQueueByLabels cfg (.fresh departments rand s) n project.name "" project.uid =
      match s.items.find? (foundByLabels cfg project n) with
      | some q => .ok q
      | none => .error (.notFound (project.name ++ "/" ++ n))) := by
  unfold getExistingQueueByLabels
  cases hreq : createRequirementsForQueuesList cfg n project.name "" with
  | error e => exact .inl ⟨e, rfl, createRequirements_error hreq⟩
  | ok sel =>
    right
    by_cases hp : project.name = ""
    · simp [createRequirementsForQueuesList, hp] at hreq
    · refine ⟨hp, ?_⟩
      have hfind : (s.list fun q => sel.Matches q.labels).find? (fun q =>
          isOwnedByKind q.ownerReferences projectKind && !isExternalQueue cfg q project.uid) =
          s.items.find? (foundByLabels cfg project n) := by
        rw [Store.list, ← List.head?_filter, ← List.head?_filter, List.filter_filter]
        congr 1
        apply List.filter_congr
        intro q _
        rw [(createRequirements_ok hreq q).2, Bool.and_comm]
        rfl
      cases hfound : s.items.find? (foundByLabels cfg project n) with
      | none => simp only [bind, Except.bind, View.fresh, ne_eq, hp, not_false_eq_true, if_true, hfind, hfound]
      | some q => simp only [bind, Except.bind, View.fresh, ne_eq, hp, not_false_eq_true, if_true, hfind, hfound]

theorem getExistingQueueOfProject_selector {v : View} {project : Project} {n name : String}
    (h : ∀ e, getExistingQueueOfProject cfg v name project.name project.uid n = .error e → e.isNotFound) :
    ∃ sel, createRequirementsForQueuesList cfg n project.name "" = .ok sel := by
  cases hreq : createRequirementsForQueuesList cfg n project.name "" with
  | ok sel => exact ⟨sel, rfl⟩
  | error e =>
    have hnf := createRequirements_error hreq
    have hfails : getExistingQueueOfProject cfg v name project.name project.uid n = .error e := by
      simp [getExistingQueueOfProject, getExistingQueueOfResource, getExistingQueueByLabels, hreq, bind, Except.bind, hnf]
    rw [h e hfails] at hnf
    cases hnf

theorem getExistingQueueOfProject_fresh (cfg : Config) (departments : DepartmentStore)
    (rand : Nat → Nat → String) (project : Project) (s : QueueStore) (n name : String) :
    (∃ e, getExistingQueueOfProject cfg (.fresh departments rand s) name project.name project.uid n = .error e ∧
      e.isNotFound = false) ∨
    (project.name ≠ "" ∧
      getExistingQueueOfProject cfg (.fresh departments rand s) name project.name project.uid n =
        match foundQueue cfg project n name s with
        | some q => .ok q
        | none => .error (.notFound name)) := by
  unfold getExistingQueueOfProject getExistingQueueOfResource
  rcases getExistingQueueByLabels_fresh cfg departments rand project s n with ⟨e, he, hnf⟩ | ⟨hp, hfound⟩
  · exact .inl ⟨e, by simp [he, hnf], hnf⟩
  · right
    refine ⟨hp, ?_⟩
    rw [hfound, isQueueTaken_fresh]
    unfold foundQueue
    cases s.items.find? (foundByLabels cfg project n) with
    | some q => rfl
    | none =>
      cases s.get name with
      | none => rfl
      | some q =>
        cases htaken : takenBy cfg "" project.name project.uid q <;>
          simp [htaken, ApiError.isNotFound, Option.filter]

end Lookup

/-! ## One entry -/

def expectedQueue (cfg : Config) (project : Project) (entry : QueueConfig) (parentQueue name : String) : Queue where
  name := name
  labels := queueLabels cfg project entry.nodepool
  ownerReferences := [ownerReference projectKind project.name project.uid]
  spec := populateQueueSpec entry.resources name parentQueue entry.priority
  resourceVersion := 0

@[simp] theorem expectedQueue_name (cfg : Config) (project : Project) (entry : QueueConfig)
    (parent name : String) : (expectedQueue cfg project entry parent name).name = name := rfl

theorem buildQueueFromSpec_eq (cfg : Config) (v : View) (entry : QueueConfig) (project : Project) :
    buildQueueFromSpec cfg v entry project =
      (departmentQueueName cfg v project.parent entry.nodepool).map fun parent =>
        expectedQueue cfg project entry parent (getQueueName cfg entry project.name) := by
  unfold buildQueueFromSpec
  cases departmentQueueName cfg v project.parent entry.nodepool <;> rfl

/-- The test for free names, project and department swapped, lets through names that give the entry no queue. -/
def claimedName (cfg : Config) (project : Project) (found held : Option Queue) (name drawn : String) :
    Option String :=
  match found, held with
  | some q, _ => some q.name
  | none, none => if name.toList.length ≤ maxNameLen then some name else some drawn
  | none, some q =>
    if takenBy cfg "" project.name project.uid q = false then some name
    else if name.toList.length ≤ maxNameLen ∧ takenBy cfg project.name "" project.uid q = false then none
    else some drawn

variable {cfg : Config} {project : Project}

theorem claimedName_none {held : Option Queue} {name drawn c : String}
    (h : claimedName cfg project none held name drawn = some c) : c = name ∨ c = drawn := by
  unfold claimedName at h
  cases held with
  | none =>
    simp only at h
    split_ifs at h <;> cases h <;> simp
  | some q =>
    simp only at h
    split_ifs at h <;> cases h <;> simp

theorem claimedName_eq_none {found held : Option Queue} {name drawn : String}
    (h : claimedName cfg project found held name drawn = none) :
    ∃ q, held = some q ∧ takenBy cfg "" project.name project.uid q ∧
      takenBy cfg project.name "" project.uid q = false := by
  -- An entry claims no name only when the lookup gives up the suggested name and the name test does not.
  unfold claimedName at h
  match found, held with
  | some q, _ => cases h
  | none, none =>
    simp only at h
    split_ifs at h
  | none, some q =>
    simp only at h
    split_ifs at h with htaken hfree
    exact ⟨q, rfl, by simpa using htaken, hfree.2⟩

theorem takenBy_external {department project uid : String} {q : Queue}
    (h : takenBy cfg department project uid q = false) : isExternalQueue cfg q uid = false := by
  simp only [takenBy, Bool.or_eq_false_iff] at h
  exact h.1

theorem foundByLabels_external {n : String} {q : Queue} (h : foundByLabels cfg project n q) :
    isExternalQueue cfg q project.uid = false := by
  simp only [foundByLabels, Bool.and_eq_true, Bool.not_eq_true'] at h
  exact h.2.2

theorem handleExisting_fresh {m : Moment} {e existing : Queue} {uid : String} {s' : QueueStore}
    (hget : m.store.get existing.name = some existing) (hname : e.name = existing.name)
    (hext : isExternalQueue cfg existing uid = false) (h : handleExisting cfg m e existing uid = .ok s') :
    if isManuallyOverridden cfg existing then s' = m.store else Puts e m.store s' := by
  unfold handleExisting at h
  split at h
  · rename_i heq
    cases h
    split_ifs
    · rfl
    · exact puts_of_equal hget heq
  · split_ifs at h ⊢
    · exact (Except.ok.inj h).symm
    · exact updateExistingQueue_ok hget hname hext h

section Entry

variable {cfg : Config} {departments : DepartmentStore} {rand : Nat → Nat → String} {server : Server}
  {project : Project} {entry : QueueConfig} {s s' : QueueStore} {name parent : String}

theorem reconcileQueueObject_ok {m : Moment} {suggested n : String}
    (h : reconcileQueueObject cfg m (expectedQueue cfg project entry parent suggested) project.name project.uid n =
      .ok (name, s')) :
    (∃ existing, getExistingQueueOfProject cfg m.view suggested project.name project.uid n = .ok existing ∧
      name = existing.name ∧
      handleExisting cfg m (expectedQueue cfg project entry parent name) existing project.uid = .ok s') ∨
    (∃ e, getExistingQueueOfProject cfg m.view suggested project.name project.uid n = .error e ∧ e.isNotFound ∧
      name = generateQueueNameOfProject cfg m.view suggested project.name project.uid ∧
      createQueue m.server (expectedQueue cfg project entry parent name) m.store = .ok s') := by
  unfold reconcileQueueObject at h
  rw [expectedQueue_name] at h
  cases hget : getExistingQueueOfProject cfg m.view suggested project.name project.uid n with
  | ok existing =>
    rw [hget] at h
    obtain ⟨s'', hstore, heq⟩ := map_ok h
    cases heq
    exact .inl ⟨existing, rfl, rfl, hstore⟩
  | error e =>
    rw [hget] at h
    dsimp only at h
    split_ifs at h with hnf
    obtain ⟨s'', hstore, heq⟩ := map_ok h
    cases heq
    exact .inr ⟨e, rfl, hnf, rfl, hstore⟩

theorem foundQueue_mem {n suggested : String} {q : Queue} (h : foundQueue cfg project n suggested s = some q) :
    q ∈ s.items ∧ isExternalQueue cfg q project.uid = false := by
  unfold foundQueue at h
  rcases Option.or_eq_some_iff.1 h with hlabels | ⟨-, hheld⟩
  · exact ⟨List.mem_of_find?_eq_some hlabels, foundByLabels_external (List.find?_some hlabels)⟩
  · obtain ⟨hheld, hfree⟩ := Option.filter_eq_some_iff.1 hheld
    exact ⟨Store.get_mem hheld, takenBy_external (by simpa using hfree)⟩

variable {n suggested drawn : String}

theorem foundQueue_some {q : Queue} (h : foundQueue cfg project n suggested s = some q) :
    claimedName cfg project (s.items.find? (foundByLabels cfg project n)) (s.get suggested) suggested drawn =
      some q.name := by
  unfold foundQueue at h
  rcases Option.or_eq_some_iff.1 h with hlabels | ⟨hlabels, hheld⟩
  · rw [hlabels]
    rfl
  · obtain ⟨hheld, hfree⟩ := Option.filter_eq_some_iff.1 hheld
    rw [Bool.not_eq_true'] at hfree
    have hname := Store.get_key hheld
    rw [hlabels, hheld, claimedName, if_pos hfree, hname]

theorem foundQueue_none (h : foundQueue cfg project n suggested s = none) :
    claimedName cfg project (s.items.find? (foundByLabels cfg project n)) (s.get suggested) suggested drawn =
      if suggested.toList.length ≤ maxNameLen ∧ (s.get suggested).any (takenBy cfg project.name "" project.uid) = false
      then (if (s.get suggested).isSome then none else some suggested)
      else some drawn := by
  unfold foundQueue at h
  rw [Option.or_eq_none_iff] at h
  rw [h.1]
  cases hheld : s.get suggested with
  | none => simp [claimedName]
  | some q =>
    have htaken : takenBy cfg "" project.name project.uid q := by simpa [hheld, Option.filter] using h.2
    simp [claimedName, htaken]

theorem reconcileEntry_parts
    (h : reconcileEntry cfg ⟨.fresh departments rand s, server, s⟩ project entry = .ok (name, s')) :
    project.name ≠ "" ∧
    ∃ parent, departmentQueueName cfg (.fresh departments rand s) project.parent entry.nodepool = .ok parent ∧
      match entryQueue cfg project entry s with
      | some q => name = q.name ∧ handleExisting cfg ⟨.fresh departments rand s, server, s⟩
          (expectedQueue cfg project entry parent name) q project.uid = .ok s'
      | none => name = generateQueueNameForResource cfg (.fresh departments rand s) project.name ""
          (getQueueName cfg entry project.name) project.uid ∧
          createQueue server (expectedQueue cfg project entry parent name) s = .ok s' := by
  obtain ⟨queueObject, hbuild, h⟩ := bind_ok h
  rw [buildQueueFromSpec_eq] at hbuild
  obtain ⟨parent, hparent, rfl⟩ := map_ok hbuild
  rcases getExistingQueueOfProject_fresh cfg departments rand project s entry.nodepool
    (getQueueName cfg entry project.name) with ⟨e, he, hnf⟩ | ⟨hp, hfound⟩
  · obtain ⟨existing, hget, -⟩ | ⟨e', hget, hnf', -⟩ := reconcileQueueObject_ok h
    · cases he.symm.trans hget
    · cases he.symm.trans hget
      rw [hnf] at hnf'
      cases hnf'
  · refine ⟨hp, parent, hparent, ?_⟩
    unfold entryQueue
    cases hq : foundQueue cfg project entry.nodepool (getQueueName cfg entry project.name) s with
    | some q =>
      rw [hq] at hfound
      obtain ⟨existing, hget, hname, hstore⟩ | ⟨e', hget, -⟩ := reconcileQueueObject_ok h
      · cases hfound.symm.trans hget
        exact ⟨hname, hstore⟩
      · cases hfound.symm.trans hget
    | none =>
      rw [hq] at hfound
      obtain ⟨existing, hget, -⟩ | ⟨e', hget, -, hname, hstore⟩ := reconcileQueueObject_ok h
      · cases hfound.symm.trans hget
      · exact ⟨hname, hstore⟩

/-- The queue is put under the claimed name, unless the one there is overridden. -/
theorem reconcileEntry_fresh (hfree : s.get (drawnName rand (getQueueName cfg entry project.name)) = none)
    (h : reconcileEntry cfg ⟨.fresh departments rand s, server, s⟩ project entry = .ok (name, s')) :
    project.name ≠ "" ∧
    ∃ parent, departmentQueueName cfg (.fresh departments rand s) project.parent entry.nodepool = .ok parent ∧
      match claimedName cfg project (s.items.find? (foundByLabels cfg project entry.nodepool))
        (s.get (getQueueName cfg entry project.name)) (getQueueName cfg entry project.name)
        (drawnName rand (getQueueName cfg entry project.name)) with
      | some c => name = c ∧ if (s.get c).any (isManuallyOverridden cfg) then s' = s
          else Puts (expectedQueue cfg project entry parent c) s s'
      | none => name = getQueueName cfg entry project.name ∧ s' = s := by
  obtain ⟨hp, parent, hparent, hparts⟩ := reconcileEntry_parts h
  refine ⟨hp, parent, hparent, ?_⟩
  cases hq : entryQueue cfg project entry s with
  | some q =>
    rw [hq] at hparts
    obtain ⟨rfl, hstore⟩ := hparts
    obtain ⟨hmem, hext⟩ := foundQueue_mem hq
    have hget : s.get q.name = some q := Store.get_of_mem hmem
    simp only [foundQueue_some hq, hget, Option.any_some, true_and]
    exact handleExisting_fresh hget (expectedQueue_name cfg project entry parent q.name) hext hstore
  | none =>
    rw [hq] at hparts
    have hcreate := createQueue_generated (e := expectedQueue cfg project entry parent) (fun _ => rfl) hfree hparts.1
      hparts.2
    rw [foundQueue_none hq]
    -- the queue is created under a name that no queue has
    split_ifs at hcreate ⊢ with hsuggested hheld
    · exact hcreate
    · rw [Bool.not_eq_true, Option.isSome_eq_false_iff, Option.isNone_iff_eq_none] at hheld
      simpa [hheld] using hcreate
    · simpa [hfree] using hcreate

end Entry

end Krm.Queues.QueueResourceHandler
