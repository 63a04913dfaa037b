import Krm.Queues.Loop

/-! # When the queues of a Department converge -/

open Krm.Lib

namespace Krm.Queues.DepartmentHandler

/-! ## A queue as an entry wants it -/

theorem inPool_queueLabels (cfg : Config) (department : Department) (n : String) :
    (queueLabels cfg department n).lookup cfg.nodePoolLabelKey =
      if n = cfg.defaultNodepoolName then none else some n := by
  have hne : cfg.nodePoolLabelKey ≠ cfg.queueDepartmentNameLabelKey := by
    have h := cfg.keys_nodup
    simp only [List.nodup_cons, List.mem_cons, not_or] at h
    exact fun e => h.2.2.1.1 e.symm
  unfold queueLabels addNodePoolLabelIfNeeded
  by_cases hn : n = cfg.defaultNodepoolName <;> simp [hn, Finmap.lookup_insert_of_ne, hne]

theorem override_queueLabels (cfg : Config) (department : Department) (n : String) :
    (queueLabels cfg department n).lookup cfg.resourceManualOverrideLabelKey = none := by
  have h := cfg.keys_nodup
  simp only [List.nodup_cons, List.mem_cons, not_or] at h
  unfold queueLabels addNodePoolLabelIfNeeded
  split <;> simp [Finmap.lookup_insert_of_ne, Ne.symm h.2.2.1.2.1, Ne.symm h.2.2.2.1.1]

structure Made (cfg : Config) (department : Department) (n : String) (q : Queue) : Prop where
  labels : q.labels = queueLabels cfg department n
  owners : q.ownerReferences = [ownerReference departmentKind department.name department.uid]

namespace Made

variable {cfg : Config} {department : Department} {n : String} {q : Queue}

theorem of_equal {entry : QueueConfig} {parent name : String}
    (h : areQueuesEqual (expectedQueue cfg department entry parent name) q) :
    Made cfg department entry.nodepool q ∧ q.name = name ∧
      q.spec = populateQueueSpec entry.resources department.name parent entry.priority := by
  obtain ⟨hname, hlabels, howners, hspec⟩ := (areQueuesEqual_iff _ _).1 h
  exact ⟨⟨hlabels.symm, howners.symm⟩, hname.symm, hspec.symm⟩

theorem inPool (h : Made cfg department n q) : inPool cfg n q := by
  simp [Krm.Queues.inPool, h.labels, inPool_queueLabels]

theorem serves (h : Made cfg department n q) : serves cfg department n q := by
  simp [DepartmentHandler.serves, h.inPool, isOwnedByUID, h.owners, ownerReference]

theorem not_overridden (h : Made cfg department n q) : isManuallyOverridden cfg q = false := by
  have hnone : q.labels.lookup cfg.resourceManualOverrideLabelKey = none := by
    rw [h.labels, override_queueLabels]
  simp only [isManuallyOverridden, Labels.value, hnone, decide_eq_false_iff_not]
  decide

theorem taken (h : Made cfg department n q) (name uid : String) : takenBy cfg "" name uid q := by
  have hdept : isOwnedByKind q.ownerReferences departmentKind := by simp [isOwnedByKind, h.owners, ownerReference]
  have hproj : isOwnedByKind q.ownerReferences projectKind = false := by
    simp [isOwnedByKind, h.owners, ownerReference, departmentKind, projectKind]
  simp [takenBy, hdept, hproj]

end Made

/-! ## The plan -/

section Plan

variable (cfg : Config) (department : Department) (rand : Nat → Nat → Nat → String) (s₀ : QueueStore)

/-- The name that the `i`-th entry claims, after those before it. -/
def plan (claimed : List String) (i : Nat) (entry : QueueConfig) : Option String :=
  let name := getQueueName cfg entry department.name
  match s₀.items.find? fun q => serves cfg department entry.nodepool q && decide (q.name ∉ claimed) with
  | some q => some q.name
  | none =>
    if name ∈ claimed then some (drawnName (rand i) name)
    else claimedName cfg department none (s₀.get name) name (drawnName (rand i) name)

/-- The claimed name, else the suggested one. -/
def reconciledAt (i : Nat) : Option String :=
  department.queues[i]?.map fun entry =>
    (claimAt (plan cfg department rand s₀) department.queues i).getD (getQueueName cfg entry department.name)

variable {cfg department rand s₀}

theorem claimedName_none {held : Option Queue} {name drawn c : String}
    (h : claimedName cfg department none held name drawn = some c) : (c = name ∧ held = none) ∨ c = drawn := by
  unfold claimedName at h
  cases held with
  | none =>
    simp only at h
    split_ifs at h <;> cases h <;> simp
  | some q =>
    simp only at h
    split_ifs at h
    cases h
    exact .inr rfl

variable {entry : QueueConfig} {c : String} {i : Nat} {claimed : List String}

/-- Claimed is an unclaimed queue's name, or a drawn or a free one. -/
theorem plan_cases (h : plan cfg department rand s₀ claimed i entry = some c) :
    (∃ q ∈ s₀.items, q.name = c ∧ serves cfg department entry.nodepool q ∧ c ∉ claimed) ∨
      c = drawnName (rand i) (getQueueName cfg entry department.name) ∨
      c = getQueueName cfg entry department.name ∧ c ∉ claimed ∧ s₀.get c = none := by
  simp only [plan] at h
  split at h
  · rename_i q hq
    have hfound := List.find?_some hq
    rw [Bool.and_eq_true, decide_eq_true_eq, Option.some.inj h] at hfound
    exact .inl ⟨q, List.mem_of_find?_eq_some hq, Option.some.inj h, hfound⟩
  · split_ifs at h with hclaimed
    · exact .inr (.inl (Option.some.inj h).symm)
    · rcases claimedName_none h with ⟨rfl, hnone⟩ | hdrawn
      · exact .inr (.inr ⟨rfl, hclaimed, hnone⟩)
      · exact .inr (.inl hdrawn)

theorem plan_origin (h : plan cfg department rand s₀ claimed i entry = some c) :
    (s₀.get c).isSome ∨ c = getQueueName cfg entry department.name ∨
      c = drawnName (rand i) (getQueueName cfg entry department.name) := by
  obtain ⟨q, hq, rfl, -⟩ | hdrawn | ⟨hname, -⟩ := plan_cases h
  · exact .inl (Option.isSome_of_eq_some (Store.get_of_mem hq))
  · exact .inr (.inr hdrawn)
  · exact .inr (.inl hname)

theorem plan_held {q : Queue} (h : plan cfg department rand s₀ claimed i entry = some q.name)
    (hq : s₀.get q.name = some q) :
    serves cfg department entry.nodepool q ∨
      q.name = drawnName (rand i) (getQueueName cfg entry department.name) := by
  obtain ⟨found, hfound, hname, hserves, -⟩ | hdrawn | ⟨-, -, hnone⟩ := plan_cases h
  · rw [← Store.eq_of_mem hfound (Store.get_mem hq) hname]
    exact .inl hserves
  · exact .inr hdrawn
  · rw [hq] at hnone
    cases hnone

theorem plan_not_claimed (hdrawn : drawnName (rand i) (getQueueName cfg entry department.name) ∉ claimed)
    (h : plan cfg department rand s₀ claimed i entry = some c) : c ∉ claimed := by
  obtain ⟨-, -, -, -, hfree⟩ | hname | ⟨-, hfree, -⟩ := plan_cases h
  · exact hfree
  · rw [hname]
    exact hdrawn
  · exact hfree

theorem plan_eq_none (h : plan cfg department rand s₀ claimed i entry = none) :
    (∀ q ∈ s₀.items, serves cfg department entry.nodepool q → q.name ∈ claimed) ∧
      (getQueueName cfg entry department.name).toList.length ≤ maxNameLen ∧
      ∃ q, s₀.get (getQueueName cfg entry department.name) = some q ∧
        takenBy cfg "" department.name department.uid q = false := by
  -- An entry claims nothing only when the department has no unclaimed queue in the node pool and the holder of the
  -- suggested name passes for free.
  simp only [plan] at h
  split at h
  · cases h
  · rename_i hnone
    refine ⟨fun q hq hserves => ?_, ?_⟩
    · have hpass := List.find?_eq_none.1 hnone q hq
      simpa [hserves] using hpass
    · split_ifs at h
      unfold claimedName at h
      cases hget : s₀.get (getQueueName cfg entry department.name) with
      | none =>
        simp only [hget] at h
        split_ifs at h
      | some q =>
        simp only [hget] at h
        split_ifs at h with hfree
        exact ⟨hfree.1, q, rfl, hfree.2⟩

theorem reconciledAt_of_claim (h : claimAt (plan cfg department rand s₀) department.queues i = some c) :
    reconciledAt cfg department rand s₀ i = some c := by
  rw [reconciledAt, List.getElem?_eq_getElem (claimAt_lt h), h]
  rfl

theorem reconciledAt_cases {r : String} (h : reconciledAt cfg department rand s₀ i = some r) :
    claimAt (plan cfg department rand s₀) department.queues i = some r ∨
      (claimAt (plan cfg department rand s₀) department.queues i = none ∧
        ∃ q, s₀.get r = some q ∧ takenBy cfg "" department.name department.uid q = false) := by
  simp only [reconciledAt, Option.map_eq_some_iff] at h
  obtain ⟨entry, hi, h⟩ := h
  cases hclaim : claimAt (plan cfg department rand s₀) department.queues i with
  | some c =>
    rw [hclaim, Option.getD_some] at h
    exact .inl (congrArg some h)
  | none =>
    rw [hclaim, Option.getD_none] at h
    subst h
    rw [claimAt_eq hi] at hclaim
    exact .inr ⟨rfl, (plan_eq_none hclaim).2.2⟩

end Plan

/-! ## The loop over the entries -/

section Loop

variable (cfg : Config) (departments : DepartmentStore) (rand : Nat → Nat → Nat → String)
  (server : Nat → Server) (department : Department) (s₀ : QueueStore)

def progressAt (i : Nat) : Progress :=
  loopTo (handleEntry cfg (.fresh departments rand server) department) (.start s₀) department.queues i

def viewAt (i : Nat) : View :=
  .fresh departments (rand i) (progressAt cfg departments rand server department s₀ i).store

def parentAt (i : Nat) (entry : QueueConfig) : Except ApiError String :=
  departmentQueueName cfg (viewAt cfg departments rand server department s₀ i) department.parent entry.nodepool

def want (i : Nat) (entry : QueueConfig) (name : String) : Queue :=
  expectedQueue cfg department entry
    (heldParent (viewAt cfg departments rand server department s₀ i) name
      ((parentAt cfg departments rand server department s₀ i entry).toOption.getD "")
      (currentParent cfg department entry.nodepool (progressAt cfg departments rand server department s₀ i).store))
    name

end Loop

section Loop

variable (cfg : Config) (departments : DepartmentStore) (rand : Nat → Nat → Nat → String)
  (server : Nat → Server) (department : Department) (before : QueueStore)

abbrev departmentLoop : Loop where
  cfg := cfg
  departments := departments
  rand := rand
  server := server
  queues := department.queues
  reconcile m entry := (reconcileEntry cfg m department entry).map Prod.snd
  handleEntry := handleEntry cfg (.fresh departments rand server) department
  handles := handles cfg _ department
  ownerUID := department.uid
  labelKey := cfg.queueDepartmentNameLabelKey
  ownerName := department.name
  ownerKind := departmentKind
  before := before
  planned := plan cfg department rand before
  reconciledAt := reconciledAt cfg department rand before
  want := want cfg departments rand server department before
  want_name _ _ _ := rfl

theorem handle_eq : (handle cfg (.fresh departments rand server) department before).2 =
    (departmentLoop cfg departments rand server department before).result := by
  rw [handle, handleEntries, ← loopTo_length]
  exact apply_ite Prod.snd ..

end Loop

/-- No error, distinct node pools and distinct drawn names. -/
structure DepartmentRun where
  cfg : Config
  departments : DepartmentStore
  rand : Nat → Nat → Nat → String
  server : Nat → Server
  department : Department
  before : QueueStore
  pools : (department.queues.map QueueConfig.nodepool).Nodup
  drawn : NoCollision cfg department.queues department.name rand before
  nil : (handle cfg (.fresh departments rand server) department before).2.1 = []

namespace DepartmentRun

variable (r : DepartmentRun) {i : Nat} {entry : QueueConfig}

abbrev loop : Loop := departmentLoop r.cfg r.departments r.rand r.server r.department r.before

theorem nil_loop : r.loop.result.1 = [] := handle_eq .. ▸ r.nil

theorem entry_reconciled (hi : r.department.queues[i]? = some entry) :
    ∃ held name, reconcileEntry r.cfg (Environment.fresh r.departments r.rand r.server i (r.loop.store i)) r.department
      entry = .ok (held, name, r.loop.store (i + 1)) := by
  obtain ⟨name, hentry, -⟩ := Loop.reconciled_at r.nil_loop hi
  obtain ⟨⟨held, result⟩, hdone, rfl⟩ := map_ok hentry
  exact ⟨held, name, hdone⟩

theorem made (h : r.loop.Inv i) {q : Queue} (hq : q ∈ (r.loop.store i).items) (hc : q.name ∈ r.loop.claimed i) :
    ∃ j < i, ∃ entry, r.department.queues[j]? = some entry ∧ Made r.cfg r.department entry.nodepool q := by
  obtain ⟨j, hj, entry, hentry, -, -, hwant⟩ := h.last hq hc
  exact ⟨j, hj, entry, hentry, (Made.of_equal hwant).1⟩

theorem claim_eq (hi : r.department.queues[i]? = some entry) :
    r.loop.claim i = plan r.cfg r.department r.rand r.before (r.loop.claimed i) i entry := claimAt_eq hi

/-- Nothing written serves an entry still to come. -/
theorem claimed_not_serves (h : r.loop.Inv i) (hi : r.department.queues[i]? = some entry) :
    ∀ q ∈ (r.loop.store i).items, q.name ∈ r.loop.claimed i → serves r.cfg r.department entry.nodepool q = false := by
  intro q hq hc
  obtain ⟨j, hj, e, he, hmade⟩ := r.made h hq hc
  by_contra hserves
  simp only [serves, Bool.not_eq_false, Bool.and_eq_true] at hserves
  have hidx := index_of_pool r.pools he hi (inPool_inj hmade.inPool hserves.2)
  omega

theorem planned (h : r.loop.Inv i) (hi : r.department.queues[i]? = some entry) :
    claimedName r.cfg r.department ((r.loop.store i).items.find? (serves r.cfg r.department entry.nodepool))
      ((r.loop.store i).get (getQueueName r.cfg entry r.department.name)) (getQueueName r.cfg entry r.department.name)
      (drawnName (r.rand i) (getQueueName r.cfg entry r.department.name)) = r.loop.claim i := by
  rw [h.agree.find_eq _ (r.claimed_not_serves h hi), r.claim_eq hi]
  simp only [plan]
  split
  · rename_i q hq
    rw [hq, claimedName]
  · rename_i hnone
    rw [hnone]
    split_ifs with hc
    · obtain ⟨q, hq, hname⟩ := h.held hc
      obtain ⟨_, _, _, _, hmade⟩ := r.made h hq (hname ▸ hc)
      have hget := Store.get_of_mem hq
      rw [hname] at hget
      simp [hget, claimedName, hmade.taken r.department.name r.department.uid]
    · rw [h.agree.get_eq hc]

/-- The entry's turn puts its queue under the name that it claims, if any. -/
theorem turned (h : r.loop.Inv i) (hi : r.department.queues[i]? = some entry) {held : Bool} {name : String} {s : QueueStore}
    (hentry : reconcileEntry r.cfg (Environment.fresh r.departments r.rand r.server i (r.loop.store i)) r.department entry =
      .ok (held, name, s)) :
    (∃ requirement, nodePoolRequirement r.cfg entry.nodepool = .ok requirement) ∧ r.loop.reconciledAt i = some name ∧
    ∃ parent, parentAt r.cfg r.departments r.rand r.server r.department r.before i entry = .ok parent ∧
      match r.loop.claim i with
      | some c => name = c ∧ Puts (r.loop.want i entry c) (r.loop.store i) s
      | none => s = r.loop.store i := by
  have hfree : (r.loop.store i).get (drawnName (r.rand i) (getQueueName r.cfg entry r.department.name)) = none :=
    drawn_free (fun _ _ _ _ hc => plan_origin hc) r.drawn hi h.agree
  obtain ⟨hrequirement, parent, hparent, hclaim⟩ := reconcileEntry_fresh hfree hentry
  rw [r.planned h hi] at hclaim
  have hparent' : parentAt r.cfg r.departments r.rand r.server r.department r.before i entry = .ok parent := hparent
  have hat : r.loop.reconciledAt i = some ((r.loop.claim i).getD (getQueueName r.cfg entry r.department.name)) := by
    simp [reconciledAt, hi, Loop.claim]
  refine ⟨hrequirement, ?_, parent, hparent, ?_⟩
  · rw [hat]
    cases hplan : r.loop.claim i <;> simp_all
  · cases hplan : r.loop.claim i with
    | none =>
      rw [hplan] at hclaim
      exact hclaim.2
    | some c =>
      rw [hplan] at hclaim
      refine ⟨hclaim.1, ?_⟩
      simp only [want, hparent', Except.toOption, Option.getD_some]
      exact hclaim.2

def run : CleanRun where
  toLoop := r.loop
  nil := r.nil_loop
  claim_reconciled _ _ h := reconciledAt_of_claim h
  turn {i entry name s} hi h hentry := by
    obtain ⟨⟨held, result⟩, hdone, rfl⟩ := map_ok hentry
    obtain ⟨-, hname, -, -, hclaim⟩ := r.turned h hi hdone
    refine ⟨hname, ?_⟩
    cases hplan : r.loop.claim i with
    | none => rwa [hplan] at hclaim
    | some c =>
      rw [hplan] at hclaim
      exact hclaim.2

theorem run_final : r.run.final = (handle r.cfg (.fresh r.departments r.rand r.server) r.department r.before).2.2 := by
  rw [handle_eq, Loop.result_eq r.nil_loop]
  rfl

end DepartmentRun

/-! ## Convergence -/

section Convergence

variable (cfg : Config) (departments : DepartmentStore) (rand : Nat → Nat → Nat → String)
  (server : Nat → Server) (department : Department) (s₀ : QueueStore)

/-- As the `i`-th entry says, but for a parent that would close a loop. -/
def BuiltFrom (i : Nat) (entry : QueueConfig) (q : Queue) : Prop :=
  ∃ parent, parentAt cfg departments rand server department s₀ i entry = .ok parent ∧
    (q.spec = populateQueueSpec entry.resources department.name parent entry.priority ∨
      (wouldCloseQueueLoop (viewAt cfg departments rand server department s₀ i) q.name parent = .ok true ∧
        q.spec = populateQueueSpec entry.resources department.name "" entry.priority))

/-- Every entry has exactly one queue, built from it. -/
def Converged (s : QueueStore) : Prop :=
  ∀ i entry, department.queues[i]? = some entry →
    ∃ q ∈ s.items, serves cfg department entry.nodepool q ∧
      (∀ q' ∈ s.items, serves cfg department entry.nodepool q' → q' = q) ∧
      BuiltFrom cfg departments rand server department s₀ i entry q

/-- The entry claims a name, and every other queue of the node pool is deleted. -/
def Secured (i : Nat) (entry : QueueConfig) : Prop :=
  (∃ c, claimAt (plan cfg department rand s₀) department.queues i = some c) ∧
  ∀ q ∈ s₀.items, serves cfg department entry.nodepool q →
    (∀ j, claimAt (plan cfg department rand s₀) department.queues j ≠ some q.name) →
    q.labels.lookup cfg.queueDepartmentNameLabelKey = some department.name ∧
      isOwnedByKind q.ownerReferences departmentKind

variable {cfg departments rand server department s₀}

namespace DepartmentRun

variable (r : DepartmentRun) {i j : Nat} {entry : QueueConfig} {q : Queue} {c : String}

abbrev BuiltFrom (i : Nat) (entry : QueueConfig) (q : Queue) : Prop :=
  DepartmentHandler.BuiltFrom r.cfg r.departments r.rand r.server r.department r.before i entry q

theorem claim_inj (hi : r.run.claim i = some c) (hj : r.run.claim j = some c) : i = j := by
  have hlt : ∀ k l, k < l → r.run.claim k = some c → r.run.claim l ≠ some c := by
    intro k l hkl hk hl
    obtain ⟨e, he⟩ := Loop.exists_entry hl
    refine plan_not_claimed ?_ ((r.claim_eq he).symm.trans hl) (mem_claims.2 ⟨k, hkl, hk⟩)
    exact drawn_not_claimed (fun _ _ _ _ hc => plan_origin hc) r.drawn he
  rcases Nat.lt_trichotomy i j with h | h | h
  · exact absurd hj (hlt i j h hi)
  · exact h
  · exact absurd hi (hlt j i h hj)

theorem last (hq : q ∈ r.run.done.items) (hclaim : ∃ j, r.run.claim j = some q.name) :
    ∃ j entry, r.department.queues[j]? = some entry ∧ r.run.claim j = some q.name ∧
      Made r.cfg r.department entry.nodepool q ∧ r.BuiltFrom j entry q := by
  obtain ⟨j, entry, hentry, hj, -, hwant⟩ := r.run.last_done hq hclaim
  obtain ⟨_, _, hreconciled⟩ := r.entry_reconciled hentry
  obtain ⟨-, parent, hparent, -⟩ := reconcileEntry_parts hreconciled
  obtain ⟨hmade, -, hspec⟩ := Made.of_equal hwant
  refine ⟨j, entry, hentry, hj, hmade, parent, hparent, ?_⟩
  rw [show parentAt _ _ _ _ _ _ j entry = .ok parent from hparent] at hspec
  simp only [Except.toOption, Option.getD_some] at hspec
  rcases heldParent_cases (viewAt r.cfg r.departments r.rand r.server r.department r.before j) q.name parent
    (currentParent r.cfg r.department entry.nodepool (r.run.store j)) with hheld | ⟨hloop, hheld⟩
  · exact .inl (hheld ▸ hspec)
  · exact .inr ⟨hloop, hheld ▸ hspec⟩

theorem serves_done (hi : r.department.queues[i]? = some entry) (hq : q ∈ r.run.done.items)
    (hserves : serves r.cfg r.department entry.nodepool q) :
    (r.run.claim i = some q.name ∧ r.BuiltFrom i entry q) ∨ (q ∈ r.before.items ∧ ∀ j, r.run.claim j ≠ some q.name) := by
  by_cases hc : ∃ j, r.run.claim j = some q.name
  · left
    obtain ⟨j, e, he, hclaim, hmade, hbuilt⟩ := r.last hq hc
    simp only [serves, Bool.and_eq_true] at hserves
    cases index_of_pool r.pools he hi (inPool_inj hmade.inPool hserves.2)
    rw [hi] at he
    cases he
    exact ⟨hclaim, hbuilt⟩
  · rw [not_exists] at hc
    exact .inr ⟨(r.run.mem_done hc).2 hq, hc⟩

theorem claimed_final (hi : r.department.queues[i]? = some entry) (hclaim : r.run.claim i = some c) :
    ∃ q ∈ r.run.final.items, q.name = c ∧ serves r.cfg r.department entry.nodepool q ∧ r.BuiltFrom i entry q := by
  obtain ⟨q, hq, rfl⟩ := r.run.held_done hclaim
  obtain ⟨j, e, he, hclaim', hmade, hbuilt⟩ := r.last hq ⟨i, hclaim⟩
  cases r.claim_inj hclaim' hclaim
  rw [hi] at he
  cases he
  exact ⟨q, (r.run.mem_final_of_claim hclaim).2 hq, rfl, hmade.serves, hbuilt⟩

-- An entry without a claim has found no queue, so whatever serves its node pool afterwards was claimed by it.
theorem claimed_of_serves (hi : r.department.queues[i]? = some entry) (hq : q ∈ r.run.done.items)
    (hserves : serves r.cfg r.department entry.nodepool q) : ∃ c, r.run.claim i = some c := by
  rcases r.serves_done hi hq hserves with ⟨hclaim, -⟩ | ⟨hq₀, hfree⟩
  · exact ⟨q.name, hclaim⟩
  · by_contra hnone
    have hplan : r.run.claim i = none := by simpa [Option.eq_none_iff_forall_ne_some] using hnone
    obtain ⟨j, -, hj⟩ := mem_claims.1 ((plan_eq_none ((r.claim_eq hi).symm.trans hplan)).1 q hq₀ hserves)
    exact hfree j hj

theorem unclaimed_stays_iff (hall : ∀ j < r.department.queues.length, r.run.claim j ≠ none) {n : String}
    (hq : q ∈ r.before.items) (hserves : serves r.cfg r.department n q) (hfree : ∀ j, r.run.claim j ≠ some q.name) :
    q ∈ r.run.final.items ↔ ¬ (q.labels.lookup r.cfg.queueDepartmentNameLabelKey = some r.department.name ∧
      isOwnedByKind q.ownerReferences departmentKind) := by
  -- An unclaimed queue of the department goes exactly when the deletion sees it.
  have hnot : ¬ ∃ j < r.department.queues.length, r.run.reconciledAt j = some q.name := by
    rintro ⟨j, hj, hrec⟩
    rcases reconciledAt_cases hrec with hclaim | ⟨hnone, -⟩
    · exact hfree j hclaim
    · exact hall j hj hnone
  have hexternal : isExternalQueue r.cfg q r.department.uid = false := by
    simp only [serves, Bool.and_eq_true] at hserves
    simp [isExternalQueue, hserves.1]
  rw [r.run.mem_final, and_iff_right ((r.run.mem_done hfree).1 hq)]
  exact ⟨fun h hseen => hnot (h hseen.1 ⟨hseen.2, hexternal⟩),
    fun h hlabel hremovable => absurd ⟨hlabel, hremovable.1⟩ h⟩

end DepartmentRun

/-- Queues converge exactly when every entry is secured before. -/
theorem department_queues_converge_iff (hpools : (department.queues.map QueueConfig.nodepool).Nodup)
    (hrand : NoCollision cfg department.queues department.name rand s₀)
    (hnil : (handle cfg (.fresh departments rand server) department s₀).2.1 = []) :
    Converged cfg departments rand server department s₀
        (handle cfg (.fresh departments rand server) department s₀).2.2 ↔
      ∀ i entry, department.queues[i]? = some entry → Secured cfg rand department s₀ i entry := by
  let r : DepartmentRun := ⟨cfg, departments, rand, server, department, s₀, hpools, hrand, hnil⟩
  rw [← r.run_final]
  have hall (h : ∀ i entry, department.queues[i]? = some entry → ∃ c, r.run.claim i = some c) :
      ∀ j < department.queues.length, r.run.claim j ≠ none := by
    intro j hj
    obtain ⟨c, hc⟩ := h j _ (List.getElem?_eq_getElem hj)
    rw [hc]
    exact Option.some_ne_none c
  constructor
  · intro hconv
    have hsome : ∀ i entry, department.queues[i]? = some entry → ∃ c, r.run.claim i = some c := by
      intro i entry hi
      obtain ⟨q, hq, hserves, -⟩ := hconv i entry hi
      exact r.claimed_of_serves hi ((r.run.mem_final q).1 hq).1 hserves
    intro i entry hi
    refine ⟨hsome i entry hi, fun q hq hserves hfree => ?_⟩
    -- a queue that the deletion passes over would serve the entry beside the claimed one
    by_contra hseen
    have hstay := (r.unclaimed_stays_iff (hall hsome) hq hserves hfree).2 hseen
    obtain ⟨c, hclaim⟩ := hsome i entry hi
    obtain ⟨own, hown, rfl, hserves', -⟩ := r.claimed_final hi hclaim
    obtain ⟨u, -, -, huniq, -⟩ := hconv i entry hi
    have hsame : q = own := (huniq q hstay hserves).trans (huniq own hown hserves').symm
    exact hfree i (hsame ▸ hclaim)
  · intro hsec i entry hi
    obtain ⟨⟨c, hclaim⟩, hseen⟩ := hsec i entry hi
    obtain ⟨q, hq, rfl, hserves, hbuilt⟩ := r.claimed_final hi hclaim
    refine ⟨q, hq, hserves, fun q' hq' hserves' => ?_, hbuilt⟩
    have hdone := ((r.run.mem_final q').1 hq').1
    rcases r.serves_done hi hdone hserves' with ⟨hclaim', -⟩ | ⟨hq₀, hfree⟩
    · exact Store.eq_of_mem hdone ((r.run.mem_final q).1 hq).1 (Option.some.inj (hclaim'.symm.trans hclaim))
    · have hsome := hall fun j e hj => (hsec j e hj).1
      exact absurd (hseen q' hq₀ hserves' hfree) ((r.unclaimed_stays_iff hsome hq₀ hserves' hfree).1 hq')

end Convergence

/-! ## A department that converges and one that does not -/

namespace Sample

def twoPools : Department where
  name := "d"
  uid := "u1"
  parent := ""
  queues := [⟨"", "default", none, none⟩, ⟨"", "gpu", none, none⟩]

def unowned : Queue where
  name := "d"
  labels := ∅
  ownerReferences := []
  spec := populateQueueSpec none "d" "" none
  resourceVersion := 1

def renamed : Queue :=
  { unowned with
    name := "d-old"
    labels := (∅ : Labels).insert "kai.resources/department-name" "d"
    ownerReferences := [ownerReference departmentKind "d" "u1"]
    spec := populateQueueSpec none "d" "" (some 5) }

end Sample

open Sample in
theorem twoPools_queues_converge :
    Converged (.default false) .empty suffix (fun i => .willing (i + 2)) twoPools (holding renamed)
      (handle (.default false) (.fresh .empty suffix fun i => .willing (i + 2)) twoPools (holding renamed)).2.2 := by
  -- The queue for the default pool is updated under its old name, the other one is created.
  refine (department_queues_converge_iff (by decide) (.of_zipIdx (by decide)) (by decide)).2 ?_
  have hclaim : claimAt (plan (.default false) twoPools suffix (holding renamed)) twoPools.queues 0 =
      some "d-old" := by decide
  have hunclaimed : ∀ q ∈ (holding renamed).items,
      ¬ ∀ j, claimAt (plan (.default false) twoPools suffix (holding renamed)) twoPools.queues j ≠ some q.name := by
    intro q hq hfree
    simp only [holding, Store.single, List.mem_singleton] at hq
    subst hq
    exact hfree 0 hclaim
  intro i entry hi
  refine ⟨?_, fun q hq _ hfree => absurd hfree (hunclaimed q hq)⟩
  rcases i with _ | _ | i
  · exact ⟨"d-old", hclaim⟩
  · exact ⟨"d-gpu", by decide⟩
  · exact absurd hi (Option.some_ne_none entry).symm

open Sample in
theorem unowned_queue_not_taken_over :
    (twoPools.queues.map QueueConfig.nodepool).Nodup ∧
    NoCollision (.default false) twoPools.queues twoPools.name suffix (holding unowned) ∧
    (handle (.default false) (.fresh .empty suffix fun i => .willing (i + 2)) twoPools
      (holding unowned)).2.1 = [] ∧
    ¬ Converged (.default false) .empty suffix (fun i => .willing (i + 2)) twoPools (holding unowned)
      (handle (.default false) (.fresh .empty suffix fun i => .willing (i + 2)) twoPools (holding unowned)).2.2 := by
  -- A queue that nobody owns keeps the department from having one, and the reconcile reports success.
  refine ⟨by decide, .of_zipIdx (by decide), by decide, fun hconv => ?_⟩
  obtain ⟨q, hq, hserves, -⟩ := hconv 0 _ rfl
  have hnone : ∀ q ∈ (handle (.default false) (.fresh .empty suffix fun i => .willing (i + 2)) twoPools
      (holding unowned)).2.2.items, serves (.default false) twoPools "default" q = false := by decide
  exact absurd (hserves.symm.trans (hnone q hq)) (by decide)

end Krm.Queues.DepartmentHandler
