import Krm.Queues.Loop
import Krm.Queues.ProjectEntry

/-! # When the queues of a Project converge

The loop over the spec entries is described by the names that the entries claim, which are planned from the
store before the reconcile. -/

open Krm.Lib

namespace Krm.Queues.QueueResourceHandler

/-! ## Labels of an expected queue -/

section Labels

variable (cfg : Config) (project : Project) (n : String)

theorem keys_ne : cfg.projectLabelKey ≠ cfg.projectIdLabelKey ∧
    cfg.projectLabelKey ≠ cfg.queueDepartmentNameLabelKey ∧ cfg.projectLabelKey ≠ cfg.nodePoolLabelKey ∧
    cfg.nodePoolLabelKey ≠ cfg.projectIdLabelKey ∧ cfg.nodePoolLabelKey ≠ cfg.queueDepartmentNameLabelKey ∧
    cfg.resourceManualOverrideLabelKey ≠ cfg.projectLabelKey ∧
    cfg.resourceManualOverrideLabelKey ≠ cfg.projectIdLabelKey ∧
    cfg.resourceManualOverrideLabelKey ≠ cfg.queueDepartmentNameLabelKey ∧
    cfg.resourceManualOverrideLabelKey ≠ cfg.nodePoolLabelKey := by
  have h := cfg.keys_nodup
  simp only [List.nodup_cons, List.mem_cons, not_or] at h
  obtain ⟨⟨h1, h2, h3, h4, -⟩, ⟨h5, h6, h7, -⟩, ⟨h8, h9, -⟩, ⟨h10, -⟩, -⟩ := h
  exact ⟨h1, h2, h3, fun e => h6 e.symm, fun e => h8 e.symm, fun e => h4 e.symm, fun e => h7 e.symm,
    fun e => h9 e.symm, fun e => h10 e.symm⟩

theorem lookup_project_queueLabels :
    (queueLabels cfg project n).lookup cfg.projectLabelKey = some project.name := by
  obtain ⟨h1, h2, h3, -⟩ := keys_ne cfg
  unfold queueLabels addNodePoolLabelIfNeeded
  split <;> simp [Finmap.lookup_insert_of_ne, h1, h2, h3]

theorem lookup_nodePool_queueLabels : (queueLabels cfg project n).lookup cfg.nodePoolLabelKey =
    if n = cfg.defaultNodepoolName then none else some n := by
  obtain ⟨-, -, h3, h4, h5, -⟩ := keys_ne cfg
  unfold queueLabels addNodePoolLabelIfNeeded
  by_cases hn : n = cfg.defaultNodepoolName <;> simp [hn, Finmap.lookup_insert_of_ne, h3.symm, h4, h5]

theorem lookup_override_queueLabels :
    (queueLabels cfg project n).lookup cfg.resourceManualOverrideLabelKey = none := by
  obtain ⟨-, -, -, -, -, h6, h7, h8, h9⟩ := keys_ne cfg
  unfold queueLabels addNodePoolLabelIfNeeded
  split <;> simp [Finmap.lookup_insert_of_ne, h6, h7, h8, h9]

end Labels

theorem takenBy_own {cfg : Config} {project : Project} {q : Queue} (hp : project.name ≠ "")
    (howned : isOwnedByUID q.ownerReferences project.uid) (hkind : isOwnedByKind q.ownerReferences projectKind)
    (hlabel : q.labels.lookup cfg.projectLabelKey = some project.name) :
    takenBy cfg "" project.name project.uid q = false := by
  simp [takenBy, isExternalQueue, howned, hp, hkind, Labels.value, hlabel]

structure Made (cfg : Config) (project : Project) (n : String) (q : Queue) : Prop where
  labels : q.labels = queueLabels cfg project n
  owners : q.ownerReferences = [ownerReference projectKind project.name project.uid]

namespace Made

variable {cfg : Config} {project : Project} {n : String} {q : Queue}

theorem of_equal {entry : QueueConfig} {parent name : String}
    (h : areQueuesEqual (expectedQueue cfg project entry parent name) q) :
    Made cfg project entry.nodepool q ∧ q.name = name ∧
      q.spec = populateQueueSpec entry.resources name parent entry.priority := by
  obtain ⟨hname, hlabels, howners, hspec⟩ := (areQueuesEqual_iff _ _).1 h
  exact ⟨⟨hlabels.symm, howners.symm⟩, hname.symm, hspec.symm⟩

theorem inPool (h : Made cfg project n q) : inPool cfg n q := by
  simp [Krm.Queues.inPool, h.labels, lookup_nodePool_queueLabels]

theorem ownedByUID (h : Made cfg project n q) : isOwnedByUID q.ownerReferences project.uid := by
  simp [isOwnedByUID, h.owners, ownerReference]

theorem not_overridden (h : Made cfg project n q) : isManuallyOverridden cfg q = false := by
  simp only [isManuallyOverridden, Labels.value, h.labels, lookup_override_queueLabels, decide_eq_false_iff_not]
  decide

theorem ownedByKind (h : Made cfg project n q) : isOwnedByKind q.ownerReferences projectKind := by
  simp [isOwnedByKind, h.owners, ownerReference]

theorem lookup_project (h : Made cfg project n q) :
    q.labels.lookup cfg.projectLabelKey = some project.name := by
  rw [h.labels, lookup_project_queueLabels]

end Made

/-! ## The plan -/

section Plan

variable (cfg : Config) (project : Project) (rand : Nat → Nat → Nat → String) (s₀ : QueueStore)

/-- The name that the `i`-th entry claims: the first unclaimed queue's by labels, else of the suggested name. -/
def plan (claimed : List String) (i : Nat) (entry : QueueConfig) : Option String :=
  let name := getQueueName cfg entry project.name
  match s₀.items.find? fun q => foundByLabels cfg project entry.nodepool q && decide (q.name ∉ claimed) with
  | some q => some q.name
  | none =>
    if name ∈ claimed then some name
    else claimedName cfg project none (s₀.get name) name (drawnName (rand i) name)

variable {entry : QueueConfig} {c : String} {i : Nat} {claimed : List String}

theorem plan_eq_none (h : plan cfg project rand s₀ claimed i entry = none) :
    ∃ q, s₀.get (getQueueName cfg entry project.name) = some q ∧
      takenBy cfg "" project.name project.uid q ∧ takenBy cfg project.name "" project.uid q = false := by
  simp only [plan] at h
  split at h
  · cases h
  · split_ifs at h
    exact claimedName_eq_none h

theorem plan_origin (h : plan cfg project rand s₀ claimed i entry = some c) :
    (s₀.get c).isSome ∨ c = getQueueName cfg entry project.name ∨
      c = drawnName (rand i) (getQueueName cfg entry project.name) := by
  simp only [plan] at h
  split at h
  · rename_i q hq
    left
    cases h
    rw [Store.get_of_mem (List.mem_of_find?_eq_some hq)]
    rfl
  · split_ifs at h
    · cases h
      exact .inr (.inl rfl)
    · exact .inr (claimedName_none h)

/-- The claimed name, unless the queue there is overridden. -/
def writes (claimed : List String) (i : Nat) (entry : QueueConfig) : Option String :=
  (plan cfg project rand s₀ claimed i entry).filter fun c => !(s₀.get c).any (isManuallyOverridden cfg)

/-- The claimed name, else the suggested one. -/
def reconciledAt (i : Nat) : Option String :=
  project.queues[i]?.map fun entry =>
    (plan cfg project rand s₀ (claims (writes cfg project rand s₀) project.queues i) i entry).getD
      (getQueueName cfg entry project.name)

variable {cfg project rand s₀}

theorem writes_eq_some :
    writes cfg project rand s₀ claimed i entry = some c ↔
      plan cfg project rand s₀ claimed i entry = some c ∧ (s₀.get c).any (isManuallyOverridden cfg) = false := by
  simp [writes, Option.filter_eq_some_iff]

theorem writes_eq (hover : ∀ q ∈ s₀.items, isManuallyOverridden cfg q = false) :
    writes cfg project rand s₀ = plan cfg project rand s₀ := by
  have hnone : ∀ c, (s₀.get c).any (isManuallyOverridden cfg) = false := by
    intro c
    cases hget : s₀.get c with
    | none => rfl
    | some q => exact hover q (Store.get_mem hget)
  funext claimed i entry
  cases hplan : plan cfg project rand s₀ claimed i entry <;> simp [writes, hplan, hnone, Option.filter]

theorem writes_origin (h : writes cfg project rand s₀ claimed i entry = some c) :
    (s₀.get c).isSome ∨ c = getQueueName cfg entry project.name ∨
      c = drawnName (rand i) (getQueueName cfg entry project.name) :=
  plan_origin cfg project rand s₀ (writes_eq_some.1 h).1

theorem claimAt_writes (h : claimAt (writes cfg project rand s₀) project.queues i = some c) :
    reconciledAt cfg project rand s₀ i = some c ∧ (s₀.get c).any (isManuallyOverridden cfg) = false := by
  obtain ⟨entry, hi, hwrites⟩ := Option.bind_eq_some_iff.1 h
  obtain ⟨hplan, hover⟩ := writes_eq_some.1 hwrites
  exact ⟨by simp [reconciledAt, hi, hplan], hover⟩

theorem reconciledAt_unwritten {r : String} (h : reconciledAt cfg project rand s₀ i = some r)
    (hwrites : claimAt (writes cfg project rand s₀) project.queues i ≠ some r) :
    ∃ q, s₀.get r = some q ∧ (isManuallyOverridden cfg q ∨ (takenBy cfg "" project.name project.uid q ∧
      takenBy cfg project.name "" project.uid q = false)) := by
  simp only [reconciledAt, Option.map_eq_some_iff] at h
  obtain ⟨entry, hi, h⟩ := h
  rw [claimAt_eq hi, ne_eq, writes_eq_some] at hwrites
  cases hplan : plan cfg project rand s₀ (claims (writes cfg project rand s₀) project.queues i) i entry with
  | none =>
    rw [hplan, Option.getD_none] at h
    obtain ⟨q, hq, htaken⟩ := plan_eq_none cfg project rand s₀ hplan
    exact ⟨q, h ▸ hq, .inr htaken⟩
  | some c =>
    rw [hplan, Option.getD_some] at h
    subst h
    rw [hplan] at hwrites
    simp only [true_and, Bool.not_eq_false, Option.any_eq_true] at hwrites
    obtain ⟨q, hq, hover⟩ := hwrites
    exact ⟨q, hq, .inl hover⟩

theorem claims_not_overridden (h : c ∈ claims (writes cfg project rand s₀) project.queues i) :
    (s₀.get c).any (isManuallyOverridden cfg) = false := by
  obtain ⟨j, -, hclaim⟩ := mem_claims.1 h
  exact (claimAt_writes hclaim).2

end Plan

/-! ## The loop over the entries -/

section Loop

variable (cfg : Config) (departments : DepartmentStore) (rand : Nat → Nat → Nat → String)
  (server : Nat → Server) (project : Project) (s₀ : QueueStore)

def progressAt (i : Nat) : Progress :=
  loopTo (handleEntry cfg (.fresh departments rand server) project) (.start s₀) project.queues i

def parentAt (i : Nat) (entry : QueueConfig) : Except ApiError String :=
  departmentQueueName cfg (.fresh departments (rand i) (progressAt cfg departments rand server project s₀ i).store)
    project.parent entry.nodepool

def want (i : Nat) (entry : QueueConfig) (name : String) : Queue :=
  expectedQueue cfg project entry ((parentAt cfg departments rand server project s₀ i entry).toOption.getD "") name

end Loop

section Loop

variable (cfg : Config) (departments : DepartmentStore) (rand : Nat → Nat → Nat → String)
  (server : Nat → Server) (project : Project) (before : QueueStore)

abbrev projectLoop : Loop where
  cfg := cfg
  departments := departments
  rand := rand
  server := server
  queues := project.queues
  reconcile m := reconcileEntry cfg m project
  handleEntry := handleEntry cfg (.fresh departments rand server) project
  handles := handles cfg _ project
  ownerUID := project.uid
  labelKey := cfg.projectLabelKey
  ownerName := project.name
  ownerKind := projectKind
  before := before
  planned := writes cfg project rand before
  reconciledAt := reconciledAt cfg project rand before
  want := want cfg departments rand server project before
  want_name _ _ _ := rfl

theorem handleResourceInner_eq : handleResourceInner cfg (.fresh departments rand server) project before =
    (projectLoop cfg departments rand server project before).result := by
  rw [handleResourceInner, handleEntries, ← loopTo_length]
  rfl

end Loop

/-- No error, distinct node pools and distinct drawn names. -/
structure ProjectRun where
  cfg : Config
  departments : DepartmentStore
  rand : Nat → Nat → Nat → String
  server : Nat → Server
  project : Project
  before : QueueStore
  pools : (project.queues.map QueueConfig.nodepool).Nodup
  drawn : NoCollision cfg project.queues project.name rand before
  nil : (handleResourceInner cfg (.fresh departments rand server) project before).1 = []

namespace ProjectRun

variable (r : ProjectRun) {i : Nat} {entry : QueueConfig}

abbrev loop : Loop := projectLoop r.cfg r.departments r.rand r.server r.project r.before

theorem nil_loop : r.loop.result.1 = [] := handleResourceInner_eq .. ▸ r.nil

theorem made_of_want {q : Queue} (h : areQueuesEqual (r.loop.want i entry q.name) q) :
    Made r.cfg r.project entry.nodepool q := (Made.of_equal h).1

theorem made (h : r.loop.Inv i) {q : Queue} (hq : q ∈ (r.loop.store i).items) (hc : q.name ∈ r.loop.claimed i) :
    ∃ j < i, ∃ entry, r.project.queues[j]? = some entry ∧ Made r.cfg r.project entry.nodepool q := by
  obtain ⟨j, hj, entry, hentry, -, -, hwant⟩ := h.last hq hc
  exact ⟨j, hj, entry, hentry, r.made_of_want hwant⟩

theorem overridden_iff (h : r.loop.Inv i) (c : String) :
    ((r.loop.store i).get c).any (isManuallyOverridden r.cfg) = (r.before.get c).any (isManuallyOverridden r.cfg) := by
  by_cases hc : c ∈ r.loop.claimed i
  · obtain ⟨q, hq, rfl⟩ := h.held hc
    obtain ⟨_, _, _, _, hmade⟩ := r.made h hq hc
    simp [Store.get_of_mem hq, hmade.not_overridden, claims_not_overridden hc]
  · rw [h.agree.get_eq hc]

theorem planned (h : r.loop.Inv i) (hp : r.project.name ≠ "") (hi : r.project.queues[i]? = some entry) :
    claimedName r.cfg r.project ((r.loop.store i).items.find? (foundByLabels r.cfg r.project entry.nodepool))
      ((r.loop.store i).get (getQueueName r.cfg entry r.project.name)) (getQueueName r.cfg entry r.project.name)
      (drawnName (r.rand i) (getQueueName r.cfg entry r.project.name)) =
    plan r.cfg r.project r.rand r.before (r.loop.claimed i) i entry := by
  have hpass : ∀ q ∈ (r.loop.store i).items, q.name ∈ r.loop.claimed i →
      foundByLabels r.cfg r.project entry.nodepool q = false := by
    intro q hq hc
    obtain ⟨j, hj, e, he, hmade⟩ := r.made h hq hc
    by_contra hfound
    have hpool : inPool r.cfg entry.nodepool q := by
      simp only [foundByLabels, Bool.not_eq_false, Bool.and_eq_true] at hfound
      exact hfound.1.2
    have hidx := index_of_pool r.pools he hi (inPool_inj hmade.inPool hpool)
    omega
  rw [h.agree.find_eq _ hpass]
  simp only [plan]
  split
  · rename_i q hq
    rw [hq, claimedName]
  · rename_i hnone
    rw [hnone]
    split_ifs with hc
    · obtain ⟨q, hq, hname⟩ := h.held hc
      obtain ⟨_, _, _, _, hmade⟩ := r.made h hq (hname ▸ hc)
      have hget := Store.get_of_mem hq
      rw [hname] at hget
      simp [hget, claimedName, takenBy_own hp hmade.ownedByUID hmade.ownedByKind hmade.lookup_project]
    · rw [h.agree.get_eq hc]

theorem drawn_not_held (h : r.loop.Inv i) (hi : r.project.queues[i]? = some entry) :
    (r.loop.store i).get (drawnName (r.rand i) (getQueueName r.cfg entry r.project.name)) = none :=
  drawn_free (fun _ _ _ _ hc => writes_origin hc) r.drawn hi h.agree

/-- The turn puts the queue under the claimed name, unless overridden. -/
theorem turned (h : r.loop.Inv i) (hi : r.project.queues[i]? = some entry) {name : String} {s : QueueStore}
    (hentry : reconcileEntry r.cfg (Environment.fresh r.departments r.rand r.server i (r.loop.store i)) r.project entry =
      .ok (name, s)) :
    r.loop.reconciledAt i = some name ∧ ∃ parent,
      parentAt r.cfg r.departments r.rand r.server r.project r.before i entry = .ok parent ∧
      match r.loop.claim i with
      | some c => name = c ∧ Puts (expectedQueue r.cfg r.project entry parent c) (r.loop.store i) s
      | none => s = r.loop.store i := by
  obtain ⟨hp, parent, hparent, hclaim⟩ := reconcileEntry_fresh (r.drawn_not_held h hi) hentry
  rw [r.planned h hp hi] at hclaim
  have hat : r.loop.reconciledAt i = some ((plan r.cfg r.project r.rand r.before (r.loop.claimed i) i entry).getD
      (getQueueName r.cfg entry r.project.name)) := by simp [reconciledAt, hi, Loop.claimed]
  have hwrites : r.loop.claim i = (plan r.cfg r.project r.rand r.before (r.loop.claimed i) i entry).filter fun c =>
      !(r.before.get c).any (isManuallyOverridden r.cfg) := claimAt_eq hi
  rw [hwrites]
  cases hplan : plan r.cfg r.project r.rand r.before (r.loop.claimed i) i entry with
  | none =>
    rw [hplan] at hclaim hat
    obtain ⟨rfl, rfl⟩ := hclaim
    exact ⟨hat, parent, hparent, rfl⟩
  | some c =>
    rw [hplan] at hclaim hat
    obtain ⟨rfl, hstore⟩ := hclaim
    rw [r.overridden_iff h] at hstore
    refine ⟨hat, parent, hparent, ?_⟩
    cases hover : (r.before.get name).any (isManuallyOverridden r.cfg) <;> simp_all [Option.filter]

theorem named (hi : r.project.queues[i]? = some entry) : r.project.name ≠ "" := by
  obtain ⟨name, hentry, -⟩ := Loop.reconciled_at r.nil_loop hi
  exact (reconcileEntry_parts hentry).1

def run : CleanRun where
  toLoop := r.loop
  nil := r.nil_loop
  claim_reconciled _ _ h := (claimAt_writes h).1
  turn {i entry name s} hi h hentry := by
    obtain ⟨hname, parent, hparent, hclaim⟩ := r.turned h hi hentry
    refine ⟨hname, ?_⟩
    cases hwrites : r.loop.claim i with
    | none => rwa [hwrites] at hclaim
    | some c =>
      rw [hwrites] at hclaim
      have hwant : r.loop.want i entry c = expectedQueue r.cfg r.project entry parent c := by
        simp only [want, hparent, Except.toOption, Option.getD_some]
      show Puts (r.loop.want i entry c) _ _
      rw [hwant]
      exact hclaim.2

theorem run_final : r.run.final = (handleResourceInner r.cfg (.fresh r.departments r.rand r.server) r.project r.before).2 := by
  rw [handleResourceInner_eq, Loop.result_eq r.nil_loop]
  rfl

end ProjectRun

/-! ## Convergence -/

/-- The project's UID, its label and the node pool's. -/
def serves (cfg : Config) (project : Project) (n : String) (q : Queue) : Bool :=
  isOwnedByUID q.ownerReferences project.uid &&
    (decide (q.labels.lookup cfg.projectLabelKey = some project.name) && inPool cfg n q)

section Convergence

variable (cfg : Config) (departments : DepartmentStore) (rand : Nat → Nat → Nat → String)
  (server : Nat → Server) (project : Project) (s₀ : QueueStore)

def BuiltFrom (i : Nat) (entry : QueueConfig) (q : Queue) : Prop :=
  ∃ parent, parentAt cfg departments rand server project s₀ i entry = .ok parent ∧
    q.spec = populateQueueSpec entry.resources q.name parent entry.priority

/-- Every entry has exactly one queue, built from it. -/
def Converged (s : QueueStore) : Prop :=
  ∀ i entry, project.queues[i]? = some entry →
    ∃ q ∈ s.items, serves cfg project entry.nodepool q ∧
      (∀ q' ∈ s.items, serves cfg project entry.nodepool q' → q' = q) ∧
      BuiltFrom cfg departments rand server project s₀ i entry q

/-- The `i`-th entry claims a name that no later entry claims. -/
def KeepsClaim (i : Nat) : Prop :=
  ∃ c, claimAt (plan cfg project rand s₀) project.queues i = some c ∧
    ∀ j, i < j → claimAt (plan cfg project rand s₀) project.queues j ≠ some c

/-- The project's UID under another owner kind, claimed by no entry. -/
def Stray (n : String) (q : Queue) : Prop :=
  q ∈ s₀.items ∧ serves cfg project n q ∧ isOwnedByKind q.ownerReferences projectKind = false ∧
    ∀ j, claimAt (plan cfg project rand s₀) project.queues j ≠ some q.name

/-- The entry keeps what it claims, without strays; or it has none, and the one stray is as wanted. -/
def Secured (i : Nat) (entry : QueueConfig) : Prop :=
  (KeepsClaim cfg rand project s₀ i ∧ ∀ q, ¬ Stray cfg rand project s₀ entry.nodepool q) ∨
  (¬ KeepsClaim cfg rand project s₀ i ∧ ∃ q, Stray cfg rand project s₀ entry.nodepool q ∧
    (∀ q', Stray cfg rand project s₀ entry.nodepool q' → q' = q) ∧
    BuiltFrom cfg departments rand server project s₀ i entry q)

variable {cfg departments rand server project s₀}

theorem ProjectRun.claim_eq (r : ProjectRun) (hover : ∀ q ∈ r.before.items, isManuallyOverridden r.cfg q = false) (i : Nat) :
    r.run.claim i = claimAt (plan r.cfg r.project r.rand r.before) r.project.queues i :=
  congrArg (fun planned => claimAt planned r.project.queues i) (writes_eq hover)

section

variable (r : ProjectRun) {i : Nat} {entry : QueueConfig} {q : Queue}

theorem ProjectRun.last (hq : q ∈ r.run.done.items) (hclaim : ∃ j, r.run.claim j = some q.name) :
    ∃ j entry, r.project.queues[j]? = some entry ∧ r.run.claim j = some q.name ∧
      (∀ k, j < k → r.run.claim k ≠ some q.name) ∧ Made r.cfg r.project entry.nodepool q ∧
      BuiltFrom r.cfg r.departments r.rand r.server r.project r.before j entry q := by
  obtain ⟨j, entry, hentry, hj, hlast, hwant⟩ := r.run.last_done hq hclaim
  obtain ⟨name, hreconciled, -⟩ := Loop.reconciled_at r.nil_loop hentry
  obtain ⟨-, parent, hparent, -⟩ := reconcileEntry_parts hreconciled
  obtain ⟨hmade, -, hspec⟩ := Made.of_equal hwant
  rw [show parentAt _ _ _ _ _ _ j entry = .ok parent from hparent] at hspec
  exact ⟨j, entry, hentry, hj, hlast, hmade, parent, hparent, hspec⟩

theorem ProjectRun.own (hi : r.project.queues[i]? = some entry) (hq : q ∈ r.run.done.items)
    (hclaim : r.run.claim i = some q.name) (hlast : ∀ j, i < j → r.run.claim j ≠ some q.name) :
    Made r.cfg r.project entry.nodepool q ∧
      BuiltFrom r.cfg r.departments r.rand r.server r.project r.before i entry q := by
  obtain ⟨j, e, he, hclaim', hlast', hmade, hbuilt⟩ := r.last hq ⟨i, hclaim⟩
  have hidx : j = i := by
    rcases Nat.lt_trichotomy j i with hlt | heq | hgt
    · exact absurd hclaim (hlast' i hlt)
    · exact heq
    · exact absurd hclaim' (hlast j hgt)
  subst hidx
  rw [hi] at he
  cases he
  exact ⟨hmade, hbuilt⟩

theorem ProjectRun.serves_final (hover : ∀ q ∈ r.before.items, isManuallyOverridden r.cfg q = false)
    (hi : r.project.queues[i]? = some entry) (q : Queue) :
    (q ∈ r.run.final.items ∧ serves r.cfg r.project entry.nodepool q) ↔
    ((r.run.claim i = some q.name ∧ (∀ j, i < j → r.run.claim j ≠ some q.name) ∧ q ∈ r.run.done.items) ∨
      Stray r.cfg r.rand r.project r.before entry.nodepool q) := by
  -- The queues that serve an entry's node pool afterwards: its own, if it keeps its claim, and the strays.
  simp only [Stray, ← r.claim_eq hover]
  constructor
  · rintro ⟨hfinal, hserves⟩
    obtain ⟨hq, hkept⟩ := (r.run.mem_final q).1 hfinal
    have hserves' := hserves
    simp only [serves, Bool.and_eq_true, decide_eq_true_eq] at hserves'
    obtain ⟨howned, hlabel, hpool⟩ := hserves'
    by_cases hc : ∃ j, r.run.claim j = some q.name
    · left
      obtain ⟨j, e, he, hclaim, hlast, hmade, -⟩ := r.last hq hc
      cases index_of_pool r.pools he hi (inPool_inj hmade.inPool hpool)
      exact ⟨hclaim, hlast, hq⟩
    · rw [not_exists] at hc
      have hbefore : q ∈ r.before.items := (r.run.mem_done hc).2 hq
      refine .inr ⟨hbefore, hserves, ?_, hc⟩
      by_contra hkind
      rw [Bool.not_eq_false] at hkind
      have hremovable : Removable r.cfg r.project.uid projectKind q := ⟨hkind, by simp [isExternalQueue, howned]⟩
      obtain ⟨j, -, hrec⟩ := hkept hlabel hremovable
      obtain ⟨q', hq', hleft⟩ := reconciledAt_unwritten hrec (hc j)
      rw [Store.get_of_mem hbefore] at hq'
      cases hq'
      simp [hover q hbefore, takenBy_own (r.named hi) howned hkind hlabel] at hleft
  · rintro (⟨hclaim, hlast, hq⟩ | ⟨hq, hserves, hkind, hfree⟩)
    · obtain ⟨hmade, -⟩ := r.own hi hq hclaim hlast
      refine ⟨(r.run.mem_final_of_claim hclaim).2 hq, ?_⟩
      simp [serves, hmade.ownedByUID, hmade.lookup_project, hmade.inPool]
    · refine ⟨(r.run.mem_final q).2 ⟨(r.run.mem_done hfree).1 hq, fun _ hremovable => ?_⟩, hserves⟩
      exact absurd (hremovable.1.symm.trans hkind) (by simp)

end

/-- A project's queues converge exactly when every entry is secured before. -/
theorem project_queues_converge_iff (hpools : (project.queues.map QueueConfig.nodepool).Nodup)
    (hover : ∀ q ∈ s₀.items, isManuallyOverridden cfg q = false)
    (hrand : NoCollision cfg project.queues project.name rand s₀)
    (hnil : (handleResourceInner cfg (.fresh departments rand server) project s₀).1 = []) :
    Converged cfg departments rand server project s₀
        (handleResourceInner cfg (.fresh departments rand server) project s₀).2 ↔
      ∀ i entry, project.queues[i]? = some entry → Secured cfg departments rand server project s₀ i entry := by
  let r : ProjectRun := ⟨cfg, departments, rand, server, project, s₀, hpools, hrand, hnil⟩
  rw [← r.run_final]
  have hclaims : ∀ i, claimAt (plan cfg project rand s₀) project.queues i = r.run.claim i := fun i =>
    (r.claim_eq hover i).symm
  simp only [Secured, KeepsClaim, hclaims]
  constructor
  · intro hconv i entry hi
    have hiff := r.serves_final hover hi
    obtain ⟨q, hq, hserves, huniq, hbuilt⟩ := hconv i entry hi
    by_cases hkeep : ∃ c, r.run.claim i = some c ∧ ∀ j, i < j → r.run.claim j ≠ some c
    · left
      refine ⟨hkeep, fun q' hstray => ?_⟩
      obtain ⟨c, hclaim, hlast⟩ := hkeep
      obtain ⟨own, hown, rfl⟩ := r.run.held_done hclaim
      have hown' := (hiff own).2 (.inl ⟨hclaim, hlast, hown⟩)
      have hstray' := (hiff q').2 (.inr hstray)
      -- the entry's own queue and the stray one are the same queue, yet no entry claims the stray's name
      have hsame : q' = own := (huniq q' hstray'.1 hstray'.2).trans (huniq own hown'.1 hown'.2).symm
      exact hstray.2.2.2 i ((hclaims i).trans (hsame ▸ hclaim))
    · right
      refine ⟨hkeep, q, ?_, fun q' hstray => ?_, hbuilt⟩
      · rcases (hiff q).1 ⟨hq, hserves⟩ with ⟨hclaim, hlast, -⟩ | hstray
        · exact absurd ⟨q.name, hclaim, hlast⟩ hkeep
        · exact hstray
      · have hstray' := (hiff q').2 (.inr hstray)
        exact huniq q' hstray'.1 hstray'.2
  · intro hsec i entry hi
    have hiff := r.serves_final hover hi
    rcases hsec i entry hi with ⟨⟨c, hclaim, hlast⟩, hnone⟩ | ⟨hkeep, q, hstray, huniq, hbuilt⟩
    · obtain ⟨q, hq, rfl⟩ := r.run.held_done hclaim
      have hown := (hiff q).2 (.inl ⟨hclaim, hlast, hq⟩)
      refine ⟨q, hown.1, hown.2, fun q' hq' hserves' => ?_, (r.own hi hq hclaim hlast).2⟩
      rcases (hiff q').1 ⟨hq', hserves'⟩ with ⟨hclaim', -, hq''⟩ | hstray
      · exact Store.eq_of_mem hq'' hq (Option.some.inj (hclaim'.symm.trans hclaim))
      · exact absurd hstray (hnone q')
    · have hq := (hiff q).2 (.inr hstray)
      refine ⟨q, hq.1, hq.2, fun q' hq' hserves' => ?_, hbuilt⟩
      rcases (hiff q').1 ⟨hq', hserves'⟩ with ⟨hclaim, hlast, -⟩ | hstray'
      · exact absurd ⟨q'.name, hclaim, hlast⟩ hkeep
      · exact huniq q' hstray'

end Convergence

/-! ## A project that converges and one that does not -/

namespace Sample

def twoPools : Project where
  name := "p"
  uid := "u1"
  parent := ""
  queues := [⟨"", "default", none, none⟩, ⟨"", "gpu", none, none⟩]

def onePool : Project := { twoPools with queues := [⟨"", "default", none, none⟩] }

def unowned : Queue where
  name := "p"
  labels := ∅
  ownerReferences := []
  spec := populateQueueSpec none "p" "" none
  resourceVersion := 1

def ofDepartment : Queue :=
  { unowned with
    labels := (∅ : Labels).insert "kai.resources/department-name" "p"
    ownerReferences := [ownerReference departmentKind "p" "u0"] }

end Sample

open Sample in
theorem twoPools_converge :
    Converged (.default false) .empty suffix (fun i => .willing (i + 2)) twoPools (holding unowned)
      (handleResourceInner (.default false) (.fresh .empty suffix fun i => .willing (i + 2)) twoPools
        (holding unowned)).2 := by
  -- The unowned queue is taken over for the default pool, and a queue is created for the other one.
  refine (project_queues_converge_iff (by decide) (by decide) (.of_zipIdx (by decide)) (by decide)).2 ?_
  have hstray : ∀ n q, ¬ Stray (.default false) suffix twoPools (holding unowned) n q := by
    rintro n q ⟨hq, hserves, -⟩
    simp only [holding, Store.single, List.mem_singleton] at hq
    subst hq
    simp [serves, isOwnedByUID, unowned] at hserves
  intro i entry hi
  refine .inl ⟨?_, hstray _⟩
  rcases i with _ | _ | i
  · refine ⟨"p", by decide, fun j hj hclaim => ?_⟩
    have hlt : j < 2 := claimAt_lt hclaim
    have hj1 : j = 1 := by omega
    subst hj1
    exact absurd hclaim (by decide)
  · refine ⟨"p-gpu", by decide, fun j hj hclaim => ?_⟩
    have hlt : j < 2 := claimAt_lt hclaim
    omega
  · cases hi

open Sample in
theorem onePool_left_without_queue :
    (onePool.queues.map QueueConfig.nodepool).Nodup ∧
    (∀ q ∈ (holding ofDepartment).items, isManuallyOverridden (.default false) q = false) ∧
    NoCollision (.default false) onePool.queues onePool.name suffix (holding ofDepartment) ∧
    (handleResourceInner (.default false) (.fresh .empty suffix fun i => .willing (i + 2)) onePool
      (holding ofDepartment)).1 = [] ∧
    ¬ Converged (.default false) .empty suffix (fun i => .willing (i + 2)) onePool (holding ofDepartment)
      (handleResourceInner (.default false) (.fresh .empty suffix fun i => .willing (i + 2)) onePool
        (holding ofDepartment)).2 := by
  -- The department's queue keeps the project from having one, and the reconcile reports success.
  refine ⟨by decide, by decide, NoCollision.of_zipIdx (by decide), by decide, fun hconv => ?_⟩
  obtain ⟨q, hq, hserves, -⟩ := hconv 0 _ rfl
  have hnone : ∀ q ∈ (handleResourceInner (.default false)
      (.fresh .empty suffix fun i => .willing (i + 2)) onePool (holding ofDepartment)).2.items,
      serves (.default false) onePool "default" q = false := by decide
  rw [hnone q hq] at hserves
  cases hserves

end Krm.Queues.QueueResourceHandler
