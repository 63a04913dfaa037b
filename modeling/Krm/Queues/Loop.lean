import Krm.Queues.Turns

/-! # The loop of a queue reconcile

Of a Project or of a Department: each spec entry writes the queue that it wants under the name that it claims, and in the
end the unnecessary queues go. The names are planned from the store before the reconcile. -/

open Krm.Lib

namespace Krm.Queues

structure Loop where
  cfg : Config
  departments : DepartmentStore
  rand : Nat → Nat → Nat → String
  server : Nat → Server
  queues : List QueueConfig
  reconcile : Moment → QueueConfig → Except ApiError (String × QueueStore)
  handleEntry : Progress → QueueConfig × Nat → Progress
  handles : Handles (.fresh departments rand server) reconcile handleEntry
  ownerUID : String
  labelKey : String
  ownerName : String
  ownerKind : String
  before : QueueStore
  planned : List String → Nat → QueueConfig → Option String
  reconciledAt : Nat → Option String
  want : Nat → QueueConfig → String → Queue
  want_name : ∀ i entry name, (want i entry name).name = name

namespace Loop

section Defs

variable (l : Loop)

def env : Environment := .fresh l.departments l.rand l.server

def progress (i : Nat) : Progress := loopTo l.handleEntry (.start l.before) l.queues i

def store (i : Nat) : QueueStore := (l.progress i).store

def claim (i : Nat) : Option String := claimAt l.planned l.queues i

def claimed (i : Nat) : List String := claims l.planned l.queues i

def done : QueueStore := l.store l.queues.length

def deletion : List ApiError × QueueStore :=
  deleteUnnecessaryQueues l.cfg (l.env l.queues.length l.done)
    (l.progress l.queues.length).reconciledQueues l.ownerUID l.labelKey l.ownerName l.ownerKind

def final : QueueStore := l.deletion.2

/-- The errors and the store in the end. -/
def result : List ApiError × QueueStore :=
  if (l.progress l.queues.length).errs ≠ [] then ((l.progress l.queues.length).errs, l.done) else l.deletion

/-- After `i` entries: the store written over, and the planned names. -/
structure Inv (i : Nat) : Prop where
  written : Overwritten l.before l.planned l.queues l.want i (l.store i)
  reconciled : ∀ r, r ∈ (l.progress i).reconciledQueues ↔ ∃ j < i, l.reconciledAt j = some r

/-- The entry's turn puts its queue under the claimed name, if any. -/
structure Turned (i : Nat) (entry : QueueConfig) : Prop where
  name : ∃ name, l.reconciledAt i = some name ∧
    (l.progress (i + 1)).reconciledQueues = name :: (l.progress i).reconciledQueues
  store : match l.claim i with
    | some c => Puts (l.want i entry c) (l.store i) (l.store (i + 1))
    | none => l.store (i + 1) = l.store i

end Defs

variable {l : Loop} {i : Nat} {entry : QueueConfig} {q : Queue} {c : String}

theorem claimed_iff : c ∈ l.claimed i ↔ ∃ j < i, l.claim j = some c := mem_claims

theorem claimed_length : c ∈ l.claimed l.queues.length ↔ ∃ j, l.claim j = some c := mem_claims_length

theorem claim_lt (h : l.claim i = some c) : i < l.queues.length := claimAt_lt h

theorem exists_entry (h : l.claim i = some c) : ∃ entry, l.queues[i]? = some entry :=
  ⟨_, List.getElem?_eq_getElem (claim_lt h)⟩

theorem Inv.agree (h : l.Inv i) : Store.AgreeOff (l.claimed i) l.before (l.store i) :=
  agreeOff_claims l.want_name h.written

theorem Inv.held (h : l.Inv i) (hc : c ∈ l.claimed i) : ∃ q ∈ (l.store i).items, q.name = c := by
  obtain ⟨q, hq⟩ := claim_held l.want_name h.written hc
  exact ⟨q, Store.get_mem hq, Store.get_key hq⟩

theorem Inv.last (h : l.Inv i) (hq : q ∈ (l.store i).items) (hc : q.name ∈ l.claimed i) :
    ∃ j < i, ∃ entry, l.queues[j]? = some entry ∧ l.claim j = some q.name ∧
      (∀ k, j < k → k < i → l.claim k ≠ some q.name) ∧ areQueuesEqual (l.want j entry q.name) q :=
  last_claim l.want_name h.written hq hc

theorem Inv.step (h : l.Inv i) (hentry : l.queues[i]? = some entry) (hturn : l.Turned i entry) : l.Inv (i + 1) := by
  obtain ⟨⟨name, hname, hreconciled⟩, hstore⟩ := hturn
  refine ⟨?_, fun r => ?_⟩
  · cases hclaim : l.claim i with
    | none =>
      rw [hclaim] at hstore
      rw [hstore]
      exact written_skip h.written hclaim
    | some c =>
      rw [hclaim] at hstore
      have hput := hstore.2
      rw [l.want_name] at hput
      exact written_claim l.want_name h.written hentry hclaim (l.want_name i entry c ▸ hstore.1) hput
  · rw [hreconciled, List.mem_cons, h.reconciled r, exists_turn_succ hname r]

/-! ## A loop without errors -/

section

variable (hnil : l.result.1 = [])
include hnil

theorem errs_done : (l.progress l.queues.length).errs = [] := by
  unfold result at hnil
  split_ifs at hnil with herrs
  · exact absurd hnil herrs
  · exact not_not.1 herrs

theorem errs (hi : i ≤ l.queues.length) : (l.progress i).errs = [] := by
  refine loopTo_of_length (P := fun acc : Progress => acc.errs = []) (fun acc entry i h => ?_) (errs_done hnil) i hi
  cases hresult : l.reconcile (l.env i acc.store) entry with
  | error e => exact absurd h (l.handles.failed hresult).1
  | ok result => exact (l.handles.done hresult).1.symm.trans h

theorem reconciled_at (hentry : l.queues[i]? = some entry) : ∃ name, l.reconcile (l.env i (l.store i)) entry =
      .ok (name, l.store (i + 1)) ∧ (l.progress (i + 1)).reconciledQueues = name :: (l.progress i).reconciledQueues := by
  have hsucc : l.progress (i + 1) = _ := loopTo_succ l.handleEntry (.start l.before) hentry
  have hnext := errs hnil (List.getElem?_eq_some_iff.1 hentry).1
  rw [hsucc] at hnext
  cases hresult : l.reconcile (l.env i (l.store i)) entry with
  | error e => exact absurd hnext (l.handles.failed hresult).1
  | ok result =>
    obtain ⟨-, hstore, hreconciled⟩ := l.handles.done hresult
    refine ⟨result.1, ?_, hsucc ▸ hreconciled⟩
    rw [store, hsucc]
    exact congrArg (fun s => Except.ok (result.1, s)) hstore.symm

theorem result_eq : l.result = l.deletion := by
  rw [result, if_neg (not_not.2 (errs_done hnil))]

end

/-! ## A loop without effect -/

/-- The first entries left the store alone, and reconciled the given names. -/
structure Idle (l : Loop) (names : String → Prop) (i : Nat) : Prop where
  store : l.store i = l.before
  names : (l.progress i).errs = [] → ∀ r, names r → r ∈ (l.progress i).reconciledQueues

/-- If no entry writes and all that could go is reconciled, nothing changes. -/
theorem result_idle (names : Nat → String → Prop) (hstart : ∀ r, ¬ names 0 r)
    (hstep : ∀ i entry name s, l.queues[i]? = some entry → l.reconcile (l.env i l.before) entry = .ok (name, s) →
      s = l.before ∧ ∀ r, names (i + 1) r → r = name ∨ names i r)
    (hnamed : ∀ q ∈ l.before.items, q.labels.lookup l.labelKey = some l.ownerName →
      Removable l.cfg l.ownerUID l.ownerKind q → names l.queues.length q.name) : l.result.2 = l.before := by
  have hidle : ∀ i ≤ l.queues.length, l.Idle (names i) i := by
    intro i hi
    -- each entry finds the store of the start, so `hstep` applies to it
    induction i with
    | zero => exact ⟨rfl, fun _ r hr => absurd hr (hstart r)⟩
    | succ i ih =>
      have hentry := List.getElem?_eq_getElem (show i < l.queues.length from hi)
      have hbefore := ih (by omega)
      have hsucc : l.progress (i + 1) = _ := loopTo_succ l.handleEntry (.start l.before) hentry
      cases hresult : l.reconcile (l.env i (l.progress i).store) l.queues[i] with
      | error e =>
        obtain ⟨herrs, hstore⟩ := l.handles.failed hresult
        refine ⟨?_, fun hnil => ?_⟩
        · rw [store, hsucc]
          exact hstore.trans hbefore.store
        · rw [hsucc] at hnil
          exact absurd hnil herrs
      | ok result =>
        obtain ⟨herrs, hstore, hreconciled⟩ := l.handles.done hresult
        rw [show (l.progress i).store = l.before from hbefore.store] at hresult
        obtain ⟨hsame, hnames⟩ := hstep i _ _ _ hentry hresult
        refine ⟨?_, fun hnil r hr => ?_⟩
        · rw [store, hsucc]
          exact hstore.trans hsame
        · rw [hsucc] at hnil ⊢
          refine hreconciled ▸ ?_
          rcases hnames r hr with rfl | hearlier
          · exact List.mem_cons_self
          · exact List.mem_cons_of_mem _ (hbefore.names (herrs.symm.trans hnil) r hearlier)
  have hdone := hidle l.queues.length (Nat.le_refl _)
  unfold result
  split_ifs with herrs
  · exact hdone.store
  · rw [deletion, done, hdone.store]
    refine deleteUnnecessaryQueues_again fun q hq ⟨hlabel, hgone⟩ => ?_
    obtain ⟨hremovable, hnot⟩ := unnecessary_iff.1 hgone
    exact hnot (hdone.names (not_not.1 herrs) q.name (hnamed q hq hlabel hremovable))

end Loop

/-- No error was met, and what an entry does is told by the name that it claims. -/
structure CleanRun extends Loop where
  nil : toLoop.result.1 = []
  claim_reconciled : ∀ i c, toLoop.claim i = some c → reconciledAt i = some c
  turn : ∀ {i entry name s}, queues[i]? = some entry → toLoop.Inv i → reconcile (toLoop.env i (toLoop.store i)) entry = .ok (name, s) →
    reconciledAt i = some name ∧ match toLoop.claim i with
      | some c => Puts (want i entry c) (toLoop.store i) s
      | none => s = toLoop.store i

namespace CleanRun

variable (l : CleanRun) {i j : Nat} {entry : QueueConfig} {q : Queue} {c : String}

theorem turned (hentry : l.queues[i]? = some entry) (h : l.Inv i) : l.Turned i entry := by
  obtain ⟨name, hresult, hreconciled⟩ := Loop.reconciled_at l.nil hentry
  obtain ⟨hname, hstore⟩ := l.turn hentry h hresult
  exact ⟨⟨name, hname, hreconciled⟩, hstore⟩

theorem inv (hi : i ≤ l.queues.length) : l.Inv i := by
  induction i with
  | zero => exact ⟨.start l.before, fun r => by simp [Loop.progress, loopTo, Progress.start]⟩
  | succ i ih =>
    have hentry := List.getElem?_eq_getElem (show i < l.queues.length from hi)
    have hbefore := ih (by omega)
    exact hbefore.step hentry (l.turned hentry hbefore)

theorem inv_at (hentry : l.queues[i]? = some entry) : l.Inv i := l.inv (Nat.le_of_lt (List.getElem?_eq_some_iff.1 hentry).1)

theorem done_inv : l.Inv l.queues.length := l.inv (Nat.le_refl _)

theorem agree_at (hentry : l.queues[i]? = some entry) :
    Store.AgreeOff (l.claim i).toList (l.store i) (l.store (i + 1)) ∧
      ∀ q ∈ (l.store (i + 1)).items, q.name ∈ (l.claim i).toList → areQueuesEqual (l.want i entry q.name) q := by
  have hstore := (l.turned hentry (l.inv_at hentry)).store
  cases hclaim : l.claim i with
  | none =>
    rw [hclaim] at hstore
    rw [hstore]
    exact ⟨.refl _ _, fun q _ hq => absurd hq (by simp)⟩
  | some c =>
    rw [hclaim] at hstore
    obtain ⟨hagree, made, hmade, hequal⟩ := hstore
    rw [l.want_name] at hagree hmade
    refine ⟨hagree, fun q hq hname => ?_⟩
    obtain rfl : q.name = c := by simpa using hname
    cases (Store.get_of_mem hq).symm.trans hmade
    exact hequal

theorem get_later (hij : i ≤ j) (hj : j ≤ l.queues.length) (hfree : ∀ k, i ≤ k → l.claim k ≠ some c) :
    (l.store j).get c = (l.store i).get c := by
  induction j, hij using Nat.le_induction with
  | base => rfl
  | succ j hij ih =>
    have hagree := (l.agree_at (List.getElem?_eq_getElem hj)).1
    rw [← ih (by omega), hagree.get_eq (by simpa [Option.mem_toList] using hfree j hij)]

/-- Later entries make no queue that such a search finds. -/
theorem thins_later {p : Queue → Bool} (hp : ∀ k entry, i ≤ k → l.queues[k]? = some entry →
      ∀ q, areQueuesEqual (l.want k entry q.name) q → p q = false) (hij : i ≤ j) (hj : j ≤ l.queues.length) :
    (l.store i).Thins p (l.store j) := by
  induction j, hij using Nat.le_induction with
  | base => exact .refl _ _
  | succ j hij ih =>
    have hentry := List.getElem?_eq_getElem (show j < l.queues.length from hj)
    obtain ⟨hagree, hmade⟩ := l.agree_at hentry
    exact (ih (by omega)).trans (.of_agreeOff hagree fun q hq hname => hp j _ hij hentry q (hmade q hq hname))

/-! ## The queues in the end -/

theorem deletion_nil : l.deletion.1 = [] := by
  rw [← Loop.result_eq l.nil]
  exact l.nil

theorem mem_final (q : Queue) : q ∈ l.final.items ↔ q ∈ l.done.items ∧
    (q.labels.lookup l.labelKey = some l.ownerName → Removable l.cfg l.ownerUID l.ownerKind q →
      ∃ j < l.queues.length, l.reconciledAt j = some q.name) := by
  rw [Loop.final, Loop.deletion, Loop.env, Environment.fresh, deleteUnnecessaryQueues_fresh l.deletion_nil q, unnecessary_iff,
    l.done_inv.reconciled]
  simp only [not_and, not_not]

theorem mem_done (hfree : ∀ j, l.claim j ≠ some q.name) : q ∈ l.before.items ↔ q ∈ l.done.items := by
  refine l.done_inv.agree.mem_iff fun hclaimed => ?_
  obtain ⟨j, hj⟩ := Loop.claimed_length.1 hclaimed
  exact hfree j hj

theorem last_done (hq : q ∈ l.done.items) (hclaim : ∃ j, l.claim j = some q.name) :
    ∃ j entry, l.queues[j]? = some entry ∧ l.claim j = some q.name ∧ (∀ k, j < k → l.claim k ≠ some q.name) ∧
      areQueuesEqual (l.want j entry q.name) q := by
  obtain ⟨j, -, entry, hentry, hj, hlast, hequal⟩ := l.done_inv.last hq (Loop.claimed_length.2 hclaim)
  exact ⟨j, entry, hentry, hj, fun k hk hclaim' => hlast k hk (Loop.claim_lt hclaim') hclaim', hequal⟩

theorem held_done (hclaim : l.claim i = some c) : ∃ q ∈ l.done.items, q.name = c :=
  l.done_inv.held (Loop.claimed_length.2 ⟨i, hclaim⟩)

theorem mem_final_of_claim (hclaim : l.claim i = some q.name) : q ∈ l.final.items ↔ q ∈ l.done.items := by
  rw [l.mem_final, and_iff_left_iff_imp]
  exact fun _ _ _ => ⟨i, Loop.claim_lt hclaim, l.claim_reconciled i _ hclaim⟩

theorem thins_final (p : Queue → Bool) : l.done.Thins p l.final := deleteUnnecessaryQueues_thins p

theorem get_final {r : String} (hi : i < l.queues.length) (hr : l.reconciledAt i = some r)
    (hfree : ∀ j, i < j → l.claim j ≠ some r) : l.final.get r = (l.store (i + 1)).get r := by
  rw [Loop.final, Loop.deletion, deleteUnnecessaryQueues_get ((l.done_inv.reconciled r).2 ⟨i, hi, hr⟩)]
  exact l.get_later (show i + 1 ≤ l.queues.length from hi) (Nat.le_refl _) hfree

end CleanRun

end Krm.Queues
