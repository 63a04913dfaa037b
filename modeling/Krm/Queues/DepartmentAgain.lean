import Krm.Lib.Climb
import Krm.Queues.DepartmentConverges
import Krm.Queues.NoLoop
import Krm.Queues.Turns

/-! # A second queue reconcile of a Department

As for a Project, with the loop walk: an entry whose queue was held as a root queue meets the loop again. -/

open Krm.Lib

namespace Krm.Queues.DepartmentHandler

variable {cfg : Config} {departments : DepartmentStore} {department : Department} {entry : QueueConfig}

/-! ## One entry -/

section Entry

variable {rand : Nat → Nat → String} {server : Server} {s s' : QueueStore} {name parent : String} {held : Bool} {q : Queue}

/-- What a queue is like that stays or is written. -/
def Wanted (cfg : Config) (department : Department) (entry : QueueConfig) (parentQueue name : String) (q : Queue) : Prop :=
  areQueuesEqual (expectedQueue cfg department entry parentQueue name) q

theorem reconcileEntry_turn
    (h : reconcileEntry cfg ⟨.fresh departments rand s, server, s⟩ department entry = .ok (held, name, s')) :
    ∃ parent, departmentQueueName cfg (.fresh departments rand s) department.parent entry.nodepool = .ok parent ∧
      Turn (s.items.find? (serves cfg department entry.nodepool)) name
        (Wanted cfg department entry (heldParent (.fresh departments rand s) name parent
          (currentParent cfg department entry.nodepool s)) name)
        (Wanted cfg department entry (heldParent (.fresh departments rand s) name parent
          (currentParent cfg department entry.nodepool s)) name) s s' := by
  obtain ⟨-, parent, hparent, hparts⟩ := reconcileEntry_parts h
  refine ⟨parent, hparent, ?_⟩
  cases hq : s.items.find? (serves cfg department entry.nodepool) with
  | none =>
    rw [hq] at hparts
    rw [currentParent, hq]
    exact createQueue_turn hparts.2
  | some q =>
    rw [hq] at hparts
    obtain ⟨rfl, hstore⟩ := hparts
    rw [currentParent, hq]
    unfold handleExisting at hstore
    split_ifs at hstore with hequal
    · cases hstore
      exact .keep rfl rfl hequal
    · exact updateExistingQueue_turn (expectedQueue_name ..) (not_external_of_serves hq) hstore

theorem Wanted.serves (h : Wanted cfg department entry parent name q) : serves cfg department entry.nodepool q = true :=
  (Made.of_equal h).1.serves

theorem Wanted.not_serves {n : String} (h : Wanted cfg department entry parent name q) (hne : n ≠ entry.nodepool) :
    DepartmentHandler.serves cfg department n q = false := by
  obtain ⟨hmade, -⟩ := Made.of_equal h
  have hpool : inPool cfg n q = false := Bool.eq_false_iff.2 fun hpool => hne (inPool_inj hpool hmade.inPool)
  simp [DepartmentHandler.serves, hpool]

theorem handleExisting_wanted {m : Moment} (hq : Wanted cfg department entry parent name q)
    (h : handleExisting cfg m (expectedQueue cfg department entry parent name) q department.uid = .ok s') :
    s' = m.store := by
  unfold handleExisting at h
  split_ifs at h with hequal
  · exact (Except.ok.inj h).symm
  · exact (hequal hq).elim

/-- A parent is written again if a loop that was met is met again. -/
theorem heldParent_again {v v' : View} {current : String}
    (hloop : heldParent v name parent current ≠ parent → wouldCloseQueueLoop v' name parent = .ok true) :
    heldParent v' name parent (heldParent v name parent current) = heldParent v name parent current := by
  by_cases hparent : heldParent v name parent current = parent
  · rw [hparent, heldParent, if_pos (.inr rfl)]
  · have hroot := ((heldParent_cases v name parent current).resolve_left hparent).2
    rw [hroot, heldParent, hloop hparent]
    split_ifs with hempty
    · exact hempty.elim id id
    · rfl

end Entry

/-! ## Loops -/

section Loops

variable {rand : Nat → Nat → String} {s : QueueStore} {name parent current : String}

/-- The parent queue of a queue, unless it is a root queue. -/
def parentOf (s : QueueStore) (name : String) : Option String :=
  (s.get name).bind fun q => if q.spec.parentQueue = "" then none else some q.spec.parentQueue

theorem parentOf_ne_empty {a b : String} (h : parentOf s a = some b) : b ≠ "" := by
  simp only [parentOf, Option.bind_eq_some_iff] at h
  obtain ⟨q, -, h⟩ := h
  split_ifs at h with hempty
  exact Option.some.inj h ▸ hempty

/-- A new parent queue that leads back to the queue. -/
def Closes (up : String → Option String) (name parent current : String) : Prop :=
  parent ≠ "" ∧ parent ≠ current ∧ ∃ k, climb up k parent = some name

theorem walkUp_climbs {departments : DepartmentStore} (fuel k : Nat) (seen : List String) (start : String)
    (h : walkUp (.fresh departments rand s) name fuel k seen start = .ok true) :
    start ≠ "" ∧ ∃ n, climb (parentOf s) n start = some name := by
  induction fuel generalizing k seen start with
  | zero => simp [walkUp] at h
  | succ fuel ih =>
    simp only [walkUp] at h
    split_ifs at h with hempty hname hseen
    · cases h
    · exact ⟨hempty, 0, congrArg some hname⟩
    · cases h
    · have hlive : (View.fresh departments rand s).live k = .ok s := rfl
      simp only [hlive] at h
      cases hget : s.get start with
      | none => simp [hget] at h
      | some q =>
        simp only [hget] at h
        obtain ⟨hparent, n, hn⟩ := ih _ _ _ h
        have hup : parentOf s start = some q.spec.parentQueue := by simp [parentOf, hget, hparent]
        exact ⟨hempty, n + 1, by rw [climb_succ hup]; exact hn⟩

theorem walkUp_of_climbs {departments : DepartmentStore} (n k fuel : Nat) (seen : List String) (start : String)
    (hstart : start ≠ "") (hreach : climb (parentOf s) n start = some name)
    (hfirst : ∀ j < n, climb (parentOf s) j start ≠ some name)
    (hnew : ∀ j ≤ n, ∀ a, climb (parentOf s) j start = some a → a ∉ seen) (hfuel : NoLoop.unseen s seen < fuel) :
    walkUp (.fresh departments rand s) name fuel k seen start = .ok true := by
  -- Along the shortest way to the queue no name comes twice.
  induction n generalizing k fuel seen start with
  | zero =>
    obtain ⟨fuel, rfl⟩ : ∃ m, fuel = m + 1 := ⟨fuel - 1, by omega⟩
    have hname : start = name := Option.some.inj hreach
    simp [walkUp, hname ▸ hstart, hname]
  | succ n ih =>
    obtain ⟨fuel, rfl⟩ : ∃ m, fuel = m + 1 := ⟨fuel - 1, by omega⟩
    obtain ⟨next, hnext, hrest⟩ := Option.bind_eq_some_iff.1 hreach
    have hname : start ≠ name := fun h => hfirst 0 (by omega) (congrArg some h)
    have hunseen : start ∉ seen := hnew 0 (by omega) start rfl
    have hlive : (View.fresh departments rand s).live k = .ok s := rfl
    obtain ⟨q, hget, hq⟩ := Option.bind_eq_some_iff.1 hnext
    have hparent : q.spec.parentQueue = next := by
      split_ifs at hq
      exact Option.some.inj hq
    have hqname : q.name = start := Store.get_key hget
    simp only [walkUp, hstart, hname, hunseen, if_false, hlive, hget, hparent]
    refine ih (k + 1) fuel (start :: seen) next (parentOf_ne_empty hnext) hrest (fun j hj hreached => ?_)
      (fun j hj a ha hmem => ?_) ?_
    · exact hfirst (j + 1) (by omega) (by rw [climb_succ hnext]; exact hreached)
    · rcases List.mem_cons.1 hmem with rfl | hmem
      · -- back at the start: the way from there on is shorter
        have hback : climb (parentOf s) (j + 1) a = some a := by rw [climb_succ hnext]; exact ha
        have hsplit : climb (parentOf s) (n + 1) a = climb (parentOf s) (n - j) a := by
          conv_lhs => rw [show n + 1 = j + 1 + (n - j) by omega]
          rw [climb_add, hback, Option.bind_some]
        exact hfirst (n - j) (by omega) (hsplit ▸ hreach)
      · exact hnew (j + 1) (by omega) a (by rw [climb_succ hnext]; exact ha) hmem
    · have hless := NoLoop.unseen_cons (Store.get_mem hget) (hqname ▸ hunseen)
      rw [hqname] at hless
      omega

theorem wouldCloseQueueLoop_iff {departments : DepartmentStore} :
    wouldCloseQueueLoop (.fresh departments rand s) name parent = .ok true ↔
      parent ≠ "" ∧ ∃ k, climb (parentOf s) k parent = some name := by
  refine ⟨walkUp_climbs _ _ _ _, fun ⟨hparent, hreach⟩ => ?_⟩
  refine walkUp_of_climbs (Nat.find hreach) 0 _ [] parent hparent (Nat.find_spec hreach)
    (fun j hj => Nat.find_min hreach hj) (by simp) ?_
  have hle : NoLoop.unseen s [] ≤ s.items.length := List.length_filter_le _ _
  exact Nat.lt_succ_of_le hle

open Classical in
theorem heldParent_eq {departments : DepartmentStore} : heldParent (.fresh departments rand s) name parent current =
    if Closes (parentOf s) name parent current then "" else parent := by
  unfold heldParent
  by_cases hsame : parent = "" ∨ parent = current
  · have hopen : ¬ Closes (parentOf s) name parent current := fun h => hsame.elim h.1 h.2.1
    rw [if_pos hsame, if_neg hopen]
  · rw [if_neg hsame]
    rw [not_or] at hsame
    by_cases hcloses : Closes (parentOf s) name parent current
    · rw [if_pos hcloses, wouldCloseQueueLoop_iff.2 ⟨hcloses.1, hcloses.2.2⟩]
    · rw [if_neg hcloses]
      split
      · rename_i hloop
        exact absurd ⟨hsame.1, hsame.2, (wouldCloseQueueLoop_iff.1 hloop).2⟩ hcloses
      · rfl

end Loops

/-! ## The plan of a reconcile -/

section Planned

variable (cfg : Config) (departments : DepartmentStore) (rand : Nat → Nat → Nat → String) (department : Department)
  (s : QueueStore)

/-- The parent department's queues are not taken for its own. -/
def ParentApart : Prop :=
  ∀ parent, departments.get department.parent = some parent → parent.uid ≠ department.uid ∧
    ∀ q ∈ s.items, ofOwner parent q = true → isOwnedByUID q.ownerReferences department.uid = false ∧
      q.labels.lookup cfg.queueDepartmentNameLabelKey ≠ some department.name

/-- The queue of the parent department in the entry's node pool. -/
def parentQueue (entry : QueueConfig) : String :=
  (departmentQueueName cfg (.fresh departments (rand 0) s) department.parent entry.nodepool).toOption.getD ""

open Classical in
/-- A claimed queue gets the parent department's, unless that is new and closes a loop. -/
noncomputable def parentsAt : Nat → String → Option String
  | 0 => parentOf s
  | i + 1 =>
    match department.queues[i]?, claimAt (plan cfg department rand s) department.queues i with
    | some entry, some c =>
      let parent := parentQueue cfg departments rand department s entry
      Function.update (parentsAt i) c
        (if parent = "" ∨ Closes (parentsAt i) c parent (currentParent cfg department entry.nodepool s) then none
          else some parent)
    | _, _ => parentsAt i

/-- The department's, and reconciled by no entry. -/
def Goes (q : Queue) : Prop :=
  q ∈ s.items ∧ q.labels.lookup cfg.queueDepartmentNameLabelKey = some department.name ∧
    Removable cfg department.uid departmentKind q ∧
    ∀ j < department.queues.length, reconciledAt cfg department rand s j ≠ some q.name

open Classical in
noncomputable def parentsFinal (name : String) : Option String :=
  if ∃ q, Goes cfg rand department s q ∧ q.name = name then none
  else parentsAt cfg departments rand department s department.queues.length name

/-- A loop for which a queue is held as a root queue is there in the end. -/
def LoopsStay : Prop :=
  ∀ i entry c, department.queues[i]? = some entry →
    claimAt (plan cfg department rand s) department.queues i = some c →
    Closes (parentsAt cfg departments rand department s i) c (parentQueue cfg departments rand department s entry)
      (currentParent cfg department entry.nodepool s) →
    ∃ k, climb (parentsFinal cfg departments rand department s) k
      (parentQueue cfg departments rand department s entry) = some c

/-- A name that an entry gives up is claimed by no entry. -/
def GivenUpStays : Prop :=
  ∀ i entry, department.queues[i]? = some entry → claimAt (plan cfg department rand s) department.queues i = none →
    ∀ j, claimAt (plan cfg department rand s) department.queues j ≠ some (getQueueName cfg entry department.name)

end Planned

/-! ## A whole reconcile -/

namespace DepartmentRun

variable (r : DepartmentRun) {i j : Nat} {q : Queue} {c : String}

/-- The parent that was read at an entry's turn. -/
def parentRead (i : Nat) (entry : QueueConfig) : String :=
  (parentAt r.cfg r.departments r.rand r.server r.department r.before i entry).toOption.getD ""

abbrev viewAt (i : Nat) : View := .fresh r.departments (r.rand i) (r.run.store i)

abbrev serves (entry : QueueConfig) : Queue → Bool := DepartmentHandler.serves r.cfg r.department entry.nodepool

abbrev suggested (entry : QueueConfig) : String := getQueueName r.cfg entry r.department.name

/-- None where the queue is held as a root. -/
def parentWritten (i : Nat) (entry : QueueConfig) (name : String) : String :=
  heldParent (r.viewAt i) name (r.parentRead i entry) (currentParent r.cfg r.department entry.nodepool (r.run.store i))

/-- The queue that an entry wanted at its turn. -/
abbrev WantedAt (i : Nat) (entry : QueueConfig) (name : String) (q : Queue) : Prop :=
  Wanted r.cfg r.department entry (r.parentWritten i entry name) name q

theorem turn_at (hi : r.department.queues[i]? = some entry) :
    parentAt r.cfg r.departments r.rand r.server r.department r.before i entry = .ok (r.parentRead i entry) ∧
    ∃ name, r.run.reconciledAt i = some name ∧
      Turn ((r.run.store i).items.find? (r.serves entry)) name (r.WantedAt i entry name) (r.WantedAt i entry name)
        (r.run.store i) (r.run.store (i + 1)) := by
  obtain ⟨_, name, hreconciled⟩ := r.entry_reconciled hi
  obtain ⟨-, hname, -⟩ := r.turned (r.run.inv_at hi) hi hreconciled
  obtain ⟨parent, hparent, hturn⟩ := reconcileEntry_turn hreconciled
  have hread : r.parentRead i entry = parent := congrArg (fun x => x.toOption.getD "") hparent
  unfold WantedAt parentWritten
  rw [hread]
  exact ⟨hparent, name, hname, hturn⟩

theorem serves_of_claim (hi : r.department.queues[i]? = some entry) (hq : q ∈ r.before.items)
    (h : r.run.claim i = some q.name) : r.serves entry q := by
  rcases plan_held ((r.claim_eq hi).symm.trans h) (Store.get_of_mem hq) with hserves | hdrawn
  · exact hserves
  · have hfree := r.drawn.not_held i entry hi
    rw [← hdrawn, Store.get_of_mem hq] at hfree
    cases hfree

theorem find_unclaimed (hi : r.department.queues[i]? = some entry) :
    (r.before.items.find? fun q => r.serves entry q && decide (q.name ∉ r.run.claimed i)) =
      r.before.items.find? (r.serves entry) := by
  rw [← List.head?_filter, ← List.head?_filter]
  congr 1
  refine List.filter_congr fun q hq => ?_
  cases hserves : r.serves entry q with
  | false => rfl
  | true =>
    -- an earlier entry claims queues of its own node pool
    have hunclaimed : q.name ∉ r.run.claimed i := by
      intro hclaimed
      obtain ⟨j, hj, hclaim⟩ := Loop.claimed_iff.1 hclaimed
      obtain ⟨e, he⟩ := Loop.exists_entry hclaim
      have hother := r.serves_of_claim he hq hclaim
      simp only [serves, DepartmentHandler.serves, Bool.and_eq_true] at hserves hother
      have := index_of_pool r.pools he hi (inPool_inj hother.2 hserves.2)
      omega
    simpa using hunclaimed

theorem thins_final (hi : r.department.queues[i]? = some entry) :
    (r.run.store (i + 1)).Thins (r.serves entry) r.run.final := by
  -- Later entries are of other node pools.
  refine (r.run.thins_later ?_ (List.getElem?_eq_some_iff.1 hi).1 (Nat.le_refl _)).trans (r.run.thins_final _)
  intro k e hk he q hwant
  refine Wanted.not_serves (show Wanted _ _ e _ _ q from hwant) fun hpool => ?_
  have := index_of_pool r.pools hi he hpool
  omega

theorem get_final {name : String} (hi : r.department.queues[i]? = some entry) (hname : r.run.reconciledAt i = some name)
    (hclaim : r.run.claim i = some name) : r.run.final.get name = (r.run.store (i + 1)).get name :=
  r.run.get_final (List.getElem?_eq_some_iff.1 hi).1 hname fun j hj hclaim' => by
    have := r.claim_inj hclaim hclaim'
    omega

section Parents

variable (hapart : ParentApart r.cfg r.departments r.department r.before)
include hapart

theorem parent_kept {parent : Department} (hparent : r.departments.get r.department.parent = some parent)
    (hi : i ≤ r.department.queues.length) : r.before.Keeps (ofOwner parent) (r.run.store i) := by
  -- No entry writes over a queue of the parent department, or makes one.
  obtain ⟨huid, hqueues⟩ := hapart parent hparent
  have hinv := r.run.inv hi
  refine (Store.Thins.of_agreeOff hinv.agree fun q hq hclaimed => ?_).keeps fun q hq howned => ?_
  · obtain ⟨_, _, _, _, hmade⟩ := r.made hinv hq hclaimed
    simp [ofOwner, isOwnedByUID, hmade.owners, ownerReference, huid.symm]
  · refine (hinv.agree.mem_iff fun hclaimed => ?_).1 hq
    obtain ⟨j, -, hclaim⟩ := Loop.claimed_iff.1 hclaimed
    obtain ⟨e, he⟩ := Loop.exists_entry hclaim
    have hserves := r.serves_of_claim he hq hclaim
    simp [serves, DepartmentHandler.serves, (hqueues q hq howned).1] at hserves

theorem parent_kept_final {parent : Department} (hparent : r.departments.get r.department.parent = some parent) :
    r.before.Keeps (ofOwner parent) r.run.final := by
  have hkept := r.parent_kept hapart hparent (Nat.le_refl _)
  refine hkept.trans (Store.Thins.keeps (r.run.thins_final _) fun q hq howned => ?_)
  refine (r.run.mem_final q).2 ⟨hq, fun hlabel => ?_⟩
  exact absurd hlabel ((hapart parent hparent).2 q ((hkept.mem_iff howned).1 hq) howned).2

theorem parent_again (hi : r.department.queues[i]? = some entry) (rand' : Nat → Nat → String) :
    departmentQueueName r.cfg (.fresh r.departments rand' r.run.final) r.department.parent entry.nodepool =
      .ok (r.parentRead i entry) := by
  rw [← (r.turn_at hi).1]
  refine departmentQueueName_keeps (fun parent hparent => ?_) entry.nodepool
  exact Eq.trans (r.parent_kept_final hapart hparent)
    (r.parent_kept hapart hparent (Nat.le_of_lt (List.getElem?_eq_some_iff.1 hi).1)).symm

/-- An entry reads at its turn what it would have read before. -/
theorem read_before (hi : r.department.queues[i]? = some entry) :
    r.parentRead i entry = parentQueue r.cfg r.departments r.rand r.department r.before entry ∧
      currentParent r.cfg r.department entry.nodepool (r.run.store i) =
        currentParent r.cfg r.department entry.nodepool r.before := by
  have hle := Nat.le_of_lt (List.getElem?_eq_some_iff.1 hi).1
  have hinv := r.run.inv hle
  constructor
  · rw [parentRead, parentQueue, parentAt, DepartmentHandler.viewAt]
    exact congrArg (fun x => x.toOption.getD "")
      (departmentQueueName_keeps (fun parent hparent => r.parent_kept hapart hparent hle) entry.nodepool)
  · rw [currentParent, hinv.agree.find_eq _ (r.claimed_not_serves hinv hi)]
    exact congrArg (fun x : Option Queue => (x.map fun q => q.spec.parentQueue).getD "") (r.find_unclaimed hi)

/-- The parent queues after the first entries are the planned ones. -/
theorem parents_progress (hi : i ≤ r.department.queues.length) :
    parentOf (r.run.store i) = parentsAt r.cfg r.departments r.rand r.department r.before i := by
  induction i with
  | zero => rfl
  | succ i ih =>
    have hentry := List.getElem?_eq_getElem (show i < r.department.queues.length from hi)
    obtain ⟨hagree, hmade⟩ := r.run.agree_at hentry
    obtain ⟨hread, hcurrent⟩ := r.read_before hapart hentry
    have hclaims : claimAt (plan r.cfg r.department r.rand r.before) r.department.queues i = r.run.claim i := rfl
    simp only [parentsAt, hentry, hclaims]
    cases hclaim : r.run.claim i with
    | none =>
      rw [hclaim] at hagree
      dsimp only
      rw [← ih (by omega)]
      funext name
      simp only [parentOf, hagree.get_eq (show name ∉ Option.toList none from List.not_mem_nil)]
    | some c =>
      rw [hclaim] at hagree hmade
      dsimp only
      funext name
      by_cases hname : name = c
      · subst hname
        obtain ⟨q, hq, rfl⟩ := (r.run.inv hi).held (Loop.claimed_iff.2 ⟨i, by omega, hclaim⟩)
        obtain ⟨-, -, hspec⟩ := Made.of_equal (hmade q hq (by simp))
        have hparent : q.spec.parentQueue = r.parentWritten i _ q.name := congrArg QueueSpec.parentQueue hspec
        rw [parentWritten, hread, hcurrent, heldParent_eq, ih (by omega)] at hparent
        simp only [parentOf, Store.get_of_mem hq, Option.bind_some, hparent, Function.update_self]
        split_ifs <;> simp_all
      · rw [Function.update_of_ne hname, ← ih (by omega), parentOf, parentOf, hagree.get_eq (by simpa using hname)]

theorem parents_final : parentOf r.run.final = parentsFinal r.cfg r.departments r.rand r.department r.before := by
  -- a queue goes when it is there after the entries and no entry reconciles it
  have hgoes (q : Queue) : Goes r.cfg r.rand r.department r.before q ↔ q ∈ r.run.done.items ∧ q ∉ r.run.final.items := by
    rw [r.run.mem_final, not_and, and_congr_right_iff.2 fun hdone => ⟨fun h => h hdone, fun h _ => h⟩]
    constructor
    · rintro ⟨hq, hlabel, hremovable, hnone⟩
      refine ⟨(r.run.mem_done fun j hclaim => ?_).1 hq, fun h => ?_⟩
      · exact hnone j (Loop.claim_lt hclaim) (r.run.claim_reconciled j _ hclaim)
      · obtain ⟨j, hj, hrec⟩ := h hlabel hremovable
        exact hnone j hj hrec
    · rintro ⟨hdone, hgone⟩
      rw [Classical.not_imp, Classical.not_imp] at hgone
      obtain ⟨hlabel, hremovable, hnone⟩ := hgone
      refine ⟨(r.run.mem_done fun j hclaim => ?_).2 hdone, hlabel, hremovable, fun j hj hrec => hnone ⟨j, hj, hrec⟩⟩
      exact hnone ⟨j, Loop.claim_lt hclaim, r.run.claim_reconciled j _ hclaim⟩
  funext name
  rw [parentsFinal, ← r.parents_progress hapart (Nat.le_refl _), parentOf, parentOf]
  have hdone : r.run.store r.department.queues.length = r.run.done := rfl
  rw [hdone]
  cases hget : r.run.final.get name with
  | some q =>
    obtain rfl : q.name = name := Store.get_key hget
    have hq := Store.get_mem hget
    have hdone := ((r.run.mem_final q).1 hq).1
    have hnot : ¬ ∃ q', Goes r.cfg r.rand r.department r.before q' ∧ q'.name = q.name := by
      rintro ⟨q', hgone, hname⟩
      obtain ⟨hdone', hgone'⟩ := (hgoes q').1 hgone
      exact hgone' (Store.eq_of_mem hdone' hdone hname ▸ hq)
    rw [if_neg hnot, Store.get_of_mem hdone]
  | none =>
    rw [Store.get_eq_none_iff] at hget
    cases hdone : r.run.done.get name with
    | none => simp
    | some q =>
      have hgone := (hgoes q).2 ⟨Store.get_mem hdone, fun hq => hget q hq (Store.get_key hdone)⟩
      rw [if_pos ⟨q, hgone, Store.get_key hdone⟩]
      rfl

end Parents

/-! ### The queues in the end -/

theorem found_final (hi : r.department.queues[i]? = some entry) (hclaim : r.run.claim i = some c) :
    ∃ q, r.run.final.items.find? (r.serves entry) = some q ∧ q.name = c ∧ r.WantedAt i entry c q := by
  obtain ⟨-, name, hname, hturn⟩ := r.turn_at hi
  cases hname.symm.trans (r.run.claim_reconciled i c hclaim)
  have hget := r.get_final hi hname hclaim
  rcases hturn.search_later (fun q hq => List.mem_of_find?_eq_some hq) (fun q hq => hq) (fun a ha => Wanted.serves ha)
    (r.thins_final hi) hget with ⟨a, hfind, hname, ha⟩ | ⟨-, hnone, -⟩
  · exact ⟨a, hfind, hname, ha.elim id id⟩
  · -- it has written a queue that serves the node pool
    obtain ⟨q, hq, rfl⟩ := (r.run.inv (i := i + 1) (List.getElem?_eq_some_iff.1 hi).1).held
      (Loop.claimed_iff.2 ⟨i, by omega, hclaim⟩)
    have hwant := (r.run.agree_at hi).2 q hq (by simp [hclaim])
    rw [Store.get_of_mem hq] at hget
    exact absurd (Made.of_equal hwant).1.serves (List.find?_eq_none.1 hnone q (Store.get_mem hget))

theorem given_up_final (hi : r.department.queues[i]? = some entry) (hclaim : r.run.claim i = none) :
    r.run.final.items.find? (r.serves entry) = none := by
  refine List.find?_eq_none.2 fun q hq hserves => ?_
  obtain ⟨c, hc⟩ := r.claimed_of_serves hi ((r.run.mem_final q).1 hq).1 hserves
  cases hclaim.symm.trans hc

/-! ### A second turn -/

section Again

variable (hapart : ParentApart r.cfg r.departments r.department r.before)
  (hloops : LoopsStay r.cfg r.departments r.rand r.department r.before)
  (hgiven : GivenUpStays r.cfg r.rand r.department r.before)
include hapart hloops hgiven

theorem entry_again (hi : r.department.queues[i]? = some entry) {name name' : String}
    (hname : r.run.reconciledAt i = some name) {held' : Bool} {s' : QueueStore} {rand' : Nat → Nat → String}
    {server' : Server} (h : reconcileEntry r.cfg ⟨.fresh r.departments rand' r.run.final, server', r.run.final⟩ r.department
      entry = .ok (held', name', s')) : name' = name ∧ s' = r.run.final := by
  -- An entry leaves the store alone, and reconciles the name that it has reconciled.
  obtain ⟨-, parent', hparent', hparts⟩ := reconcileEntry_parts h
  cases (r.parent_again hapart hi rand').symm.trans hparent'
  cases hclaim : r.run.claim i with
  | some c =>
    cases (r.run.claim_reconciled i c hclaim).symm.trans hname
    obtain ⟨q, hfind, rfl, hwanted⟩ := r.found_final hi hclaim
    rw [show List.find? (DepartmentHandler.serves _ _ _) _ = some q from hfind] at hparts
    obtain ⟨rfl, hstore⟩ := hparts
    have hcurrent : q.spec.parentQueue = r.parentWritten i entry q.name :=
      congrArg QueueSpec.parentQueue (Made.of_equal hwanted).2.2
    have hloop : r.parentWritten i entry q.name ≠ r.parentRead i entry →
        wouldCloseQueueLoop (.fresh r.departments rand' r.run.final) q.name (r.parentRead i entry) = .ok true := by
      obtain ⟨hread, hbefore⟩ := r.read_before hapart hi
      rw [parentWritten, heldParent_eq, hread, hbefore,
        r.parents_progress hapart (Nat.le_of_lt (List.getElem?_eq_some_iff.1 hi).1)]
      intro hheld
      have hcloses := not_imp_comm.1 (fun hopen => if_neg hopen) hheld
      rw [wouldCloseQueueLoop_iff, r.parents_final hapart]
      exact ⟨hcloses.1, hloops i entry q.name hi hclaim hcloses⟩
    rw [hcurrent, parentWritten, heldParent_again hloop] at hstore
    exact ⟨rfl, handleExisting_wanted hwanted hstore⟩
  | none =>
    have hsuggested : r.run.reconciledAt i = some (r.suggested entry) := by
      have hnone : claimAt (plan r.cfg r.department r.rand r.before) r.department.queues i = none := hclaim
      show reconciledAt r.cfg r.department r.rand r.before i = _
      simp [reconciledAt, hi, hnone]
    cases hsuggested.symm.trans hname
    rw [show List.find? (DepartmentHandler.serves _ _ _) _ = none from r.given_up_final hi hclaim] at hparts
    obtain ⟨rfl, hstore⟩ := hparts
    obtain ⟨-, hlen, q, hq, hfree⟩ := plan_eq_none ((r.claim_eq hi).symm.trans hclaim)
    -- the holder of the name is still there
    have hqname : q.name = r.suggested entry := Store.get_key hq
    have hstays : q ∈ r.run.final.items := by
      refine (r.run.mem_final q).2 ⟨(r.run.mem_done fun j hj => ?_).1 (Store.get_mem hq), fun _ _ => ?_⟩
      · exact hgiven i entry hi hclaim j (hj.trans (congrArg some hqname))
      · exact ⟨i, (List.getElem?_eq_some_iff.1 hi).1, by rw [hsuggested, hqname]⟩
    have hget := Store.get_of_mem hstays
    rw [hqname] at hget
    rw [generateQueueName_suggested r.departments rand' hlen (by rw [hget]; exact hfree)] at hstore ⊢
    exact ⟨rfl, createQueue_held (by rw [expectedQueue_name, hget]; rfl) hstore⟩

/-- Nothing changes again if given-up names and met loops stay. -/
theorem again (rand' : Nat → Nat → Nat → String) (server' : Nat → Server) :
    (handle r.cfg (.fresh r.departments rand' server') r.department r.run.final).2.2 = r.run.final := by
  let names (i : Nat) (name : String) : Prop := ∃ j < i, r.run.reconciledAt j = some name
  rw [handle_eq]
  refine Loop.result_idle names (fun r ⟨j, hj, _⟩ => absurd hj (Nat.not_lt_zero j)) ?_
    fun q hq => ((r.run.mem_final q).1 hq).2
  intro i entry name' s' hi hentry
  obtain ⟨⟨held', result⟩, h, rfl⟩ := map_ok hentry
  obtain ⟨-, name, hname, -⟩ := r.turn_at hi
  obtain ⟨rfl, hsame⟩ := r.entry_again hapart hloops hgiven hi hname h
  exact ⟨hsame, fun name hname' => (exists_turn_succ hname name).1 hname'⟩

end Again

/-! ## A second reconcile without effect -/

theorem store_unchanged (hsame : r.run.final = r.before) (hi : i ≤ r.department.queues.length) :
    r.run.store i = r.before := by
  induction i with
  | zero => rfl
  | succ i ih =>
    have hentry := List.getElem?_eq_getElem (show i < r.department.queues.length from hi)
    obtain ⟨-, name, hname, hturn⟩ := r.turn_at hentry
    cases hclaim : r.run.claim i with
    | none =>
      have hstore := (r.run.turned hentry (r.run.inv_at hentry)).store
      rw [hclaim] at hstore
      exact Eq.trans hstore (ih (by omega))
    | some c =>
      cases (r.run.claim_reconciled i c hclaim).symm.trans hname
      have hget := r.get_final hentry hname hclaim
      rw [hsame] at hget
      rw [ih (by omega)] at hturn
      generalize r.run.store (i + 1) = after at hturn hget ⊢
      cases hturn with
      | keep => rfl
      | refuse => rfl
      | update hfound hq ha hmade =>
        have hheld := Store.get_of_mem (List.mem_of_find?_eq_some hfound)
        rw [hq] at hheld
        rw [Store.get_replace_self r.before _ ha (by rw [hheld]; rfl)] at hget
        exact Store.replace_self (Store.get_mem hget)
      | create hfound hfree ha hmade =>
        rw [Store.get_insert_self r.before _ ha hfree, hfree] at hget
        cases hget

/-- If nothing changes again, given-up names and met loops stay. -/
theorem stays (hapart : ParentApart r.cfg r.departments r.department r.before) {rand' : Nat → Nat → Nat → String}
    {server' : Nat → Server} (hdrawn' : NoCollision r.cfg r.department.queues r.department.name rand' r.run.final)
    (hagain : (handle r.cfg (.fresh r.departments rand' server') r.department r.run.final).2 = ([], r.run.final)) :
    LoopsStay r.cfg r.departments r.rand r.department r.before ∧
      GivenUpStays r.cfg r.rand r.department r.before := by
  let r' : DepartmentRun := ⟨r.cfg, r.departments, rand', server', r.department, r.run.final, r.pools, hdrawn',
    congrArg Prod.fst hagain⟩
  have hsame : r'.run.final = r.run.final := by
    rw [r'.run_final]
    exact (Prod.ext_iff.1 hagain).2
  constructor
  · intro i entry c hi hclaim hcloses
    have hlt := (List.getElem?_eq_some_iff.1 hi).1
    obtain ⟨q, hfind, rfl, hwanted⟩ := r.found_final hi hclaim
    obtain ⟨hread, hbefore⟩ := r.read_before hapart hi
    -- the queue is held as a root queue
    have hroot : q.spec.parentQueue = "" := by
      have hspec : q.spec.parentQueue = r.parentWritten i entry q.name :=
        congrArg QueueSpec.parentQueue (Made.of_equal hwanted).2.2
      rwa [parentWritten, heldParent_eq, hread, hbefore, r.parents_progress hapart (Nat.le_of_lt hlt),
        if_pos hcloses] at hspec
    rw [← r.parents_final hapart]
    have hunchanged := r'.store_unchanged hsame (Nat.le_of_lt hlt)
    obtain ⟨hparent, name, -, hturn⟩ := r'.turn_at hi
    -- the second turn finds the queue as it wants it
    have hread' : r'.parentRead i entry = parentQueue r.cfg r.departments r.rand r.department r.before entry := by
      have hparent' := r.parent_again hapart hi (rand' i)
      rw [← hread]
      rw [parentRead, parentAt, DepartmentHandler.viewAt]
      exact congrArg (fun x => x.toOption.getD "") ((congrArg (fun s => departmentQueueName r.cfg
        (.fresh r.departments (rand' i) s) r.department.parent entry.nodepool) hunchanged).trans hparent')
    rw [hunchanged, show List.find? _ r'.before.items = some q from hfind] at hturn
    obtain ⟨rfl, hwanted'⟩ := hturn.found_wanted (r'.store_unchanged hsame hlt) (List.mem_of_find?_eq_some hfind)
    have hspec : q.spec.parentQueue = r'.parentWritten i entry q.name :=
      congrArg QueueSpec.parentQueue (Made.of_equal (hwanted'.elim id id)).2.2
    rw [parentWritten, heldParent_eq, hread', hunchanged, hroot] at hspec
    split_ifs at hspec with hcloses'
    · exact hcloses'.2.2
    · exact absurd hspec.symm hcloses.1
  · intro i entry hi hclaim j hclaim'
    have hnone := r.given_up_final hi hclaim
    -- the holder of the name has become a queue of the department, so that a second turn draws another name
    obtain ⟨other, hother⟩ : ∃ e, r.department.queues[j]? = some e := ⟨_, List.getElem?_eq_getElem (claimAt_lt hclaim')⟩
    obtain ⟨q, hfind, hname, hwanted⟩ := r.found_final hother hclaim'
    cases hagain : r'.run.claim i with
    | some c =>
      obtain ⟨q', hfind', -⟩ := r'.found_final hi hagain
      rw [hsame] at hfind'
      cases hfind'.symm.trans hnone
    | none =>
      obtain ⟨-, -, q', hq', hfree⟩ := plan_eq_none ((r'.claim_eq hi).symm.trans hagain)
      have hget := Store.get_of_mem (List.mem_of_find?_eq_some hfind)
      rw [hname] at hget
      cases hget.symm.trans hq'
      exact absurd (((Made.of_equal hwanted).1.taken _ _).symm.trans hfree) (by simp)

end DepartmentRun

end Krm.Queues.DepartmentHandler
