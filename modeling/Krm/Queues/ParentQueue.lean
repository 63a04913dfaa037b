import Krm.Queues.DepartmentConverges

/-! # The parent queue of a department's node pool, over edits and reconciles

A queue keeps its name when the spec renames its entry, while the parent lookup starts from the name in the
present spec. -/

open Krm.Lib

namespace Krm.Queues.ParentQueue

open DepartmentHandler

/-- Departments, queues, and whose present spec has been reconciled. -/
structure Cluster where
  departments : DepartmentStore
  queues : QueueStore
  settled : List String

inductive Event where
  /-- The named department gets another parent and other queue entries. -/
  | edit (name parent : String) (queues : List QueueConfig)
  | reconcile (name : String) (rand : Nat → Nat → Nat → String) (server : Nat → Server)

def editSpec (departments : DepartmentStore) (name parent : String) (queues : List QueueConfig) :
    DepartmentStore :=
  match departments.get name with
  | none => departments
  | some d => departments.replace { d with parent := parent, queues := queues }

def step (cfg : Config) (c : Cluster) : Event → Cluster
  | .edit name parent queues =>
    { c with
      departments := editSpec c.departments name parent queues
      settled := c.settled.filter (· ≠ name) }
  | .reconcile name rand server =>
    match c.departments.get name with
    | none => c
    | some d =>
      { c with
        queues := (handle cfg (.fresh c.departments rand server) d c.queues).2.2
        settled := name :: c.settled }

/-- Distinct node pools, and reconciles that succeed. -/
def Admissible (cfg : Config) (c : Cluster) : Event → Prop
  | .edit _ _ queues => (queues.map QueueConfig.nodepool).Nodup
  | .reconcile name rand server => ∀ d, c.departments.get name = some d →
      (handle cfg (.fresh c.departments rand server) d c.queues).2.1 = []

/-- No claimed name is another entry's suggestion, and suffixes do not collide. -/
def NamesApart (cfg : Config) (c : Cluster) : Event → Prop
  | .edit _ _ _ => True
  | .reconcile name rand _ => ∀ d, c.departments.get name = some d →
      NoCollision cfg d.queues d.name rand c.queues ∧
      ∀ i j e, d.queues[i]? = some e → i ≠ j →
        claimAt (plan cfg d rand c.queues) d.queues j ≠ some (getQueueName cfg e d.name)

/-- Names, distinct UIDs, and entries of distinct node pools. -/
structure Proper (departments : DepartmentStore) : Prop where
  named : ∀ d ∈ departments.items, d.name ≠ ""
  uids : ∀ d ∈ departments.items, ∀ d' ∈ departments.items, d.uid = d'.uid → d = d'
  pools : ∀ d ∈ departments.items, (d.queues.map QueueConfig.nodepool).Nodup

/-- The parent queue found is a queue of both; none without an entry. -/
def Resolves (cfg : Config) (c : Cluster) (d : Department) (n : String) : Prop :=
  ∃ r, departmentQueueName cfg (.fresh c.departments (fun _ _ => "") c.queues) d.name n = .ok r ∧
    if ∃ e ∈ d.queues, e.nodepool = n then ∃ q ∈ c.queues.items, q.name = r ∧ serves cfg d n q else r = ""

/-! ## The queues of one department -/

/-- Every entry has a queue, and queues of suggested names are the entry's. -/
def Sorted (cfg : Config) (d : Department) (s : QueueStore) : Prop :=
  ∀ e ∈ d.queues, (∃ r, nodePoolRequirement cfg e.nodepool = .ok r) ∧
    (∃ q ∈ s.items, serves cfg d e.nodepool q) ∧
    ∀ q ∈ s.items, q.name = getQueueName cfg e d.name → isOwnedByUID q.ownerReferences d.uid →
      inPool cfg e.nodepool q

variable {cfg : Config} {d : Department}

theorem getQueueName_ne {e : QueueConfig} {ownerName : String} (h : ownerName ≠ "") :
    getQueueName cfg e ownerName ≠ "" := by
  unfold getQueueName
  split_ifs with hname hpool
  · exact hname
  · exact h
  · intro happ
    simp [String.append_eq_empty_iff] at happ

theorem resolves_of_sorted {c : Cluster} (hd : d ∈ c.departments.items) (hname : d.name ≠ "")
    (h : Sorted cfg d c.queues) (n : String) : Resolves cfg c d n := by
  have hget : (View.fresh c.departments (fun _ _ => "") c.queues).getDepartment d.name = .ok d := by
    simp [View.fresh, Store.get_of_mem hd]
  simp only [Resolves, departmentQueueName, hname, if_false, hget]
  cases hfind : d.queues.find? fun queue => queue.nodepool = n with
  | none =>
    have hnone : ¬ ∃ e ∈ d.queues, e.nodepool = n := by
      simpa [List.find?_eq_none] using hfind
    exact ⟨"", rfl, by simp [hnone]⟩
  | some e =>
    have he := List.mem_of_find?_eq_some hfind
    have hn : e.nodepool = n := by simpa using List.find?_some hfind
    obtain ⟨⟨r, hreq⟩, ⟨own, hown, hserves⟩, hnamed⟩ := h e he
    subst hn
    simp only [show (∃ e' ∈ d.queues, e'.nodepool = e.nodepool) from ⟨e, he, rfl⟩, if_true]
    -- the search by owner finds a queue of the entry
    have hbyOwner : ∃ r, departmentQueueByOwner cfg (.fresh c.departments (fun _ _ => "") c.queues) d e.nodepool =
        .ok r ∧ ∃ q ∈ c.queues.items, q.name = r ∧ serves cfg d e.nodepool q := by
      simp only [departmentQueueByOwner, listQueuesForNodepool_fresh hreq, bind, Except.bind, find_list_inPool]
      cases hq : c.queues.items.find? fun q =>
          isOwnedByUID q.ownerReferences d.uid && inPool cfg e.nodepool q with
      | none => exact absurd hserves (List.find?_eq_none.1 hq own hown)
      | some q => exact ⟨q.name, rfl, q, List.mem_of_find?_eq_some hq, rfl, List.find?_some hq⟩
    cases hcand : c.queues.get (getQueueName cfg e d.name) with
    | none =>
      simp only [View.getQueue_fresh_none hcand, ApiError.isNotFound, if_true, getQueueName_ne hname, if_false]
      exact hbyOwner
    | some q =>
      simp only [View.getQueue_fresh_some hcand, getQueueName_ne hname, if_false]
      split_ifs with howned
      · have hpool := hnamed q (Store.get_mem hcand) (Store.get_key hcand) howned
        exact ⟨_, rfl, q, Store.get_mem hcand, Store.get_key hcand, by simp [serves, howned, hpool]⟩
      · exact hbyOwner

/-! ## One reconcile -/

def AllMade (cfg : Config) (departments : DepartmentStore) (s : QueueStore) : Prop :=
  ∀ q ∈ s.items, ∃ d ∈ departments.items, ∃ n, Made cfg d n q

theorem ownedByUID_of_made {n uid : String} {q : Queue} (h : Made cfg d n q) :
    isOwnedByUID q.ownerReferences uid ↔ d.uid = uid := by
  simp [isOwnedByUID, h.owners, ownerReference]

theorem departmentLabel_of_made {n : String} {q : Queue} (h : Made cfg d n q) :
    q.labels.lookup cfg.queueDepartmentNameLabelKey = some d.name := by
  have hne : cfg.queueDepartmentNameLabelKey ≠ cfg.nodePoolLabelKey := by
    have hkeys := cfg.keys_nodup
    simp only [List.nodup_cons, List.mem_cons, not_or] at hkeys
    exact hkeys.2.2.1.1
  rw [h.labels]
  unfold queueLabels addNodePoolLabelIfNeeded
  split <;> simp [Finmap.lookup_insert_of_ne, hne]

section Reconcile

variable (r : DepartmentRun) (hproper : Proper r.departments) (hd : r.department ∈ r.departments.items)
  (hmade : AllMade r.cfg r.departments r.before) {d' : Department} {q : Queue} {n : String}

include hmade in
theorem exists_claim {i : Nat} {e : QueueConfig} (hi : r.department.queues[i]? = some e) : ∃ c, r.run.claim i = some c := by
  by_contra hnone
  have hplan : r.run.claim i = none := by simpa [Option.eq_none_iff_forall_ne_some] using hnone
  obtain ⟨-, -, q, hq, hfree⟩ := plan_eq_none ((r.claim_eq hi).symm.trans hplan)
  obtain ⟨d', -, n, hq'⟩ := hmade q (Store.get_mem hq)
  simp [hq'.taken r.department.name r.department.uid] at hfree

include hproper hd

theorem others_after (hd' : d' ∈ r.departments.items) (hne : d' ≠ r.department) (hq : Made r.cfg d' n q) :
    q ∈ r.run.final.items ↔ q ∈ r.before.items := by
  have huid : d'.uid ≠ r.department.uid := fun h => hne (hproper.uids d' hd' _ hd h)
  have hname : d'.name ≠ r.department.name := fun h => hne (Store.eq_of_mem hd' hd h)
  rw [CleanRun.mem_final]
  constructor
  · rintro ⟨hdone, -⟩
    refine (r.run.mem_done fun j hj => ?_).2 hdone
    obtain ⟨i, e, -, -, hq', -⟩ := r.last hdone ⟨j, hj⟩
    exact absurd ((ownedByUID_of_made hq).1 ((ownedByUID_of_made hq').2 rfl)) huid
  · intro hs
    refine ⟨(r.run.mem_done fun j hj => ?_).1 hs, fun hlabel => absurd (Option.some.inj ?_) hname⟩
    · obtain ⟨e, he⟩ := Loop.exists_entry hj
      rcases plan_held ((r.claim_eq he).symm.trans hj) (Store.get_of_mem hs) with hserves | hdrawn
      · simp only [serves, Bool.and_eq_true] at hserves
        exact huid ((ownedByUID_of_made hq).1 hserves.1)
      · have hfree := r.drawn.not_held j e he
        rw [← hdrawn, Store.get_of_mem hs] at hfree
        cases hfree
    · exact (departmentLabel_of_made hq).symm.trans hlabel

include hmade

omit hproper hd in
theorem own_after (hq : q ∈ r.run.final.items) (hown : Made r.cfg r.department n q) :
    ∃ i e, r.department.queues[i]? = some e ∧ r.run.claim i = some q.name ∧ Made r.cfg r.department e.nodepool q := by
  obtain ⟨hdone, hkept⟩ := (r.run.mem_final q).1 hq
  have hremovable : Removable r.cfg r.department.uid departmentKind q :=
    ⟨by simp [isOwnedByKind, hown.owners, ownerReference], by simp [isExternalQueue, (ownedByUID_of_made hown).2 rfl]⟩
  obtain ⟨j, hj, hrec⟩ := hkept (departmentLabel_of_made hown) hremovable
  rcases reconciledAt_cases hrec with hclaim | ⟨hnone, -⟩
  · obtain ⟨i, e, he, hclaim, hq', -⟩ := r.last hdone ⟨j, hclaim⟩
    exact ⟨i, e, he, hclaim, hq'⟩
  · obtain ⟨c, hclaim⟩ := exists_claim r hmade (List.getElem?_eq_getElem hj)
    cases hnone.symm.trans hclaim

omit hproper in
theorem allMade_after : AllMade r.cfg r.departments r.run.final := by
  intro q hq
  have hdone := ((r.run.mem_final q).1 hq).1
  by_cases hc : ∃ j, r.run.claim j = some q.name
  · obtain ⟨i, e, -, -, hq', -⟩ := r.last hdone hc
    exact ⟨r.department, hd, e.nodepool, hq'⟩
  · rw [not_exists] at hc
    exact hmade q ((r.run.mem_done hc).2 hdone)

theorem made_of_owned (hd' : d' ∈ r.departments.items) (hq : q ∈ r.run.final.items)
    (howned : isOwnedByUID q.ownerReferences d'.uid) : ∃ n, Made r.cfg d' n q := by
  obtain ⟨d'', hd'', n, hq'⟩ := allMade_after r hd hmade q hq
  have hsame := hproper.uids d'' hd'' d' hd' ((ownedByUID_of_made hq').1 howned)
  exact ⟨n, hsame ▸ hq'⟩

theorem sorted_own
    (hapart : ∀ i j e, r.department.queues[i]? = some e → i ≠ j →
      r.run.claim j ≠ some (getQueueName r.cfg e r.department.name)) : Sorted r.cfg r.department r.run.final := by
  intro e he
  obtain ⟨i, hi⟩ := List.mem_iff_getElem?.1 he
  obtain ⟨_, _, hentry⟩ := r.entry_reconciled hi
  refine ⟨(reconcileEntry_parts hentry).1, ?_, ?_⟩
  · obtain ⟨c, hclaim⟩ := exists_claim r hmade hi
    obtain ⟨q, hq, -, hserves, -⟩ := r.claimed_final hi hclaim
    exact ⟨q, hq, hserves⟩
  · intro q hq hname howned
    obtain ⟨n, hown⟩ := made_of_owned r hproper hd hmade hd hq howned
    obtain ⟨j, e', hj, hclaim, hmade'⟩ := own_after r hmade hq hown
    rw [hname] at hclaim
    have hij : i = j := by
      by_contra hij
      exact hapart i j e hi hij hclaim
    subst hij
    rw [hi] at hj
    cases hj
    exact hmade'.inPool

theorem sorted_others (hd' : d' ∈ r.departments.items) (hne : d' ≠ r.department) (h : Sorted r.cfg d' r.before) :
    Sorted r.cfg d' r.run.final := by
  intro e he
  obtain ⟨hreq, ⟨own, hown, hserves⟩, hnamed⟩ := h e he
  refine ⟨hreq, ⟨own, ?_, hserves⟩, ?_⟩
  · obtain ⟨d'', hd'', n, hq⟩ := hmade own hown
    simp only [serves, Bool.and_eq_true] at hserves
    cases hproper.uids d'' hd'' d' hd' ((ownedByUID_of_made hq).1 hserves.1)
    exact (others_after r hproper hd hd' hne hq).2 hown
  · intro q hq hname howned
    obtain ⟨n, hq'⟩ := made_of_owned r hproper hd hmade hd' hq howned
    exact hnamed q ((others_after r hproper hd hd' hne hq').1 hq) hname howned

end Reconcile

/-! ## Runs -/

structure Inv (cfg : Config) (c : Cluster) : Prop where
  proper : Proper c.departments
  made : AllMade cfg c.departments c.queues
  sorted : ∀ d ∈ c.departments.items, d.name ∈ c.settled → Sorted cfg d c.queues

theorem Made.congr {d d' : Department} {n : String} {q : Queue} (h : Made cfg d n q) (hname : d.name = d'.name)
    (huid : d.uid = d'.uid) : Made cfg d' n q := by
  refine ⟨?_, ?_⟩
  · rw [h.labels, queueLabels, queueLabels, hname]
  · rw [h.owners, hname, huid]

section Edit

variable {departments : DepartmentStore} {name parent : String} {queues : List QueueConfig}

theorem mem_editSpec {d : Department} (h : d ∈ (editSpec departments name parent queues).items) :
    (d ∈ departments.items ∧ d.name ≠ name) ∨
      ∃ d₀ ∈ departments.items, d₀.name = name ∧ d = { d₀ with parent := parent, queues := queues } := by
  unfold editSpec at h
  split at h
  · rename_i hnone
    exact .inl ⟨h, (Store.get_eq_none_iff departments name).1 hnone d h⟩
  · rename_i d₀ hget
    have hname : d₀.name = name := Store.get_key hget
    rcases (Store.mem_replace departments _ d (by exact hname) (by simp [hget])).1 h with rfl | ⟨hd, hne⟩
    · exact .inr ⟨d₀, Store.get_mem hget, hname, rfl⟩
    · exact .inl ⟨hd, hne⟩

theorem editSpec_identity {d : Department} (h : d ∈ (editSpec departments name parent queues).items) :
    ∃ d₀ ∈ departments.items, d₀.name = d.name ∧ d₀.uid = d.uid := by
  rcases mem_editSpec h with ⟨hd, -⟩ | ⟨d₀, hd₀, -, rfl⟩
  · exact ⟨d, hd, rfl, rfl⟩
  · exact ⟨d₀, hd₀, rfl, rfl⟩

theorem identity_editSpec (name parent : String) (queues : List QueueConfig) {d₀ : Department} (h : d₀ ∈ departments.items) :
    ∃ d ∈ (editSpec departments name parent queues).items, d₀.name = d.name ∧ d₀.uid = d.uid := by
  unfold editSpec
  split
  · exact ⟨d₀, h, rfl, rfl⟩
  · rename_i d₁ hget
    have hname : d₁.name = name := Store.get_key hget
    have hheld : (departments.get name).isSome := by simp [hget]
    by_cases hne : d₀.name = name
    · cases Store.eq_of_mem h (Store.get_mem hget) (hne.trans hname.symm)
      exact ⟨_, (Store.mem_replace departments _ _ (by exact hname) hheld).2 (.inl rfl), rfl, rfl⟩
    · exact ⟨d₀, (Store.mem_replace departments _ _ (by exact hname) hheld).2 (.inr ⟨h, hne⟩), rfl, rfl⟩

theorem proper_editSpec (h : Proper departments) (hpools : (queues.map QueueConfig.nodepool).Nodup) :
    Proper (editSpec departments name parent queues) where
  named d hd := by
    obtain ⟨d₀, hd₀, hname, -⟩ := editSpec_identity hd
    exact hname ▸ h.named d₀ hd₀
  uids d hd d' hd' huid := by
    obtain ⟨d₀, hd₀, hname, huid₀⟩ := editSpec_identity hd
    obtain ⟨d₁, hd₁, hname', huid₁⟩ := editSpec_identity hd'
    have hsame := h.uids d₀ hd₀ d₁ hd₁ (by rw [huid₀, huid₁, huid])
    exact Store.eq_of_mem hd hd' (by rw [← hname, ← hname', hsame])
  pools d hd := by
    rcases mem_editSpec hd with ⟨hd, -⟩ | ⟨d₀, -, -, rfl⟩
    · exact h.pools d hd
    · exact hpools

end Edit

theorem Inv.step {cfg : Config} {c : Cluster} {event : Event} (h : Inv cfg c)
    (hok : Admissible cfg c event ∧ NamesApart cfg c event) : Inv cfg (step cfg c event) := by
  cases event with
  | edit name parent queues =>
    refine ⟨proper_editSpec h.proper hok.1, fun q hq => ?_, fun d hd hsettled => ?_⟩
    · obtain ⟨d₀, hd₀, n, hmade⟩ := h.made q hq
      obtain ⟨d, hd, hname, huid⟩ := identity_editSpec name parent queues hd₀
      exact ⟨d, hd, n, Made.congr hmade hname huid⟩
    · simp only [ParentQueue.step, List.mem_filter, decide_eq_true_eq] at hsettled
      rcases mem_editSpec hd with ⟨hd, -⟩ | ⟨d₀, -, hname, rfl⟩
      · exact h.sorted d hd hsettled.1
      · -- an edited department is no longer settled
        exact absurd hname hsettled.2
  | reconcile name rand server =>
    simp only [ParentQueue.step]
    cases hget : c.departments.get name with
    | none => exact h
    | some d =>
      have hd := Store.get_mem hget
      have hname : d.name = name := Store.get_key hget
      obtain ⟨hrand, hapart⟩ := hok.2 d hget
      let r : DepartmentRun := ⟨cfg, _, rand, server, d, _, h.proper.pools d hd, hrand, hok.1 d hget⟩
      dsimp only
      rw [← r.run_final]
      refine ⟨h.proper, allMade_after r hd h.made, fun d' hd' hsettled => ?_⟩
      by_cases hne : d' = d
      · rw [hne]
        exact sorted_own r h.proper hd h.made hapart
      · have hother : d'.name ≠ name := fun e => hne (Store.eq_of_mem hd' hd (e.trans hname.symm))
        have hold : d'.name ∈ c.settled := by simpa [hother] using hsettled
        exact sorted_others r h.proper hd h.made hd' hne (h.sorted d' hd' hold)

/-- A reconciled department resolves to its own queue in the pool. -/
theorem parent_queue_in_same_pool {cfg : Config} {departments : DepartmentStore} (hproper : Proper departments)
    {events : List Event}
    (hrun : Along (step cfg) (fun c e => Admissible cfg c e ∧ NamesApart cfg c e) ⟨departments, .empty, []⟩ events)
    {d : Department} (hd : d ∈ (run (step cfg) ⟨departments, .empty, []⟩ events).departments.items)
    (hsettled : d.name ∈ (run (step cfg) ⟨departments, .empty, []⟩ events).settled) (n : String) :
    Resolves cfg (run (step cfg) ⟨departments, .empty, []⟩ events) d n := by
  have hstart : Inv cfg ⟨departments, .empty, []⟩ := by
    refine ⟨hproper, fun q hq => ?_, fun d _ h => ?_⟩
    · cases hq
    · cases h
  have hinv := run_invariant (P := Inv cfg) (fun c e h hok => h.step hok) hstart hrun
  exact resolves_of_sorted hd (hinv.proper.named d hd) (hinv.sorted d hd hsettled) n

/-! ## A run that keeps the names apart and one that does not -/

namespace Sample

def entry (name nodepool : String) : QueueConfig := ⟨name, nodepool, none, none⟩

def named : DepartmentStore where
  items := [{ name := "d", uid := "u1", parent := "", queues := [entry "x" "a", entry "y" "b"] }]
  nodup := List.nodup_singleton _

def start : Cluster := ⟨named, .empty, []⟩

def reconcile (version : Nat) : Event := .reconcile "d" suffix fun i => .willing (version + i)

def swap : List Event := [reconcile 1, .edit "d" "" [entry "y" "a", entry "x" "b"], reconcile 4]

def rename : List Event := [reconcile 1, .edit "d" "" [entry "z" "a", entry "y" "b"], reconcile 4]

theorem proper : Proper named where
  named := by decide
  uids := by decide
  pools := by decide

theorem apart_of_zipIdx {cfg : Config} {d : Department} {rand : Nat → Nat → Nat → String} {s : QueueStore}
    (h : ∀ p ∈ d.queues.zipIdx, ∀ p' ∈ d.queues.zipIdx, p.2 ≠ p'.2 →
      claimAt (plan cfg d rand s) d.queues p'.2 ≠ some (getQueueName cfg p.1 d.name)) :
    ∀ i j e, d.queues[i]? = some e → i ≠ j →
      claimAt (plan cfg d rand s) d.queues j ≠ some (getQueueName cfg e d.name) := by
  intro i j e hi hij hclaim
  have hj := List.getElem?_eq_getElem (claimAt_lt hclaim)
  exact h (e, i) (List.mk_mem_zipIdx_iff_getElem?.2 hi) _ (List.mk_mem_zipIdx_iff_getElem?.2 hj) hij hclaim

theorem admissible_swap : Along (step (.default false)) (Admissible (.default false)) start swap := by
  refine ⟨?_, ?_, ?_, trivial⟩
  · intro d hd
    cases hd
    decide
  · change List.Nodup _
    decide
  · intro d hd
    cases hd
    decide

theorem allowed_rename : Along (step (.default false))
    (fun c e => Admissible (.default false) c e ∧ NamesApart (.default false) c e) start rename := by
  refine ⟨⟨?_, ?_⟩, ⟨?_, trivial⟩, ⟨?_, ?_⟩, trivial⟩
  · intro d hd
    cases hd
    decide
  · intro d hd
    cases hd
    exact ⟨.of_zipIdx (by decide), apart_of_zipIdx (by decide)⟩
  · change List.Nodup _
    decide
  · intro d hd
    cases hd
    decide
  · intro d hd
    cases hd
    exact ⟨.of_zipIdx (by decide), apart_of_zipIdx (by decide)⟩

end Sample

open Sample in
/-- The queue of `a` is found under its old name. -/
theorem rename_resolves : Resolves (.default false) (run (step (.default false)) start rename)
    { name := "d", uid := "u1", parent := "", queues := [entry "z" "a", entry "y" "b"] } "a" :=
  parent_queue_in_same_pool proper allowed_rename (by decide) (by decide) "a"

open Sample in
theorem swap_resolves_to_other_pool :
    Proper start.departments ∧
    Along (step (.default false)) (Admissible (.default false)) start swap ∧
    (∃ d ∈ (run (step (.default false)) start swap).departments.items,
      d.name ∈ (run (step (.default false)) start swap).settled ∧
      ¬ Resolves (.default false) (run (step (.default false)) start swap) d "a") := by
  -- After the swap the name in the spec for the node pool `a` is that of the department's queue in `b`.
  refine ⟨proper, admissible_swap,
    { name := "d", uid := "u1", parent := "", queues := [entry "y" "a", entry "x" "b"] }, by decide, by decide, ?_⟩
  rintro ⟨r, hr, hin⟩
  have hfound : departmentQueueName (.default false)
      (.fresh (run (step (.default false)) start swap).departments (fun _ _ => "")
        (run (step (.default false)) start swap).queues) "d" "a" = .ok "y" := rfl
  rw [hfound, Except.ok.injEq] at hr
  subst hr
  rw [if_pos (by decide)] at hin
  obtain ⟨q, hq, hname, hserves⟩ := hin
  have hother : ∀ q ∈ (run (step (.default false)) start swap).queues.items, q.name = "y" →
      inPool (.default false) "a" q = false := by decide
  simp [serves, hother q hq hname] at hserves

end Krm.Queues.ParentQueue
