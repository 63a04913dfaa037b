import Krm.Queues.ProjectConverges
import Krm.Queues.Turns

/-! # A second queue reconcile of a Project

After a reconcile that met no error an entry finds its queue again, as it wants it, unless a later entry has written
over it. -/

open Krm.Lib

namespace Krm.Queues.QueueResourceHandler

variable {cfg : Config} {departments : DepartmentStore} {project : Project} {entry : QueueConfig}

/-! ## One entry of a Project -/

section Entry

variable {rand : Nat → Nat → String} {server : Server} {s s' : QueueStore} {name : String}

/-- As it is wanted, or overridden by hand. -/
def Settled (cfg : Config) (project : Project) (entry : QueueConfig) (parent name : String) (q : Queue) : Prop :=
  areQueuesEqual (expectedQueue cfg project entry parent name) q ∨ isManuallyOverridden cfg q

def Wanted (cfg : Config) (project : Project) (entry : QueueConfig) (parent name : String) (q : Queue) : Prop :=
  areQueuesEqual (expectedQueue cfg project entry parent name) q

theorem reconcileEntry_turn
    (h : reconcileEntry cfg ⟨.fresh departments rand s, server, s⟩ project entry = .ok (name, s')) :
    ∃ parent, departmentQueueName cfg (.fresh departments rand s) project.parent entry.nodepool = .ok parent ∧
      Turn (entryQueue cfg project entry s) name
        (Settled cfg project entry parent name) (Wanted cfg project entry parent name) s s' ∧
      (entryQueue cfg project entry s = none →
        name = generateQueueNameForResource cfg (.fresh departments rand s) project.name ""
          (getQueueName cfg entry project.name) project.uid) := by
  obtain ⟨-, parent, hparent, hparts⟩ := reconcileEntry_parts h
  refine ⟨parent, hparent, ?_⟩
  cases hq : entryQueue cfg project entry s with
  | none =>
    rw [hq] at hparts
    exact ⟨createQueue_turn hparts.2, fun _ => hparts.1⟩
  | some q =>
    rw [hq] at hparts
    obtain ⟨rfl, hstore⟩ := hparts
    refine ⟨?_, fun hnone => by cases hnone⟩
    unfold handleExisting at hstore
    split_ifs at hstore with hequal hover
    · cases hstore
      exact .keep rfl rfl (.inl hequal)
    · cases hstore
      exact .keep rfl rfl (.inr hover)
    · exact updateExistingQueue_turn (expectedQueue_name ..) (foundQueue_mem hq).2 hstore

theorem Made.foundByLabels {n : String} {q : Queue} (h : Made cfg project n q) :
    foundByLabels cfg project n q = true := by
  simp [QueueResourceHandler.foundByLabels, h.lookup_project, h.inPool, h.ownedByKind, isExternalQueue, h.ownedByUID]

theorem Made.not_foundByLabels {n n' : String} {q : Queue} (h : Made cfg project n' q) (hne : n ≠ n') :
    QueueResourceHandler.foundByLabels cfg project n q = false := by
  have hpool : Krm.Queues.inPool cfg n q = false := Bool.eq_false_iff.2 fun hpool => hne (inPool_inj hpool h.inPool)
  simp [QueueResourceHandler.foundByLabels, hpool]

theorem handleExisting_settled {m : Moment} {parent : String} {q : Queue}
    (hq : Settled cfg project entry parent name q)
    (h : handleExisting cfg m (expectedQueue cfg project entry parent name) q project.uid = .ok s') : s' = m.store := by
  unfold handleExisting at h
  split_ifs at h with hequal hover
  · exact (Except.ok.inj h).symm
  · exact (Except.ok.inj h).symm
  · exact (hq.elim hequal hover).elim

theorem reconcileEntry_again {parent name' : String} {later s'' : QueueStore} {rand' : Nat → Nat → String}
    {server' : Server} (hfree : s.get (drawnName rand (getQueueName cfg entry project.name)) = none)
    (hturn : Turn (entryQueue cfg project entry s) name
      (Settled cfg project entry parent name) (Wanted cfg project entry parent name) s s')
    (hgenerated : entryQueue cfg project entry s = none →
      name = generateQueueNameForResource cfg (.fresh departments rand s) project.name ""
        (getQueueName cfg entry project.name) project.uid)
    (hthins : s'.Thins (foundByLabels cfg project entry.nodepool) later) (hget : later.get name = s'.get name)
    (hparent : departmentQueueName cfg (.fresh departments rand' later) project.parent entry.nodepool = .ok parent)
    (h : reconcileEntry cfg ⟨.fresh departments rand' later, server', later⟩ project entry = .ok (name', s'')) :
    name' = name ∧ s'' = later := by
  -- The turn of an entry is not repeated: its queue is found again and stays, or its name is held as before.
  obtain ⟨-, parent', hparent', hparts⟩ := reconcileEntry_parts h
  cases hparent.symm.trans hparent'
  have hsearch : ∀ q, s.items.find? (foundByLabels cfg project entry.nodepool) = some q →
      entryQueue cfg project entry s = some q := by
    intro q hq
    rw [entryQueue, foundQueue, hq, Option.some_or]
  have hkept {q : Queue} (hq : entryQueue cfg project entry later = some q)
      (hname : q.name = name) (hsettled : Settled cfg project entry parent name q) : name' = name ∧ s'' = later := by
    rw [hq] at hparts
    obtain ⟨rfl, hstore⟩ := hparts
    subst hname
    exact ⟨rfl, handleExisting_settled hsettled hstore⟩
  rcases hturn.search_later (fun q hq => (foundQueue_mem hq).1) hsearch (fun a ha => (Made.of_equal ha).1.foundByLabels) hthins
    hget with
    ⟨a, hfind, hname, ha⟩ | ⟨hfind, hfind', hstood, ⟨q, hq, hname, hsettled⟩ | ⟨hnone, hheld⟩⟩
  · -- found by its labels
    have hfound : entryQueue cfg project entry later = some a := by
      rw [entryQueue, foundQueue, hfind, Option.some_or]
    exact hkept hfound hname (ha.elim id .inl)
  · -- overridden by hand, and found by its name as before
    rw [entryQueue, foundQueue, hfind, Option.none_or] at hq
    have hsuggested := Store.get_key (Option.filter_eq_some_iff.1 hq).1
    have hname' : name = getQueueName cfg entry project.name := hname.symm.trans hsuggested
    have hfound : entryQueue cfg project entry later = some q := by
      rw [entryQueue, foundQueue, hfind', Option.none_or, ← hname', hstood, hname']
      exact hq
    exact hkept hfound hname hsettled
  · -- not found, and the name is held
    obtain ⟨hsuggested, hagain⟩ := generated_again rand' hfree (hgenerated hnone) hheld hstood
    have hfound : entryQueue cfg project entry later = none := by
      rw [entryQueue, foundQueue, hfind, Option.none_or] at hnone
      rw [entryQueue, foundQueue, hfind', Option.none_or, ← hsuggested, hstood, hsuggested]
      exact hnone
    rw [hfound] at hparts
    obtain ⟨rfl, hstore⟩ := hparts
    rw [hagain] at hstore ⊢
    refine ⟨rfl, createQueue_held ?_ hstore⟩
    rw [expectedQueue_name, hstood]
    exact hheld

end Entry

/-! ## What a reconcile leaves -/

section Left

variable (cfg : Config) (rand : Nat → Nat → Nat → String) (project : Project) (s : QueueStore)

/-- The `i`-th entry writes under the name, and no later one does. -/
def Keeps (i : Nat) (c : String) : Prop :=
  claimAt (writes cfg project rand s) project.queues i = some c ∧
    ∀ j, i < j → claimAt (writes cfg project rand s) project.queues j ≠ some c

/-- The queue is neither written nor deleted. -/
def LeftAlone (q : Queue) : Prop :=
  q ∈ s.items ∧ (∀ j, claimAt (writes cfg project rand s) project.queues j ≠ some q.name) ∧
    (q.labels.lookup cfg.projectLabelKey = some project.name → Removable cfg project.uid projectKind q →
      ∃ j < project.queues.length, reconciledAt cfg project rand s j = some q.name)

/-- Found for the entry and overridden, or under the name that it gives up. -/
def Stops (entry : QueueConfig) (q : Queue) : Prop :=
  foundByLabels cfg project entry.nodepool q ∨
    (q.name = getQueueName cfg entry project.name ∧
      ((takenBy cfg "" project.name project.uid q = false ∧ isManuallyOverridden cfg q) ∨
        (takenBy cfg "" project.name project.uid q ∧ q.name.toList.length ≤ maxNameLen ∧
          takenBy cfg project.name "" project.uid q = false)))

/-- No later entry writes over it, or a queue left alone keeps it from writing again. -/
def Rests (i : Nat) (entry : QueueConfig) : Prop :=
  ∀ c, claimAt (writes cfg project rand s) project.queues i = some c →
    Keeps cfg rand project s i c ∨ ∃ q, LeftAlone cfg rand project s q ∧ Stops cfg project entry q

/-- The parent's queues are owned by a Department, not a Project. -/
def ParentApart (departments : DepartmentStore) (project : Project) (s : QueueStore) : Prop :=
  ∀ department, departments.get project.parent = some department → department.uid ≠ project.uid ∧
    ∀ q ∈ s.items, ofOwner department q = true →
      isOwnedByKind q.ownerReferences departmentKind = true ∧ isOwnedByKind q.ownerReferences projectKind = false

end Left

section Names

variable (r : ProjectRun) {i j : Nat} {q : Queue} {c : String}

/-- The name that the spec suggests for the queue of the entry. -/
abbrev ProjectRun.suggested (entry : QueueConfig) : String := getQueueName r.cfg entry r.project.name

abbrev ProjectRun.drawnAt (i : Nat) (entry : QueueConfig) : String := drawnName (r.rand i) (r.suggested entry)

theorem foundByLabels_not_taken {n : String} (hp : project.name ≠ "") (h : foundByLabels cfg project n q) :
    takenBy cfg "" project.name project.uid q = false := by
  simp only [foundByLabels, Bool.and_eq_true, decide_eq_true_eq, Bool.not_eq_true'] at h
  simp [takenBy, h.2.2, hp, h.2.1, Labels.value, h.1.1]

namespace ProjectRun

theorem exists_plan (h : r.run.claim i = some c) : ∃ entry, r.project.queues[i]? = some entry ∧
    plan r.cfg r.project r.rand r.before (r.run.claimed i) i entry = some c := by
  obtain ⟨entry, hi, hwrites⟩ := Option.bind_eq_some_iff.1 h
  exact ⟨entry, hi, (writes_eq_some.1 hwrites).1⟩

theorem written_not_taken (h : r.run.claim i = some q.name) (hq : q ∈ r.before.items) :
    takenBy r.cfg "" r.project.name r.project.uid q = false := by
  -- by induction over the turns: a name that is claimed already was claimed by an earlier entry
  induction i using Nat.strong_induction_on with
  | _ i ih =>
    obtain ⟨entry, hi, hplan⟩ := r.exists_plan h
    simp only [plan] at hplan
    split at hplan
    · rename_i found hfound
      have hlabels := List.find?_some hfound
      rw [Bool.and_eq_true] at hlabels
      rw [← Store.eq_of_mem (List.mem_of_find?_eq_some hfound) hq (Option.some.inj hplan)]
      exact foundByLabels_not_taken (r.named hi) hlabels.1
    · split_ifs at hplan with hclaimed
      · obtain ⟨j, hj, hclaim⟩ := Loop.claimed_iff.1 hclaimed
        exact ih j hj (hclaim.trans hplan)
      · have hundrawn : q.name ≠ r.drawnAt i entry := by
          intro hdrawn
          have hfree : r.before.get (r.drawnAt i entry) = none := r.drawn.not_held i entry hi
          rw [← hdrawn, Store.get_of_mem hq] at hfree
          cases hfree
        have hname := (claimedName_none hplan).resolve_right hundrawn
        rw [← hname, Store.get_of_mem hq, claimedName] at hplan
        split_ifs at hplan with hfree
        · exact hfree
        · exact absurd (Option.some.inj hplan).symm (hname ▸ hundrawn)

/-- A reconciled name that its entry does not write is written by none. -/
theorem unwritten_free {name : String} (h : r.run.reconciledAt i = some name) (hwrites : r.run.claim i = none) (j : Nat) :
    r.run.claim j ≠ some name := by
  intro hclaim
  obtain ⟨q, hq, hleft⟩ := reconciledAt_unwritten h fun hsome => by cases hwrites.symm.trans hsome
  obtain rfl : q.name = name := Store.get_key hq
  rcases hleft with hover | ⟨htaken, -⟩
  · have hnot := (claimAt_writes hclaim).2
    rw [hq] at hnot
    exact absurd (hover.symm.trans hnot) (by simp)
  · exact absurd (htaken.symm.trans (r.written_not_taken hclaim (Store.get_mem hq))) (by simp)

theorem reclaimed (hi : r.project.queues[i]? = some entry) (h : r.run.claim i = some c) (hclaimed : c ∈ r.run.claimed i) :
    c = r.suggested entry ∨ c = r.drawnAt i entry := by
  obtain ⟨e, he, hplan⟩ := r.exists_plan h
  cases hi.symm.trans he
  simp only [plan] at hplan
  split at hplan
  · rename_i q hq
    have hfree := List.find?_some hq
    simp [Option.some.inj hplan, hclaimed] at hfree
  · split_ifs at hplan
    · exact .inl (Option.some.inj hplan).symm
    · exact claimedName_none hplan

theorem writes_own (hi : r.project.queues[i]? = some entry)
    (hnone : ∀ q ∈ r.before.items, foundByLabels r.cfg r.project entry.nodepool q = false)
    (hstops : ∀ q ∈ r.before.items, ¬ Stops r.cfg r.project entry q) :
    ∃ c, r.run.claim i = some c ∧ (c = r.suggested entry ∨ c = r.drawnAt i entry) := by
  have hdrawn := r.drawn.not_held i entry hi
  have hfind : r.before.items.find? (fun q => foundByLabels r.cfg r.project entry.nodepool q &&
      decide (q.name ∉ r.run.claimed i)) = none := by
    refine List.find?_eq_none.2 fun q hq => ?_
    simp [hnone q hq]
  have hclaim : r.run.claim i = writes r.cfg r.project r.rand r.before (r.run.claimed i) i entry := claimAt_eq hi
  simp only [hclaim, writes_eq_some, plan, hfind]
  split_ifs with hclaimed
  · exact ⟨_, ⟨rfl, claims_not_overridden hclaimed⟩, .inl rfl⟩
  · cases hget : r.before.get (r.suggested entry) with
    | none =>
      simp only [claimedName]
      split_ifs
      · exact ⟨_, ⟨rfl, by simp [hget]⟩, .inl rfl⟩
      · exact ⟨_, ⟨rfl, by simp [hdrawn]⟩, .inr rfl⟩
    | some q =>
      have hname : q.name = r.suggested entry := Store.get_key hget
      have hfree := hstops q (Store.get_mem hget)
      simp only [Stops, hname, true_and, not_or, not_and] at hfree
      simp only [claimedName]
      split_ifs with hown hgiven
      · exact ⟨_, ⟨rfl, by simpa [hget] using hfree.2.1 hown⟩, .inl rfl⟩
      · exact absurd hgiven.2 (hfree.2.2 (by simpa using hown) hgiven.1)
      · exact ⟨_, ⟨rfl, by simp [hdrawn]⟩, .inr rfl⟩

theorem own_not_reclaimed (hnames : (r.project.queues.map r.suggested).Nodup) {other : QueueConfig}
    (hi : r.project.queues[i]? = some entry) (hj : r.project.queues[j]? = some other) (hij : i ≠ j)
    (hc : c = r.suggested entry ∨ c = r.drawnAt i entry) : c ≠ r.suggested other ∧ c ≠ r.drawnAt j other := by
  rcases hc with rfl | rfl
  · refine ⟨fun hsame => hij ?_, (r.drawn.not_suggested j other hj entry (List.mem_of_getElem? hi)).symm⟩
    apply (List.getElem?_inj (by simpa using (List.getElem?_eq_some_iff.1 hi).1) hnames).1
    simp [hi, hj, hsame]
  · exact ⟨r.drawn.not_suggested i entry hi other (List.mem_of_getElem? hj), r.drawn.distinct i j entry other hi hj hij⟩

end ProjectRun

end Names

/-! ## A whole reconcile of a Project -/

namespace ProjectRun

variable (r : ProjectRun) {i : Nat} {q : Queue}

/-- The parent that was read at an entry's turn. -/
def parentRead (i : Nat) (entry : QueueConfig) : String :=
  (parentAt r.cfg r.departments r.rand r.server r.project r.before i entry).toOption.getD ""

abbrev found (entry : QueueConfig) (s : QueueStore) : Option Queue :=
  entryQueue r.cfg r.project entry s

theorem turn_at (hi : r.project.queues[i]? = some entry) :
    parentAt r.cfg r.departments r.rand r.server r.project r.before i entry = .ok (r.parentRead i entry) ∧
    ∃ name, r.run.reconciledAt i = some name ∧
      Turn (r.found entry (r.run.store i)) name (Settled r.cfg r.project entry (r.parentRead i entry) name)
        (Wanted r.cfg r.project entry (r.parentRead i entry) name) (r.run.store i) (r.run.store (i + 1)) ∧
      (r.found entry (r.run.store i) = none → name = generateQueueNameForResource r.cfg
        (.fresh r.departments (r.rand i) (r.run.store i)) r.project.name "" (r.suggested entry) r.project.uid) := by
  obtain ⟨name, hreconciled, -⟩ := Loop.reconciled_at r.nil_loop hi
  obtain ⟨hname, -⟩ := r.run.turn hi (r.run.inv_at hi) hreconciled
  obtain ⟨parent, hparent, hturn, hgenerated⟩ := reconcileEntry_turn hreconciled
  have hread : r.parentRead i entry = parent := congrArg (fun x => x.toOption.getD "") hparent
  rw [hread]
  exact ⟨hparent, name, hname, hturn, hgenerated⟩

theorem thins_final (hi : r.project.queues[i]? = some entry) :
    (r.run.store (i + 1)).Thins (foundByLabels r.cfg r.project entry.nodepool) r.run.final := by
  -- Later entries are of other node pools.
  refine (r.run.thins_later ?_ (List.getElem?_eq_some_iff.1 hi).1 (Nat.le_refl _)).trans (r.run.thins_final _)
  intro k e hk he q hwant
  refine (r.made_of_want hwant).not_foundByLabels fun hpool => ?_
  have := index_of_pool r.pools hi he hpool
  omega

/-! ### The parent -/

section

variable (hapart : ParentApart r.departments r.project r.before) {department : Department}
  (hdepartment : r.departments.get r.project.parent = some department)
include hapart

include hdepartment in
theorem parent_kept (hi : i ≤ r.project.queues.length) : r.before.Keeps (ofOwner department) (r.run.store i) := by
  -- No entry writes over a queue of the parent department, or makes one.
  obtain ⟨huid, hqueues⟩ := hapart department hdepartment
  have hinv := r.run.inv hi
  refine (Store.Thins.of_agreeOff hinv.agree fun q hq hclaimed => ?_).keeps fun q hq howned => ?_
  · obtain ⟨_, _, _, _, hmade⟩ := r.made hinv hq hclaimed
    simp [ofOwner, isOwnedByUID, hmade.owners, ownerReference, huid.symm]
  · refine (hinv.agree.mem_iff fun hclaimed => ?_).1 hq
    obtain ⟨j, hj, hclaim⟩ := Loop.claimed_iff.1 hclaimed
    have hfree := r.written_not_taken hclaim hq
    obtain ⟨hkind, hproject⟩ := hqueues q hq howned
    simp [takenBy, hkind, hproject] at hfree

include hdepartment in
theorem parent_kept_final : r.before.Keeps (ofOwner department) r.run.final := by
  have hkept := r.parent_kept hapart hdepartment (Nat.le_refl _)
  refine hkept.trans (Store.Thins.keeps (r.run.thins_final _) fun q hq howned => ?_)
  obtain ⟨-, hproject⟩ := (hapart department hdepartment).2 q ((hkept.mem_iff howned).1 hq) howned
  exact (r.run.mem_final q).2 ⟨hq, fun _ hremovable => absurd (hremovable.1.symm.trans hproject) (by simp)⟩

theorem parent_again (hi : r.project.queues[i]? = some entry) (rand' : Nat → Nat → String) :
    departmentQueueName r.cfg (.fresh r.departments rand' r.run.final) r.project.parent entry.nodepool =
      .ok (r.parentRead i entry) := by
  rw [← (r.turn_at hi).1]
  refine departmentQueueName_keeps (fun department hdepartment => ?_) entry.nodepool
  exact Eq.trans (r.parent_kept_final hapart hdepartment)
    (r.parent_kept hapart hdepartment (Nat.le_of_lt (List.getElem?_eq_some_iff.1 hi).1)).symm

end

/-! ### The queues in the end -/

abbrev Keeps (i : Nat) (c : String) : Prop := QueueResourceHandler.Keeps r.cfg r.rand r.project r.before i c

abbrev LeftAlone (q : Queue) : Prop := QueueResourceHandler.LeftAlone r.cfg r.rand r.project r.before q

theorem mem_of_leftAlone (h : r.LeftAlone q) : q ∈ r.run.final.items :=
  (r.run.mem_final q).2 ⟨(r.run.mem_done h.2.1).1 h.1, h.2.2⟩

/-- A queue in the end is kept by its writer, or was left alone. -/
theorem kept_or_leftAlone (hq : q ∈ r.run.final.items) :
    (∃ j entry, r.project.queues[j]? = some entry ∧ r.Keeps j q.name ∧ Made r.cfg r.project entry.nodepool q) ∨
      r.LeftAlone q := by
  obtain ⟨hdone, hkept⟩ := (r.run.mem_final q).1 hq
  by_cases hclaimed : ∃ j, r.run.claim j = some q.name
  · obtain ⟨j, entry, hentry, hclaim, hlast, hmade, -⟩ := r.last hdone hclaimed
    exact .inl ⟨j, entry, hentry, ⟨hclaim, hlast⟩, hmade⟩
  · rw [not_exists] at hclaimed
    exact .inr ⟨(r.run.mem_done hclaimed).2 hdone, hclaimed, hkept⟩

variable {r} in
/-- What is found by labels among those left alone is overridden. -/
theorem LeftAlone.overridden (hp : r.project.name ≠ "") {n : String} (h : r.LeftAlone q)
    (hlabels : foundByLabels r.cfg r.project n q) : isManuallyOverridden r.cfg q := by
  have hfound := hlabels
  simp only [foundByLabels, Bool.and_eq_true, decide_eq_true_eq, Bool.not_eq_true'] at hfound
  obtain ⟨j, -, hrec⟩ := h.2.2 hfound.1.1 hfound.2
  obtain ⟨q', hq', hleft⟩ := reconciledAt_unwritten hrec (h.2.1 j)
  rw [Store.get_of_mem h.1] at hq'
  cases hq'
  rcases hleft with hover | ⟨htaken, -⟩
  · exact hover
  · exact absurd (htaken.symm.trans (foundByLabels_not_taken hp hlabels)) (by simp)

theorem labels_of_lost (hi : r.project.queues[i]? = some entry) (hlost : ∀ c, ¬ r.Keeps i c) (hq : q ∈ r.run.final.items)
    (hlabels : foundByLabels r.cfg r.project entry.nodepool q) : r.LeftAlone q := by
  rcases r.kept_or_leftAlone hq with ⟨j, e, he, hkeeps, hmade⟩ | hleft
  · simp only [foundByLabels, Bool.and_eq_true] at hlabels
    cases index_of_pool r.pools he hi (inPool_inj hmade.inPool hlabels.1.2)
    exact absurd hkeeps (hlost q.name)
  · exact hleft

/-! ### A second turn -/

section

variable {name' : String} {s' : QueueStore} {rand' : Nat → Nat → String} {server' : Server}
  (hi : r.project.queues[i]? = some entry)
  (h : reconcileEntry r.cfg ⟨.fresh r.departments rand' r.run.final, server', r.run.final⟩ r.project entry = .ok (name', s'))
include hi h

/-- An entry that kept what it wrote, or wrote nothing, repeats itself. -/
theorem entry_again (hapart : ParentApart r.departments r.project r.before) {name : String}
    (hname : r.run.reconciledAt i = some name) (hfree : ∀ j, i < j → r.run.claim j ≠ some name) :
    name' = name ∧ s' = r.run.final := by
  have hlt := (List.getElem?_eq_some_iff.1 hi).1
  obtain ⟨-, name, hname', hturn, hgenerated⟩ := r.turn_at hi
  cases hname'.symm.trans hname
  exact reconcileEntry_again (r.drawn_not_held (r.run.inv (Nat.le_of_lt hlt)) hi) hturn hgenerated (r.thins_final hi)
    (r.run.get_final hlt hname hfree) (r.parent_again hapart hi rand') h

/-- An entry that was written over repeats itself if it is stopped. -/
theorem stopped_again (hlost : ∀ c, ¬ r.Keeps i c) (hq : r.LeftAlone q) (hstops : Stops r.cfg r.project entry q) :
    s' = r.run.final := by
  have hleft := fun q' hq' => r.labels_of_lost (q := q') hi hlost hq'
  have hmem := r.mem_of_leftAlone hq
  obtain ⟨hp, parent, -, hparts⟩ := reconcileEntry_parts h
  have hsettled {q' : Queue} (hover : isManuallyOverridden r.cfg q') (hfound : r.found entry r.run.final = some q') :
      s' = r.run.final := by
    rw [found] at hfound
    rw [hfound] at hparts
    exact handleExisting_settled (.inr hover) hparts.2
  cases hfind : r.run.final.items.find? (foundByLabels r.cfg r.project entry.nodepool) with
  | some q' =>
    have hover := (hleft q' (List.mem_of_find?_eq_some hfind) (List.find?_some hfind)).overridden hp (List.find?_some hfind)
    exact hsettled hover (by rw [found, entryQueue, foundQueue, hfind, Option.some_or])
  | none =>
    have hget := Store.get_of_mem hmem
    rcases hstops with hlabels | ⟨hname, ⟨hfree, hover⟩ | ⟨htaken, hlen, hswapped⟩⟩
    · exact absurd hlabels (List.find?_eq_none.1 hfind q hmem)
    · refine hsettled hover ?_
      rw [found, entryQueue, foundQueue, hfind, Option.none_or, ← hname, hget]
      simp [Option.filter, hfree]
    · have hnone : r.found entry r.run.final = none := by
        rw [found, entryQueue, foundQueue, hfind, Option.none_or, ← hname, hget]
        simp [Option.filter, htaken]
      rw [found] at hnone
      rw [hnone] at hparts
      obtain ⟨rfl, hstore⟩ := hparts
      rw [← hname, generateQueueName_suggested r.departments rand' hlen (by rw [hget]; exact hswapped)] at hstore
      exact createQueue_held (by rw [expectedQueue_name, hget]; rfl) hstore

end

/-- A second reconcile changes nothing, if every entry rests. -/
theorem again (rand' : Nat → Nat → Nat → String) (server' : Nat → Server)
    (hapart : ParentApart r.departments r.project r.before)
    (hrests : ∀ i entry, r.project.queues[i]? = some entry → Rests r.cfg r.rand r.project r.before i entry) :
    (handleResourceInner r.cfg (.fresh r.departments rand' server') r.project r.run.final).2 = r.run.final := by
  -- an entry whose name no later entry writes reconciles that name again
  let names (i : Nat) (name : String) : Prop := ∃ j < i, r.run.reconciledAt j = some name ∧
    ∀ k, j < k → r.run.claim k ≠ some name
  rw [handleResourceInner_eq]
  refine Loop.result_idle names (fun r ⟨j, hj, _⟩ => absurd hj (Nat.not_lt_zero j)) ?_ ?_
  · intro i entry name' s' hi h
    refine ⟨?_, ?_⟩
    · cases hclaim : r.run.claim i with
      | none =>
        obtain ⟨-, name, hname, -⟩ := r.turn_at hi
        exact (r.entry_again hi h hapart hname fun j _ => r.unwritten_free hname hclaim j).2
      | some c =>
        by_cases hkeeps : r.Keeps i c
        · exact (r.entry_again hi h hapart (r.run.claim_reconciled i c hclaim) hkeeps.2).2
        · obtain ⟨q, hq, hstops⟩ := (hrests i entry hi c hclaim).resolve_left hkeeps
          refine r.stopped_again hi h (fun c' hkeeps' => hkeeps ?_) hq hstops
          cases hclaim.symm.trans hkeeps'.1
          exact hkeeps'
    · rintro name ⟨j, hj, hname, hfree⟩
      rcases Nat.lt_succ_iff_lt_or_eq.1 hj with hlt | rfl
      · exact .inr ⟨j, hlt, hname, hfree⟩
      · exact .inl (r.entry_again hi h hapart hname hfree).1.symm
  · intro q hq hlabel hremovable
    rcases r.kept_or_leftAlone hq with ⟨j, e, he, hkeeps, -⟩ | ⟨-, hfree, hrec⟩
    · exact ⟨j, claimAt_lt hkeeps.1, r.run.claim_reconciled j _ hkeeps.1, hkeeps.2⟩
    · obtain ⟨j, hj, hname⟩ := hrec hlabel hremovable
      exact ⟨j, hj, hname, fun k _ => hfree k⟩

/-- If nothing changes again, every entry rests. -/
theorem rests (hnames : (r.project.queues.map r.suggested).Nodup) {rand' : Nat → Nat → Nat → String} {server' : Nat → Server}
    (hdrawn' : NoCollision r.cfg r.project.queues r.project.name rand' r.run.final)
    (hagain : handleResourceInner r.cfg (.fresh r.departments rand' server') r.project r.run.final = ([], r.run.final))
    (hi : r.project.queues[i]? = some entry) : Rests r.cfg r.rand r.project r.before i entry := by
  intro c hclaim
  by_contra hnot
  rw [not_or, not_exists] at hnot
  obtain ⟨hkeeps, hstops⟩ := hnot
  have hlost : ∀ c', ¬ r.Keeps i c' := by
    intro c' hkeeps'
    cases hclaim.symm.trans hkeeps'.1
    exact hkeeps hkeeps'
  have hp := r.named hi
  let r' : ProjectRun := ⟨r.cfg, r.departments, rand', server', r.project, r.run.final, r.pools, hdrawn',
    congrArg Prod.fst hagain⟩
  -- the entry finds no queue by labels, and none stops it
  have hnone : ∀ q ∈ r.run.final.items, foundByLabels r.cfg r.project entry.nodepool q = false := by
    intro q hq
    by_contra hlabels
    rw [Bool.not_eq_false] at hlabels
    exact hstops q ⟨r.labels_of_lost hi hlost hq hlabels, .inl hlabels⟩
  have hfree : ∀ q ∈ r.run.final.items, ¬ Stops r.cfg r.project entry q := by
    intro q hq hstop
    rcases r.kept_or_leftAlone hq with ⟨_, _, _, _, hmade⟩ | hleft
    · rcases hstop with hlabels | ⟨-, ⟨-, hover⟩ | ⟨htaken, -⟩⟩
      · exact absurd (hlabels.symm.trans (hnone q hq)) (by simp)
      · exact absurd (hover.symm.trans hmade.not_overridden) (by simp)
      · exact absurd (htaken.symm.trans (takenBy_own hp hmade.ownedByUID hmade.ownedByKind hmade.lookup_project)) (by simp)
    · exact hstops q ⟨hleft, hstop⟩
  -- so it writes a queue of its node pool under a name of its own, where there was none
  obtain ⟨own, hown, hownName⟩ := r'.writes_own hi hnone hfree
  obtain ⟨q, hq, rfl⟩ := r'.run.held_done hown
  obtain ⟨j, other, hother, hclaim', hlast, hmade, -⟩ := r'.last hq ⟨i, hown⟩
  have hstays : q ∈ r.run.final.items := by
    have hfinal := (r'.run.mem_final_of_claim hown).2 hq
    rwa [r'.run_final, hagain] at hfinal
  have hsameTurn : j = i := by
    by_contra hne
    have hlater : i < j := by
      rcases Nat.lt_trichotomy j i with hlt | heq | hgt
      · exact absurd hown (hlast i hlt)
      · exact absurd heq hne
      · exact hgt
    obtain ⟨hsuggested, hdrawn⟩ := r'.own_not_reclaimed hnames hi hother (Ne.symm hne) hownName
    rcases r'.reclaimed hother hclaim' (Loop.claimed_iff.2 ⟨i, hlater, hown⟩) with h | h
    · exact hsuggested h
    · exact hdrawn h
  subst hsameTurn
  rw [hi] at hother
  cases hother
  exact absurd (hmade.foundByLabels.symm.trans (hnone q hstays)) (by simp)

end ProjectRun

end Krm.Queues.QueueResourceHandler
