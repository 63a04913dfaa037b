import Krm.Queues.DepartmentAgain
import Krm.Queues.ProjectAgain

/-! # Queue reconciles and their repetition -/

open Krm.Lib

namespace Krm.Queues

/-- A second reconcile changes nothing exactly if the entries rest, or the given-up names and loops stay. -/
theorem repeated_reconcile_changes_nothing_iff (cfg : Config) (departments : DepartmentStore)
    (rand rand' : Nat → Nat → Nat → String) (server server' : Nat → Server) (s : QueueStore) :
    (∀ project : Project, (project.queues.map QueueConfig.nodepool).Nodup →
      (project.queues.map fun entry => getQueueName cfg entry project.name).Nodup →
      NoCollision cfg project.queues project.name rand s →
      QueueResourceHandler.ParentApart departments project s →
      ∀ done, QueueResourceHandler.handleResourceInner cfg (.fresh departments rand server) project s = ([], done) →
      ((∀ i entry, project.queues[i]? = some entry → QueueResourceHandler.Rests cfg rand project s i entry) →
        (QueueResourceHandler.handleResourceInner cfg (.fresh departments rand' server') project done).2 = done) ∧
      (NoCollision cfg project.queues project.name rand' done →
        QueueResourceHandler.handleResourceInner cfg (.fresh departments rand' server') project done = ([], done) →
        ∀ i entry, project.queues[i]? = some entry → QueueResourceHandler.Rests cfg rand project s i entry)) ∧
    (∀ department : Department, (department.queues.map QueueConfig.nodepool).Nodup →
      NoCollision cfg department.queues department.name rand s →
      DepartmentHandler.ParentApart cfg departments department s →
      ∀ done, (DepartmentHandler.handle cfg (.fresh departments rand server) department s).2 = ([], done) →
      (DepartmentHandler.LoopsStay cfg departments rand department s ∧
          DepartmentHandler.GivenUpStays cfg rand department s →
        (DepartmentHandler.handle cfg (.fresh departments rand' server') department done).2.2 = done) ∧
      (NoCollision cfg department.queues department.name rand' done →
        (DepartmentHandler.handle cfg (.fresh departments rand' server') department done).2 = ([], done) →
        DepartmentHandler.LoopsStay cfg departments rand department s ∧
          DepartmentHandler.GivenUpStays cfg rand department s)) := by
  refine ⟨fun project hpools hnames hrand hapart done hrun => ?_, fun department hpools hrand hapart done hrun => ?_⟩
  · obtain ⟨hnil, hdone⟩ := Prod.ext_iff.1 hrun
    let r : QueueResourceHandler.ProjectRun := ⟨cfg, departments, rand, server, project, s, hpools, hrand, hnil⟩
    obtain rfl := hdone
    rw [← r.run_final]
    exact ⟨r.again rand' server' hapart, fun hrand' hagain i entry => r.rests hnames hrand' hagain⟩
  · obtain ⟨hnil, hdone⟩ := Prod.ext_iff.1 hrun
    let r : DepartmentHandler.DepartmentRun := ⟨cfg, departments, rand, server, department, s, hpools, hrand, hnil⟩
    obtain rfl := hdone
    rw [← r.run_final]
    exact ⟨fun hstay => r.again hapart hstay.1 hstay.2 rand' server', r.stays hapart⟩

namespace Repeated

def server (i : Nat) : Server := .willing (i + 2)

/-- A department whose parent is below it by the queues. -/
def lower : Department := ⟨"d", "u1", "e", [⟨"", "default", none, none⟩]⟩

def upper : Department := ⟨"e", "u2", "", [⟨"", "default", none, none⟩]⟩

theorem apart : ([lower, upper].map Department.name).Nodup := by decide

def departments : DepartmentStore where
  items := [lower, upper]
  nodup := apart

def upperQueue : Queue where
  name := "e"
  labels := (∅ : Labels).insert "kai.resources/department-name" "e"
  ownerReferences := [ownerReference departmentKind "e" "u2"]
  spec := populateQueueSpec none "e" "d" none
  resourceVersion := 1

def renamed : Project := ⟨"p", "u3", "", [⟨"x", "a", none, none⟩, ⟨"y", "b", none, none⟩]⟩

/-- The queue in `a`, under the name now given to the one in `b`. -/
def moved : Queue where
  name := "y"
  labels := ((∅ : Labels).insert "project" "p").insert "kai.scheduler/node-pool" "a"
  ownerReferences := [ownerReference projectKind "p" "u3"]
  spec := populateQueueSpec none "p" "" none
  resourceVersion := 1

def overridden : Queue :=
  { moved with labels := moved.labels.insert "kai.resources/resource-manual-override" "true" }

/-- Both entries of the Project meet the overridden queue. -/
def passedOver : QueueStore := (QueueResourceHandler.handleResourceInner (.default false) (.fresh .empty suffix server)
  renamed (.single overridden)).2

/-- The lower department's queue is held as a root queue. -/
def held : QueueStore := (DepartmentHandler.handle (.default false) (.fresh departments suffix server) lower
  (.single upperQueue)).2.2

open DepartmentHandler in
theorem loops_stay : LoopsStay (.default false) departments suffix lower (.single upperQueue) := by
  intro i entry c hentry hclaim _
  obtain rfl : i = 0 := by
    have := (List.getElem?_eq_some_iff.1 hentry).1
    simpa [lower] using this
  obtain rfl : ⟨"", "default", none, none⟩ = entry := Option.some.inj hentry
  obtain rfl : "d" = c := Option.some.inj (Eq.trans (by decide) hclaim)
  have hparent : parentQueue (.default false) departments suffix lower (.single upperQueue)
      ⟨"", "default", none, none⟩ = "e" := by decide
  have hstays : ¬ ∃ q, Goes (.default false) suffix lower (.single upperQueue) q ∧ q.name = "e" := by
    rintro ⟨q, ⟨hq, hlabel, -⟩, -⟩
    simp only [Store.single, List.mem_singleton] at hq
    subst hq
    exact absurd hlabel (by decide)
  have hup : parentsFinal (.default false) departments suffix lower (.single upperQueue) "e" =
      some "d" := by
    have hbefore : parentOf (.single upperQueue) "e" = some "d" := by decide
    have hclaim : claimAt (plan (.default false) lower suffix (.single upperQueue)) lower.queues 0 =
        some "d" := by decide
    rw [parentsFinal, if_neg hstays]
    show parentsAt _ _ _ _ _ 1 "e" = _
    simp only [parentsAt, hclaim]
    exact (Function.update_of_ne (by decide) _ _).trans hbefore
  exact ⟨1, by rw [hparent, climb_one, hup]⟩

end Repeated

open Repeated in
theorem held_queue_reconciled_again :
    (QueueResourceHandler.handleResourceInner (.default false) (.fresh .empty suffix server) renamed passedOver).2 =
      passedOver ∧
    (DepartmentHandler.handle (.default false) (.fresh departments suffix server) lower (.single upperQueue)).1 = true ∧
    (DepartmentHandler.handle (.default false) (.fresh departments suffix server) lower held).2.2 = held := by
  refine ⟨?_, by decide, ?_⟩
  · refine ((repeated_reconcile_changes_nothing_iff (.default false) .empty suffix suffix server server
      (.single overridden)).1 renamed (by decide) (by decide) (.of_zipIdx (by decide)) ?_ passedOver
      (Prod.ext (by decide) rfl)).1 ?_
    · intro department hdepartment
      cases hdepartment
    · intro i entry hentry c hclaim
      have hnone : ∀ j < 2, claimAt (QueueResourceHandler.writes (.default false) renamed suffix (.single overridden))
          renamed.queues j = none := by decide
      rw [hnone i (claimAt_lt hclaim)] at hclaim
      cases hclaim
  · refine ((repeated_reconcile_changes_nothing_iff (.default false) departments suffix suffix server server
      (.single upperQueue)).2 lower (by decide) (.of_zipIdx (by decide)) ?_ held (Prod.ext (by decide) rfl)).1
      ⟨loops_stay, ?_⟩
    · intro parent hparent
      cases hparent
      decide
    · intro i entry hentry hclaim
      obtain rfl : i = 0 := by
        have := (List.getElem?_eq_some_iff.1 hentry).1
        simpa [lower] using this
      exact absurd hclaim (by decide)

open Repeated in
theorem queue_created_by_second_reconcile :
    let reconcile := QueueResourceHandler.handleResourceInner (.default false) (.fresh .empty suffix server) renamed
    (renamed.queues.map QueueConfig.nodepool).Nodup ∧
    (renamed.queues.map fun entry => getQueueName (.default false) entry renamed.name).Nodup ∧
    (reconcile (.single moved)).1 = [] ∧ (reconcile (reconcile (.single moved)).2).2 ≠ (reconcile (.single moved)).2 := by
  -- The entry of the node pool `a` finds the queue by its labels and the entry of `b` takes the same queue by its
  -- name; only the second reconcile creates the queue that is missing.
  refine ⟨by decide, by decide, by decide, fun hsame => ?_⟩
  have hnames := congrArg (fun s : QueueStore => s.items.map Queue.name) hsame
  revert hnames
  decide

end Krm.Queues
