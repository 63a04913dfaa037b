import Krm.Operator.NotReady
import Krm.Operator.Outcome

/-! # Where a deployment fails

The call that fails is told by what is there before the deployment: an operand whose objects cannot be built, a kind that
cannot be collected, or the first write that would fail. -/

open Krm.Lib

namespace Krm.Operator

section

variable {κ γ : Type} {env : Surroundings γ} {config : KRMConfig κ}

/-! ## The call that fails -/

variable [Inhabited γ]

/-- The operand once it has read what it desires, or failed to. -/
def refresh (env : Surroundings γ) (config : KRMConfig κ) (w : World κ γ) (installed : Installed κ γ) : Installed κ γ :=
  (installed.desiredState env config w.objects).2

/-- Its objects can be built. -/
def Reads (env : Surroundings γ) (config : KRMConfig κ) (w : World κ γ) (installed : Installed κ γ) : Prop :=
  failureOf (installed.desiredState env config w.objects).1 = none

/-- What the operands desire together. -/
def wanted (env : Surroundings γ) (config : KRMConfig κ) (w : World κ γ) : List (Object γ) :=
  w.operands.flatMap fun installed => (refresh env config w installed).lastDesiredState

section

variable [DecidableEq γ] (env : Surroundings γ) (config : KRMConfig κ) (w : World κ γ)

def toCreate (current : List (Object γ)) : List (Object γ) := creates env (byKey (wanted env config w)) current

def toDelete (current : List (Object γ)) : List (Object γ) := deletes env (byKey (wanted env config w)) current

def toUpdate (current : List (Object γ)) : List (Object γ) := updates env (byKey (wanted env config w)) current

/-- The call that fails: the operands that have read, those that have not, and the objects written by then. -/
inductive FailsAt : List (Installed κ γ) → List (Installed κ γ) → List (Object γ) → Prop
  | reading {before after : List (Installed κ γ)} {installed : Installed κ γ} (hoperands : w.operands = before ++ installed :: after)
      (hbefore : ∀ other ∈ before, Reads env config w other) (hfails : ¬ Reads env config w installed) :
      FailsAt before (installed :: after) []
  | collecting {e : DeployError} (hreads : ∀ installed ∈ w.operands, Reads env config w installed)
      (hfails : getCurrentState env config w.objects = .error e) : FailsAt w.operands [] []
  | creating {current done rest : List (Object γ)} {object : Object γ} {e : DeployError}
      (hreads : ∀ installed ∈ w.operands, Reads env config w installed)
      (hcurrent : getCurrentState env config w.objects = .ok current)
      (hcreates : toCreate env config w current = done ++ object :: rest)
      (hdone : AllSucceed (createObjectForKRMConfig env config w.objects) done)
      (hfails : createObjectForKRMConfig env config w.objects object = .error e) : FailsAt w.operands [] done
  | deleting {current : List (Object γ)} {object : Object γ} {e : DeployError}
      (hreads : ∀ installed ∈ w.operands, Reads env config w installed)
      (hcurrent : getCurrentState env config w.objects = .ok current)
      (hcreated : AllSucceed (createObjectForKRMConfig env config w.objects) (toCreate env config w current))
      (hobject : object ∈ toDelete env config w current) (hfails : deleteObject env w.objects object = .error e) :
      FailsAt w.operands [] (toCreate env config w current)
  | updating {current done rest : List (Object γ)} {object : Object γ} {e : DeployError}
      (hreads : ∀ installed ∈ w.operands, Reads env config w installed)
      (hcurrent : getCurrentState env config w.objects = .ok current)
      (hcreated : AllSucceed (createObjectForKRMConfig env config w.objects) (toCreate env config w current))
      (hdeleted : AllSucceed (deleteObject env w.objects) (toDelete env config w current))
      (hupdates : toUpdate env config w current = done ++ object :: rest)
      (hdone : AllSucceed (updateObject env config w.objects) done)
      (hfails : updateObject env config w.objects object = .error e) :
      FailsAt w.operands [] (toCreate env config w current ++ done)

omit [Inhabited γ] [DecidableEq γ] in
/-- What is under a key once these objects have been created or updated. -/
def liveAfter (objects : ObjectStore γ) (done : List (Object γ)) (key : Key) : Option (Object γ) :=
  match done.find? fun object => object.key = key with
  | some object => some (stored env (objects.get key) (owned config object))
  | none => objects.get key

/-- All that operands desire, or did where they have not read, is available, and no dependency is missing. -/
structure ShowsReady (refreshed kept : List (Installed κ γ)) (done : List (Object γ)) : Prop where
  running : ∀ installed ∈ refreshed.map (refresh env config w) ++ kept, ∀ object ∈ installed.lastDesiredState,
    Runs object (liveAfter env config w.objects done object.key)
  supplied : ∀ installed ∈ w.operands, Supplied env config installed
  checked : ∀ answer ∈ env.checkers, answer = .ok ""

end

/-! ## Reading -/

section

variable {w : World κ γ} {installed : Installed κ γ}

theorem desiredState_of_reads (h : Reads env config w installed) :
    installed.desiredState env config w.objects = (.ok (refresh env config w installed).lastDesiredState,
      refresh env config w installed) := by
  unfold Reads refresh Installed.desiredState at *
  split_ifs at h ⊢
  · rfl
  · cases hbuild : installed.operand.build env config w.objects with
    | error e =>
      rw [hbuild] at h
      cases h
    | ok desired => rfl

theorem desiredState_of_not_reads (h : ¬ Reads env config w installed) :
    ∃ e, installed.desiredState env config w.objects = (.error e, installed) := by
  unfold Reads Installed.desiredState at *
  split_ifs at h ⊢
  · exact absurd rfl h
  · cases hbuild : installed.operand.build env config w.objects with
    | error e => exact ⟨e, rfl⟩
    | ok desired =>
      rw [hbuild] at h
      exact absurd rfl h

theorem getDesiredState_of_reads {operands : List (Installed κ γ)} (h : ∀ installed ∈ operands, Reads env config w installed) :
    getDesiredState env config w.objects operands =
      (.ok (operands.flatMap fun installed => (refresh env config w installed).lastDesiredState),
        operands.map (refresh env config w)) := by
  induction operands with
  | nil => rfl
  | cons installed others ih =>
    rw [List.forall_mem_cons] at h
    simp only [getDesiredState, desiredState_of_reads h.1, ih h.2, List.flatMap_cons, List.map_cons]

theorem getDesiredState_of_not_reads {before after : List (Installed κ γ)}
    (hbefore : ∀ other ∈ before, Reads env config w other) (hfails : ¬ Reads env config w installed) :
    ∃ e, getDesiredState env config w.objects (before ++ installed :: after) =
      (.error e, before.map (refresh env config w) ++ installed :: after) := by
  induction before with
  | nil =>
    obtain ⟨e, he⟩ := desiredState_of_not_reads hfails
    rw [List.nil_append, getDesiredState, he]
    exact ⟨_, rfl⟩
  | cons other before ih =>
    rw [List.forall_mem_cons] at hbefore
    obtain ⟨e, he⟩ := ih hbefore.2
    refine ⟨e, ?_⟩
    simp only [List.cons_append, getDesiredState, desiredState_of_reads hbefore.1, he, List.map_cons]

end

/-! ## Writing -/

section

variable [DecidableEq γ] {w : World κ γ} {current : List (Object γ)}

omit [Inhabited γ] [DecidableEq γ] in
theorem nodup_byKey (l : List (Object γ)) : ((byKey l).map Object.key).Nodup := nodup_lastByKey _ _

omit [Inhabited γ] [DecidableEq γ] in
theorem Written.get_eq {objects left : ObjectStore γ} {keys : List Key} {done : List (Object γ)}
    (h : Written env config keys objects done left) {key : Key} (hkey : key ∈ keys) :
    left.get key = liveAfter env config objects done key := by
  unfold liveAfter
  cases hfind : done.find? fun object => object.key = key with
  | some object =>
    obtain rfl : object.key = key := by simpa using List.find?_some hfind
    exact h.writes object (List.mem_of_find?_eq_some hfind)
  | none =>
    refine h.keeps key hkey fun hmem => ?_
    obtain ⟨object, hobject, hsame⟩ := List.mem_map.1 hmem
    exact absurd hsame (by simpa using List.find?_eq_none.1 hfind object hobject)

variable {refreshed kept : List (Installed κ γ)}

theorem FailsAt.operands_eq {done : List (Object γ)} (h : FailsAt env config w refreshed kept done) :
    w.operands = refreshed ++ kept := by
  cases h with
  | reading hoperands => exact hoperands
  | collecting | creating | deleting | updating => exact (List.append_nil _).symm

theorem deploy_of_collected (hreads : ∀ installed ∈ w.operands, Reads env config w installed)
    (hcurrent : getCurrentState env config w.objects = .ok current) {result : Option DeployError} {left : ObjectStore γ}
    (happlied : applyActions env config (calculateActionsOnObjects (byKey (wanted env config w)) current) w.objects =
      (result, left)) :
    deploy env config w = (result, ⟨left, w.operands.map (refresh env config w) ++ []⟩) := by
  rw [deploy, getDesiredState_of_reads hreads, List.append_nil]
  dsimp only
  rw [hcurrent]
  dsimp only
  rw [← wanted, happlied]

omit [DecidableEq γ] in
theorem Written.left {done : List (Object γ)} {left : ObjectStore γ}
    (h : Written env config ((byKey (wanted env config w)).map Object.key) w.objects done left) :
    ∀ installed ∈ w.operands.map (refresh env config w) ++ [], ∀ object ∈ installed.lastDesiredState,
      left.get object.key = liveAfter env config w.objects done object.key := by
  rw [List.append_nil, List.forall_mem_map]
  refine fun installed hinstalled object hobject => h.get_eq ((mem_keys_byKey _ _).2 ?_)
  exact List.mem_map_of_mem (List.mem_flatMap.2 ⟨installed, hinstalled, hobject⟩)

theorem deploy_of_failsAt {done : List (Object γ)} (h : FailsAt env config w refreshed kept done) :
    ∃ e left, deploy env config w = (some e, ⟨left, refreshed.map (refresh env config w) ++ kept⟩) ∧
      ∀ installed ∈ refreshed.map (refresh env config w) ++ kept, ∀ object ∈ installed.lastDesiredState,
        left.get object.key = liveAfter env config w.objects done object.key := by
  have hnodup := nodup_byKey (wanted env config w)
  cases h with
  | reading hoperands hbefore hfails =>
    obtain ⟨e, he⟩ := getDesiredState_of_not_reads hbefore hfails
    refine ⟨e, w.objects, ?_, fun _ _ _ _ => rfl⟩
    rw [deploy, hoperands, he]
  | @collecting e hreads hfails =>
    refine ⟨e, w.objects, ?_, fun _ _ _ _ => rfl⟩
    rw [deploy, getDesiredState_of_reads hreads, List.append_nil]
    dsimp only
    rw [hfails]
  | @creating current done rest object e hreads hcurrent hcreates hdone hfails =>
    have hkeys := nodup_creates env current hnodup
    rw [← toCreate, hcreates] at hkeys
    obtain ⟨left, hwrite, hagree, hstored⟩ :=
      writeAll_stops (createObject_storesAt env config) hkeys (fun _ _ => rfl) hdone hfails
    refine ⟨e, left, deploy_of_collected hreads hcurrent ?_,
      Written.left ⟨hstored, fun _ _ hfree => (hagree.get_eq hfree).symm⟩⟩
    rw [applyActions, ← creates, ← toCreate, hcreates, hwrite]
  | @deleting current object e hreads hcurrent hcreated hobject hfails =>
    obtain ⟨created, hwrite, hwritten⟩ := after_creates hnodup hcreated
    have hnone := (deleteAll_none_iff env w.objects created (toDelete env config w current)).1
    rcases hdelete : writeAll (deleteObject env) created (toDelete env config w current) with ⟨result, deleted⟩
    rw [← toDelete, hdelete] at hwritten
    rw [hdelete] at hnone
    cases result with
    | none =>
      -- one deletion fails, whatever the others do
      have hnone := hnone rfl object hobject
      rw [hfails] at hnone
      cases hnone
    | some e' =>
      refine ⟨e', deleted, deploy_of_collected hreads hcurrent ?_, hwritten.left⟩
      rw [applyActions, ← creates, hwrite]
      dsimp only
      rw [← deletes, ← toDelete, hdelete]
  | @updating current done rest object e hreads hcurrent hcreated hdeleted hupdates hdone hfails =>
    obtain ⟨created, hwrite, hwritten⟩ := after_creates hnodup hcreated
    have hdelete := (deleteAll_none_iff env w.objects created _).2 hdeleted
    have hkeys := nodup_updates env current hnodup
    rw [← toUpdate, hupdates] at hkeys
    obtain ⟨left, hupdate, hagree, hstored⟩ := writeAll_stops (updateObject_storesAt env config) hkeys
      (fun other hother => hwritten.get_update (by rwa [← toUpdate, hupdates])) hdone hfails
    refine ⟨e, left, deploy_of_collected hreads hcurrent ?_, (hwritten.updated (fun other hother => ?_) hagree hstored).left⟩
    · rw [applyActions_of_created hwrite (Prod.ext hdelete rfl), ← toUpdate, hupdates]
      exact hupdate
    · rw [← toUpdate, hupdates]
      exact List.mem_append_left _ hother

theorem exists_failsAt (h : (deploy env config w).1 ≠ none) : ∃ refreshed kept done, FailsAt env config w refreshed kept done := by
  rcases exists_first (Reads env config w) w.operands with hreads | ⟨before, installed, after, hoperands, hbefore, hfails⟩
  swap
  · exact ⟨_, _, _, .reading hoperands hbefore hfails⟩
  cases hcurrent : getCurrentState env config w.objects with
  | error e => exact ⟨_, _, _, .collecting hreads hcurrent⟩
  | ok current =>
    rcases exists_first (fun object => failureOf (createObjectForKRMConfig env config w.objects object) = none)
      (toCreate env config w current) with hcreated | ⟨done, object, rest, hcreates, hdone, hfails⟩
    swap
    · obtain ⟨e, he⟩ := failureOf_ne_none hfails
      exact ⟨_, _, _, .creating hreads hcurrent hcreates hdone he⟩
    rcases exists_first (fun object => failureOf (deleteObject env w.objects object) = none)
      (toDelete env config w current) with hdeleted | ⟨done, object, rest, hdeletes, -, hfails⟩
    swap
    · obtain ⟨e, he⟩ := failureOf_ne_none hfails
      refine ⟨_, _, _, .deleting hreads hcurrent hcreated ?_ he⟩
      rw [hdeletes]
      exact List.mem_append_right _ (.head _)
    rcases exists_first (fun object => failureOf (updateObject env config w.objects object) = none)
      (toUpdate env config w current) with hupdated | ⟨done, object, rest, hupdates, hdone, hfails⟩
    swap
    · obtain ⟨e, he⟩ := failureOf_ne_none hfails
      exact ⟨_, _, _, .updating hreads hcurrent hcreated hdeleted hupdates hdone he⟩
    -- no call fails, so the deployment succeeds
    obtain ⟨left, happlied, -⟩ := applyActions_of_succeeds (nodup_byKey (wanted env config w)) hcreated hdeleted hupdated
    rw [deploy_of_collected hreads hcurrent happlied] at h
    exact absurd rfl h

/-! ## What is reported -/

omit [DecidableEq γ] in
theorem looksReady_iff {refreshed kept : List (Installed κ γ)} {done : List (Object γ)} {left : ObjectStore γ}
    (hoperands : w.operands = refreshed ++ kept)
    (hleft : ∀ installed ∈ refreshed.map (refresh env config w) ++ kept, ∀ object ∈ installed.lastDesiredState,
      left.get object.key = liveAfter env config w.objects done object.key) :
    LooksReady env config ⟨left, refreshed.map (refresh env config w) ++ kept⟩ ↔
      ShowsReady env config w refreshed kept done := by
  have hsupplied : (∀ installed ∈ refreshed.map (refresh env config w) ++ kept, Supplied env config installed) ↔
      ∀ installed ∈ w.operands, Supplied env config installed := by
    have hsame : ∀ installed, Supplied env config (refresh env config w installed) ↔ Supplied env config installed := by
      intro installed
      rw [Supplied, Supplied, refresh, Installed.desiredState_operand]
    rw [hoperands, List.forall_mem_append, List.forall_mem_append, List.forall_mem_map]
    simp only [hsame]
  constructor
  · rintro ⟨hruns, hsupplies, hchecked⟩
    refine ⟨fun installed hinstalled object hobject => ?_, hsupplied.1 hsupplies, hchecked⟩
    exact hleft installed hinstalled object hobject ▸ hruns installed hinstalled object hobject
  · rintro ⟨hruns, hsupplies, hchecked⟩
    refine ⟨fun installed hinstalled object hobject => ?_, hsupplied.2 hsupplies, hchecked⟩
    exact (hleft installed hinstalled object hobject).symm ▸ hruns installed hinstalled object hobject

/-- A failed deployment is not reported as ready exactly when what is there shows it. -/
theorem failed_deployment_not_ready_iff (hcalls : StatusCallsWork env) (config : KRMConfig κ) (w : World κ γ) :
    ((reconcile env config w).1 ≠ none ↔ ∃ refreshed kept done, FailsAt env config w refreshed kept done) ∧
    ∀ refreshed kept done, FailsAt env config w refreshed kept done →
      (¬ ReadyFor config.generation (reconcile env config w).2.1.conditions ↔
        ¬ ShowsReady env config w refreshed kept done) := by
  obtain ⟨started, -, -, hreconcile⟩ := reconcile_eq hcalls config w
  constructor
  · rw [hreconcile]
    refine ⟨exists_failsAt, ?_⟩
    rintro ⟨refreshed, kept, done, hfails⟩
    obtain ⟨e, left, hdeploy, -⟩ := deploy_of_failsAt hfails
    rw [hdeploy]
    exact Option.some_ne_none e
  · intro refreshed kept done hfails
    obtain ⟨e, left, hdeploy, hleft⟩ := deploy_of_failsAt hfails
    rw [reconcile_ready_iff hcalls, hreconcile, hdeploy, looksReady_iff hfails.operands_eq hleft]

end

end

theorem uncreated_deployment_not_ready :
    ¬ ReadyFor 1
      (reconcile (failingAt (.create nodePoolDeployment)) allServices freshOperator).2.1.conditions := by
  have hreads : ∀ installed ∈ freshOperator.operands,
      Reads (failingAt (.create nodePoolDeployment)) allServices freshOperator installed := by
    rw [freshOperator, freshOperands, List.forall_mem_map, krmConfigReconcilerOperands]
    simp only [List.forall_mem_cons]
    exact ⟨rfl, rfl, rfl, List.forall_mem_nil _⟩
  have hdone : ∀ other ∈ (toCreate (failingAt (.create nodePoolDeployment)) allServices freshOperator []).take 5,
      failureOf (createObjectForKRMConfig (failingAt (.create nodePoolDeployment)) allServices freshOperator.objects other) =
        none := by decide +kernel
  have hcurrent : getCurrentState (failingAt (.create nodePoolDeployment)) allServices freshOperator.objects = .ok [] := rfl
  have hfails := FailsAt.creating hreads hcurrent (List.take_append_drop 5 _).symm hdone rfl
  refine ((failed_deployment_not_ready_iff (failingAt_statusCallsWork rfl) allServices freshOperator).2 _ _ _ hfails).2 ?_
  intro hready
  obtain ⟨live, hlive, -⟩ := hready.running _ (.head _) _ (.tail _ (.head _))
  cases hlive

theorem unread_state_reported_ready :
    ∃ place e, (reconcile (failingAt place) allServices freshOperator).1 = some e ∧
      StatusCallsWork (failingAt place) ∧
      ReadyFor 1 (reconcile (failingAt place) allServices freshOperator).2.1.conditions := by
  -- The first read fails: no object is there, and none has been desired yet.
  refine ⟨.getDesired ⟨.serviceAccount, "kai-resource-management", "nodepool-controller"⟩, _, rfl, ?_, _, rfl, rfl, rfl⟩
  exact failingAt_statusCallsWork rfl

end Krm.Operator
