import Krm.Lib.Runs
import Krm.Operator.Deploy

/-! # The writes of a deployment

A write looks only under the key of its object, and no key is written twice. So whether a write fails, and what it
stores, is told by what was there before the deployment. -/

open Krm.Lib

namespace Krm.Operator

section

variable {κ γ : Type} {env : Surroundings γ} {config : KRMConfig κ}

/-! ## Writes up to the first that fails -/

def failureOf {ε α : Type} : Except ε α → Option ε
  | .error e => some e
  | .ok _ => none

theorem failureOf_eq_none {ε α : Type} {result : Except ε α} (h : failureOf result = none) : ∃ a, result = .ok a := by
  cases result with
  | error e => cases h
  | ok a => exact ⟨a, rfl⟩

theorem failureOf_ne_none {ε α : Type} {result : Except ε α} (h : failureOf result ≠ none) : ∃ e, result = .error e := by
  cases result with
  | error e => exact ⟨e, rfl⟩
  | ok a => exact absurd rfl h

/-- Each write would succeed by itself. -/
abbrev AllSucceed (write : Object γ → Except DeployError (ObjectStore γ)) (l : List (Object γ)) : Prop :=
  ∀ object ∈ l, failureOf (write object) = none

theorem exists_first {α : Type} (p : α → Prop) (l : List α) :
    (∀ a ∈ l, p a) ∨ ∃ done a rest, l = done ++ a :: rest ∧ (∀ b ∈ done, p b) ∧ ¬ p a := by
  induction l with
  | nil => exact .inl (List.forall_mem_nil _)
  | cons a l ih =>
    by_cases ha : p a
    · rcases ih with hall | ⟨done, b, rest, rfl, hdone, hb⟩
      · exact .inl (List.forall_mem_cons.2 ⟨ha, hall⟩)
      · exact .inr ⟨a :: done, b, rest, rfl, List.forall_mem_cons.2 ⟨ha, hdone⟩, hb⟩
    · exact .inr ⟨[], a, l, rfl, List.forall_mem_nil _, ha⟩

/-- Looks under the object's key, and stores it there or fails. -/
structure StoresAt (env : Surroundings γ) (config : KRMConfig κ)
    (write : ObjectStore γ → Object γ → Except DeployError (ObjectStore γ)) : Prop where
  fails_alike : ∀ {objects objects' : ObjectStore γ} {object : Object γ},
    objects.get object.key = objects'.get object.key → failureOf (write objects object) = failureOf (write objects' object)
  stores : ∀ {objects objects' : ObjectStore γ} {object : Object γ}, write objects object = .ok objects' →
    Store.AgreeOff [object.key] objects objects' ∧
      objects'.get object.key = some (stored env (objects.get object.key) (owned config object))

section

variable {write : ObjectStore γ → Object γ → Except DeployError (ObjectStore γ)} {objects base : ObjectStore γ}
  {done rest : List (Object γ)} {object : Object γ} {e : DeployError}

theorem writeAll_append {left : ObjectStore γ} (h : writeAll write objects done = (none, left)) (l : List (Object γ)) :
    writeAll write objects (done ++ l) = writeAll write left l := by
  induction done generalizing objects with
  | nil =>
    cases h
    rfl
  | cons object others ih =>
    rw [writeAll] at h
    rw [List.cons_append, writeAll]
    cases hone : write objects object with
    | error e =>
      rw [hone] at h
      cases h
    | ok objects' =>
      rw [hone] at h
      exact ih h

/-- Writes to distinct keys succeed together if each would alone. -/
theorem writeAll_done (hwrite : StoresAt env config write) (hkeys : (done.map Object.key).Nodup)
    (hbase : ∀ object ∈ done, objects.get object.key = base.get object.key)
    (hdone : ∀ object ∈ done, failureOf (write base object) = none) :
    ∃ left, writeAll write objects done = (none, left) ∧ Store.AgreeOff (done.map Object.key) objects left ∧
      ∀ object ∈ done, left.get object.key = some (stored env (base.get object.key) (owned config object)) := by
  induction done generalizing objects with
  | nil => exact ⟨objects, rfl, .refl _ _, List.forall_mem_nil _⟩
  | cons object others ih =>
    rw [List.map_cons, List.nodup_cons] at hkeys
    rw [List.forall_mem_cons] at hbase hdone
    obtain ⟨first, hfirst⟩ := failureOf_eq_none ((hwrite.fails_alike hbase.1).trans hdone.1)
    obtain ⟨hagree, hstored⟩ := hwrite.stores hfirst
    -- the first write is not seen by the others
    have hothers : ∀ other ∈ others, first.get other.key = base.get other.key := by
      intro other hother
      rw [← hbase.2 other hother]
      refine (hagree.get_eq fun hkey => hkeys.1 ?_).symm
      exact List.mem_singleton.1 hkey ▸ List.mem_map_of_mem hother
    obtain ⟨left, hleft, hagree', hget⟩ := ih hkeys.2 hothers hdone.2
    refine ⟨left, ?_, (hagree.mono (by simp)).trans (hagree'.mono (by simp)), List.forall_mem_cons.2 ⟨?_, hget⟩⟩
    · rw [writeAll, hfirst]
      exact hleft
    · rw [← hagree'.get_eq hkeys.1, hstored, hbase.1]

theorem writeAll_stops (hwrite : StoresAt env config write) (hkeys : ((done ++ object :: rest).map Object.key).Nodup)
    (hbase : ∀ other ∈ done ++ object :: rest, objects.get other.key = base.get other.key)
    (hdone : AllSucceed (write base) done) (hfails : write base object = .error e) :
    ∃ left, writeAll write objects (done ++ object :: rest) = (some e, left) ∧
      Store.AgreeOff (done.map Object.key) objects left ∧
      ∀ other ∈ done, left.get other.key = some (stored env (base.get other.key) (owned config other)) := by
  rw [List.map_append, List.map_cons] at hkeys
  obtain ⟨left, hleft, hagree, hget⟩ := writeAll_done hwrite hkeys.of_append_left
    (fun other hother => hbase other (List.mem_append_left _ hother)) hdone
  refine ⟨left, ?_, hagree, hget⟩
  have hkey : object.key ∉ done.map Object.key := fun hmem => (List.nodup_append'.1 hkeys).2.2 hmem (.head _)
  have hsame : left.get object.key = base.get object.key := by
    rw [← hagree.get_eq hkey]
    exact hbase object (List.mem_append_right _ (.head _))
  rw [writeAll_append hleft, writeAll]
  have hfailure := hwrite.fails_alike hsame
  cases hone : write left object with
  | ok objects' =>
    rw [hone, hfails] at hfailure
    cases hfailure
  | error e' =>
    rw [hone, hfails] at hfailure
    rw [Option.some.inj hfailure]

theorem writeAll_none_iff {l : List (Object γ)} (hwrite : StoresAt env config write) (hkeys : (l.map Object.key).Nodup)
    (hbase : ∀ object ∈ l, objects.get object.key = base.get object.key) :
    (writeAll write objects l).1 = none ↔ AllSucceed (write base) l := by
  constructor
  · intro hnone
    rcases exists_first (fun object => failureOf (write base object) = none) l with
      hall | ⟨done, object, rest, rfl, hdone, hfails⟩
    · exact hall
    · obtain ⟨e, he⟩ := failureOf_ne_none hfails
      obtain ⟨left, hstops, -⟩ := writeAll_stops hwrite hkeys hbase hdone he
      rw [hstops] at hnone
      cases hnone
  · intro hall
    obtain ⟨left, hleft, -⟩ := writeAll_done hwrite hkeys hbase hall
    rw [hleft]

end

/-! ## The operator's writes -/

section

variable {objects objects' : ObjectStore γ} {object : Object γ}

theorem failureOf_failing (context : String) (result : Except ApiError (ObjectStore γ)) :
    failureOf (failing context result) = (failureOf result).map (DeployError.mk context) := by
  cases result with
  | error e => rfl
  | ok objects => rfl

theorem updateCall_fails_alike {place : Place} (h : objects.get object.key = objects'.get object.key) :
    failureOf (updateCall env place objects object) = failureOf (updateCall env place objects' object) := by
  unfold updateCall
  rw [h]
  cases env.fault place with
  | some e => rfl
  | none =>
    cases objects'.get object.key with
    | none => rfl
    | some existing =>
      cases object.resourceVersion with
      | none =>
        dsimp only
        split_ifs
        · rfl
        · rfl
      | some version =>
        dsimp only
        split_ifs
        · rfl
        · rfl

theorem updateCall_stores {place : Place} (h : updateCall env place objects (owned config object) = .ok objects') :
    Store.AgreeOff [object.key] objects objects' ∧
      objects'.get object.key = some (stored env (objects.get object.key) (owned config object)) := by
  obtain ⟨existing, hget, rfl⟩ := updateCall_ok h
  have hget : objects.get object.key = some existing := hget
  refine ⟨Store.agreeOff_replace objects _ rfl, ?_⟩
  rw [hget]
  exact Store.get_replace_self _ _ rfl (by simp [hget])

theorem updateObject_storesAt (env : Surroundings γ) (config : KRMConfig κ) : StoresAt env config (updateObject env config) where
  fails_alike h := by
    simp only [updateObject, failureOf_failing]
    exact congrArg (Option.map _) (updateCall_fails_alike h)
  stores h := updateCall_stores (mapError_ok h)

theorem createObject_storesAt (env : Surroundings γ) (config : KRMConfig κ) :
    StoresAt env config (createObjectForKRMConfig env config) where
  fails_alike {objects objects' object} h := by
    have htake : failureOf (takeOwnership env objects (owned config object)) =
        failureOf (takeOwnership env objects' (owned config object)) := by
      simp only [takeOwnership, failureOf_failing]
      exact congrArg (Option.map _) (updateCall_fails_alike h)
    have hget : objects.get (owned config object).key = objects'.get (owned config object).key := h
    unfold createObjectForKRMConfig createCall
    dsimp only
    rw [hget]
    split_ifs
    · exact htake
    · cases env.fault (.create (owned config object).key) with
      | some e =>
        dsimp only
        split_ifs
        · exact htake
        · rfl
      | none =>
        cases objects'.get (owned config object).key with
        | some existing => exact htake
        | none => rfl
  stores {objects objects' object} h := by
    rcases createObjectForKRMConfig_ok h with hcreated | hupdated
    · obtain ⟨-, hfree, rfl⟩ := createCall_ok hcreated
      have hfree : objects.get object.key = none := hfree
      refine ⟨Store.agreeOff_insert objects _ rfl, ?_⟩
      rw [hfree]
      exact Store.get_insert_self _ _ rfl hfree
    · exact updateCall_stores hupdated

theorem deleteObject_agreeOff (h : deleteObject env objects object = .ok objects') :
    Store.AgreeOff [object.key] objects objects' := by
  obtain ⟨rfl, -⟩ | rfl := deleteCall_ok (mapError_ok h)
  · exact .refl _ _
  · exact Store.agreeOff_remove _ _

variable (env) in
theorem deleteAll_agreeOff (objects : ObjectStore γ) (l : List (Object γ)) :
    Store.AgreeOff (l.map Object.key) objects (writeAll (deleteObject env) objects l).2 := by
  induction l generalizing objects with
  | nil => exact .refl _ _
  | cons object others ih =>
    rw [writeAll]
    cases hone : deleteObject env objects object with
    | error e => exact .refl _ _
    | ok objects' => exact ((deleteObject_agreeOff hone).mono (by simp)).trans ((ih objects').mono (by simp))

theorem deleteAll_none_iff (env : Surroundings γ) (base objects : ObjectStore γ) (l : List (Object γ)) :
    (writeAll (deleteObject env) objects l).1 = none ↔ ∀ object ∈ l, failureOf (deleteObject env base object) = none := by
  induction l generalizing objects with
  | nil => simp [writeAll]
  | cons object others ih =>
    have halike : failureOf (deleteObject env objects object) = failureOf (deleteObject env base object) := by
      simp only [deleteObject, deleteCall, failureOf_failing]
      split
      · split_ifs
        · rfl
        · rfl
      · rfl
    rw [writeAll, List.forall_mem_cons, ← halike]
    cases hone : deleteObject env objects object with
    | error e => simp [failureOf]
    | ok objects' => simpa [failureOf] using ih objects'

end

/-! ## What is planned -/

section

variable [DecidableEq γ] (env : Surroundings γ) (desired current : List (Object γ))

def creates : List (Object γ) :=
  sortObjectByCreationOrder (env.shuffle (calculateActionsOnObjects desired current).toCreate)

def deletes : List (Object γ) := env.shuffle (calculateActionsOnObjects desired current).toDelete

def updates : List (Object γ) := env.shuffle (calculateActionsOnObjects desired current).toUpdate

end

theorem inheritFieldsFromCurrent_key (existing object : Object γ) :
    (inheritFieldsFromCurrent existing object).key = object.key := by
  unfold inheritFieldsFromCurrent
  split_ifs
  · rfl
  · rfl

variable [DecidableEq γ] {desired current : List (Object γ)} {object : Object γ} {key : Key}

theorem mem_toUpdate (updated : Object γ) : updated ∈ (calculateActionsOnObjects desired current).toUpdate ↔
    ∃ object ∈ desired, ∃ existing, (current.find? fun other => other.key = object.key) = some existing ∧
      existing ≠ inheritFieldsFromCurrent existing object ∧ inheritFieldsFromCurrent existing object = updated := by
  simp only [calculateActionsOnObjects, List.mem_filterMap, Option.bind_eq_some_iff]
  refine exists_congr fun object => and_congr_right fun _ => exists_congr fun existing => and_congr_right fun _ => ?_
  split_ifs with hsame
  · simp [← hsame]
  · simp [hsame]

theorem creates_perm : (creates env desired current).Perm (calculateActionsOnObjects desired current).toCreate :=
  (List.perm_insertionSort _ _).trans (env.shuffle_perm _)

theorem mem_creates : object ∈ creates env desired current ↔
    object ∈ desired ∧ (current.find? fun other => other.key = object.key) = none := by
  rw [creates_perm.mem_iff]
  simp [calculateActionsOnObjects]

theorem mem_deletes : object ∈ deletes env desired current ↔ object ∈ current ∧ object.key ∉ desired.map Object.key := by
  rw [deletes, (env.shuffle_perm _).mem_iff]
  simp [calculateActionsOnObjects]

theorem mem_updates {updated : Object γ} : updated ∈ updates env desired current ↔
    ∃ object ∈ desired, ∃ existing, (current.find? fun other => other.key = object.key) = some existing ∧
      existing ≠ inheritFieldsFromCurrent existing object ∧ inheritFieldsFromCurrent existing object = updated :=
  (env.shuffle_perm _).mem_iff.trans (mem_toUpdate updated)

theorem key_of_mem_creates (h : object ∈ creates env desired current) : object.key ∈ desired.map Object.key :=
  List.mem_map_of_mem (mem_creates.1 h).1

theorem not_mem_deletes (h : key ∈ desired.map Object.key) : key ∉ (deletes env desired current).map Object.key := by
  intro hdelete
  obtain ⟨other, hother, rfl⟩ := List.mem_map.1 hdelete
  exact (mem_deletes.1 hother).2 h

theorem key_of_mem_updates (h : object ∈ updates env desired current) :
    object.key ∈ desired.map Object.key ∧ object.key ∉ (creates env desired current).map Object.key := by
  obtain ⟨original, horiginal, existing, hfind, -, rfl⟩ := mem_updates.1 h
  rw [inheritFieldsFromCurrent_key]
  refine ⟨List.mem_map_of_mem horiginal, fun hmem => ?_⟩
  obtain ⟨created, hcreated, hkey⟩ := List.mem_map.1 hmem
  have hnone := (mem_creates.1 hcreated).2
  rw [hkey, hfind] at hnone
  cases hnone

theorem map_filterMap_sublist {α β ι : Type} {f : α → Option β} {key : α → ι} {key' : β → ι}
    (hf : ∀ a b, f a = some b → key' b = key a) (l : List α) : ((l.filterMap f).map key').Sublist (l.map key) := by
  induction l with
  | nil => exact .slnil
  | cons a l ih =>
    rw [List.filterMap_cons, List.map_cons]
    cases hfa : f a with
    | none => exact ih.cons _
    | some b =>
      rw [List.map_cons, hf a b hfa]
      exact ih.cons_cons _

section

variable (env config current) (hdesired : (desired.map Object.key).Nodup)
include hdesired

theorem nodup_creates : ((creates env desired current).map Object.key).Nodup :=
  (creates_perm.map _).nodup_iff.2 (hdesired.sublist (List.filter_sublist.map _))

theorem nodup_updates : ((updates env desired current).map Object.key).Nodup := by
  rw [updates, ((env.shuffle_perm _).map _).nodup_iff]
  refine hdesired.sublist (map_filterMap_sublist (fun object updated hupdated => ?_) desired)
  obtain ⟨existing, -, hinherited⟩ := Option.bind_eq_some_iff.1 hupdated
  dsimp only at hinherited
  split_ifs at hinherited
  rw [← Option.some.inj hinherited, inheritFieldsFromCurrent_key]

end

/-! ## The phases -/

/-- The objects were stored, and nothing else under these keys has changed. -/
structure Written (env : Surroundings γ) (config : KRMConfig κ) (keys : List Key) (objects : ObjectStore γ)
    (done : List (Object γ)) (left : ObjectStore γ) : Prop where
  writes : ∀ object ∈ done, left.get object.key = some (stored env (objects.get object.key) (owned config object))
  keeps : ∀ key ∈ keys, key ∉ done.map Object.key → left.get key = objects.get key

section

variable {objects deleted left : ObjectStore γ} {done : List (Object γ)} {result : Option DeployError}

theorem after_creates (hdesired : (desired.map Object.key).Nodup)
    (hcreated : AllSucceed (createObjectForKRMConfig env config objects) (creates env desired current)) :
    ∃ created, writeAll (createObjectForKRMConfig env config) objects (creates env desired current) = (none, created) ∧
      Written env config (desired.map Object.key) objects (creates env desired current)
        (writeAll (deleteObject env) created (deletes env desired current)).2 := by
  obtain ⟨created, hwrite, hagree, hstored⟩ := writeAll_done (createObject_storesAt env config)
    (nodup_creates env current hdesired) (fun _ _ => rfl) hcreated
  have hdeletes := deleteAll_agreeOff env created (deletes env desired current)
  refine ⟨created, hwrite, fun object hobject => ?_, fun key hkey hfree => ?_⟩
  · rw [← hdeletes.get_eq (not_mem_deletes (key_of_mem_creates hobject)), hstored object hobject]
  · rw [← hdeletes.get_eq (not_mem_deletes hkey), hagree.get_eq hfree]

theorem Written.get_update (h : Written env config (desired.map Object.key) objects (creates env desired current) deleted)
    (hobject : object ∈ updates env desired current) : deleted.get object.key = objects.get object.key := by
  obtain ⟨hkey, hfree⟩ := key_of_mem_updates hobject
  exact h.keeps _ hkey hfree

theorem Written.updated (h : Written env config (desired.map Object.key) objects (creates env desired current) deleted)
    (hdone : ∀ object ∈ done, object ∈ updates env desired current)
    (hagree : Store.AgreeOff (done.map Object.key) deleted left)
    (hstored : ∀ object ∈ done, left.get object.key = some (stored env (objects.get object.key) (owned config object))) :
    Written env config (desired.map Object.key) objects (creates env desired current ++ done) left where
  writes object hobject := by
    rcases List.mem_append.1 hobject with hcreated | hupdated
    · rw [← hagree.get_eq, h.writes object hcreated]
      intro hmem
      obtain ⟨updated, hupdated, hkey⟩ := List.mem_map.1 hmem
      exact (key_of_mem_updates (hdone updated hupdated)).2 (hkey ▸ List.mem_map_of_mem hcreated)
    · exact hstored object hupdated
  keeps key hkey hfree := by
    rw [List.map_append, List.mem_append, not_or] at hfree
    rw [← hagree.get_eq hfree.2, h.keeps key hkey hfree.1]

theorem applyActions_of_created {created : ObjectStore γ}
    (hwrite : writeAll (createObjectForKRMConfig env config) objects (creates env desired current) = (none, created))
    (hdelete : writeAll (deleteObject env) created (deletes env desired current) = (none, deleted)) :
    applyActions env config (calculateActionsOnObjects desired current) objects =
      writeAll (updateObject env config) deleted (updates env desired current) := by
  rw [applyActions, ← creates, hwrite]
  dsimp only
  rw [← deletes, hdelete]
  rfl

theorem applyActions_none (h : (applyActions env config (calculateActionsOnObjects desired current) objects).1 = none) :
    ∃ created deleted,
      writeAll (createObjectForKRMConfig env config) objects (creates env desired current) = (none, created) ∧
      writeAll (deleteObject env) created (deletes env desired current) = (none, deleted) ∧
      writeAll (updateObject env config) deleted (updates env desired current) =
        (none, (applyActions env config (calculateActionsOnObjects desired current) objects).2) := by
  unfold applyActions at h ⊢
  rw [← creates, ← deletes, ← updates] at h ⊢
  generalize writeAll (createObjectForKRMConfig env config) objects _ = first at h ⊢
  obtain ⟨_ | e, created⟩ := first
  · dsimp only at h ⊢
    generalize hsecond : writeAll (deleteObject env) created _ = second at h ⊢
    obtain ⟨_ | e, deleted⟩ := second
    · exact ⟨created, deleted, rfl, hsecond, Prod.ext h rfl⟩
    · cases h
  · cases h

variable (hdesired : (desired.map Object.key).Nodup)
include hdesired

theorem applyActions_of_succeeds
    (hcreated : AllSucceed (createObjectForKRMConfig env config objects) (creates env desired current))
    (hdeleted : AllSucceed (deleteObject env objects) (deletes env desired current))
    (hupdated : AllSucceed (updateObject env config objects) (updates env desired current)) :
    ∃ left, applyActions env config (calculateActionsOnObjects desired current) objects = (none, left) ∧
      Written env config (desired.map Object.key) objects
        (creates env desired current ++ updates env desired current) left := by
  obtain ⟨created, hwrite, hwritten⟩ := after_creates hdesired hcreated
  have hdelete := (deleteAll_none_iff env objects created _).2 hdeleted
  obtain ⟨left, hupdate, hagree, hstored⟩ := writeAll_done (updateObject_storesAt env config)
    (nodup_updates env current hdesired) (fun _ => hwritten.get_update) hupdated
  exact ⟨left, (applyActions_of_created hwrite (Prod.ext hdelete rfl)).trans hupdate,
    hwritten.updated (fun _ => id) hagree hstored⟩

/-- A deployment succeeds exactly when each write would before it. -/
theorem applyActions_succeeds_iff :
    (applyActions env config (calculateActionsOnObjects desired current) objects).1 = none ↔
      AllSucceed (createObjectForKRMConfig env config objects) (creates env desired current) ∧
      AllSucceed (deleteObject env objects) (deletes env desired current) ∧
      AllSucceed (updateObject env config objects) (updates env desired current) := by
  constructor
  · intro h
    obtain ⟨created, deleted, hcreate, hdelete, hupdate⟩ := applyActions_none h
    have hcreated := (writeAll_none_iff (createObject_storesAt env config) (nodup_creates env current hdesired)
      fun _ _ => rfl).1 (congrArg Prod.fst hcreate)
    obtain ⟨created', hwrite, hwritten⟩ := after_creates hdesired hcreated
    obtain rfl : created = created' := (Prod.ext_iff.1 (hcreate.symm.trans hwrite)).2
    rw [hdelete] at hwritten
    exact ⟨hcreated, (deleteAll_none_iff env objects created _).1 (congrArg Prod.fst hdelete),
      (writeAll_none_iff (updateObject_storesAt env config) (nodup_updates env current hdesired)
        fun _ => hwritten.get_update).1 (congrArg Prod.fst hupdate)⟩
  · rintro ⟨hcreated, hdeleted, hupdated⟩
    obtain ⟨left, happlied, -⟩ := applyActions_of_succeeds hdesired hcreated hdeleted hupdated
    rw [happlied]

end

end

end Krm.Operator
