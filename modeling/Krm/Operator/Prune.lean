import Krm.Operator.Writes

/-! # A deployment leaves exactly its own objects

Whatever the operands desire: what is desired is there and controlled by the KRMConfig, what the KRMConfig controls and
is not desired is gone, and all else is as it was. -/

open Krm.Lib

namespace Krm.Operator

section

variable {κ γ : Type} (env : Surroundings γ) (config : KRMConfig κ)

/-- The controller is the KRMConfig, whatever its UID. -/
def ControlledBy (object : Object γ) : Prop :=
  ∃ owner, controllerOf object.ownerReferences = some owner ∧ owner.apiVersion = groupVersion ∧
    owner.kind = krmConfigKind ∧ owner.name = config.name

/-- The operands desire what they like of what is there. -/
def deployWith [DecidableEq γ] (desiredState : ObjectStore γ → Except DeployError (List (Object γ)))
    (objects : ObjectStore γ) : Option DeployError × ObjectStore γ :=
  match desiredState objects with
  | .error e => (some e, objects)
  | .ok desired =>
    match getCurrentState env config objects with
    | .error e => (some e, objects)
    | .ok current => applyActions env config (calculateActionsOnObjects (byKey desired) current) objects

theorem deploy_eq_deployWith [Inhabited γ] [DecidableEq γ] (w : World κ γ) :
    ((deploy env config w).1, (deploy env config w).2.objects) =
      deployWith env config (fun objects => (getDesiredState env config objects w.operands).1) w.objects := by
  unfold deploy deployWith
  dsimp only
  split
  · rename_i hdesired
    rw [hdesired]
  · rename_i hdesired
    rw [hdesired]
    cases getCurrentState env config w.objects with
    | error e => rfl
    | ok current => rfl

/-! ## The states that a deployment passes through -/

/-- The objects before each write, and after the last. -/
def writeStates (write : ObjectStore γ → Object γ → Except DeployError (ObjectStore γ)) :
    ObjectStore γ → List (Object γ) → List (ObjectStore γ)
  | objects, [] => [objects]
  | objects, object :: others =>
    match write objects object with
    | .error _ => [objects]
    | .ok objects' => objects :: writeStates write objects' others

def applyStates (actions : Actions γ) (objects : ObjectStore γ) : List (ObjectStore γ) :=
  let toCreate := sortObjectByCreationOrder (env.shuffle actions.toCreate)
  let created := writeAll (createObjectForKRMConfig env config) objects toCreate
  writeStates (createObjectForKRMConfig env config) objects toCreate ++
    match created.1 with
    | some _ => []
    | none =>
      let toDelete := env.shuffle actions.toDelete
      let deleted := writeAll (deleteObject env) created.2 toDelete
      writeStates (deleteObject env) created.2 toDelete ++
        match deleted.1 with
        | some _ => []
        | none => writeStates (updateObject env config) deleted.2 (env.shuffle actions.toUpdate)

def deployStates [DecidableEq γ] (desiredState : ObjectStore γ → Except DeployError (List (Object γ)))
    (objects : ObjectStore γ) : List (ObjectStore γ) :=
  match desiredState objects with
  | .error _ => [objects]
  | .ok desired =>
    match getCurrentState env config objects with
    | .error _ => [objects]
    | .ok current => applyStates env config (calculateActionsOnObjects (byKey desired) current) objects

end

section

variable {κ γ : Type} {env : Surroundings γ} {config : KRMConfig κ} {objects objects' : ObjectStore γ}
  {object : Object γ} {write : ObjectStore γ → Object γ → Except DeployError (ObjectStore γ)}
  {R : ObjectStore γ → ObjectStore γ → Prop} (desired : List Key) (l : List (Object γ))

theorem getLast_writeStates (objects : ObjectStore γ) :
    (writeStates write objects l).getLast? = some (writeAll write objects l).2 := by
  induction l generalizing objects with
  | nil => rfl
  | cons object others ih =>
    rw [writeStates, writeAll]
    cases write objects object with
    | error e => rfl
    | ok objects' =>
      have hlast := ih objects'
      dsimp only
      rw [List.getLast?_cons, hlast]
      rfl

theorem getLast_applyStates (actions : Actions γ) (objects : ObjectStore γ) :
    (applyStates env config actions objects).getLast? = some (applyActions env config actions objects).2 := by
  unfold applyStates applyActions
  dsimp only
  rw [List.getLast?_append, getLast_writeStates]
  generalize writeAll (createObjectForKRMConfig env config) objects _ = result
  obtain ⟨_ | e, created⟩ := result
  · dsimp only
    rw [List.getLast?_append, getLast_writeStates]
    generalize writeAll (deleteObject env) created _ = result
    obtain ⟨_ | e, deleted⟩ := result
    · dsimp only
      rw [getLast_writeStates]
      rfl
    · rfl
  · rfl

theorem getLast_deployStates [DecidableEq γ] (desiredState : ObjectStore γ → Except DeployError (List (Object γ)))
    (objects : ObjectStore γ) :
    (deployStates env config desiredState objects).getLast? = some (deployWith env config desiredState objects).2 := by
  unfold deployStates deployWith
  cases desiredState objects with
  | error e => rfl
  | ok desired =>
    cases getCurrentState env config objects with
    | error e => rfl
    | ok current => exact getLast_applyStates _ objects

/-! ## Who controls an object -/

theorem kind_and_name_iff (hname : '/' ∉ config.name.toList) (kind name : String) :
    kind ++ "/" ++ name = krmConfigKind ++ "/" ++ config.name ↔ kind = krmConfigKind ∧ name = config.name := by
  have hkind : '/' ∉ krmConfigKind.toList := by decide
  constructor
  · intro h
    have hlist := congrArg String.toList h.symm
    simp only [String.toList_append, List.append_assoc] at hlist
    obtain ⟨hk, -, hn⟩ := (List.append_cons_inj_of_notMem hkind hname).1 hlist
    exact ⟨String.toList_inj.1 hk.symm, String.toList_inj.1 hn.symm⟩
  · rintro ⟨rfl, rfl⟩
    rfl

theorem ownedByConfig_iff (hname : '/' ∉ config.name.toList) (object : Object γ) :
    ownedByConfig config object ↔ ControlledBy config object := by
  unfold ownedByConfig ControlledBy
  rw [Option.any_eq_true]
  refine exists_congr fun owner => and_congr_right fun _ => ?_
  rw [Bool.and_eq_true, decide_eq_true_iff, decide_eq_true_iff, kind_and_name_iff hname]

theorem controlledBy_owned (config : KRMConfig κ) (object : Object γ) : ControlledBy config (owned config object) :=
  ⟨reconcilerAsOwnerReference config, rfl, rfl, rfl, rfl⟩

/-! ## One write -/

/-- One object is written, and satisfies the predicate after it. -/
structure WritesOne (P : Option (Object γ) → Prop) (key : Key) (objects objects' : ObjectStore γ) : Prop where
  agree : Store.AgreeOff [key] objects objects'
  holds : P (objects'.get key)

/-- The object is there and the KRMConfig controls it. -/
def Controlled (config : KRMConfig κ) (live : Option (Object γ)) : Prop := ∃ object ∈ live, ControlledBy config object

theorem StoresAt.writes (hwrite : StoresAt env config write) (h : write objects object = .ok objects') :
    WritesOne (Controlled config) object.key objects objects' := by
  obtain ⟨hagree, hget⟩ := hwrite.stores h
  exact ⟨hagree, _, hget, controlledBy_owned config object⟩

/-- No finalizer holds a deleted object, and nothing there is answered to be missing. -/
structure DeletesAtOnce (env : Surroundings γ) : Prop where
  found : ∀ key e, env.fault (.delete key) = some e → e.isNotFound = false
  unheld : ∀ key, env.held key = false

theorem deleteObject_writes (hdelete : DeletesAtOnce env)
    (h : deleteObject env objects object = .ok objects') : WritesOne (· = none) object.key objects objects' := by
  obtain ⟨-, hheld | ⟨e, hfault, hmissing⟩⟩ | rfl := deleteCall_ok (mapError_ok h)
  · rw [hdelete.unheld] at hheld
    cases hheld
  · rw [hdelete.found _ e hfault] at hmissing
    cases hmissing
  · exact ⟨Store.agreeOff_remove _ _, Store.get_remove_self _ _⟩

/-! ## All writes of a phase -/

theorem writeAll_writes {P : Option (Object γ) → Prop}
    (hwrite : ∀ {objects object objects'}, write objects object = .ok objects' → WritesOne P object.key objects objects')
    {l : List (Object γ)} (h : writeAll write objects l = (none, objects')) :
    Store.AgreeOff (l.map Object.key) objects objects' ∧ ∀ key ∈ l.map Object.key, P (objects'.get key) := by
  induction l generalizing objects with
  | nil =>
    cases h
    exact ⟨.refl _ _, nofun⟩
  | cons object others ih =>
    rw [writeAll] at h
    cases hone : write objects object with
    | error e =>
      rw [hone] at h
      cases h
    | ok first =>
      rw [hone] at h
      obtain ⟨hagree, hholds⟩ := ih h
      obtain ⟨hfirst, hobject⟩ := hwrite hone
      refine ⟨(hfirst.mono (by simp)).trans (hagree.mono (by simp)), fun key hkey => ?_⟩
      -- A later write of the same key counts.
      by_cases hlater : key ∈ others.map Object.key
      · exact hholds key hlater
      · obtain rfl : key = object.key := (List.mem_cons.1 hkey).resolve_right hlater
        rw [← hagree.get_eq hlater]
        exact hobject

theorem controlled_writeAll
    (hwrite : ∀ {objects object objects'}, write objects object = .ok objects' →
      WritesOne (Controlled config) object.key objects objects')
    {l : List (Object γ)} (h : writeAll write objects l = (none, objects')) {key : Key}
    (hkey : key ∈ l.map Object.key ∨ Controlled config (objects.get key)) : Controlled config (objects'.get key) := by
  obtain ⟨hagree, hholds⟩ := writeAll_writes hwrite h
  by_cases hmem : key ∈ l.map Object.key
  · exact hholds key hmem
  · rw [← hagree.get_eq hmem]
    exact hkey.resolve_left hmem

/-! ## The actions -/

theorem Kind.mem_registered (kind : Kind) : kind ∈ Kind.registered := by
  cases kind <;> decide

theorem mem_getCurrentState {current : List (Object γ)} (h : getCurrentState env config objects = .ok current)
    (object : Object γ) :
    object ∈ current ↔ object ∈ objects.items ∧ env.collectable object.key.kind ∧ ownedByConfig config object := by
  obtain ⟨collected, hcollected, h⟩ := bind_ok h
  rw [← Except.ok.inj h, List.mem_flatten]
  obtain ⟨hyields, hyielded⟩ := mapM_ok hcollected
  constructor
  · rintro ⟨ofKind, hofKind, hobject⟩
    obtain ⟨kind, -, hkind⟩ := hyielded ofKind hofKind
    split_ifs at hkind with hcollectable
    · cases hkind
      cases hobject
    · split at hkind
      · cases hkind
      · cases hkind
        obtain ⟨hstored, hlisted⟩ := List.mem_filter.1 hobject
        obtain ⟨rfl, howned⟩ : object.key.kind = kind ∧ ownedByConfig config object := by simpa using hlisted
        exact ⟨hstored, by simpa using hcollectable, howned⟩
  · rintro ⟨hstored, hcollectable, howned⟩
    obtain ⟨ofKind, hofKind, hkind⟩ := hyields object.key.kind (object.key.kind.mem_registered)
    refine ⟨ofKind, hofKind, ?_⟩
    rw [hcollectable, Bool.not_true, if_neg Bool.false_ne_true] at hkind
    split at hkind
    · cases hkind
    · cases hkind
      exact List.mem_filter.2 ⟨hstored, by simp [howned]⟩

theorem mem_keys_byKey (objects : List (Object γ)) (key : Key) :
    key ∈ (byKey objects).map Object.key ↔ key ∈ objects.map Object.key := by
  have hfold (found : List (Object γ)) : key ∈ (objects.foldl (fun found object =>
      found.filter (fun other => other.key ≠ object.key) ++ [object]) found).map Object.key ↔
        key ∈ found.map Object.key ∨ key ∈ objects.map Object.key := by
    induction objects generalizing found with
    | nil => simp
    | cons object objects ih =>
      rw [List.foldl_cons, ih, List.map_append, List.mem_append, List.map_cons, List.mem_cons, or_assoc]
      by_cases hkey : key = object.key
      · simp [hkey]
      · have hkept : key ∈ (found.filter fun other => other.key ≠ object.key).map Object.key ↔
            key ∈ found.map Object.key := by
          simp only [List.mem_map, List.mem_filter, decide_eq_true_eq]
          refine exists_congr fun other => ⟨fun h => ⟨h.1.1, h.2⟩, fun h => ⟨⟨h.1, ?_⟩, h.2⟩⟩
          rw [h.2]
          exact hkey
        rw [hkept]
        simp [hkey]
  rw [byKey, lastByKey, hfold]
  simp

/-! ## The phases -/

section

variable [DecidableEq γ] {desired current : List (Object γ)} (hname : '/' ∉ config.name.toList)
  (hcurrent : getCurrentState env config objects = .ok current)
include hname hcurrent

/-- Once created or taken over, all that is desired is controlled. -/
theorem controlled_created {created : ObjectStore γ}
    (hcreated : writeAll (createObjectForKRMConfig env config) objects (creates env desired current) = (none, created))
    {key : Key} (hkey : key ∈ desired.map Object.key) : Controlled config (created.get key) := by
  refine controlled_writeAll (createObject_storesAt env config).writes hcreated ?_
  obtain ⟨object, hobject, rfl⟩ := List.mem_map.1 hkey
  cases hfind : current.find? fun other => other.key = object.key with
  | none => exact .inl (List.mem_map_of_mem (mem_creates.2 ⟨hobject, hfind⟩))
  | some existing =>
    have hexisting : existing.key = object.key := by simpa using List.find?_some hfind
    obtain ⟨hstored, -, howned⟩ := (mem_getCurrentState hcurrent existing).1 (List.mem_of_find?_eq_some hfind)
    exact .inr ⟨existing, hexisting ▸ Store.get_of_mem hstored, (ownedByConfig_iff hname existing).1 howned⟩

theorem key_mem_deletes_iff (key : Key) :
    key ∈ (deletes env desired current).map Object.key ↔ key ∉ desired.map Object.key ∧
      ∃ object, objects.get key = some object ∧ env.collectable key.kind ∧ ControlledBy config object := by
  -- Only what the KRMConfig controls and is not desired is deleted.
  constructor
  · intro h
    obtain ⟨object, hobject, rfl⟩ := List.mem_map.1 h
    obtain ⟨hmem, hundesired⟩ := mem_deletes.1 hobject
    obtain ⟨hstored, hcollectable, howned⟩ := (mem_getCurrentState hcurrent object).1 hmem
    exact ⟨hundesired, object, Store.get_of_mem hstored, hcollectable, (ownedByConfig_iff hname object).1 howned⟩
  · rintro ⟨hundesired, object, hget, hcollectable, hcontrolled⟩
    obtain rfl := Store.get_key hget
    refine List.mem_map_of_mem (mem_deletes.2 ⟨?_, hundesired⟩)
    exact (mem_getCurrentState hcurrent object).2
      ⟨Store.get_mem hget, hcollectable, (ownedByConfig_iff hname object).2 hcontrolled⟩

variable {key : Key} (h : (applyActions env config (calculateActionsOnObjects desired current) objects).1 = none)
include h

theorem applyActions_controlled (hkey : key ∈ desired.map Object.key) :
    Controlled config ((applyActions env config (calculateActionsOnObjects desired current) objects).2.get key) := by
  obtain ⟨created, deleted, hcreated, hdeleted, hupdated⟩ := applyActions_none h
  have hdeletes := deleteAll_agreeOff env created (deletes env desired current)
  rw [hdeleted] at hdeletes
  refine controlled_writeAll (updateObject_storesAt env config).writes hupdated (.inr ?_)
  rw [← hdeletes.get_eq (not_mem_deletes hkey)]
  exact controlled_created hname hcurrent hcreated hkey

omit hname hcurrent in
theorem applyActions_others (hdelete : DeletesAtOnce env) (hkey : key ∉ desired.map Object.key) :
    (applyActions env config (calculateActionsOnObjects desired current) objects).2.get key =
      if key ∈ (deletes env desired current).map Object.key then none else objects.get key := by
  obtain ⟨created, deleted, hcreated, hdeleted, hupdated⟩ := applyActions_none h
  obtain ⟨hcreates, -⟩ := writeAll_writes (createObject_storesAt env config).writes hcreated
  obtain ⟨hdeletes, hgone⟩ := writeAll_writes (deleteObject_writes hdelete) hdeleted
  obtain ⟨hupdates, -⟩ := writeAll_writes (updateObject_storesAt env config).writes hupdated
  have hcreate : key ∉ (creates env desired current).map Object.key := by
    rw [List.mem_map]
    rintro ⟨object, hobject, rfl⟩
    exact hkey (key_of_mem_creates hobject)
  have hupdate : key ∉ (updates env desired current).map Object.key := by
    rw [List.mem_map]
    rintro ⟨object, hobject, rfl⟩
    exact hkey (key_of_mem_updates hobject).1
  rw [← hupdates.get_eq hupdate]
  split_ifs with hmem
  · exact hgone key hmem
  · rw [← hdeletes.get_eq hmem, ← hcreates.get_eq hcreate]

end

/-! ## The order of the writes -/

/-- Where an object goes, all that is desired is there and controlled. -/
def DeletesAfter (config : KRMConfig κ) (desired : List Key) (before after : ObjectStore γ) : Prop :=
  ∀ key, (before.get key).isSome → after.get key = none → ∀ other ∈ desired, Controlled config (before.get other)

theorem deletesAfter_self (objects : ObjectStore γ) : DeletesAfter config desired objects objects := by
  intro key hsome hnone
  rw [hnone] at hsome
  cases hsome

theorem WritesOne.deletesAfter {key : Key} (h : WritesOne (Controlled config) key objects objects')
    (desired : List Key) : DeletesAfter config desired objects objects' := by
  intro other hsome hnone
  by_cases hkey : other = key
  · obtain ⟨live, hlive, -⟩ := h.holds
    rw [← hkey, hnone] at hlive
    cases hlive
  · rw [h.agree.get_eq (by simpa using hkey), hnone] at hsome
    cases hsome

theorem head_writeStates (objects : ObjectStore γ) : (writeStates write objects l).head? = some objects := by
  cases l with
  | nil => rfl
  | cons object others =>
    rw [writeStates]
    cases write objects object with
    | error e => rfl
    | ok objects' => rfl

theorem isChain_writeStates {I : ObjectStore γ → Prop} {l : List (Object γ)}
    (hstep : ∀ {objects object objects'}, object ∈ l → I objects → write objects object = .ok objects' →
      R objects objects' ∧ I objects')
    (hI : I objects) : (writeStates write objects l).IsChain R := by
  -- The invariant of a phase gives the relation between its successive states.
  induction l generalizing objects with
  | nil => exact .singleton objects
  | cons object others ih =>
    rw [writeStates]
    cases hone : write objects object with
    | error e => exact .singleton objects
    | ok objects' =>
      obtain ⟨hR, hI'⟩ := hstep List.mem_cons_self hI hone
      refine List.isChain_cons.2 ⟨fun after hafter => ?_, ih (fun hmem => hstep (List.mem_cons_of_mem _ hmem)) hI'⟩
      rw [head_writeStates, Option.mem_some_iff] at hafter
      rwa [← hafter]

theorem isChain_append_phase {states states' : List (ObjectStore γ)} {failed : Option DeployError}
    (hR : R objects objects) (h : states.IsChain R) (hlast : states.getLast? = some objects) :
    (failed = none → states'.IsChain R ∧ states'.head? = some objects) →
      (states ++ match failed with | some _ => [] | none => states').IsChain R := by
  intro h'
  cases failed with
  | some e =>
    rw [List.append_nil]
    exact h
  | none =>
    obtain ⟨hchain, hhead⟩ := h' rfl
    refine List.isChain_append.2 ⟨h, hchain, fun last hmem first hfirst => ?_⟩
    rw [hlast, Option.mem_some_iff] at hmem
    rw [hhead, Option.mem_some_iff] at hfirst
    rw [← hmem, ← hfirst]
    exact hR

theorem isChain_creates (objects : ObjectStore γ) :
    (writeStates (createObjectForKRMConfig env config) objects l).IsChain (DeletesAfter config desired) := by
  refine isChain_writeStates (I := fun _ => True) ?_ trivial
  intro objects object objects' _ _ hcreate
  exact ⟨((createObject_storesAt env config).writes hcreate).deletesAfter _, trivial⟩

theorem isChain_updates (objects : ObjectStore γ) :
    (writeStates (updateObject env config) objects l).IsChain (DeletesAfter config desired) := by
  refine isChain_writeStates (I := fun _ => True) ?_ trivial
  intro objects object objects' _ _ hupdate
  exact ⟨((updateObject_storesAt env config).writes hupdate).deletesAfter _, trivial⟩

theorem isChain_deletes (hdelete : DeletesAtOnce env)
    {desired : List Key} {l : List (Object γ)} (hundesired : ∀ object ∈ l, object.key ∉ desired)
    (hall : ∀ key ∈ desired, Controlled config (objects.get key)) :
    (writeStates (deleteObject env) objects l).IsChain (DeletesAfter config desired) := by
  refine isChain_writeStates (I := fun objects => ∀ key ∈ desired, Controlled config (objects.get key)) ?_ hall
  intro objects object objects' hmem hall hdeleted
  obtain ⟨hagree, -⟩ := deleteObject_writes hdelete hdeleted
  refine ⟨fun _ _ _ => hall, fun key hkey => ?_⟩
  rw [← hagree.get_eq]
  · exact hall key hkey
  · rw [List.mem_singleton]
    rintro rfl
    exact hundesired object hmem hkey

section

variable [DecidableEq γ] {current : List (Object γ)} (hname : '/' ∉ config.name.toList)
  (hdelete : DeletesAtOnce env)
include hname hdelete

theorem isChain_applyStates {desired : List (Object γ)} (hcurrent : getCurrentState env config objects = .ok current) :
    (applyStates env config (calculateActionsOnObjects desired current) objects).IsChain
      (DeletesAfter config (desired.map Object.key)) := by
  unfold applyStates
  dsimp only
  refine isChain_append_phase (deletesAfter_self _ _) (isChain_creates _ _ _) (getLast_writeStates _ _)
    fun hcreated => ⟨?_, ?_⟩
  · refine isChain_append_phase (deletesAfter_self _ _) (isChain_deletes hdelete ?_ ?_) (getLast_writeStates _ _)
      fun _ => ⟨isChain_updates _ _ _, head_writeStates _ _⟩
    · intro object hobject
      exact (mem_deletes.1 hobject).2
    · exact fun key hkey => controlled_created hname hcurrent (Prod.ext hcreated rfl) hkey
  · rw [List.head?_append, head_writeStates]
    rfl

/-- A deployment leaves what is desired and prunes only its own. -/
theorem deploys_exactly_its_own {desiredState : ObjectStore γ → Except DeployError (List (Object γ))}
    {desired : List (Object γ)} (hdesired : desiredState objects = .ok desired)
    (hnil : (deployWith env config desiredState objects).1 = none) :
    (∀ object ∈ desired, Controlled config ((deployWith env config desiredState objects).2.get object.key)) ∧
    (∀ object ∈ (deployWith env config desiredState objects).2.items, env.collectable object.key.kind →
      ControlledBy config object → object.key ∈ desired.map Object.key) ∧
    (∀ key, key ∉ desired.map Object.key → ¬ Controlled config (objects.get key) →
      (deployWith env config desiredState objects).2.get key = objects.get key) ∧
    (deployStates env config desiredState objects).IsChain (DeletesAfter config (desired.map Object.key)) := by
  unfold deployStates
  unfold deployWith at hnil ⊢
  rw [hdesired] at hnil ⊢
  dsimp only at hnil ⊢
  cases hcurrent : getCurrentState env config objects with
  | error e =>
    rw [hcurrent] at hnil
    cases hnil
  | ok current =>
    rw [hcurrent] at hnil
    dsimp only at hnil ⊢
    have hkeys := mem_keys_byKey desired
    refine ⟨fun object hobject => ?_, fun object hobject hcollectable hcontrolled => ?_, fun key hkey hforeign => ?_, ?_⟩
    · exact applyActions_controlled hname hcurrent hnil ((hkeys _).2 (List.mem_map_of_mem hobject))
    · by_contra hundesired
      have hget := applyActions_others hnil hdelete ((hkeys _).not.2 hundesired)
      rw [Store.get_of_mem hobject] at hget
      split_ifs at hget with hmem
      refine hmem ((key_mem_deletes_iff hname hcurrent _).2 ⟨(hkeys _).not.2 hundesired, object, hget.symm, ?_⟩)
      exact ⟨hcollectable, hcontrolled⟩
    · rw [applyActions_others hnil hdelete ((hkeys _).not.2 hkey), if_neg]
      intro hmem
      obtain ⟨-, object, hget, -, hcontrolled⟩ := (key_mem_deletes_iff hname hcurrent key).1 hmem
      exact hforeign ⟨object, hget, hcontrolled⟩
    · refine (isChain_applyStates hname hdelete hcurrent).imp fun before after hdeletes key hsome hnone other hother => ?_
      exact hdeletes key hsome hnone other ((hkeys other).2 hother)

end

end

/-- An API server that takes what is written. -/
def server {γ : Type} : Surroundings γ where
  fault := fun _ => none
  collectable := fun _ => true
  held := fun _ => false
  shuffle := id
  shuffle_perm := List.Perm.refl
  assigned := fun _ => ⟨"", 0, 0, ""⟩
  servedVersions := fun _ => none
  checkers := []

namespace Rename

def config : KRMConfig Unit := ⟨"krm", "u", 1, "kai-resource-management", (), []⟩

def oldService : Object Unit := owned config (Object.fresh ⟨.service, "kai-resource-management", "old"⟩)
def newService : Object Unit := Object.fresh ⟨.service, "kai-resource-management", "new"⟩

end Rename

open Rename in
theorem renamed_service_pruned :
    (deployWith server config (fun _ => .ok [newService]) (.single oldService)).1 = none ∧
      Controlled config ((deployWith server config (fun _ => .ok [newService]) (.single oldService)).2.get
        newService.key) ∧
      ∀ object ∈ (deployWith server config (fun _ => .ok [newService]) (.single oldService)).2.items,
        ControlledBy config object → object.key = newService.key := by
  -- A service is desired under another name.
  have hnil : (deployWith server config (fun _ => .ok [newService]) (.single oldService)).1 = none := by decide
  have hdelete : DeletesAtOnce (server : Surroundings Unit) :=
    ⟨fun _ _ h => absurd h (Option.some_ne_none _).symm, fun _ => rfl⟩
  obtain ⟨hexists, hpruned, -⟩ := deploys_exactly_its_own (by decide) hdelete rfl hnil
  refine ⟨hnil, hexists newService (List.mem_singleton_self _), fun object hobject hcontrolled => ?_⟩
  exact List.mem_singleton.1 (hpruned object hobject rfl hcontrolled)

end Krm.Operator
