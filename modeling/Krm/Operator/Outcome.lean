import Krm.Operator.Prune
import Mathlib.Data.List.ReduceOption

/-! # What a deployment leaves under each key

The operands desire the same objects whatever is there; what is there only decides what each of them is built from. With
an API server that takes the operator's writes, a deployment succeeds exactly when each write can be made by itself. -/

open Krm.Lib

namespace Krm.Operator

/-- Writes are taken, and reads fail only for a monitor without its CRD. -/
structure Accepting {γ : Type} (env : Surroundings γ) : Prop where
  reads : ∀ key e, env.fault (.getDesired key) = some e → key.kind = .serviceMonitor ∧ isNoMatchError e = true
  collects : ∀ kind, env.fault (.collect kind) = none
  creates : ∀ key, env.fault (.create key) = none
  takeovers : ∀ key, env.fault (.takeOwnership key) = none
  deletes : ∀ key, env.fault (.delete key) = none
  unheld : ∀ key, env.held key = false
  updates : ∀ key, env.fault (.update key) = none

/-! ## What is desired, apart from what is there -/

/-- How a desired object is made: from the live object, or from scratch. -/
inductive Recipe (γ : Type) where
  | fromLive (kind : Kind) (name : String) (fill : Contents γ → Contents γ)
  | fromScratch (name : String) (spec : γ)

section

variable {κ γ : Type}

def withAppLabel (name : String) (contents : Contents γ) : Contents γ :=
  { contents with labels := some ((contents.labels.getD ∅).insert "app" name) }

namespace Recipe

def kind : Recipe γ → Kind
  | fromLive kind _ _ => kind
  | fromScratch _ _ => .verticalPodAutoscaler

def name : Recipe γ → String
  | fromLive _ name _ => name
  | fromScratch name _ => name

def key (config : KRMConfig κ) (recipe : Recipe γ) : Key := ⟨recipe.kind, config.namespaceName, recipe.name⟩

def build [Inhabited γ] (config : KRMConfig κ) (objects : ObjectStore γ) (recipe : Recipe γ) : Object γ :=
  match recipe with
  | fromLive _ name fill =>
    let live := (objects.get (recipe.key config)).getD (Object.fresh (recipe.key config))
    { live with contents := fill (withAppLabel name live.contents) }
  | fromScratch _ spec => { (Object.fresh (recipe.key config) : Object γ) with contents := ⟨none, none, none, spec⟩ }

theorem build_key [Inhabited γ] (config : KRMConfig κ) (objects : ObjectStore γ) (recipe : Recipe γ) :
    (recipe.build config objects).key = recipe.key config := by
  cases recipe with
  | fromLive kind name fill =>
    simp only [build]
    cases hget : objects.get (key config (fromLive kind name fill)) with
    | none => rfl
    | some live => exact Store.get_key hget
  | fromScratch name spec => rfl

end Recipe

section

variable (env : Surroundings γ) (config : KRMConfig κ)

def ResourceFunc.recipe (resourceFunc : ResourceFunc κ γ) : Option (Recipe γ) :=
  (resourceFunc.name config.spec).bind fun name =>
    if (env.fault (.getDesired ⟨resourceFunc.kind, config.namespaceName, name⟩)).isSome then none
    else some (.fromLive resourceFunc.kind name (resourceFunc.fill config.spec))

/-- The autoscaler of the first Deployment. -/
def vpaRecipe (vpa : Option γ) (recipes : List (Recipe γ)) : Option (Recipe γ) :=
  vpa.bind fun spec =>
    (recipes.find? fun recipe => recipe.kind = .deployment).map fun deployment => .fromScratch deployment.name spec

def Operand.recipes (operand : Operand κ γ) : List (Recipe γ) :=
  let recipes := operand.resourceFuncs.filterMap fun resourceFunc => resourceFunc.recipe env config
  recipes ++ (vpaRecipe (operand.vpa config.spec) recipes).toList

def recipes (operands : List (Installed κ γ)) : List (Recipe γ) :=
  operands.flatMap fun installed =>
    if installed.operand.enabled config.spec then installed.operand.recipes env config else []

end

section

variable {env : Surroundings γ} (henv : Accepting env) (config : KRMConfig κ) [Inhabited γ] (objects : ObjectStore γ)
include henv

theorem ResourceFunc.build_eq (resourceFunc : ResourceFunc κ γ) :
    resourceFunc.build env config objects =
      .ok ((resourceFunc.recipe env config).map fun recipe => recipe.build config objects) := by
  unfold ResourceFunc.build ResourceFunc.recipe
  cases resourceFunc.name config.spec with
  | none => rfl
  | some name =>
    simp only [objectForKRMConfig, Option.bind_some]
    cases hfault : env.fault (.getDesired ⟨resourceFunc.kind, config.namespaceName, name⟩) with
    | none =>
      simp only [Option.isSome_none, Bool.false_eq_true, if_false, Option.map_some, Recipe.build, Recipe.key, Recipe.kind,
        Recipe.name, withAppLabel]
    | some e =>
      obtain ⟨hkind, hmatch⟩ := henv.reads _ _ hfault
      have hkind : resourceFunc.kind = .serviceMonitor := hkind
      obtain rfl : e = .failed "no matches for kind" := by simpa [isNoMatchError] using hmatch
      simp [ApiError.isNotFound, hkind, isNoMatchError]

omit henv in
theorem buildVPAFromObjects_eq (vpa : Option γ) (recipes : List (Recipe γ)) :
    buildVPAFromObjects config vpa (recipes.map fun recipe => recipe.build config objects) =
      (vpaRecipe vpa recipes).map fun recipe => recipe.build config objects := by
  have hkind : ∀ recipe : Recipe γ, (recipe.build config objects).key.kind = recipe.kind := fun recipe => by
    rw [Recipe.build_key]
    rfl
  unfold buildVPAFromObjects vpaRecipe
  cases vpa with
  | none => rfl
  | some spec =>
    simp only [Option.bind_some, List.find?_map, Function.comp_def, hkind, Option.map_map]
    refine Option.map_congr fun recipe _ => ?_
    rw [Recipe.build_key]
    rfl

theorem Operand.build_eq (operand : Operand κ γ) :
    operand.build env config objects =
      .ok ((operand.recipes env config).map fun recipe => recipe.build config objects) := by
  have hbuilt : (operand.resourceFuncs.mapM fun resourceFunc => resourceFunc.build env config objects) =
      .ok (operand.resourceFuncs.map fun resourceFunc =>
        (resourceFunc.recipe env config).map fun recipe => recipe.build config objects) := by
    simp only [ResourceFunc.build_eq henv config objects]
    exact List.mapM_pure
  have hreduce : (operand.resourceFuncs.map fun resourceFunc =>
      (resourceFunc.recipe env config).map fun recipe => recipe.build config objects).reduceOption =
        (operand.resourceFuncs.filterMap fun resourceFunc => resourceFunc.recipe env config).map
          fun recipe => recipe.build config objects := by
    rw [List.reduceOption, List.filterMap_map, List.map_filterMap]
    rfl
  unfold Operand.build Operand.recipes
  rw [hbuilt]
  refine congrArg Except.ok ?_
  rw [hreduce, buildVPAFromObjects_eq, List.map_append, Option.toList_map]

theorem getDesiredState_eq (operands : List (Installed κ γ)) :
    (getDesiredState env config objects operands).1 =
      .ok ((recipes env config operands).map fun recipe => recipe.build config objects) := by
  induction operands with
  | nil => rfl
  | cons installed others ih =>
    rw [getDesiredState, Installed.desiredState, recipes, List.flatMap_cons, List.map_append]
    rw [recipes] at ih
    cases henabled : installed.operand.enabled config.spec with
    | false =>
      rcases hothers : getDesiredState env config objects others with ⟨result, others'⟩
      rw [hothers] at ih
      simp only at ih
      simp [ih]
    | true =>
      rw [Operand.build_eq henv]
      rcases hothers : getDesiredState env config objects others with ⟨result, others'⟩
      rw [hothers] at ih
      simp only at ih
      simp [ih]

end

/-! ## One object for each key -/

theorem byKey_map {α : Type} {key : α → Key} {f : α → Object γ} (hf : ∀ a, (f a).key = key a) (l : List α) :
    byKey (l.map f) = (lastByKey key l).map f := by
  have hfold (found : List α) : (l.map f).foldl (fun found object =>
      found.filter (fun other => other.key ≠ object.key) ++ [object]) (found.map f) =
        (l.foldl (fun found a => found.filter (fun other => key other ≠ key a) ++ [a]) found).map f := by
    induction l generalizing found with
    | nil => rfl
    | cons a l ih =>
      rw [List.map_cons, List.foldl_cons, List.foldl_cons, ← ih, List.map_append, List.filter_map]
      simp only [Function.comp_def, hf, List.map_cons, List.map_nil]
  exact hfold []

theorem nodup_lastByKey {α : Type} (key : α → Key) (l : List α) : ((lastByKey key l).map key).Nodup := by
  have hfold (found : List α) (hfound : (found.map key).Nodup) :
      ((l.foldl (fun found a => found.filter (fun other => key other ≠ key a) ++ [a]) found).map key).Nodup := by
    induction l generalizing found with
    | nil => exact hfound
    | cons a l ih =>
      refine ih _ ?_
      rw [List.map_append, List.map_singleton, List.nodup_append']
      refine ⟨hfound.sublist (List.filter_sublist.map key), List.nodup_singleton _, ?_⟩
      rw [List.disjoint_singleton]
      intro hmem
      obtain ⟨other, hother, hkey⟩ := List.mem_map.1 hmem
      exact (by simpa using (List.mem_filter.1 hother).2 : key other ≠ key a) hkey
  exact hfold [] List.nodup_nil

/-- The recipes that count: of those for one key the last. -/
def winners (env : Surroundings γ) (config : KRMConfig κ) (operands : List (Installed κ γ)) : List (Recipe γ) :=
  lastByKey (Recipe.key config) (recipes env config operands)

/-! ## Which writes are taken -/

section

/-- The stored version, or none unless for a custom resource. -/
def updateAccepted (object existing : Object γ) : Bool :=
  match object.resourceVersion with
  | none => !object.key.kind.isCustomResource
  | some version => some version = existing.resourceVersion

def createAccepted (object : Object γ) : Option (Object γ) → Bool
  | none => object.resourceVersion.isNone
  | some existing => updateAccepted object existing

variable {env : Surroundings γ} (henv : Accepting env) (config : KRMConfig κ) (objects : ObjectStore γ) (object : Object γ)

theorem updateCall_succeeds_iff {place : Place} (hplace : env.fault place = none) :
    failureOf (updateCall env place objects object) = none ↔ (objects.get object.key).any (updateAccepted object) := by
  unfold updateCall updateAccepted
  rw [hplace]
  cases objects.get object.key with
  | none => simp [failureOf]
  | some existing =>
    cases object.resourceVersion with
    | none => cases object.key.kind.isCustomResource <;> simp [failureOf]
    | some version =>
      by_cases hversion : some version = existing.resourceVersion
      · simp [failureOf, hversion]
      · simp [failureOf, hversion]

include henv

theorem updateObject_succeeds_iff :
    failureOf (updateObject env config objects object) = none ↔ (objects.get object.key).any (updateAccepted object) := by
  rw [updateObject, failureOf_failing, Option.map_eq_none_iff]
  exact updateCall_succeeds_iff objects (owned config object) (henv.updates _)

theorem takeOwnership_succeeds_iff :
    failureOf (takeOwnership env objects (owned config object)) = none ↔
      (objects.get object.key).any (updateAccepted object) := by
  rw [takeOwnership, failureOf_failing, Option.map_eq_none_iff]
  exact updateCall_succeeds_iff objects (owned config object) (henv.takeovers _)

theorem createObject_succeeds_iff :
    failureOf (createObjectForKRMConfig env config objects object) = none ↔
      createAccepted object (objects.get object.key) := by
  have htake := takeOwnership_succeeds_iff henv config objects object
  have hkey : (owned config object).key = object.key := rfl
  have hversion : (owned config object).resourceVersion = object.resourceVersion := rfl
  simp only [createObjectForKRMConfig, createCall, hkey, hversion, henv.creates]
  cases hget : objects.get object.key with
  | none =>
    rw [hget] at htake
    cases hread : object.resourceVersion with
    | none => simp [failureOf, createAccepted, hread]
    | some version => simpa [createAccepted, hread] using htake
  | some existing =>
    rw [hget] at htake
    simpa [createAccepted, ApiError.isAlreadyExists] using htake

omit henv in
theorem deleteObject_succeeds (henv : Accepting env) : failureOf (deleteObject env objects object) = none := by
  rw [deleteObject, deleteCall, henv.deletes]
  rfl

end

/-! ## The phases together -/

section

variable {env : Surroundings γ} {config : KRMConfig κ} {objects : ObjectStore γ} {desired current : List (Object γ)}

/-- Whether a deployment takes the object for one of its own. -/
def collected (env : Surroundings γ) (config : KRMConfig κ) (object : Object γ) : Bool :=
  env.collectable object.key.kind && ownedByConfig config object

/-- Collected kinds, controlled by the KRMConfig's name. -/
def currentState (env : Surroundings γ) (config : KRMConfig κ) (objects : ObjectStore γ) : List (Object γ) :=
  Kind.registered.flatMap fun kind =>
    if env.collectable kind then objects.list fun object => object.key.kind = kind && ownedByConfig config object else []

theorem getCurrentState_eq (henv : Accepting env) (config : KRMConfig κ) (objects : ObjectStore γ) :
    getCurrentState env config objects = .ok (currentState env config objects) := by
  have hcollect : (fun kind => if !env.collectable kind then Except.ok []
      else .ok (objects.list fun object => object.key.kind = kind && ownedByConfig config object)) =
      fun kind => (pure (if env.collectable kind then
        objects.list fun object => object.key.kind = kind && ownedByConfig config object else []) :
          Except DeployError (List (Object γ))) := by
    funext kind
    cases env.collectable kind with
    | false => rfl
    | true => rfl
  unfold getCurrentState
  simp only [henv.collects]
  rw [hcollect, List.mapM_pure]
  rfl

theorem find_currentState (henv : Accepting env) (key : Key) :
    ((currentState env config objects).find? fun other => other.key = key) =
      (objects.get key).filter (collected env config) := by
  have hmem := mem_getCurrentState (getCurrentState_eq henv config objects)
  -- what is found is what the store has under the key
  have hfound : ∀ object ∈ currentState env config objects, object.key = key →
      objects.get key = some object ∧ collected env config object = true := by
    rintro object hobject rfl
    obtain ⟨hstored, hcollectable, howned⟩ := (hmem object).1 hobject
    exact ⟨Store.get_of_mem hstored, by simp [collected, hcollectable, howned]⟩
  cases hfind : (currentState env config objects).find? fun other => other.key = key with
  | some object =>
    obtain ⟨hget, hcollected⟩ := hfound object (List.mem_of_find?_eq_some hfind) (by simpa using List.find?_some hfind)
    simp [hget, Option.filter, hcollected]
  | none =>
    cases hget : objects.get key with
    | none => rfl
    | some existing =>
      have hkey := Store.get_key hget
      have hnot : collected env config existing = false := by
        by_contra hcollected
        rw [Bool.not_eq_false, collected, Bool.and_eq_true] at hcollected
        have hcurrent := (hmem existing).2 ⟨Store.get_mem hget, hcollected.1, hcollected.2⟩
        exact List.find?_eq_none.1 hfind existing hcurrent (by simpa using hkey)
      simp [Option.filter, hnot]

/-! ## The outcome for one desired object -/

variable [DecidableEq γ]

/-- What a deployment leaves of a desired object; none if it fails. -/
def outcome (env : Surroundings γ) (config : KRMConfig κ) (object : Object γ) (live : Option (Object γ)) :
    Option (Option (Object γ)) :=
  let written (accepted : Bool) (object : Object γ) : Option (Option (Object γ)) :=
    if accepted then some (some (stored env live (owned config object))) else none
  match live.filter (collected env config) with
  | none => written (createAccepted object live) object
  | some existing =>
    let inherited := inheritFieldsFromCurrent existing object
    if existing = inherited then some live else written (live.any (updateAccepted inherited)) inherited

variable (henv : Accepting env) (hdesired : (desired.map Object.key).Nodup) (config objects)
include henv hdesired

theorem applyActions_none_iff :
    (applyActions env config (calculateActionsOnObjects desired (currentState env config objects)) objects).1 = none ↔
      ∀ object ∈ desired, (outcome env config object (objects.get object.key)).isSome := by
  rw [applyActions_succeeds_iff hdesired]
  constructor
  · rintro ⟨hcreated, -, hupdated⟩ object hobject
    rw [outcome, ← find_currentState henv]
    cases hfind : (currentState env config objects).find? fun other => other.key = object.key with
    | none =>
      have haccepted := (createObject_succeeds_iff henv config objects object).1
        (hcreated object (mem_creates.2 ⟨hobject, hfind⟩))
      simp [haccepted]
    | some existing =>
      by_cases hsame : existing = inheritFieldsFromCurrent existing object
      · simp [← hsame]
      · have haccepted := (updateObject_succeeds_iff henv config objects _).1
          (hupdated _ (mem_updates.2 ⟨object, hobject, existing, hfind, hsame, rfl⟩))
        rw [inheritFieldsFromCurrent_key] at haccepted
        simp [hsame, haccepted]
  · intro h
    refine ⟨fun object hobject => ?_, fun object _ => deleteObject_succeeds objects object henv, fun updated hupdated => ?_⟩
    · obtain ⟨hmem, hfind⟩ := mem_creates.1 hobject
      have hsome := h object hmem
      rw [outcome, ← find_currentState henv, hfind] at hsome
      rw [createObject_succeeds_iff henv]
      by_contra hrefused
      simp [hrefused] at hsome
    · obtain ⟨object, hmem, existing, hfind, hdiffers, rfl⟩ := mem_updates.1 hupdated
      have hsome := h object hmem
      rw [outcome, ← find_currentState henv, hfind] at hsome
      rw [updateObject_succeeds_iff henv, inheritFieldsFromCurrent_key]
      by_contra hrefused
      simp [hdiffers, hrefused] at hsome

variable (h : ∀ object ∈ desired, (outcome env config object (objects.get object.key)).isSome)
include h

theorem applyActions_desired {object : Object γ} (hobject : object ∈ desired) :
    outcome env config object (objects.get object.key) = some ((applyActions env config
      (calculateActionsOnObjects desired (currentState env config objects)) objects).2.get object.key) := by
  obtain ⟨hcreated, hdeleted, hupdated⟩ :=
    (applyActions_succeeds_iff hdesired).1 ((applyActions_none_iff config objects henv hdesired).2 h)
  obtain ⟨left, happlied, hwritten⟩ := applyActions_of_succeeds hdesired hcreated hdeleted hupdated
  have hsome := h object hobject
  rw [happlied]
  rw [outcome, ← find_currentState henv] at hsome ⊢
  cases hfind : (currentState env config objects).find? fun other => other.key = object.key with
  | none =>
    have hget := hwritten.writes object (List.mem_append_left _ (mem_creates.2 ⟨hobject, hfind⟩))
    rw [hfind] at hsome
    dsimp only at hsome ⊢
    split_ifs at hsome ⊢
    · rw [hget]
    · cases hsome
  | some existing =>
    rw [hfind] at hsome
    dsimp only at hsome ⊢
    split_ifs at hsome ⊢ with hsame haccepted
    · refine congrArg some (hwritten.keeps _ (List.mem_map_of_mem hobject) ?_).symm
      -- of the desired objects only this one has the key
      rw [List.mem_map]
      rintro ⟨other, hother, hkey⟩
      rcases List.mem_append.1 hother with hcreate | hupdate
      · rw [← hkey, (mem_creates.1 hcreate).2] at hfind
        cases hfind
      · obtain ⟨original, horiginal, found, hfound, hdiffers, rfl⟩ := mem_updates.1 hupdate
        rw [inheritFieldsFromCurrent_key] at hkey
        obtain rfl := List.inj_on_of_nodup_map hdesired horiginal hobject hkey
        cases hfind.symm.trans hfound
        exact hdiffers hsame
    · have hget := hwritten.writes _ (List.mem_append_right _
        (mem_updates.2 ⟨object, hobject, existing, hfind, hsame, rfl⟩))
      rw [inheritFieldsFromCurrent_key] at hget
      rw [hget]
    · cases hsome

theorem applyActions_undesired {key : Key} (hkey : key ∉ desired.map Object.key) :
    (applyActions env config (calculateActionsOnObjects desired (currentState env config objects)) objects).2.get key =
      (objects.get key).filter fun object => !collected env config object := by
  have hdeletes : DeletesAtOnce env := by
    refine ⟨fun key e he => ?_, henv.unheld⟩
    rw [henv.deletes] at he
    cases he
  rw [applyActions_others ((applyActions_none_iff config objects henv hdesired).2 h) hdeletes hkey]
  cases hfind : (currentState env config objects).find? fun other => other.key = key with
  | some existing =>
    have hexisting : existing.key = key := by simpa using List.find?_some hfind
    rw [if_pos (List.mem_map.2
      ⟨existing, mem_deletes.2 ⟨List.mem_of_find?_eq_some hfind, hexisting ▸ hkey⟩, hexisting⟩)]
    rw [find_currentState henv, Option.filter_eq_some_iff] at hfind
    simp [hfind.1, Option.filter, hfind.2]
  | none =>
    rw [if_neg]
    · rw [find_currentState henv, Option.filter_eq_none_iff] at hfind
      cases hget : objects.get key with
      | none => rfl
      | some existing =>
        have hnot : collected env config existing = false := by simpa using hfind existing hget
        simp [Option.filter, hnot]
    · rw [List.mem_map]
      rintro ⟨other, hother, rfl⟩
      exact List.find?_eq_none.1 hfind other (mem_deletes.1 hother).1 (by simp)

end

/-! ## A deployment -/

section

variable [Inhabited γ] [DecidableEq γ] {env : Surroundings γ} (henv : Accepting env) (config : KRMConfig κ)
  (w : World κ γ)
include henv

theorem deploy_objects :
    ((deploy env config w).1, (deploy env config w).2.objects) =
      applyActions env config (calculateActionsOnObjects
        ((winners env config w.operands).map fun recipe => recipe.build config w.objects)
        (currentState env config w.objects)) w.objects := by
  rw [deploy_eq_deployWith, deployWith, getDesiredState_eq henv, getCurrentState_eq henv]
  dsimp only
  rw [byKey_map fun recipe => recipe.build_key config w.objects]
  rfl

omit henv [DecidableEq γ] in
theorem map_key_build (recipes : List (Recipe γ)) :
    (recipes.map fun recipe => recipe.build config w.objects).map Object.key = recipes.map (Recipe.key config) := by
  rw [List.map_map]
  exact List.map_congr_left fun recipe _ => recipe.build_key config w.objects

omit henv [DecidableEq γ] in
variable (env) in
theorem nodup_winners :
    (((winners env config w.operands).map fun recipe => recipe.build config w.objects).map Object.key).Nodup := by
  rw [map_key_build]
  exact nodup_lastByKey _ _

theorem deploy_leaves (h : ∀ recipe ∈ winners env config w.operands,
      (outcome env config (recipe.build config w.objects) (w.objects.get (recipe.key config))).isSome) :
    (deploy env config w).1 = none ∧
    (∀ recipe ∈ winners env config w.operands,
      outcome env config (recipe.build config w.objects) (w.objects.get (recipe.key config)) =
        some ((deploy env config w).2.objects.get (recipe.key config))) ∧
    ∀ key ∉ (winners env config w.operands).map (Recipe.key config),
      (deploy env config w).2.objects.get key = (w.objects.get key).filter fun object =>
        !collected env config object := by
  have hobjects := deploy_objects henv config w
  have houtcomes : ∀ object ∈ (winners env config w.operands).map fun recipe => recipe.build config w.objects,
      (outcome env config object (w.objects.get object.key)).isSome := by
    rw [List.forall_mem_map]
    intro recipe hrecipe
    rw [recipe.build_key]
    exact h recipe hrecipe
  have hnodup := nodup_winners env config w
  have hnone := (applyActions_none_iff config w.objects henv hnodup).2 houtcomes
  rw [← hobjects] at hnone
  refine ⟨hnone, fun recipe hrecipe => ?_, fun key hkey => ?_⟩
  · have hleaves := applyActions_desired config w.objects henv hnodup houtcomes (List.mem_map_of_mem hrecipe)
    rwa [← hobjects, recipe.build_key] at hleaves
  · have hleaves := applyActions_undesired config w.objects henv hnodup houtcomes (by rwa [map_key_build])
    rwa [← hobjects] at hleaves

/-- Each desired object decides by itself whether a deployment succeeds. -/
theorem deploy_succeeds_iff :
    (deploy env config w).1 = none ↔ ∀ recipe ∈ winners env config w.operands,
      (outcome env config (recipe.build config w.objects) (w.objects.get (recipe.key config))).isSome := by
  have houtcomes := applyActions_none_iff config w.objects henv (nodup_winners env config w)
  rw [← deploy_objects henv, List.forall_mem_map] at houtcomes
  simpa only [Recipe.build_key] using houtcomes

end

end

end Krm.Operator
