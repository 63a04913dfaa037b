import Krm.Operator.Builders
import Krm.Operator.TakeOver

/-! # A deployment after a deployment

What the second one plans depends on what the first left under each key. It plans nothing exactly when every desired
object is collected and its builder makes of it what is stored. -/

open Krm.Lib

namespace Krm.Operator

section

variable {κ γ : Type}

/-! ## What a deployment plans -/

section

variable [Inhabited γ] [DecidableEq γ]

/-- The actions of a deployment, before any of them is taken. -/
def plannedActions (env : Surroundings γ) (config : KRMConfig κ) (w : World κ γ) : Except DeployError (Actions γ) := do
  let desired ← (getDesiredState env config w.objects w.operands).1
  let current ← getCurrentState env config w.objects
  return calculateActionsOnObjects (byKey desired) current

def Actions.nothing : Actions γ := ⟨[], [], []⟩

theorem plannedActions_eq {env : Surroundings γ} (henv : Accepting env) (config : KRMConfig κ) (w : World κ γ) :
    plannedActions env config w = .ok (calculateActionsOnObjects
      ((winners env config w.operands).map fun recipe => recipe.build config w.objects)
      (currentState env config w.objects)) := by
  rw [plannedActions, getDesiredState_eq henv, getCurrentState_eq henv]
  refine congrArg Except.ok ?_
  rw [byKey_map fun recipe => recipe.build_key config w.objects]
  rfl

omit [Inhabited γ] in
/-- Nothing is planned exactly when all is as it would be written. -/
theorem calculateActions_eq_nothing_iff (desired current : List (Object γ)) :
    calculateActionsOnObjects desired current = Actions.nothing ↔
      (∀ object ∈ desired, ∃ existing, (current.find? fun other => other.key = object.key) = some existing ∧
        existing = inheritFieldsFromCurrent existing object) ∧
      ∀ object ∈ current, ∃ other ∈ desired, other.key = object.key := by
  have hcreate : (calculateActionsOnObjects desired current).toCreate = [] ↔
      ∀ object ∈ desired, ∃ existing, (current.find? fun other => other.key = object.key) = some existing := by
    simp only [calculateActionsOnObjects, List.filter_eq_nil_iff, Option.isNone_iff_eq_none]
    exact forall₂_congr fun object _ => Option.ne_none_iff_exists'
  have hdelete : (calculateActionsOnObjects desired current).toDelete = [] ↔
      ∀ object ∈ current, ∃ other ∈ desired, other.key = object.key := by
    simp [calculateActionsOnObjects, List.filter_eq_nil_iff, List.find?_eq_none]
  have hupdate : (calculateActionsOnObjects desired current).toUpdate = [] ↔
      ∀ object ∈ desired, ∀ existing, (current.find? fun other => other.key = object.key) = some existing →
        existing = inheritFieldsFromCurrent existing object := by
    rw [List.eq_nil_iff_forall_not_mem]
    simp only [mem_toUpdate]
    grind
  rw [Actions.nothing, Actions.mk.injEq, hcreate, hdelete, hupdate]
  constructor
  · rintro ⟨hexist, hknown, hsame⟩
    refine ⟨fun object hobject => ?_, hknown⟩
    obtain ⟨existing, hexisting⟩ := hexist object hobject
    exact ⟨existing, hexisting, hsame object hobject existing hexisting⟩
  · rintro ⟨hexist, hknown⟩
    refine ⟨fun object hobject => ?_, hknown, fun object hobject existing hexisting => ?_⟩
    · obtain ⟨existing, hexisting, -⟩ := hexist object hobject
      exact ⟨existing, hexisting⟩
    · obtain ⟨existing', hexisting', hsame⟩ := hexist object hobject
      cases hexisting.symm.trans hexisting'
      exact hsame

/-! ## The operands after a deployment -/

omit [DecidableEq γ] in
theorem getDesiredState_operands (env : Surroundings γ) (config : KRMConfig κ) (objects : ObjectStore γ)
    (operands : List (Installed κ γ)) :
    (getDesiredState env config objects operands).2.map Installed.operand = operands.map Installed.operand := by
  induction operands with
  | nil => rfl
  | cons installed others ih =>
    have hoperand := installed.desiredState_operand env config objects
    rw [getDesiredState]
    split
    · rename_i hstate
      rw [hstate] at hoperand
      simp [← hoperand]
    · rename_i hstate
      rw [hstate] at hoperand
      split
      · rename_i hothers
        rw [hothers] at ih
        simp [← hoperand, ← ih]
      · rename_i hothers
        rw [hothers] at ih
        simp [← hoperand, ← ih]

theorem winners_deploy (env : Surroundings γ) (config : KRMConfig κ) (w : World κ γ) :
    winners env config (deploy env config w).2.operands = winners env config w.operands := by
  have hoperands : (deploy env config w).2.operands.map Installed.operand = w.operands.map Installed.operand := by
    rw [← getDesiredState_operands env config w.objects w.operands]
    unfold deploy
    split
    · rename_i hstate
      rw [hstate]
    · rename_i hstate
      rw [hstate]
      split
      · rfl
      · rfl
  have hrecipes (operands : List (Installed κ γ)) : recipes env config operands =
      (operands.map Installed.operand).flatMap fun operand =>
        if operand.enabled config.spec then operand.recipes env config else [] := by
    rw [recipes, List.flatMap_map]
  rw [winners, winners, hrecipes, hrecipes, hoperands]

/-! ## What is left of one desired object -/

omit [Inhabited γ] [DecidableEq γ] in
theorem collected_stored (env : Surroundings γ) (config : KRMConfig κ) (existing : Option (Object γ))
    (object : Object γ) :
    collected env config (stored env existing (owned config object)) = env.collectable object.key.kind := by
  have howned : ownedByConfig config (stored env existing (owned config object)) = true := by
    simp [ownedByConfig, stored, owned, controllerOf, reconcilerAsOwnerReference]
  rw [collected, howned, Bool.and_true]
  rfl

omit [Inhabited γ] in
theorem outcome_leaves {env : Surroundings γ} {config : KRMConfig κ} {object : Object γ} {live left : Option (Object γ)}
    (hlive : ∀ existing, live = some existing → existing.key = object.key)
    (h : outcome env config object live = some left) :
    ∃ written, left = some written ∧ written.key = object.key ∧
      collected env config written = env.collectable object.key.kind ∧
      written.contents = (live.filter (collected env config)).elim object.contents fun existing =>
        (inheritFieldsFromCurrent existing object).contents := by
  unfold outcome at h
  cases hfound : live.filter (collected env config) with
  | none =>
    simp only [hfound] at h
    split_ifs at h
    exact ⟨_, (Option.some.inj h).symm, rfl, collected_stored env config live object, rfl⟩
  | some existing =>
    simp only [hfound] at h
    obtain ⟨rfl, hcollected⟩ := Option.filter_eq_some_iff.1 hfound
    have hkey := hlive existing rfl
    split_ifs at h with hsame haccepted
    · refine ⟨existing, (Option.some.inj h).symm, hkey, ?_, congrArg Object.contents hsame⟩
      rw [← hkey, hcollected]
      exact (Bool.and_eq_true_iff.1 hcollected).1.symm
    · refine ⟨_, (Option.some.inj h).symm, inheritFieldsFromCurrent_key _ _, ?_, rfl⟩
      rw [collected_stored, inheritFieldsFromCurrent_key]

end

/-! ## The API server in between -/

-- How the API server returns the spec of an object.
variable (returnedSpec : γ → γ)

def Object.returned (object : Object γ) : Object γ := { object with contents := object.contents.returned returnedSpec }

def World.returned (w : World κ γ) : World κ γ where
  objects := w.objects.map (Object.returned returnedSpec) fun _ => rfl
  operands := w.operands

/-- The recipe makes the same of it again. -/
def Recipe.Reproduces [Inhabited γ] (config : KRMConfig κ) (objects : ObjectStore γ) (recipe : Recipe γ) : Prop :=
  let written := (recipe.build config objects).contents.returned returnedSpec
  match recipe with
  | .fromLive _ name fill => fill (withAppLabel name written) = written
  | .fromScratch _ spec =>
    (∃ existing, objects.get (recipe.key config) = some existing ∧ existing.contents.annotations.getD ∅ ≠ ∅) ∧
      returnedSpec spec = spec

section

variable [Inhabited γ] [DecidableEq γ] {env : Surroundings γ} {config : KRMConfig κ} {objects later : ObjectStore γ}
  {recipe : Recipe γ} {written : Object γ}

theorem outcome_leaves_built {left : Option (Object γ)}
    (hleft : outcome env config (recipe.build config objects) (objects.get (recipe.key config)) = some left) :
    ∃ written, left = some written ∧ written.key = recipe.key config ∧
      collected env config written = env.collectable recipe.kind ∧
      written.contents = ((objects.get (recipe.key config)).filter (collected env config)).elim
        (recipe.build config objects).contents fun existing =>
          (inheritFieldsFromCurrent existing (recipe.build config objects)).contents := by
  have hlive : ∀ existing, objects.get (recipe.key config) = some existing →
      existing.key = (recipe.build config objects).key := by
    intro existing hexisting
    rw [recipe.build_key]
    exact Store.get_key hexisting
  obtain ⟨written, hwritten, hkey, hcollected, hcontents⟩ := outcome_leaves hlive hleft
  rw [recipe.build_key] at hkey hcollected
  exact ⟨written, hwritten, hkey, hcollected, hcontents⟩

omit [Inhabited γ] [DecidableEq γ] in
theorem returned_eq_iff (contents : Contents γ) :
    written.returned returnedSpec = { written.returned returnedSpec with contents := contents } ↔
      written.contents.returned returnedSpec = contents := by
  simp only [Object.returned, Object.mk.injEq, true_and, and_true]

omit [DecidableEq γ] in
theorem inherit_scratch {name : String} {spec : γ} {existing : Object γ}
    (hkey : existing.key = (Recipe.fromScratch name spec).key config) :
    inheritFieldsFromCurrent existing ((Recipe.fromScratch name spec).build config objects) =
      { existing with contents := ⟨none, some (existing.contents.annotations.getD ∅), none, spec⟩ } := by
  have hunion (annotations : Labels) : ∅ ∪ annotations = annotations := Finmap.empty_union
  have hkind : ((Recipe.fromScratch name spec).build config objects).key.kind = .verticalPodAutoscaler := rfl
  rw [inheritFieldsFromCurrent, if_pos hkind, vpaFieldInherit]
  simp only [Recipe.build, Object.fresh, mergeAnnotations, Option.getD_none, hunion, ← hkey]

section

variable
  (hleft : outcome env config (recipe.build config objects) (objects.get (recipe.key config)) = some (some written))
  (hlater : later.get (recipe.key config) = some (written.returned returnedSpec))
include hleft

theorem scratch_collected {name : String} {spec : γ} (hrecipe : recipe = .fromScratch name spec) :
    (objects.get (recipe.key config)).filter (collected env config) = objects.get (recipe.key config) := by
  -- An autoscaler that is not collected is not written over.
  cases hget : objects.get (recipe.key config) with
  | none => rfl
  | some existing =>
    cases hcollected : collected env config existing with
    | true => simp [Option.filter, hcollected]
    | false =>
      have hrefused : updateAccepted (recipe.build config objects) existing = false := by
        subst hrecipe
        exact updateAccepted_of_scratch rfl rfl
      simp [outcome, Option.filter, hget, hcollected, createAccepted, hrefused] at hleft

include hlater

theorem live_reproduces_iff {kind : Kind} {name : String} {fill : Contents γ → Contents γ}
    (hkind : kind ≠ .verticalPodAutoscaler) (hrecipe : recipe = .fromLive kind name fill) :
    written.returned returnedSpec =
        inheritFieldsFromCurrent (written.returned returnedSpec) (recipe.build config later) ↔
      recipe.Reproduces returnedSpec config objects := by
  have hinherit (store : ObjectStore γ) (existing : Object γ) :
      inheritFieldsFromCurrent existing (recipe.build config store) = recipe.build config store := by
    rw [inheritFieldsFromCurrent, recipe.build_key, if_neg]
    rw [hrecipe]
    exact hkind
  obtain ⟨_, ⟨⟩, -, -, hcontents⟩ := outcome_leaves_built hleft
  simp only [hinherit] at hcontents
  have hwritten : written.contents = (recipe.build config objects).contents := by
    cases hfound : (objects.get (recipe.key config)).filter (collected env config) with
    | none => rwa [hfound] at hcontents
    | some existing => rwa [hfound] at hcontents
  subst hrecipe
  have hbuild : (Recipe.fromLive kind name fill).build config later =
      { written.returned returnedSpec with
        contents := fill (withAppLabel name (written.contents.returned returnedSpec)) } := by
    simp only [Recipe.build, hlater, Option.getD_some]
    rfl
  rw [hinherit, hbuild, returned_eq_iff]
  simp only [Recipe.Reproduces]
  rw [← hwritten]
  exact eq_comm

theorem scratch_reproduces_iff {name : String} {spec : γ} (hrecipe : recipe = .fromScratch name spec) :
    written.returned returnedSpec =
        inheritFieldsFromCurrent (written.returned returnedSpec) (recipe.build config later) ↔
      recipe.Reproduces returnedSpec config objects := by
  obtain ⟨_, ⟨⟩, hkey, -, hcontents⟩ := outcome_leaves_built hleft
  rw [scratch_collected hleft hrecipe] at hcontents
  subst hrecipe
  have hreturned : (written.returned returnedSpec).key = (Recipe.fromScratch name spec).key config := hkey
  rw [inherit_scratch hreturned, returned_eq_iff]
  simp only [Recipe.Reproduces]
  cases hget : objects.get ((Recipe.fromScratch name spec).key config) with
  | none =>
    -- it was created without annotations
    rw [hget] at hcontents
    have hwritten : written.contents = ⟨none, none, none, spec⟩ := hcontents
    simp [Object.returned, Contents.returned, hwritten, absentIfEmpty]
  | some existing =>
    rw [hget, Option.elim_some, inherit_scratch (Store.get_key hget)] at hcontents
    have hwritten : written.contents = ⟨none, some (existing.contents.annotations.getD ∅), none, spec⟩ := hcontents
    simp only [Object.returned, Contents.returned, hwritten, Contents.mk.injEq, Option.some.injEq, exists_eq_left']
    by_cases hempty : existing.contents.annotations.getD ∅ = ∅
    · simp [absentIfEmpty, Option.filter, hempty]
    · simp [absentIfEmpty, Option.filter, hempty]

theorem reproduces_iff (hkind : recipe.kind = .verticalPodAutoscaler → ∃ name spec, recipe = .fromScratch name spec) :
    written.returned returnedSpec =
        inheritFieldsFromCurrent (written.returned returnedSpec) (recipe.build config later) ↔
      recipe.Reproduces returnedSpec config objects := by
  cases hrecipe : recipe with
  | fromLive kind name fill =>
    rw [← hrecipe]
    refine live_reproduces_iff returnedSpec hleft hlater ?_ hrecipe
    rintro rfl
    obtain ⟨_, _, hscratch⟩ := hkind (by rw [hrecipe]; rfl)
    rw [hrecipe] at hscratch
    cases hscratch
  | fromScratch name spec =>
    rw [← hrecipe]
    exact scratch_reproduces_iff returnedSpec hleft hlater hrecipe

end

/-- Nothing is planned again exactly when all is collected and reproduced. -/
theorem plans_nothing_iff (henv : Accepting env) (w : World κ γ)
    (hkinds : ∀ recipe ∈ winners env config w.operands, recipe.kind = .verticalPodAutoscaler →
      ∃ name spec, recipe = .fromScratch name spec)
    (hnone : (deploy env config w).1 = none) :
    plannedActions env config ((deploy env config w).2.returned returnedSpec) = .ok .nothing ↔
      ∀ recipe ∈ winners env config w.operands, env.collectable recipe.kind = true ∧
        recipe.Reproduces returnedSpec config w.objects := by
  obtain ⟨-, hleaves, hothers⟩ := deploy_leaves henv config w ((deploy_succeeds_iff henv config w).1 hnone)
  have hget (key : Key) : ((deploy env config w).2.returned returnedSpec).objects.get key =
      ((deploy env config w).2.objects.get key).map (Object.returned returnedSpec) :=
    Store.get_map (f := Object.returned returnedSpec) _ (fun _ => rfl) key
  have hwinners : winners env config ((deploy env config w).2.returned returnedSpec).operands =
      winners env config w.operands := winners_deploy env config w
  rw [plannedActions_eq henv, Except.ok.injEq, calculateActions_eq_nothing_iff, hwinners]
  refine (and_iff_left ?_).trans ?_
  · -- whatever is collected is desired: the rest has gone
    intro object hobject
    obtain ⟨hstored, hcollectable, howned⟩ := (mem_getCurrentState (getCurrentState_eq henv config _) object).1 hobject
    by_contra hundesired
    have hkey : object.key ∉ (winners env config w.operands).map (Recipe.key config) := by
      intro hmem
      obtain ⟨recipe, hrecipe, hkey⟩ := List.mem_map.1 hmem
      exact hundesired ⟨_, List.mem_map_of_mem hrecipe, (recipe.build_key config _).trans hkey⟩
    have hfound := Store.get_of_mem hstored
    rw [hget, hothers _ hkey] at hfound
    obtain ⟨kept, hkept, rfl⟩ := Option.map_eq_some_iff.1 hfound
    have hnot := (Option.filter_eq_some_iff.1 hkept).2
    have hcollected : collected env config kept = true := Bool.and_eq_true_iff.2 ⟨hcollectable, howned⟩
    simp [hcollected] at hnot
  · rw [List.forall_mem_map]
    refine forall₂_congr fun recipe hrecipe => ?_
    have hleft := hleaves recipe hrecipe
    obtain ⟨written, hwritten, -, hcollected, -⟩ := outcome_leaves_built hleft
    rw [hwritten] at hleft
    have hlater := (hget (recipe.key config)).trans (congrArg _ hwritten)
    rw [Option.map_some] at hlater
    have hreproduces := reproduces_iff returnedSpec hleft hlater (hkinds recipe hrecipe)
    have hreturned : collected env config (written.returned returnedSpec) = env.collectable recipe.kind := hcollected
    rw [recipe.build_key, find_currentState henv, hlater, Option.filter, hreturned]
    cases env.collectable recipe.kind with
    | false => simp
    | true => simpa using hreproduces

end

end

/-! ## The operator's own services -/

section

theorem mem_of_mem_lastByKey {β : Type} {key : β → Key} {l : List β} {b : β} (h : b ∈ lastByKey key l) : b ∈ l := by
  have hfold (l found : List β)
      (hmem : b ∈ l.foldl (fun found a => found.filter (fun other => key other ≠ key a) ++ [a]) found) :
      b ∈ found ∨ b ∈ l := by
    induction l generalizing found with
    | nil => exact .inl hmem
    | cons a l ih =>
      rcases ih _ hmem with hfound | hl
      · rcases List.mem_append.1 hfound with hfound | ha
        · exact .inl (List.mem_filter.1 hfound).1
        · exact .inr (List.mem_singleton.1 ha ▸ .head _)
      · exact .inr (.tail _ hl)
  simpa using hfold l [] h

variable {σ γ α : Type} {builder : Kind → String → InstallSpec σ γ → Contents γ → Contents γ}

theorem resourceFuncs_of_operands {operand : Operand (InstallSpec σ γ) γ}
    (hoperand : operand ∈ krmConfigReconcilerOperands builder) {rf : ResourceFunc (InstallSpec σ γ) γ}
    (hrf : rf ∈ operand.resourceFuncs) :
    ∃ kind name, kind ≠ .verticalPodAutoscaler ∧ rf = resourceFunc builder kind name := by
  simp only [krmConfigReconcilerOperands, List.mem_cons, List.not_mem_nil, or_false] at hoperand
  rcases hoperand with rfl | rfl | rfl
  all_goals
    simp only [nodePoolController, projectController, podGroupAssigner, List.mem_cons, List.not_mem_nil, or_false] at hrf
    rcases hrf with rfl | rfl | rfl | rfl | rfl | rfl <;> exact ⟨_, _, by decide, rfl⟩

theorem winners_of_operands {env : Surroundings γ} {config : KRMConfig (InstallSpec σ γ)}
    {operands : List (Installed (InstallSpec σ γ) γ)}
    (hoperands : ∀ installed ∈ operands, installed.operand ∈ krmConfigReconcilerOperands builder) {recipe : Recipe γ}
    (hrecipe : recipe ∈ winners env config operands) :
    (∃ kind name, kind ≠ .verticalPodAutoscaler ∧ recipe = .fromLive kind name (builder kind name config.spec)) ∨
      ∃ name spec, recipe = .fromScratch name spec := by
  obtain ⟨installed, hinstalled, hmem⟩ := List.mem_flatMap.1 (mem_of_mem_lastByKey hrecipe)
  split_ifs at hmem
  · rcases List.mem_append.1 hmem with hmem | hmem
    · obtain ⟨rf, hrf, hrecipe⟩ := List.mem_filterMap.1 hmem
      obtain ⟨kind, name, hkind, rfl⟩ := resourceFuncs_of_operands (hoperands installed hinstalled) hrf
      obtain ⟨name', hname', hrecipe⟩ := Option.bind_eq_some_iff.1 hrecipe
      split_ifs at hrecipe
      refine .inl ⟨kind, name', hkind, ?_⟩
      have hname' : name config.spec = some name' := hname'
      rw [← Option.some.inj hrecipe]
      simp only [resourceFunc, hname', Option.map_some, Option.getD_some]
    · obtain ⟨spec, -, hrecipe⟩ := Option.bind_eq_some_iff.1 (Option.mem_toList.1 hmem)
      obtain ⟨deployment, -, rfl⟩ := Option.map_eq_some_iff.1 hrecipe
      exact .inr ⟨_, _, rfl⟩
  · cases hmem

/-- Autoscalers settle with annotations, others if no map given for them is empty. -/
def Settles (returnedSetting : α → α) (config : KRMConfig (InstallSpec (BuildSpec α) (Body α)))
    (before : Option (Object (Body α))) (object : Object (Body α)) : Prop :=
  if object.key.kind = .verticalPodAutoscaler then
    (∃ existing, before = some existing ∧ existing.contents.annotations.getD ∅ ≠ ∅) ∧
      object.contents.spec.returned returnedSetting = object.contents.spec
  else Stable returnedSetting config.spec.rest object.key.kind object.key.name

theorem settled_deployment_plans_nothing_iff [DecidableEq α] {env : Surroundings (Body α)} (henv : Accepting env)
    (returnedSetting : α → α) (marshal : ShippedRoleBinding → String)
    (config : KRMConfig (InstallSpec (BuildSpec α) (Body α))) (w : World (InstallSpec (BuildSpec α) (Body α)) (Body α))
    (hoperands : ∀ installed ∈ w.operands,
      installed.operand ∈ krmConfigReconcilerOperands (contentsFor marshal config.namespaceName))
    {desired : List (Object (Body α))} (hdesired : (getDesiredState env config w.objects w.operands).1 = .ok desired)
    (hnone : (deploy env config w).1 = none) :
    plannedActions env config ((deploy env config w).2.returned (Body.returned returnedSetting)) = .ok .nothing ↔
      ∀ object ∈ byKey desired, env.collectable object.key.kind = true ∧
        Settles returnedSetting config (w.objects.get object.key) object := by
  have hkinds : ∀ recipe ∈ winners env config w.operands, recipe.kind = .verticalPodAutoscaler →
      ∃ name spec, recipe = .fromScratch name spec := by
    intro recipe hrecipe hkind
    rcases winners_of_operands hoperands hrecipe with ⟨kind, name, hne, rfl⟩ | hscratch
    · exact absurd hkind hne
    · exact hscratch
  rw [getDesiredState_eq henv, Except.ok.injEq] at hdesired
  rw [plans_nothing_iff (Body.returned returnedSetting) henv w hkinds hnone, ← hdesired,
    byKey_map fun recipe => recipe.build_key config w.objects, List.forall_mem_map]
  refine forall₂_congr fun recipe hrecipe => ?_
  rw [recipe.build_key]
  refine and_congr_right fun _ => ?_
  rcases winners_of_operands hoperands hrecipe with ⟨kind, name, hkind, rfl⟩ | ⟨name, spec, rfl⟩
  · refine (contentsFor_rebuilt_iff returnedSetting marshal config.namespaceName hkind name config.spec _).trans ?_
    rw [Settles, Recipe.build_key]
    exact (iff_of_eq (if_neg hkind)).symm
  · rw [Settles, Recipe.build_key]
    exact (iff_of_eq (if_pos rfl)).symm

end

/-! One service, with an autoscaler or without, that is installed into an empty namespace. -/

namespace FirstInstall

def settings : BuildSpec Unit where
  openshift := none
  allowExternalQueues := none
  nodeSelector := none
  enableNodePoolValidation := none
  enableProjectValidation := none
  enableDepartmentValidation := none
  certSecretName := fun _ => "webhook-certs"
  replicas := fun _ => some 1
  limitRange := none
  extraProjectRoleBindings := []
  deleteBlockers := "[]"
  settings := fun _ _ => ()

def configWith (vpa : Option (Body Unit)) : KRMConfig (InstallSpec (BuildSpec Unit) (Body Unit)) where
  name := "kai-config"
  uid := "uid-1"
  generation := 1
  namespaceName := "kai-resource-management"
  spec := ⟨⟨true, vpa⟩, ⟨false, none⟩, ⟨false, none⟩, none, none, settings⟩
  conditions := []

def operator : World (InstallSpec (BuildSpec Unit) (Body Unit)) (Body Unit) where
  objects := .empty
  operands := freshOperands (contentsFor ShippedRoleBinding.name "kai-resource-management")

def desired (vpa : Option (Body Unit)) : List (Object (Body Unit)) :=
  (recipes server (configWith vpa) operator.operands).map fun recipe => recipe.build (configWith vpa) operator.objects

end FirstInstall

open FirstInstall TakeOver in
theorem unscaled_service_settles :
    plannedActions server (configWith none)
      ((deploy server (configWith none) operator).2.returned (Body.returned id)) = .ok .nothing := by
  have hoperands : ∀ installed ∈ operator.operands, installed.operand ∈
      krmConfigReconcilerOperands (contentsFor ShippedRoleBinding.name "kai-resource-management") := by
    intro installed hinstalled
    obtain ⟨operand, hoperand, rfl⟩ := List.mem_map.1 hinstalled
    exact hoperand
  refine (settled_deployment_plans_nothing_iff server_accepting id ShippedRoleBinding.name (configWith none) operator
    hoperands (getDesiredState_eq server_accepting (configWith none) operator.objects operator.operands) ?_).2 ?_
  · decide +kernel
  · have hkinds : ∀ object ∈ byKey (desired none),
        object.key.kind ∈ [Kind.serviceAccount, Kind.deployment, Kind.service] := by decide +kernel
    intro object hobject
    refine ⟨rfl, ?_⟩
    have hkind := hkinds object hobject
    simp only [List.mem_cons, List.not_mem_nil, or_false] at hkind
    rcases hkind with hkind | hkind | hkind
    · simp [Settles, Stable, hkind]
    · simp [Settles, Stable, hkind, configWith, settings]
    · simp [Settles, Stable, hkind]

open FirstInstall TakeOver in
theorem scaled_service_updated_again :
    (deploy server (configWith (some default)) operator).1 = none ∧
      ∃ actions, plannedActions server (configWith (some default))
          ((deploy server (configWith (some default)) operator).2.returned (Body.returned id)) = .ok actions ∧
        actions.toUpdate.map Object.key =
          [⟨.verticalPodAutoscaler, "kai-resource-management", "nodepool-controller"⟩] := by
  -- The autoscaler that the first deployment has created is updated by the second.
  refine ⟨by decide +kernel, _, plannedActions_eq server_accepting _ _, ?_⟩
  decide +kernel

end Krm.Operator
