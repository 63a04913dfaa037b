import Krm.Operator.Operands
import Krm.Operator.Outcome

/-! # Objects that are there already

A deployment takes over what it desires and does not control. An object that was built from the live one carries its
version; the autoscaler is built from scratch, and the API server does not take its update without one. -/

open Krm.Lib

namespace Krm.Operator

section

variable {κ γ : Type}

theorem inheritFieldsFromCurrent_version {existing object : Object γ}
    (h : object.resourceVersion = existing.resourceVersion ∨ object.key.kind = .verticalPodAutoscaler) :
    (inheritFieldsFromCurrent existing object).resourceVersion = existing.resourceVersion := by
  unfold inheritFieldsFromCurrent
  split_ifs with hkind
  · rfl
  · exact h.resolve_right hkind

theorem updateAccepted_of_version {object existing : Object γ} (h : object.resourceVersion = existing.resourceVersion)
    (hversion : existing.resourceVersion.isSome = true) : updateAccepted object existing = true := by
  obtain ⟨version, hversion⟩ := Option.isSome_iff_exists.1 hversion
  simp [updateAccepted, h, hversion]

theorem updateAccepted_of_scratch {object existing : Object γ} (h : object.resourceVersion = none)
    (hkind : object.key.kind = .verticalPodAutoscaler) : updateAccepted object existing = false := by
  simp [updateAccepted, h, hkind, Kind.isCustomResource]

variable [Inhabited γ]

theorem Recipe.build_version (config : KRMConfig κ) {objects : ObjectStore γ} {recipe : Recipe γ} {existing : Object γ}
    (hget : objects.get (recipe.key config) = some existing) :
    (recipe.build config objects).resourceVersion = existing.resourceVersion ∨
      ((recipe.build config objects).resourceVersion = none ∧ recipe.kind = .verticalPodAutoscaler) := by
  cases recipe with
  | fromLive kind name fill =>
    refine .inl ?_
    simp only [build, hget, Option.getD_some]
  | fromScratch name spec => exact .inr ⟨rfl, rfl⟩

theorem Recipe.build_version_none (config : KRMConfig κ) {objects : ObjectStore γ} {recipe : Recipe γ}
    (hget : objects.get (recipe.key config) = none) : (recipe.build config objects).resourceVersion = none := by
  cases recipe with
  | fromLive kind name fill => simp [build, hget, Object.fresh]
  | fromScratch name spec => rfl

variable [DecidableEq γ] {env : Surroundings γ} (config : KRMConfig κ) {objects : ObjectStore γ} {recipe : Recipe γ}

theorem outcome_isSome_iff (hversions : ∀ object ∈ objects.items, object.resourceVersion.isSome) :
    (outcome env config (recipe.build config objects) (objects.get (recipe.key config))).isSome ↔
      ((recipe.build config objects).resourceVersion = none →
        ∀ held, objects.get (recipe.key config) = some held → collected env config held = true) := by
  -- One write fails: that of an object from scratch under a key that is held by what is not collected.
  have hkind : (recipe.build config objects).key.kind = recipe.kind := by
    rw [recipe.build_key]
    rfl
  cases hget : objects.get (recipe.key config) with
  | none => simp [outcome, createAccepted, recipe.build_version_none config hget]
  | some existing =>
    have hversion := hversions existing (Store.get_mem hget)
    cases hcollected : collected env config existing with
    | true =>
      refine iff_of_true ?_ fun _ held hheld => by cases hheld; exact hcollected
      have hinherited : updateAccepted (inheritFieldsFromCurrent existing (recipe.build config objects)) existing = true := by
        refine updateAccepted_of_version (inheritFieldsFromCurrent_version ?_) hversion
        exact (recipe.build_version config hget).imp id fun h => hkind.trans h.2
      simp only [outcome, Option.filter, hcollected, if_true, Option.any_some, hinherited]
      split_ifs
      · rfl
      · rfl
    | false =>
      simp only [outcome, Option.filter, hcollected, Bool.false_eq_true, if_false, createAccepted]
      rcases recipe.build_version config hget with hlive | ⟨hscratch, hvpa⟩
      · refine iff_of_true ?_ fun hnone => ?_
        · simp [updateAccepted_of_version hlive hversion]
        · rw [← hlive, hnone] at hversion
          cases hversion
      · simp [updateAccepted_of_scratch hscratch (hkind.trans hvpa), hscratch, hcollected]

/-- Taken over exactly when no object from scratch is held by an uncollected one. -/
theorem existing_objects_taken_over_iff (henv : Accepting env) (hname : '/' ∉ config.name.toList) (w : World κ γ)
    (hversions : ∀ object ∈ w.objects.items, object.resourceVersion.isSome) {desired : List (Object γ)}
    (hdesired : (getDesiredState env config w.objects w.operands).1 = .ok desired) {object existing : Object γ}
    (hobject : object ∈ byKey desired) (hexisting : w.objects.get object.key = some existing)
    (hforeign : ¬ ControlledBy config existing) :
    ((deploy env config w).1 = none ∧ ∃ live, (deploy env config w).2.objects.get object.key = some live ∧
      live.contents = object.contents ∧
      controllerOf live.ownerReferences = some (reconcilerAsOwnerReference config)) ↔
    ∀ scratch ∈ byKey desired, scratch.resourceVersion = none → ∀ held, w.objects.get scratch.key = some held →
      collected env config held = true := by
  rw [getDesiredState_eq henv, Except.ok.injEq] at hdesired
  have hwinners : byKey desired = (winners env config w.operands).map fun recipe => recipe.build config w.objects := by
    rw [← hdesired, byKey_map fun recipe => recipe.build_key config w.objects]
    rfl
  have hcondition : (∀ scratch ∈ byKey desired, scratch.resourceVersion = none → ∀ held,
      w.objects.get scratch.key = some held → collected env config held = true) ↔
      ∀ recipe ∈ winners env config w.operands,
        (outcome env config (recipe.build config w.objects) (w.objects.get (recipe.key config))).isSome := by
    rw [hwinners, List.forall_mem_map]
    refine forall₂_congr fun recipe _ => ?_
    rw [outcome_isSome_iff config hversions, recipe.build_key]
  rw [hcondition]
  refine ⟨fun h => (deploy_succeeds_iff henv config w).1 h.1, fun h => ?_⟩
  obtain ⟨hnone, hleaves, -⟩ := deploy_leaves henv config w h
  refine ⟨hnone, ?_⟩
  rw [hwinners] at hobject
  obtain ⟨recipe, hrecipe, rfl⟩ := List.mem_map.1 hobject
  rw [recipe.build_key] at hexisting ⊢
  have hleft := hleaves recipe hrecipe
  have hnot : collected env config existing = false := by
    rw [collected, Bool.and_eq_false_iff]
    exact .inr (Bool.eq_false_iff.2 fun howned => hforeign ((ownedByConfig_iff hname existing).1 howned))
  rw [hexisting] at hleft
  simp only [outcome, Option.filter, hnot, Bool.false_eq_true, if_false] at hleft
  split_ifs at hleft
  exact ⟨_, (Option.some.inj hleft).symm, rfl, rfl⟩

end

/-! One service with an autoscaler. -/

namespace TakeOver

def scaledService : KRMConfig (InstallSpec Unit Unit) where
  name := "kai-config"
  uid := "uid-1"
  generation := 1
  namespaceName := "kai-resource-management"
  spec := ⟨⟨true, some ()⟩, ⟨false, none⟩, ⟨false, none⟩, none, none, ()⟩
  conditions := []

theorem server_accepting {γ : Type} : Accepting (server : Surroundings γ) where
  reads := fun _ _ h => absurd h (Option.some_ne_none _).symm
  collects := fun _ => rfl
  creates := fun _ => rfl
  takeovers := fun _ => rfl
  deletes := fun _ => rfl
  unheld := fun _ => rfl
  updates := fun _ => rfl

/-- An object that an administrator has made. -/
def handMade (kind : Kind) : Object Unit :=
  { (Object.fresh ⟨kind, "kai-resource-management", "nodepool-controller"⟩ : Object Unit) with resourceVersion := some 7 }

def operatorBeside (kind : Kind) : World (InstallSpec Unit Unit) Unit where
  objects := .single (handMade kind)
  operands := freshOperands fun _ _ _ contents => contents

def desiredBeside (kind : Kind) : List (Object Unit) :=
  (recipes server scaledService (operatorBeside kind).operands).map fun recipe =>
    recipe.build scaledService (operatorBeside kind).objects

theorem desired_eq (kind : Kind) :
    (getDesiredState server scaledService (operatorBeside kind).objects (operatorBeside kind).operands).1 =
      .ok (desiredBeside kind) :=
  getDesiredState_eq server_accepting scaledService (operatorBeside kind).objects (operatorBeside kind).operands

theorem handMade_foreign (kind : Kind) : ¬ ControlledBy scaledService (handMade kind) := by
  rintro ⟨owner, howner, -⟩
  exact absurd howner (by simp [handMade, Object.fresh, controllerOf])

theorem operatorBeside_versions (kind : Kind) :
    ∀ object ∈ (operatorBeside kind).objects.items, object.resourceVersion.isSome := by
  intro object hobject
  rw [List.mem_singleton.1 hobject]
  rfl

end TakeOver

open TakeOver in
theorem handMade_deployment_taken_over :
    (deploy server scaledService (operatorBeside .deployment)).1 = none ∧
      ∃ live, (deploy server scaledService (operatorBeside .deployment)).2.objects.get (handMade .deployment).key =
          some live ∧
        controllerOf live.ownerReferences = some (reconcilerAsOwnerReference scaledService) := by
  have hfree : ∀ scratch ∈ byKey (desiredBeside .deployment), scratch.resourceVersion = none →
      (operatorBeside .deployment).objects.get scratch.key = none := by decide +kernel
  have htaken := existing_objects_taken_over_iff scaledService server_accepting (by decide) (operatorBeside .deployment)
    (operatorBeside_versions .deployment) (desired_eq .deployment) (.tail _ (.head _)) rfl (handMade_foreign .deployment)
  obtain ⟨hnone, live, hlive, -, hcontroller⟩ := htaken.2 fun scratch hscratch hversion held hheld =>
    absurd (hheld.symm.trans (hfree scratch hscratch hversion)) (Option.some_ne_none held)
  exact ⟨hnone, live, hlive, hcontroller⟩

open TakeOver in
theorem handMade_autoscaler_not_taken_over :
    ∃ object ∈ byKey (desiredBeside .verticalPodAutoscaler),
      (operatorBeside .verticalPodAutoscaler).objects.get object.key = some (handMade .verticalPodAutoscaler) ∧
      ¬ ControlledBy scaledService (handMade .verticalPodAutoscaler) ∧
      (deploy server scaledService (operatorBeside .verticalPodAutoscaler)).1 =
        some ⟨"failed taking ownership on autoscaling.k8s.io/v1, Kind=VerticalPodAutoscaler " ++
            "kai-resource-management/nodepool-controller: ",
          .failed "metadata.resourceVersion: Invalid value: 0x0: must be specified for an update"⟩ ∧
      (deploy server scaledService (operatorBeside .verticalPodAutoscaler)).2.objects.get object.key =
        some (handMade .verticalPodAutoscaler) := by
  -- The autoscaler of the service is there and has no controller: it stays as it is, and the deployment fails.
  refine ⟨_, .tail _ (.tail _ (.tail _ (.head _))), rfl, handMade_foreign .verticalPodAutoscaler, ?_, ?_⟩
  · decide +kernel
  · rfl

end Krm.Operator
