import Krm.Lib.Runs
import Krm.Status.Project
import Mathlib.Algebra.Ring.Int.Defs

/-! # The quota totals of a project -/

open Krm.Lib

namespace Krm.Status

/-! ## What the totals should be -/

/-- The quantities of a resource in the order of the entries. -/
def amounts (figure : Figure) (entries : List QuotaStatus) (resource : String) : List Quantity :=
  entries.filterMap fun entry => (figure.ofQueue entry.queueStatus).lookup resource

def Reported (figure : Figure) (entries : List QuotaStatus) (resource : String) : Prop :=
  amounts figure entries resource ≠ []

instance (figure : Figure) (entries : List QuotaStatus) (resource : String) :
    Decidable (Reported figure entries resource) :=
  inferInstanceAs (Decidable (amounts figure entries resource ≠ []))

def total (figure : Figure) (entries : List QuotaStatus) (resource : String) : Int :=
  ((amounts figure entries resource).map Number.amount).sum

variable (figure : Figure)

theorem reduceOption_column (entries : List QuotaStatus) (resource : String) :
    (column figure resource entries).reduceOption = amounts figure entries resource := by
  unfold column amounts List.reduceOption
  rw [List.filterMap_map]
  rfl

theorem reported_iff_mem {figure : Figure} {entries : List QuotaStatus} {resource : String} :
    Reported figure entries resource ↔ ∃ entry ∈ entries, resource ∈ figure.ofQueue entry.queueStatus := by
  simp only [Reported, amounts, ne_eq, List.filterMap_eq_nil_iff, not_forall, exists_prop, Finmap.lookup_eq_none,
    not_not]

/-! ## What the code computes -/

theorem map_modify {α β : Type} (g : α → β) {f : α → α} (f' : β → β) (h : ∀ a, g (f a) = f' (g a)) (l : List α)
    (i : Nat) : (l.modify i f).map g = (l.map g).modify i f' := by
  rw [List.modify_eq_take_drop, List.modify_eq_take_drop, List.map_append, List.map_take, ← List.map_drop]
  cases l.drop i <;> simp [h]

theorem column_writeThrough (figure figure' : Figure) (resource name : String) (amount : Int)
    (entries : List QuotaStatus) (owner : Nat) :
    column figure' resource (entries.modify owner (writeThrough figure name amount)) =
      if figure' = figure ∧ resource = name then
        (column figure' resource entries).modify owner (Option.map (·.add amount))
      else column figure' resource entries := by
  have hlookup : ∀ entry : QuotaStatus,
      (figure'.ofQueue (writeThrough figure name amount entry).queueStatus).lookup resource =
        if figure' = figure ∧ resource = name then
          ((figure'.ofQueue entry.queueStatus).lookup resource).map (·.add amount)
        else (figure'.ofQueue entry.queueStatus).lookup resource := by
    intro entry
    cases figure <;> cases figure' <;> simp [writeThrough, Figure.update, Figure.ofQueue, lookup_addAt]
  unfold column
  split_ifs with hsame
  · refine map_modify _ _ (fun entry => ?_) entries owner
    rw [hlookup, if_pos hsame]
  · rw [map_modify _ id (fun entry => ?_) entries owner, List.modify_id]
    rw [hlookup, if_neg hsame]
    rfl

section

variable (figure : Figure) (resource : String)

/-- One resource of the entries and its total. -/
def cell (s : List QuotaStatus × Totals) : List (Option Quantity) × Option Accumulator :=
  (column figure resource s.1, s.2.lookup resource)

variable (place : Nat)

theorem cell_addQuantity (s : List QuotaStatus × Totals) (name : String) (q : Quantity) :
    cell figure resource (addQuantity figure place s name q) =
      if resource = name then Accumulator.add place (cell figure resource s) q else cell figure resource s := by
  unfold cell addQuantity Accumulator.add
  split_ifs with hname
  · subst hname
    rcases s.2.lookup resource with _ | _ | owner
    · simp only [Finmap.lookup_insert]
    · simp only [Finmap.lookup_insert]
    · simp only [Finmap.lookup_insert, column_writeThrough, true_and, if_true]
  · rcases s.2.lookup name with _ | _ | owner
    · simp only [Finmap.lookup_insert_of_ne _ hname]
    · simp only [Finmap.lookup_insert_of_ne _ hname]
    · simp only [Finmap.lookup_insert_of_ne _ hname, column_writeThrough, hname, and_false, if_false]

theorem cell_addResourceList (s : List QuotaStatus × Totals) (toAdd : ResourceList) :
    cell figure resource (addResourceList figure place s toAdd) =
      match toAdd.lookup resource with
      | some q => Accumulator.add place (cell figure resource s) q
      | none => cell figure resource s := by
  have hlist : ∀ l : List (Sigma fun _ : String => Quantity), l.NodupKeys → ∀ s : List QuotaStatus × Totals,
      cell figure resource (l.foldl (fun s entry => addQuantity figure place s entry.1 entry.2) s) =
        match l.dlookup resource with
        | some q => Accumulator.add place (cell figure resource s) q
        | none => cell figure resource s := by
    intro l hl
    induction l with
    | nil => exact fun _ => rfl
    | cons entry l ih =>
      intro s
      obtain ⟨name, q⟩ := entry
      obtain ⟨hfresh, hrest⟩ := List.nodupKeys_cons.1 hl
      rw [List.foldl_cons, ih hrest, cell_addQuantity]
      by_cases hname : resource = name
      · subst hname
        rw [List.dlookup_cons_eq, List.dlookup_eq_none.2 hfresh, if_pos rfl]
      · rw [List.dlookup_cons_ne _ _ hname, if_neg hname]
  induction toAdd using Finmap.induction_on with
  | _ l => exact hlist l.entries l.nodupKeys s

theorem column_addResourceList {figure' : Figure} (h : figure ≠ figure') (place : Nat)
    (s : List QuotaStatus × Totals) (toAdd : ResourceList) :
    column figure resource (addResourceList figure' place s toAdd).1 = column figure resource s.1 := by
  induction toAdd using Finmap.induction_on with
  | _ l =>
    change column figure resource
      (l.entries.foldl (fun s entry => addQuantity figure' place s entry.1 entry.2) s).1 = _
    induction l.entries generalizing s with
    | nil => rfl
    | cons entry entries ih =>
      rw [List.foldl_cons, ih]
      unfold addQuantity
      split
      · rfl
      · exact (column_writeThrough figure' figure resource entry.1 _ _ _).trans (if_neg fun hsame => h hsame.1)
      · rfl

/-- One resource's entries and total, in one figure of the sum. -/
def sumCell (s : List QuotaStatus × ProjectQuotaStatus) : List (Option Quantity) × Option Accumulator :=
  cell figure resource (s.1, figure.ofProject s.2)

theorem sumCell_addFigure (s : List QuotaStatus × ProjectQuotaStatus) (figure' : Figure) :
    sumCell figure resource (addFigure place s figure') =
      if figure = figure' then Accumulator.visit (sumCell figure resource s) place else sumCell figure resource s := by
  have hplace : (column figure resource s.1)[place]?.join =
      s.1[place]?.bind fun entry => (figure.ofQueue entry.queueStatus).lookup resource := by
    unfold column
    rw [List.getElem?_map]
    cases s.1[place]? with
    | none => rfl
    | some entry => rfl
  unfold addFigure
  split_ifs with hfigure
  · subst hfigure
    have hset : ∀ totals, figure.ofProject (figure.set totals s.2) = totals := by cases figure <;> exact fun _ => rfl
    unfold Accumulator.visit
    rw [sumCell, sumCell, cell, cell, hplace]
    cases hentry : s.1[place]? with
    | none => rfl
    | some entry =>
      have hadd := cell_addResourceList figure resource place (s.1, figure.ofProject s.2)
        (figure.ofQueue entry.queueStatus)
      dsimp only
      rw [hset]
      exact hadd
  · have hset : ∀ totals, figure.ofProject (figure'.set totals s.2) = figure.ofProject s.2 := by
      cases figure <;> cases figure' <;> first | exact fun _ => rfl | exact absurd rfl hfigure
    cases s.1[place]? with
    | none => rfl
    | some entry =>
      dsimp only
      rw [sumCell, sumCell, cell, cell, hset, column_addResourceList figure resource hfigure]

theorem sumCell_addEntry (s : List QuotaStatus × ProjectQuotaStatus) (place : Nat) :
    sumCell figure resource (addEntry s place) = Accumulator.visit (sumCell figure resource s) place := by
  simp only [addEntry, List.foldl_cons, List.foldl_nil, sumCell_addFigure]
  cases figure <;> simp

theorem sumCell_foldl (places : List Nat) (s : List QuotaStatus × ProjectQuotaStatus) :
    sumCell figure resource (places.foldl addEntry s) = places.foldl Accumulator.visit (sumCell figure resource s) := by
  induction places generalizing s with
  | nil => rfl
  | cons place places ih => rw [List.foldl_cons, List.foldl_cons, ih, sumCell_addEntry]

end

abbrev entriesBefore (status : ProjectStatus) : List QuotaStatus := status.nodePoolsQuotaStatuses.getD []

def entriesAfter (status : ProjectStatus) : List QuotaStatus :=
  (sumNodePoolsQuotaStatusesToProjectQuotaStatus status).nodePoolsQuotaStatuses.getD []

def totals (status : ProjectStatus) : Totals :=
  figure.ofProject (sumNodePoolsQuotaStatusesToProjectQuotaStatus status).quotaStatus

theorem sum_eq (resource : String) (status : ProjectStatus) :
    (column figure resource (entriesAfter status), (totals figure status).lookup resource) =
      Accumulator.sumInPlace (column figure resource (entriesBefore status)) := by
  have hempty : figure.ofProject ⟨∅, ∅, ∅⟩ = ∅ := by cases figure <;> rfl
  unfold entriesAfter entriesBefore totals sumNodePoolsQuotaStatusesToProjectQuotaStatus
  cases status.nodePoolsQuotaStatuses with
  | none =>
    dsimp only
    rw [hempty]
    rfl
  | some entries =>
    have hcell := sumCell_foldl figure resource (List.range entries.length) (entries, ⟨∅, ∅, ∅⟩)
    unfold sumCell cell at hcell
    rw [hempty, Finmap.lookup_empty] at hcell
    have hlength : (column figure resource entries).length = entries.length := List.length_map _
    unfold Accumulator.sumInPlace
    dsimp only [Option.getD_some]
    rw [hlength]
    exact hcell

section

variable (figure : Figure) (resource : String) (status : ProjectStatus)

theorem summed : Accumulator.Summed (column figure resource (entriesBefore status))
    (column figure resource (entriesAfter status)) ((totals figure status).lookup resource) := by
  have hsummed := Accumulator.summed_sumInPlace (column figure resource (entriesBefore status))
  rw [← sum_eq] at hsummed
  exact hsummed

theorem reported_entriesAfter : Reported figure (entriesAfter status) resource ↔
    Reported figure (entriesBefore status) resource := by
  have hisSome := (summed figure resource status).isSome_eq
  have hreported : ∀ entries, Reported figure entries resource ↔
      true ∈ (column figure resource entries).map Option.isSome := by
    intro entries
    rw [reported_iff_mem]
    simp [column, Option.isSome_iff_exists, Finmap.mem_iff]
  rw [hreported, hreported, hisSome]

theorem total_entriesAfter : total figure (entriesAfter status) resource =
    total figure (entriesBefore status) resource +
      Number.gain (column figure resource (entriesBefore status)) := by
  have htotal := (summed figure resource status).total_eq
  unfold Number.total at htotal
  rw [reduceOption_column, reduceOption_column] at htotal
  exact htotal

theorem lookup_sum :
    ((totals figure status).lookup resource).map (Accumulator.value (column figure resource (entriesAfter status))) =
      if Reported figure (entriesBefore status) resource then
        some (total figure (entriesBefore status) resource)
      else none := by
  have hvalue := (summed figure resource status).value_eq
  rw [Number.total, reduceOption_column] at hvalue
  rw [hvalue]
  by_cases hamounts : amounts figure (entriesBefore status) resource = []
  · rw [if_pos hamounts]
    exact (if_neg (not_not.2 hamounts)).symm
  · rw [if_neg hamounts]
    exact (if_pos hamounts).symm

end

/-! ## The stored status -/

def storedStatus (stored : Json Leaf) : Json Leaf := stored.field "status"

def storedEntries (stored : Json Leaf) : List QuotaStatus :=
  match (storedStatus stored).field "nodePoolsQuotaStatuses" with
  | .leaf (.quotaStatuses entries) => entries
  | _ => []

def storedFigure (stored : Json Leaf) (figure : Figure) : Json Leaf :=
  ((storedStatus stored).field "quotaStatus").field figure.name

def storedAmount (stored : Json Leaf) (figure : Figure) (resource : String) : Option (Json Leaf) :=
  (storedFigure stored figure).get resource

/-- Each figure has exactly the reported resources, with their sums. -/
def Exact (stored : Json Leaf) : Prop :=
  ∀ figure resource, storedAmount stored figure resource =
    if Reported figure (storedEntries stored) resource then
      some (.leaf (.quantity (total figure (storedEntries stored) resource)))
    else none

/-- No stored resource is lost from a figure that is not lost as a whole. -/
def NamesKept (stored : Json Leaf) (entries : List QuotaStatus) : Prop :=
  ∀ figure, (∀ entry ∈ entries, figure.ofQueue entry.queueStatus = ∅) ∨
    ∀ resource, storedAmount stored figure resource ≠ none → Reported figure entries resource

/-- Each first quantity has no pointer, or the others come to nothing. -/
def EntriesKept (entries : List QuotaStatus) : Prop :=
  ∀ figure resource first rest, amounts figure entries resource = first :: rest → first.boxed = true →
    (rest.map Number.amount).sum = 0

theorem gain_eq_zero_iff (entries : List QuotaStatus) (resource : String) :
    Number.gain (column figure resource entries) = 0 ↔ ∀ first rest, amounts figure entries resource = first :: rest →
      first.boxed = true → (rest.map Number.amount).sum = 0 := by
  unfold Number.gain
  rw [reduceOption_column]
  cases amounts figure entries resource with
  | nil => simp
  | cons first rest => simp +contextual

section

variable (stored : Json Leaf) (status : ProjectStatus)

def patched : Json Leaf :=
  stored.mergePatch (updateProjectStatusPatchBytes (sumNodePoolsQuotaStatusesToProjectQuotaStatus status))

theorem storedEntries_patched : storedEntries (patched stored status) = entriesAfter status := by
  unfold storedEntries storedStatus patched updateProjectStatusPatchBytes
  rw [Json.field_mergePatch _ rfl, Json.field_mergePatch _ rfl]
  rfl

variable (figure : Figure)

theorem storedFigure_patched : storedFigure (patched stored status) figure =
    (storedFigure stored figure).mergePatch
      (resourceListForPatch (entriesAfter status) figure (totals figure status)) := by
  unfold storedFigure storedStatus patched updateProjectStatusPatchBytes
  rw [Json.field_mergePatch _ rfl, Json.field_mergePatch _ rfl]
  cases figure with
  | allocated => exact Json.field_mergePatch _ rfl
  | allocatedNonPreemptible => exact Json.field_mergePatch _ rfl
  | requested => exact Json.field_mergePatch _ rfl

theorem get_mergePatch_resourceList (target : Json Leaf) (entries : List QuotaStatus) (figure : Figure) (rl : Totals)
    (resource : String) :
    (target.mergePatch (resourceListForPatch entries figure rl)).get resource =
      if rl = ∅ then none
      else match (rl.lookup resource).map (Accumulator.value (column figure resource entries)) with
        | some amount => some (.leaf (.quantity amount))
        | none => target.get resource := by
  unfold resourceListForPatch
  split_ifs with hempty
  · rfl
  · rw [Json.get_mergePatch]
    cases hlookup : rl.lookup resource with
    | some q =>
      have hmem : resource ∈ rl.keys := Finmap.mem_keys.2 (Finmap.mem_of_lookup_eq_some hlookup)
      rw [if_pos hmem]
      rfl
    | none =>
      have hnot : resource ∉ rl.keys := fun hmem => Finmap.lookup_eq_none.1 hlookup (Finmap.mem_keys.1 hmem)
      rw [if_neg hnot]
      rfl

theorem sum_eq_empty_iff :
    totals figure status = ∅ ↔
      ∀ entry ∈ entriesBefore status, figure.ofQueue entry.queueStatus = ∅ := by
  have hempty : ∀ {β : Type} (rl : Finmap fun _ : String => β), rl = ∅ ↔ ∀ resource, rl.lookup resource = none := by
    intro β rl
    refine ⟨?_, fun h => Finmap.ext_lookup fun resource => by rw [h, Finmap.lookup_empty]⟩
    rintro rfl resource
    exact Finmap.lookup_empty resource
  have hnone : ∀ resource, (totals figure status).lookup resource = none ↔
      ¬Reported figure (entriesBefore status) resource := by
    intro resource
    rw [← Option.map_eq_none_iff, lookup_sum, ite_eq_right_iff]
    simp
  simp only [hempty, hnone, reported_iff_mem, not_exists, not_and, Finmap.lookup_eq_none]
  exact ⟨fun h entry hentry resource => h resource entry hentry, fun h resource entry hentry => h entry hentry resource⟩

/-- Totals are merged into the stored ones; an empty figure clears them. -/
theorem storedAmount_patched (resource : String) :
    storedAmount (patched stored status) figure resource =
      if Reported figure (entriesBefore status) resource then
        some (.leaf (.quantity (total figure (entriesBefore status) resource)))
      else if ∀ entry ∈ entriesBefore status, figure.ofQueue entry.queueStatus = ∅ then none
      else storedAmount stored figure resource := by
  rw [storedAmount, storedFigure_patched, get_mergePatch_resourceList, lookup_sum]
  simp only [sum_eq_empty_iff]
  by_cases hreported : Reported figure (entriesBefore status) resource
  · have hsome : ¬∀ entry ∈ entriesBefore status, figure.ofQueue entry.queueStatus = ∅ := by
      intro hall
      obtain ⟨entry, hentry, hmem⟩ := reported_iff_mem.1 hreported
      rw [hall entry hentry] at hmem
      exact Finmap.notMem_empty hmem
    rw [if_neg hsome, if_pos hreported, if_pos hreported]
  · rw [if_neg hreported, if_neg hreported]
    rfl

theorem exact_patched_iff : Exact (patched stored status) ↔
    NamesKept stored (entriesBefore status) ∧ EntriesKept (entriesBefore status) := by
  have hcell : ∀ figure resource, (storedAmount (patched stored status) figure resource =
      if Reported figure (entriesAfter status) resource then
        some (.leaf (.quantity (total figure (entriesAfter status) resource)))
      else none) ↔
      ((∀ entry ∈ entriesBefore status, figure.ofQueue entry.queueStatus = ∅) ∨
        (storedAmount stored figure resource ≠ none → Reported figure (entriesBefore status) resource)) ∧
      Number.gain (column figure resource (entriesBefore status)) = 0 := by
    intro figure resource
    simp only [storedAmount_patched, reported_entriesAfter, total_entriesAfter]
    by_cases hreported : Reported figure (entriesBefore status) resource
    · -- The total is the sum of the entries as they were; what an entry has gained is not in it.
      simp [hreported]
    · have hgain : Number.gain (column figure resource (entriesBefore status)) = 0 := by
        simp only [Number.gain, reduceOption_column, not_not.1 hreported]
      by_cases hcleared : ∀ entry ∈ entriesBefore status, figure.ofQueue entry.queueStatus = ∅
      · simp only [hreported, if_false, if_pos hcleared, hgain, and_true, true_iff]
        exact .inl hcleared
      · simp only [hreported, if_false, hcleared, false_or, hgain, and_true, imp_false, not_not]
  unfold Exact NamesKept EntriesKept
  simp only [storedEntries_patched, hcell, forall_and, gain_eq_zero_iff, forall_or_left]

end

/-! ## Runs -/

inductive Event where
  | setQueues (queues : List StatusQueue)
  | setNamespaces (namespaces : List Namespace)
  /-- With the status that was read, its conditions up to date. -/
  | reconcileStatus (fault : Faults) (status : ProjectStatus) (conditionsChanged : Bool)
  | reconcileStatusOnDeletion (fault : Faults) (status : ProjectStatus) (conditionsChanged : Bool)

section

variable (cfg : StatusConfig) (project : String)

def step (c : Cluster) : Event → Cluster
  | .setQueues queues => { c with queues := queues }
  | .setNamespaces namespaces => { c with namespaces := namespaces }
  | .reconcileStatus fault status conditionsChanged =>
    { c with stored := (reconcileStatus cfg fault c project status conditionsChanged).2 }
  | .reconcileStatusOnDeletion fault status conditionsChanged =>
    { c with stored := (reconcileStatusOnDeletion fault c status conditionsChanged).2 }

/-- The status in memory of an event whose patch succeeds. -/
def sent (c : Cluster) : Event → Option ProjectStatus
  | .reconcileStatus fault status conditionsChanged =>
    let next := (getProjectStatus cfg fault c project status conditionsChanged).2
    if isUpdateNeeded next status conditionsChanged ∧ fault .patch = none then some next else none
  | .reconcileStatusOnDeletion fault status conditionsChanged =>
    let next := setPhase status conditionsChanged true
    if isUpdateNeeded next status conditionsChanged ∧ fault .patch = none then some next else none
  | _ => none

/-- Those of the listed queues, or those it was given. -/
def entries (c : Cluster) : Event → List QuotaStatus
  | .reconcileStatus fault status _ =>
    match fault .queues with
    | some _ => entriesBefore status
    | none => (listProjectQueues cfg c.queues project).map fun queue =>
        ⟨getObjectNodePoolFromLabels cfg queue.labels, queue.status⟩
  | .reconcileStatusOnDeletion _ status _ => entriesBefore status
  | _ => []

end

variable {cfg : StatusConfig} {project : String}

theorem updateProjectStatusIfNeeded_stored (fault : Faults) (stored : Json Leaf) (next status : ProjectStatus)
    (conditionsChanged : Bool) : (updateProjectStatusIfNeeded fault stored next status conditionsChanged).2 =
      if isUpdateNeeded next status conditionsChanged ∧ fault .patch = none then patched stored next else stored := by
  unfold updateProjectStatusIfNeeded updateStatus patched
  cases isUpdateNeeded next status conditionsChanged with
  | false => simp
  | true =>
    cases fault .patch with
    | some message => simp
    | none => simp

theorem step_stored (c : Cluster) (e : Event) : (step cfg project c e).stored =
    match sent cfg project c e with
    | some status => patched c.stored status
    | none => c.stored := by
  cases e with
  | setQueues queues => rfl
  | setNamespaces namespaces => rfl
  | reconcileStatus fault status conditionsChanged =>
    rw [step, reconcileStatus, sent]
    dsimp only
    rw [updateProjectStatusIfNeeded_stored]
    split_ifs <;> rfl
  | reconcileStatusOnDeletion fault status conditionsChanged =>
    rw [step, reconcileStatusOnDeletion, sent]
    dsimp only
    rw [updateProjectStatusIfNeeded_stored]
    split_ifs <;> rfl

theorem setNamespace_entries (fault : Faults) (namespaces : List Namespace) (status : ProjectStatus) :
    entriesBefore (setNamespace cfg fault namespaces project status).2 = entriesBefore status := by
  unfold setNamespace
  split <;> rfl

theorem setPhase_entries (status : ProjectStatus) (conditionsChanged onDeletion : Bool) :
    entriesBefore (setPhase status conditionsChanged onDeletion) = entriesBefore status := by
  unfold setPhase
  split <;> rfl

variable (cfg project) in
theorem setQuotaStatuses_entries (fault : Faults) (queues : List StatusQueue) (status : ProjectStatus) :
    entriesBefore (setQuotaStatuses cfg fault queues project status).2 =
      match fault .queues with
      | some _ => entriesBefore status
      | none => (listProjectQueues cfg queues project).map fun queue =>
          ⟨getObjectNodePoolFromLabels cfg queue.labels, queue.status⟩ := by
  unfold setQuotaStatuses
  cases fault .queues with
  | some message => rfl
  | none => rfl

theorem sent_entries {c : Cluster} {e : Event} {status : ProjectStatus} (h : sent cfg project c e = some status) :
    entriesBefore status = entries cfg project c e := by
  cases e with
  | setQueues queues => cases h
  | setNamespaces namespaces => cases h
  | reconcileStatus fault given conditionsChanged =>
    rw [sent] at h
    split_ifs at h
    cases h
    have hset := setQuotaStatuses_entries cfg project fault c.queues
      (setPhase (setNamespace cfg fault c.namespaces project given).2 conditionsChanged false)
    rw [setPhase_entries, setNamespace_entries] at hset
    exact hset
  | reconcileStatusOnDeletion fault given conditionsChanged =>
    rw [sent] at h
    split_ifs at h
    cases h
    rw [entries, setPhase_entries]

variable (cfg project) in
theorem totals_exact_iff_names_kept (c : Cluster) (events : List Event) :
    Along (step cfg project) (fun c e => (sent cfg project c e).isSome → Exact (step cfg project c e).stored) c events ↔
    Along (step cfg project)
      (fun c e => (sent cfg project c e).isSome →
        NamesKept c.stored (entries cfg project c e) ∧ EntriesKept (entries cfg project c e)) c events := by
  refine Along.congr (fun c e => ?_) c events
  cases hsent : sent cfg project c e with
  | none => simp
  | some status =>
    have hstored : (step cfg project c e).stored = patched c.stored status := by rw [step_stored, hsent]
    rw [hstored, exact_patched_iff, sent_entries hsent]

/-! ## A resource that is no longer reported -/

namespace Sample

def config : StatusConfig where
  toConfig := .default false
  namespaceProjectLabelKey := "kai/project"

def queue (name : String) (allocated : ResourceList) : StatusQueue where
  name := name
  labels := (∅ : Labels).insert "project" "p"
  ownerReferences := []
  spec := ⟨name, "", none, none⟩
  resourceVersion := 1
  status := ⟨[], [], ∅, allocated, ∅⟩

def one (resource : String) (amount : Int) (boxed : Bool) : ResourceList := (∅ : ResourceList).insert resource ⟨amount, boxed⟩

def both : ResourceList := (one "cpu" 4 false).insert "nvidia.com/gpu" ⟨2, false⟩

/-- 100Ti, which is held in an `inf.Dec`, and 1Ti. -/
def memory : List StatusQueue := [queue "a" (one "memory" 109951162777600 true), queue "b" (one "memory" 1099511627776 false)]

/-- The status of a project that was reconciled with the given queues. -/
def known (queues : List StatusQueue) : ProjectStatus :=
  ⟨"kai-p", .unset, "", [], some (queues.map fun queue => ⟨"default", queue.status⟩), ⟨∅, ∅, ∅⟩⟩

def start (queues : List StatusQueue) : Cluster :=
  ⟨queues, [⟨"kai-p", (∅ : Labels).insert "kai/project" "p"⟩], .ofFields []⟩

def faultless : Faults := fun _ => none

/-- Two reconciles, and a change of the queues between them. -/
def events (before after : List StatusQueue) : List Event :=
  [.reconcileStatus faultless (known []) false, .setQueues after, .reconcileStatus faultless (known before) false]

theorem entriesKept_two {a b : String} {rl : ResourceList}
    (h : ∀ resource q, rl.lookup resource = some q → q.boxed = false) :
    EntriesKept [⟨"default", (queue a rl).status⟩, ⟨"default", (queue b rl).status⟩] := by
  intro figure resource first rest hamounts hboxed
  have hmem : first ∈ amounts figure [⟨"default", (queue a rl).status⟩, ⟨"default", (queue b rl).status⟩] resource := by
    rw [hamounts]
    exact List.mem_cons_self
  obtain ⟨entry, hentry, hlookup⟩ := List.mem_filterMap.1 hmem
  have hstatus : entry.queueStatus = (queue a rl).status := by
    rcases List.mem_pair.1 hentry with rfl | rfl <;> rfl
  rw [hstatus] at hlookup
  cases figure with
  | allocated => exact absurd hboxed (by rw [h resource first hlookup]; exact Bool.false_ne_true)
  | allocatedNonPreemptible => cases hlookup
  | requested => cases hlookup

theorem unboxed_both {resource : String} {q : Quantity} (h : both.lookup resource = some q) : q.boxed = false := by
  unfold both one at h
  by_cases hgpu : resource = "nvidia.com/gpu"
  · rw [hgpu, Finmap.lookup_insert] at h
    cases h
    rfl
  · rw [Finmap.lookup_insert_of_ne _ hgpu] at h
    by_cases hcpu : resource = "cpu"
    · rw [hcpu, Finmap.lookup_insert] at h
      cases h
      rfl
    · rw [Finmap.lookup_insert_of_ne _ hcpu, Finmap.lookup_empty] at h
      cases h

end Sample

open Sample in
theorem totals_not_exact :
    ¬Along (step config "p") (fun c e => (sent config "p" c e).isSome → Exact (step config "p" c e).stored)
      (start [queue "q" both]) (events [queue "q" both] [queue "q" (one "cpu" 4 false)]) ∧
    ¬Along (step config "p") (fun c e => (sent config "p" c e).isSome → Exact (step config "p" c e).stored)
      (start memory) [.reconcileStatus faultless (known []) false] := by
  constructor
  · -- The GPUs are no longer reported, but the patch leaves them in the total.
    rintro ⟨-, -, hlast, -⟩
    have hgpu := hlast (by decide) .allocated "nvidia.com/gpu"
    exact absurd hgpu nofun
  · -- The first entry is stored with the total that was accumulated in it.
    rintro ⟨hfirst, -⟩
    have hmemory := hfirst (by decide) .allocated "memory"
    exact absurd hmemory nofun

open Sample in
theorem totals_exact_when_cleared :
    Along (step config "p") (fun c e => (sent config "p" c e).isSome → Exact (step config "p" c e).stored)
      (start [queue "a" both, queue "b" both])
      (events [queue "a" both, queue "b" both] [queue "a" ∅, queue "b" ∅]) := by
  -- Both queues are summed at first, and nothing is allocated any more then.
  refine (totals_exact_iff_names_kept config "p" _ _).2
    ⟨fun _ => ⟨fun figure => .inr fun resource hstored => absurd rfl hstored, ?_⟩, nofun,
      fun _ => ⟨fun figure => .inl ?_, ?_⟩, trivial⟩
  · exact entriesKept_two fun _ _ => unboxed_both
  · cases figure <;> decide
  · exact entriesKept_two nofun

end Krm.Status
