import Krm.Departments.Webhook
import Krm.Lib.Runs

/-! # The department tree stays well formed -/

open Krm.Lib

namespace Krm.Departments

def parentOf (s : Cluster) (name : String) : Option String :=
  (s.departments.get name).bind fun d => if d.parent = "" then none else some d.parent

/-- No loop, at most seven levels, no parent missing. -/
structure WellFormed (s : Cluster) : Prop where
  loopFree : LoopFree (Above (parentOf s))
  levels : ∀ l, List.IsChain (Above (parentOf s)) l → l.length ≤ 7
  departments : ∀ d ∈ s.departments.items, d.parent ≠ "" → (s.departments.get d.parent).isSome
  projects : ∀ p ∈ s.projects.items, p.parent ≠ "" → (s.departments.get p.parent).isSome

/-! ## Events -/

inductive Event where
  | createDepartment (fault : Faults) (department : StoredDepartment)
  | updateDepartment (fault : Faults) (name parent : String) (queues : List QueueConfig)
  | deleteDepartment (name : String)
  | finalizeDepartment (fault : Faults) (name : String)
  | createProject (fault : Faults) (project : StoredProject)
  | updateProject (fault : Faults) (name parent : String) (queues : List QueueConfig) (defaultNodePools : List String)
  | deleteProject (name : String)
  | finalizeProject (name : String)
  | setNodePools (names : List String)

/-- Stored, or gone when deleted without finalizers. -/
def putDepartment (s : Cluster) (d : StoredDepartment) : Cluster :=
  if d.deleted ∧ d.finalizers = [] then { s with departments := s.departments.remove d.name }
  else { s with departments := s.departments.replace d }

def removeProject (s : Cluster) (name : String) : Cluster := { s with projects := s.projects.remove name }

/-- Creates and updates pass the webhook, a finalizer's removal too. -/
def step (finalizerName : String) (s : Cluster) : Event → Cluster
  | .createDepartment fault department =>
    if s.departments.get department.name = none ∧ validateDepartment fault s department.toDepartment none = [] then
      { s with departments := s.departments.insert { department with deleted := false } }
    else s
  | .updateDepartment fault name parent queues =>
    match s.departments.get name with
    | none => s
    | some old =>
      let department := { old with parent := parent, queues := queues }
      if validateDepartment fault s department.toDepartment (some old.toDepartment) = [] then
        putDepartment s department
      else s
  | .deleteDepartment name =>
    match s.departments.get name with
    | none => s
    | some department => putDepartment s { department with deleted := true }
  | .finalizeDepartment fault name =>
    match s.departments.get name with
    | none => s
    | some department =>
      if department.deleted then
        match finalize fault s finalizerName department with
        | .error _ => s
        | .ok finalizers =>
          if validateDepartment fault s department.toDepartment (some department.toDepartment) = [] then
            putDepartment s { department with finalizers := finalizers }
          else s
      else s
  | .createProject fault project =>
    if s.projects.get project.name = none ∧ validateProject fault s project.toProject project.defaultNodePools = [] then
      { s with projects := s.projects.insert { project with deleted := false } }
    else s
  | .updateProject fault name parent queues defaultNodePools =>
    match s.projects.get name with
    | none => s
    | some old =>
      let project := { old with parent := parent, queues := queues, defaultNodePools := defaultNodePools }
      if validateProject fault s project.toProject defaultNodePools = [] then
        { s with projects := s.projects.replace project }
      else s
  | .deleteProject name =>
    match s.projects.get name with
    | none => s
    | some project =>
      if project.finalizers = [] then removeProject s name
      else { s with projects := s.projects.replace { project with deleted := true } }
  | .finalizeProject name =>
    match s.projects.get name with
    | none => s
    | some project => if project.deleted then removeProject s name else s
  | .setNodePools names => { s with nodePools := names }

/-- A department carries the controller's finalizer from its creation. -/
def Allowed (finalizerName : String) (_ : Cluster) : Event → Prop
  | .createDepartment _ department => finalizerName ∈ department.finalizers
  | _ => True

/-! ## What the webhook admits -/

def checkedTree (s : Cluster) (parent : StoredDepartment) (d : Department) : Tree :=
  ((newTree s.departments).set parent.name parent.parent).set d.name d.parent

variable {s : Cluster} {fault : Faults}

theorem getParentDepartment_ok {name : String} {parent : StoredDepartment}
    (h : getParentDepartment fault s name = .ok parent) : s.departments.get name = some parent := by
  have hread : ∀ read d, readDepartment fault s read name = .ok d → s.departments.get name = some d := by
    intro read d hd
    unfold readDepartment at hd
    split at hd
    · cases hd
    · split at hd
      · rename_i hget
        exact hget.trans (congrArg some (Except.ok.inj hd))
      · cases hd
  unfold getParentDepartment at h
  dsimp only at h
  split at h
  · rename_i d hfound
    cases h
    split at hfound
    · exact hread _ _ hfound
    · exact hread _ _ hfound
  · cases h
  · cases h

theorem validateDepartmentParent_nil {d : Department} (h : validateDepartmentParent fault s d = [])
    (hparent : d.parent ≠ "") :
    ∃ parent above, s.departments.get d.parent = some parent ∧
      (checkedTree s parent d).ancestors d.name maxDepth = (above, false) ∧
      above.length + (checkedTree s parent d).height d.name maxDepth ≤ maxDepth := by
  unfold validateDepartmentParent at h
  rw [if_neg hparent] at h
  split at h
  · cases h
  · rename_i parent hget
    split at h
    · cases h
    · split at h
      · cases h
      · dsimp only at h
        split at h
        · cases h
        · rename_i hloop
          split at h
          · cases h
          · rename_i hdeep
            refine ⟨parent, _, getParentDepartment_ok hget, Prod.ext rfl ?_, Nat.le_of_not_lt hdeep⟩
            exact Bool.eq_false_iff.2 hloop

theorem validateParent_nil {parent : String} (h : validateParent fault s parent = []) (hparent : parent ≠ "") :
    (s.departments.get parent).isSome := by
  unfold validateParent at h
  rw [if_neg hparent] at h
  split at h
  · cases h
  · rename_i d hget
    rw [getParentDepartment_ok hget]
    rfl

/-! ## The invariant -/

structure Inv (s : Cluster) : Prop where
  within : ∀ a, climb (parentOf s) maxDepth a = none
  departments : ∀ d ∈ s.departments.items, d.parent ≠ "" → (s.departments.get d.parent).isSome
  projects : ∀ p ∈ s.projects.items, p.parent ≠ "" → (s.departments.get p.parent).isSome
  finalizers : ∀ d ∈ s.departments.items, d.finalizers ≠ []

theorem Inv.wellFormed (h : Inv s) : WellFormed s where
  loopFree := loopFree_of_climb h.within
  levels _ hchain := length_le_of_climb h.within hchain
  departments := h.departments
  projects := h.projects

section

variable {s : Cluster}

theorem newTree_get (name : String) :
    (newTree s.departments).get name = (s.departments.get name).map fun d => (d.name, d.parent) := by
  unfold newTree Store.get
  rw [List.find?_map]
  rfl

theorem newTree_up (name : String) : (newTree s.departments).up name = parentOf s name := by
  unfold Tree.up Tree.parent parentOf
  rw [newTree_get]
  cases s.departments.get name with
  | none => rfl
  | some d => rfl

variable {fault : Faults} {d parent : StoredDepartment}

theorem checkedTree_up {d : Department} (hget : s.departments.get d.parent = some parent) (a : String) :
    (checkedTree s parent d).up a =
      if a = d.name then (if d.parent = "" then none else some d.parent) else parentOf s a := by
  have hname : parent.name = d.parent := ((Store.get_eq_some_iff _ _ _).1 hget).2
  unfold checkedTree
  rw [Tree.up_set, Tree.up_set, newTree_up]
  by_cases hparent : a = parent.name
  · rw [if_pos hparent]
    have hsame : parentOf s a = if parent.parent = "" then none else some parent.parent := by
      rw [hparent, hname, parentOf, hget]
      rfl
    rw [hsame]
  · rw [if_neg hparent]

theorem checkedTree_held {d : Department} (hget : s.departments.get d.parent = some parent) {b : String}
    (hb : (s.departments.get b).isSome ∨ b = d.parent) : ((checkedTree s parent d).get b).isSome := by
  have hname : parent.name = d.parent := ((Store.get_eq_some_iff _ _ _).1 hget).2
  unfold checkedTree
  by_cases hd : b = d.name
  · rw [hd, Tree.get_set_self]
    rfl
  · rw [Tree.get_set_of_ne _ hd]
    by_cases hp : b = parent.name
    · rw [hp, Tree.get_set_self]
      rfl
    · rw [Tree.get_set_of_ne _ hp, newTree_get, Option.isSome_map]
      exact hb.resolve_right fun h => hp (h.trans hname.symm)

theorem checkedTree_keys {d : Department} (hd : d.name ≠ "") :
    ∀ entry ∈ (checkedTree s parent d).items, entry.1 ≠ "" := by
  have hset : ∀ (t : Tree) (name p : String), name ≠ "" → (∀ entry ∈ t.items, entry.1 ≠ "") →
      ∀ entry ∈ (t.set name p).items, entry.1 ≠ "" := by
    intro t name p hname ht entry hentry
    by_cases hsame : entry.1 = name
    · exact hsame ▸ hname
    · have hold := Store.get_of_mem hentry
      rw [Tree.get_set_of_ne t hsame] at hold
      exact ht entry (Store.get_mem hold)
  refine hset _ _ _ hd (hset _ _ _ parent.name_ne ?_)
  intro entry hentry
  obtain ⟨old, -, rfl⟩ := List.mem_map.1 hentry
  exact old.name_ne

theorem within_of_admitted (h : Inv s) {d : Department} (hname : d.name ≠ "")
    (hadmitted : validateDepartmentParent fault s d = []) {up' : String → Option String}
    (hup : ∀ a, up' a = if a = d.name then (if d.parent = "" then none else some d.parent) else parentOf s a)
    (a : String) : climb up' maxDepth a = none := by
  by_cases hparent : d.parent = ""
  · refine climb_none_of_le (fun x y hxy => ?_) (h.within a)
    rw [hup, if_pos hparent] at hxy
    split_ifs at hxy
    exact hxy
  · obtain ⟨parent, above, hget, hanc, hsum⟩ := validateDepartmentParent_nil hadmitted hparent
    have hsame : up' = (checkedTree s parent d).up := funext fun a => (hup a).trans (checkedTree_up hget a).symm
    have hself : (checkedTree s parent d).parent d.name = d.parent := by
      unfold checkedTree Tree.parent
      rw [Tree.get_set_self]
      rfl
    rw [hsame]
    refine Tree.within_limit hname (checkedTree_keys hname) ?_ h.within ?_ hanc ?_ hsum a
    · intro x y hxy
      rw [checkedTree_up hget] at hxy
      refine checkedTree_held hget ?_
      split_ifs at hxy
      · exact .inr (Option.some.inj hxy).symm
      · unfold parentOf at hxy
        obtain ⟨e, he, hy⟩ := Option.bind_eq_some_iff.1 hxy
        split_ifs at hy with hempty
        cases hy
        exact .inl (h.departments e (Store.get_mem he) hempty)
    · intro x hx
      rw [checkedTree_up hget, if_neg hx]
    · refine Tree.ancestors_ne_nil 6 ?_ ?_ hanc
      · rw [hself]
        exact hparent
      · rw [hself]
        exact checkedTree_held hget (.inr rfl)

/-! ## Writes -/

theorem parentOf_write {departments : Store fun d : StoredDepartment => d.name}
    (hself : departments.get d.name = some d) (hoff : ∀ a, a ≠ d.name → departments.get a = s.departments.get a)
    (a : String) : parentOf { s with departments := departments } a =
      if a = d.name then (if d.parent = "" then none else some d.parent) else parentOf s a := by
  unfold parentOf
  split_ifs with hname hempty
  · rw [hname, hself, Option.bind_some, if_pos hempty]
  · rw [hname, hself, Option.bind_some, if_neg hempty]
  · rw [hoff a hname]

theorem Inv.write (h : Inv s) {departments : Store fun d : StoredDepartment => d.name}
    (hself : departments.get d.name = some d) (hoff : ∀ a, a ≠ d.name → departments.get a = s.departments.get a)
    (hparent : (∃ old, s.departments.get d.name = some old ∧ old.parent = d.parent) ∨
      ∃ fault, validateDepartmentParent fault s d.toDepartment = [])
    (hfinalizers : d.finalizers ≠ []) : Inv { s with departments := departments } := by
  have hheld : ∀ name, (s.departments.get name).isSome → (departments.get name).isSome := by
    intro name hname
    by_cases hsame : name = d.name
    · rw [hsame, hself]
      rfl
    · rwa [hoff name hsame]
  have hmem : ∀ e ∈ departments.items, e = d ∨ e ∈ s.departments.items := by
    intro e he
    have hget := Store.get_of_mem he
    by_cases hsame : e.name = d.name
    · left
      rw [hsame, hself, Option.some.injEq] at hget
      exact hget.symm
    · right
      rw [hoff e.name hsame] at hget
      exact Store.get_mem hget
  refine ⟨?_, ?_, fun p hp hne => hheld _ (h.projects p hp hne), ?_⟩
  · rcases hparent with ⟨old, hold, hsame⟩ | ⟨fault, hadmitted⟩
    · -- the tree has not moved
      have hup : parentOf { s with departments := departments } = parentOf s := by
        funext a
        rw [parentOf_write hself hoff]
        split_ifs with hname hempty
        · rw [hname, parentOf, hold, Option.bind_some, hsame, if_pos hempty]
        · rw [hname, parentOf, hold, Option.bind_some, hsame, if_neg hempty]
        · rfl
      rw [hup]
      exact h.within
    · exact within_of_admitted h d.name_ne hadmitted (parentOf_write hself hoff)
  · intro e he hne
    rcases hmem e he with rfl | hold
    · rcases hparent with ⟨old, hget, hsame⟩ | ⟨fault, hadmitted⟩
      · rw [← hsame] at hne ⊢
        exact hheld _ (h.departments old (Store.get_mem hget) hne)
      · obtain ⟨parent, -, hget, -⟩ := validateDepartmentParent_nil hadmitted hne
        exact hheld _ (by rw [hget]; rfl)
    · exact hheld _ (h.departments e hold hne)
  · intro e he
    rcases hmem e he with rfl | hold
    · exact hfinalizers
    · exact h.finalizers e hold

theorem Inv.replaceDepartment (h : Inv s) {old d : StoredDepartment} (hold : s.departments.get d.name = some old)
    (hparent : old.parent = d.parent ∨ ∃ fault, validateDepartmentParent fault s d.toDepartment = [])
    (hfinalizers : d.finalizers ≠ []) : Inv (putDepartment s d) := by
  unfold putDepartment
  rw [if_neg fun h => hfinalizers h.2]
  refine h.write (d := d) (Store.get_replace_self _ d rfl (by simp [hold])) ?_ ?_ hfinalizers
  · intro a ha
    exact ((Store.agreeOff_replace s.departments d rfl).get_eq (by simpa using ha)).symm
  · exact hparent.imp_left fun hsame => ⟨old, hold, hsame⟩

theorem Inv.removeDepartment (h : Inv s) {name : String} (hprojects : ∀ p ∈ s.projects.items, p.parent ≠ name)
    (hchildren : ∀ d ∈ s.departments.items, d.parent ≠ name) :
    Inv { s with departments := s.departments.remove name } := by
  have hget : ∀ a, a ≠ name → (s.departments.remove name).get a = s.departments.get a := fun a ha =>
    ((Store.agreeOff_remove s.departments name).get_eq (by simpa using ha)).symm
  refine ⟨?_, ?_, ?_, ?_⟩
  · refine fun a => climb_none_of_le (fun x y hxy => ?_) (h.within a)
    unfold parentOf at hxy ⊢
    obtain ⟨d, hd, hy⟩ := Option.bind_eq_some_iff.1 hxy
    have hmem := (Store.mem_remove _ _ _).1 (Store.get_mem hd)
    have hkey := Store.get_key hd
    rw [(Store.get_eq_some_iff _ _ _).2 ⟨hmem.1, hkey⟩, Option.bind_some]
    exact hy
  · intro d hd hne
    have hmem := (Store.mem_remove _ _ _).1 hd
    rw [hget d.parent (hchildren d hmem.1)]
    exact h.departments d hmem.1 hne
  · intro p hp hne
    rw [hget p.parent (hprojects p hp)]
    exact h.projects p hp hne
  · exact fun d hd => h.finalizers d ((Store.mem_remove _ _ _).1 hd).1

theorem Inv.writeProjects (h : Inv s) {projects : Store fun p : StoredProject => p.name}
    (hmem : ∀ p ∈ projects.items, p ∈ s.projects.items ∨ (p.parent ≠ "" → (s.departments.get p.parent).isSome)) :
    Inv { s with projects := projects } where
  within := h.within
  departments := h.departments
  projects p hp hne := (hmem p hp).elim (fun hold => h.projects p hold hne) fun hnew => hnew hne
  finalizers := h.finalizers

/-! ## Steps -/

theorem validateDepartment_nil {d : Department} {old : Option Department} (h : validateDepartment fault s d old = []) :
    (∃ o, old = some o ∧ o.parent = d.parent) ∨ validateDepartmentParent fault s d = [] := by
  unfold validateDepartment at h
  have hparent := (List.append_eq_nil_iff.1 h).2
  split at hparent
  · rename_i hany
    obtain ⟨o, ho, hsame⟩ := (Option.any_eq_true _ _).1 hany
    exact .inl ⟨o, ho, of_decide_eq_true hsame⟩
  · exact .inr hparent

theorem finalize_ok {ours : String} {finalizers : List String} (h : finalize fault s ours d = .ok finalizers) :
    finalizers = d.finalizers ∨
      (∀ p ∈ s.projects.items, p.parent ≠ d.name) ∧ ∀ child ∈ s.departments.items, child.parent ≠ d.name := by
  unfold finalize at h
  split at h
  · exact .inl (Except.ok.inj h).symm
  · right
    split at h
    · cases h
    · cases h
    · rename_i hprojects
      split at h
      · cases h
      · cases h
      · rename_i hchildren
        unfold getProjectsOfDepartment at hprojects
        unfold getChildDepartments at hchildren
        split at hprojects
        · cases hprojects
        · split at hchildren
          · cases hchildren
          · have hno := List.filter_eq_nil_iff.1 (Except.ok.inj hprojects)
            have hnone := List.filter_eq_nil_iff.1 (Except.ok.inj hchildren)
            constructor
            · intro p hp hname
              exact hno p hp (by simp [hname, d.name_ne])
            · intro child hchild hname
              exact hnone child hchild (by simp [hname, d.name_ne])

variable {finalizerName : String}

theorem Inv.step_createDepartment (h : Inv s) (hallowed : finalizerName ∈ d.finalizers) :
    Inv (step finalizerName s (.createDepartment fault d)) := by
  rw [step]
  split
  · rename_i hadmit
    obtain ⟨hnew, hvalid⟩ := hadmit
    have hadmitted : validateDepartmentParent fault s d.toDepartment = [] := by
      rcases validateDepartment_nil hvalid with ⟨o, ho, -⟩ | hparent
      · cases ho
      · exact hparent
    refine h.write (d := { d with deleted := false }) (Store.get_insert_self _ _ rfl hnew) ?_
      (.inr ⟨fault, hadmitted⟩) (List.ne_nil_of_mem hallowed)
    intro a ha
    exact ((Store.agreeOff_insert s.departments { d with deleted := false } rfl).get_eq (by simpa using ha)).symm
  · exact h

theorem Inv.step_updateDepartment (h : Inv s) (fault : Faults) (name parent : String) (queues : List QueueConfig) :
    Inv (step finalizerName s (.updateDepartment fault name parent queues)) := by
  rw [step]
  split
  · exact h
  · rename_i old hget
    dsimp only
    split
    · rename_i hvalid
      have hself : s.departments.get old.name = some old := Store.get_of_mem (Store.get_mem hget)
      refine h.replaceDepartment hself ?_ (h.finalizers old (Store.get_mem hget))
      · rcases validateDepartment_nil hvalid with ⟨o, ho, hsame⟩ | hparent
        · exact .inl (Option.some.inj ho ▸ hsame)
        · exact .inr ⟨fault, hparent⟩
    · exact h

theorem Inv.step_deleteDepartment (h : Inv s) (name : String) : Inv (step finalizerName s (.deleteDepartment name)) := by
  rw [step]
  split
  · exact h
  · rename_i d hget
    have hself : s.departments.get d.name = some d := Store.get_of_mem (Store.get_mem hget)
    exact h.replaceDepartment (d := { d with deleted := true }) hself (.inl rfl) (h.finalizers d (Store.get_mem hget))

theorem Inv.step_finalizeDepartment (h : Inv s) (fault : Faults) (name : String) :
    Inv (step finalizerName s (.finalizeDepartment fault name)) := by
  rw [step]
  split
  · exact h
  · rename_i d hget
    have hself : s.departments.get d.name = some d := Store.get_of_mem (Store.get_mem hget)
    split
    · rename_i hdeleted
      split
      · exact h
      · rename_i finalizers hfinalize
        split
        · by_cases hlast : finalizers = []
          · rcases finalize_ok hfinalize with hsame | ⟨hprojects, hchildren⟩
            · exact absurd (hsame.symm.trans hlast) (h.finalizers d (Store.get_mem hget))
            · unfold putDepartment
              rw [if_pos ⟨hdeleted, hlast⟩]
              exact h.removeDepartment hprojects hchildren
          · exact h.replaceDepartment (d := { d with finalizers := finalizers }) hself (.inl rfl) hlast
        · exact h
    · exact h

theorem validateProject_nil {p : Project} {defaultNodePools : List String}
    (h : validateProject fault s p defaultNodePools = []) : validateParent fault s p.parent = [] := by
  unfold validateProject at h
  exact (List.append_eq_nil_iff.1 (List.append_eq_nil_iff.1 h).1).1

theorem Inv.removeProject (h : Inv s) (name : String) : Inv (removeProject s name) :=
  h.writeProjects fun _ hp => .inl ((Store.mem_remove _ _ _).1 hp).1

theorem Inv.replaceProject (h : Inv s) {name : String} {old p : StoredProject} (hold : s.projects.get name = some old)
    (hname : p.name = name) (hparent : p.parent ≠ "" → (s.departments.get p.parent).isSome) :
    Inv { s with projects := s.projects.replace p } := by
  refine h.writeProjects fun q hq => ?_
  rcases (Store.mem_replace s.projects p q hname (by simp [hold])).1 hq with rfl | ⟨hq, -⟩
  · exact .inr hparent
  · exact .inl hq

theorem Inv.step_createProject (h : Inv s) (fault : Faults) (p : StoredProject) :
    Inv (step finalizerName s (.createProject fault p)) := by
  rw [step]
  split
  · rename_i hadmit
    obtain ⟨hnew, hvalid⟩ := hadmit
    refine h.writeProjects fun q hq => ?_
    rcases (Store.mem_insert s.projects { p with deleted := false } q hnew).1 hq with rfl | hq
    · exact .inr fun hne => validateParent_nil (validateProject_nil hvalid) hne
    · exact .inl hq
  · exact h

theorem Inv.step_updateProject (h : Inv s) (fault : Faults) (name parent : String) (queues : List QueueConfig)
    (defaultNodePools : List String) :
    Inv (step finalizerName s (.updateProject fault name parent queues defaultNodePools)) := by
  rw [step]
  split
  · exact h
  · rename_i old hget
    dsimp only
    split
    · rename_i hvalid
      have hname : old.name = name := ((Store.get_eq_some_iff _ _ _).1 hget).2
      refine h.replaceProject hget hname ?_
      exact fun hne => validateParent_nil (validateProject_nil hvalid) hne
    · exact h

theorem Inv.step_deleteProject (h : Inv s) (name : String) : Inv (step finalizerName s (.deleteProject name)) := by
  rw [step]
  split
  · exact h
  · rename_i p hget
    split
    · exact h.removeProject name
    · have hname : p.name = name := ((Store.get_eq_some_iff _ _ _).1 hget).2
      exact h.replaceProject hget hname (h.projects p (Store.get_mem hget))

theorem Inv.step (h : Inv s) {e : Event} (hallowed : Allowed finalizerName s e) : Inv (step finalizerName s e) := by
  cases e with
  | createDepartment fault d => exact h.step_createDepartment hallowed
  | updateDepartment fault name parent queues => exact h.step_updateDepartment fault name parent queues
  | deleteDepartment name => exact h.step_deleteDepartment name
  | finalizeDepartment fault name => exact h.step_finalizeDepartment fault name
  | createProject fault p => exact h.step_createProject fault p
  | updateProject fault name parent queues defaultNodePools =>
    exact h.step_updateProject fault name parent queues defaultNodePools
  | deleteProject name => exact h.step_deleteProject name
  | finalizeProject name =>
    rw [Departments.step]
    split
    · exact h
    · split
      · exact h.removeProject name
      · exact h
  | setNodePools names => exact ⟨h.within, h.departments, h.projects, h.finalizers⟩

end

theorem inv_of_no_departments (h : s.departments.items = []) (hprojects : ∀ p ∈ s.projects.items, p.parent = "") :
    Inv s where
  within := by
    intro a
    have hnone : s.departments.get a = none := by
      rw [Store.get_eq_none_iff, h]
      exact fun _ hd => absurd hd List.not_mem_nil
    have hroot : parentOf s a = none := by
      rw [parentOf, hnone]
      rfl
    have hone : climb (parentOf s) 1 a = none := (climb_one a).trans hroot
    exact climb_none_mono hone (by decide)
  departments d hd := absurd (h ▸ hd) List.not_mem_nil
  projects p hp hne := absurd (hprojects p hp) hne
  finalizers d hd := absurd (h ▸ hd) List.not_mem_nil

theorem department_tree_stays_well_formed {finalizerName : String} {s : Cluster} {events : List Event}
    (hstart : s.departments.items = []) (hprojects : ∀ p ∈ s.projects.items, p.parent = "")
    (hallowed : Along (step finalizerName) (Allowed finalizerName) s events) :
    WellFormed (run (step finalizerName) s events) := by
  have hkeeps : ∀ s e, Inv s → Allowed finalizerName s e → Inv (step finalizerName s e) := fun s e h he => h.step he
  exact (run_invariant hkeeps (inv_of_no_departments hstart hprojects) hallowed).wellFormed

namespace Sample

def faultless : Faults := fun _ => none

def department (name parent : String) (h : name ≠ "" := by decide) : StoredDepartment :=
  ⟨⟨name, "u-" ++ name, parent, []⟩, false, ["ours"], h⟩

def project (name parent : String) : StoredProject := ⟨⟨name, "u-" ++ name, parent, []⟩, [], false, ["theirs"]⟩

/-- A loop is refused, and `root` stays while others are under it. -/
def events : List Event :=
  [.createDepartment faultless (department "root" ""), .createDepartment faultless (department "mid" "root"),
    .createProject faultless (project "p" "root"), .updateDepartment faultless "root" "mid" [], .deleteDepartment "root",
    .finalizeDepartment faultless "root", .createDepartment faultless (department "late" "root"),
    .updateDepartment faultless "mid" "" [], .finalizeDepartment faultless "root", .deleteProject "p",
    .finalizeProject "p", .createDepartment faultless (department "leaf" "mid"), .finalizeDepartment faultless "root"]

end Sample

open Sample in
theorem parents_outlive_children :
    (run (step "ours") ⟨.empty, .empty, []⟩ events).departments.items.map (fun d => (d.name, d.parent)) =
      [("mid", ""), ("leaf", "mid")] ∧
    WellFormed (run (step "ours") ⟨.empty, .empty, []⟩ events) := by
  refine ⟨by decide +kernel, department_tree_stays_well_formed rfl ?_ ?_⟩
  · exact fun _ hp => absurd hp List.not_mem_nil
  · simp [Along, Allowed, events, department]

end Krm.Departments
