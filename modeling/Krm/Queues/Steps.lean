import Krm.Lib.Claims
import Krm.Lib.Runs
import Krm.Queues.Handlers

/-! # What the shared reads and writes do to a store that is read fresh -/

open Krm.Lib

namespace Krm.Queues

/-! ## Node pools -/

/-- The queue carries the node pool's label: no label for the default pool. -/
def inPool (cfg : Config) (nodepoolName : String) (q : Queue) : Bool :=
  q.labels.lookup cfg.nodePoolLabelKey = if nodepoolName = cfg.defaultNodepoolName then none else some nodepoolName

variable {rand : Nat → Nat → Nat → String} {s s' : QueueStore} {ownerName uid kind : String}
  {planned : List String → Nat → QueueConfig → Option String} {acc : List ApiError × QueueStore} {server : Server}
  {cfg : Config} {queues : List QueueConfig} {reconciled : List String} {r : Requirement}

theorem inPool_inj {n n' : String} {q : Queue} (h : inPool cfg n q) (h' : inPool cfg n' q) : n = n' := by
  simp only [inPool, decide_eq_true_eq] at h h'
  rw [h] at h'
  split at h' <;> split at h' <;> simp_all

theorem requirement_ok {key : String} {op : Operator} {values : List String} (h : requirement key op values = .ok r) :
    r = ⟨key, op, values⟩ := by
  unfold requirement newRequirement at h
  split at h
  · rename_i r' hr
    split at hr
    · cases hr; cases h; rfl
    · cases hr
  · cases h

theorem nodePoolRequirement_ok {n : String} (h : nodePoolRequirement cfg n = .ok r) (q : Queue) :
    r.Matches q.labels = inPool cfg n q := by
  unfold nodePoolRequirement at h
  rw [Bool.eq_iff_iff]
  split at h
  · rename_i hn
    rw [requirement_ok h, Requirement.matches_doesNotExist]
    simp [inPool, hn]
  · rename_i hn
    rw [requirement_ok h, Requirement.matches_doubleEquals]
    simp [inPool, hn]

theorem requirement_error {key : String} {op : Operator} {values : List String} {e : ApiError}
    (h : requirement key op values = .error e) : e.isNotFound = false := by
  unfold requirement at h
  split at h
  · cases h
  · cases h; rfl

theorem nodePoolRequirement_error {n : String} {e : ApiError} (h : nodePoolRequirement cfg n = .error e) :
    e.isNotFound = false := by
  unfold nodePoolRequirement at h
  split at h <;> exact requirement_error h

theorem listQueuesForNodepool_fresh {n : String} (h : nodePoolRequirement cfg n = .ok r)
    (departments : DepartmentStore) (rand : Nat → Nat → String) (s : QueueStore) :
    listQueuesForNodepool cfg (.fresh departments rand s) n = .ok (s.list (inPool cfg n)) := by
  simp only [listQueuesForNodepool, h, bind, Except.bind, View.fresh, Selector.Matches, List.all_cons, List.all_nil,
    Bool.and_true, nodePoolRequirement_ok h]

theorem find_list_inPool (cfg : Config) (n uid : String) (s : QueueStore) :
    (s.list (inPool cfg n)).find? (fun q => isOwnedByUID q.ownerReferences uid) =
      s.items.find? fun q => isOwnedByUID q.ownerReferences uid && inPool cfg n q := by
  rw [Store.list, ← List.head?_filter, ← List.head?_filter, List.filter_filter]

/-! ## One write -/

/-- A queue like `e` under its name, and nothing else changed. -/
def Puts (e : Queue) (s s' : QueueStore) : Prop :=
  Store.AgreeOff [e.name] s s' ∧ ∃ q, s'.get e.name = some q ∧ areQueuesEqual e q

theorem areQueuesEqual_iff (e q : Queue) :
    areQueuesEqual e q ↔
      e.name = q.name ∧ e.labels = q.labels ∧ e.ownerReferences = q.ownerReferences ∧ e.spec = q.spec := by
  simp [areQueuesEqual, and_assoc]

theorem createQueue_cases {e : Queue} (h : createQueue server e s = .ok s') :
    (s.get e.name = none ∧ s' = s.insert { e with resourceVersion := server.version }) ∨
      ((s.get e.name).isSome ∧ s' = s) := by
  unfold createQueue clientCreate at h
  cases hrefuse : server.refuse .create e.name with
  | some message => simp [hrefuse, ApiError.isAlreadyExists] at h
  | none =>
    cases hget : s.get e.name with
    | some q =>
      simp only [hrefuse, hget, ApiError.isAlreadyExists, if_true, Except.ok.injEq] at h
      exact .inr ⟨rfl, h.symm⟩
    | none =>
      simp only [hrefuse, hget, Except.ok.injEq] at h
      exact .inl ⟨rfl, h.symm⟩

theorem createQueue_ok {e : Queue} (h : createQueue server e s = .ok s') :
    (s.get e.name = none ∧ Puts e s s') ∨ ((s.get e.name).isSome ∧ s' = s) := by
  refine (createQueue_cases h).imp_left fun ⟨hget, hs'⟩ => ⟨hget, ?_⟩
  subst hs'
  exact ⟨Store.agreeOff_insert s _ rfl, _, Store.get_insert_self s _ rfl hget, by simp [areQueuesEqual_iff]⟩

theorem clientUpdate_ok {q : Queue} (h : clientUpdate server q s = .ok s') :
    (∃ stored, s.get q.name = some stored ∧ stored.resourceVersion = q.resourceVersion) ∧
      s' = s.replace { q with resourceVersion := server.version } := by
  unfold clientUpdate at h
  split at h
  · cases h
  · split at h
    · cases h
    · rename_i stored hget
      split_ifs at h with hversion
      exact ⟨⟨stored, hget, hversion⟩, (Except.ok.inj h).symm⟩

theorem updateExistingQueue_ok {e existing : Queue} {uid : String} (hget : s.get existing.name = some existing)
    (hname : e.name = existing.name) (hext : isExternalQueue cfg existing uid = false)
    (h : updateExistingQueue cfg server e existing uid s = .ok s') : Puts e s s' := by
  rw [updateExistingQueue, hext, if_neg Bool.false_ne_true] at h
  rw [(clientUpdate_ok h).2]
  refine ⟨Store.agreeOff_replace s _ hname.symm, _, Store.get_replace_self s _ hname.symm ?_, ?_⟩
  · simp [hname, hget]
  · simp [areQueuesEqual_iff, updateExistingQueueWithExpectedValues, hname]

theorem puts_of_equal {e existing : Queue} {s : QueueStore} (hget : s.get existing.name = some existing)
    (h : areQueuesEqual e existing) : Puts e s s := by
  have hname := ((areQueuesEqual_iff e existing).1 h).1
  exact ⟨.refl _ _, existing, hname ▸ hget, h⟩

/-! ## Names -/

/-- The test of a held name: what makes the queue under it someone else's. -/
def takenBy (cfg : Config) (expectedDepartmentName expectedProjectName ownerUID : String) (q : Queue) : Bool :=
  isExternalQueue cfg q ownerUID ||
    (!(expectedDepartmentName ≠ "" ∧ isOwnedByKind q.ownerReferences departmentKind ∧
        expectedDepartmentName = q.labels.value cfg.queueDepartmentNameLabelKey) &&
      !(expectedProjectName ≠ "" ∧ isOwnedByKind q.ownerReferences projectKind ∧
        expectedProjectName = q.labels.value cfg.projectLabelKey) &&
      (isOwnedByKind q.ownerReferences departmentKind || isOwnedByKind q.ownerReferences projectKind))

theorem isQueueTaken_fresh (cfg : Config) (departments : DepartmentStore) (rand : Nat → Nat → String)
    (s : QueueStore) (department project name uid : String) :
    isQueueTakenByOtherResource cfg (.fresh departments rand s) department project name uid =
      ((s.get name).any (takenBy cfg department project uid), s.get name) := by
  unfold isQueueTakenByOtherResource
  cases hget : s.get name with
  | none => simp [View.getQueue_fresh_none hget]
  | some q =>
    simp only [View.getQueue_fresh_some hget, Option.any_some, takenBy]
    by_cases hext : isExternalQueue cfg q uid
    · simp [hext]
    · simp only [hext, Bool.false_eq_true, if_false, Bool.false_or]
      split_ifs with hd hp ho
      · simp only [decide_eq_true hd, Bool.not_true, Bool.false_and]
      · simp only [decide_eq_true hp, Bool.not_true, Bool.and_false, Bool.false_and]
      · simp only [decide_eq_false hd, decide_eq_false hp, Bool.not_false, Bool.true_and]
        rcases ho with ho | ho <;> simp [ho]
      · have hnone : isOwnedByKind q.ownerReferences departmentKind = false ∧
            isOwnedByKind q.ownerReferences projectKind = false := by simpa using ho
        simp [hnone]

def drawnName (rand : Nat → Nat → String) (suggestedQueueName : String) : String :=
  cutName suggestedQueueName maxNameLen ++ "-" ++ rand 0 queueNameRandSuffixLen

theorem cutName_min (name : String) (n : Nat) : cutName name (min name.toList.length n) = cutName name n := by
  simp only [cutName]
  congr 1
  rcases Nat.le_total name.toList.length n with h | h
  · rw [Nat.min_eq_left h, List.take_of_length_le (Nat.le_refl _), List.take_of_length_le h]
  · rw [Nat.min_eq_right h]

theorem generateQueueName_fresh (cfg : Config) (departments : DepartmentStore) (rand : Nat → Nat → String)
    (s : QueueStore) (project department name uid : String)
    (hfree : s.get (drawnName rand name) = none) :
    generateQueueNameForResource cfg (.fresh departments rand s) project department name uid =
      if name.toList.length ≤ maxNameLen ∧ (s.get name).any (takenBy cfg project department uid) = false then name
      else drawnName rand name := by
  -- When the first random suffix meets no queue, the generated name is the suggested one, if it is short enough and
  -- not taken, and else the one with that suffix.
  have hdrawn : suffixedName (.fresh departments rand s) name (min name.toList.length maxNameLen) 0
      queueNameRandSuffixLen = drawnName rand name := by
    simp only [drawnName, suffixedName, cutName_min, View.fresh]
  simp only [generateQueueNameForResource, generateQueueNameTries, tryNames,
    isSuggestedQueueTakenByOtherResource, isQueueTaken_fresh]
  by_cases hlen : name.toList.length ≤ maxNameLen
  · have hlen' : ¬ name.toList.length > maxNameLen := by omega
    simp only [hlen', if_false, hdrawn, hfree, Option.any_none, Bool.not_false, if_true, hlen, true_and]
    cases htaken : (s.get name).any (takenBy cfg project department uid) <;> simp
  · have hlen' : name.toList.length > maxNameLen := by omega
    simp only [hlen', if_true, hlen, false_and, if_false]
    rw [show suffixedName (.fresh departments rand s) name maxNameLen 0 queueNameRandSuffixLen =
      drawnName rand name from rfl, hfree]
    rfl

theorem createQueue_generated {departments : DepartmentStore} {rand : Nat → Nat → String}
    {project department suggested uid name : String} {e : String → Queue} (he : ∀ name, (e name).name = name)
    (hfree : s.get (drawnName rand suggested) = none)
    (hname : name = generateQueueNameForResource cfg (.fresh departments rand s) project department suggested uid)
    (h : createQueue server (e name) s = .ok s') :
    match (if suggested.toList.length ≤ maxNameLen ∧ (s.get suggested).any (takenBy cfg project department uid) = false
      then (if (s.get suggested).isSome then none else some suggested) else some (drawnName rand suggested)) with
    | some c => name = c ∧ Puts (e c) s s'
    | none => name = suggested ∧ s' = s := by
  have hcreate := createQueue_ok h
  rw [he] at hcreate
  rw [generateQueueName_fresh cfg departments rand s project department suggested uid hfree] at hname
  split_ifs at hname ⊢ with hsuggested hheld
  · subst hname
    obtain ⟨hnone, -⟩ | ⟨-, hsame⟩ := hcreate
    · rw [hnone] at hheld
      cases hheld
    · exact ⟨rfl, hsame⟩
  · subst hname
    obtain ⟨-, hput⟩ | ⟨hheld', -⟩ := hcreate
    · exact ⟨rfl, hput⟩
    · exact absurd hheld' hheld
  · subst hname
    obtain ⟨-, hput⟩ | ⟨hheld, -⟩ := hcreate
    · exact ⟨rfl, hput⟩
    · rw [hfree] at hheld
      cases hheld

/-- A drawn name is not held, not suggested, and not drawn by another entry. -/
structure NoCollision (cfg : Config) (queues : List QueueConfig) (ownerName : String)
    (rand : Nat → Nat → Nat → String) (s : QueueStore) : Prop where
  not_held : ∀ i e, queues[i]? = some e → s.get (drawnName (rand i) (getQueueName cfg e ownerName)) = none
  not_suggested : ∀ i e, queues[i]? = some e → ∀ e' ∈ queues,
    drawnName (rand i) (getQueueName cfg e ownerName) ≠ getQueueName cfg e' ownerName
  distinct : ∀ i j e e', queues[i]? = some e → queues[j]? = some e' → i ≠ j →
    drawnName (rand i) (getQueueName cfg e ownerName) ≠ drawnName (rand j) (getQueueName cfg e' ownerName)

theorem NoCollision.of_zipIdx {s : QueueStore}
    (h : ∀ p ∈ queues.zipIdx, s.get (drawnName (rand p.2) (getQueueName cfg p.1 ownerName)) = none ∧
      (∀ e ∈ queues, drawnName (rand p.2) (getQueueName cfg p.1 ownerName) ≠ getQueueName cfg e ownerName) ∧
      ∀ p' ∈ queues.zipIdx, p.2 ≠ p'.2 → drawnName (rand p.2) (getQueueName cfg p.1 ownerName) ≠
        drawnName (rand p'.2) (getQueueName cfg p'.1 ownerName)) :
    NoCollision cfg queues ownerName rand s where
  not_held i e hi := (h (e, i) (List.mk_mem_zipIdx_iff_getElem?.2 hi)).1
  not_suggested i e hi := (h (e, i) (List.mk_mem_zipIdx_iff_getElem?.2 hi)).2.1
  distinct i j e e' hi hj := (h (e, i) (List.mk_mem_zipIdx_iff_getElem?.2 hi)).2.2 (e', j)
    (List.mk_mem_zipIdx_iff_getElem?.2 hj)

theorem drawn_not_claimed {s : QueueStore}
    (hplan : ∀ claimed i e c, planned claimed i e = some c → (s.get c).isSome ∨ c = getQueueName cfg e ownerName ∨
      c = drawnName (rand i) (getQueueName cfg e ownerName))
    (h : NoCollision cfg queues ownerName rand s) {i : Nat} {entry : QueueConfig} (hi : queues[i]? = some entry) :
    drawnName (rand i) (getQueueName cfg entry ownerName) ∉ claims planned queues i := by
  -- Under a plan by which an entry claims a held name, its suggested name or a drawn one, the name that an entry may
  -- draw is not claimed before the entry's turn.
  intro hc
  obtain ⟨j, hj, hclaim⟩ := mem_claims.1 hc
  obtain ⟨e, he⟩ : ∃ e, queues[j]? = some e := ⟨_, List.getElem?_eq_getElem (claimAt_lt hclaim)⟩
  rw [claimAt_eq he] at hclaim
  rcases hplan _ _ _ _ hclaim with hheld | heq | heq
  · simp [h.not_held i entry hi] at hheld
  · exact h.not_suggested i entry hi e (List.mem_of_getElem? he) heq
  · exact h.distinct i j entry e hi he (by omega) heq

theorem drawn_free
    (hplan : ∀ claimed i e c, planned claimed i e = some c → (s.get c).isSome ∨ c = getQueueName cfg e ownerName ∨
      c = drawnName (rand i) (getQueueName cfg e ownerName))
    (h : NoCollision cfg queues ownerName rand s) {i : Nat} {entry : QueueConfig} (hi : queues[i]? = some entry)
    (hagree : Store.AgreeOff (claims planned queues i) s s') :
    s'.get (drawnName (rand i) (getQueueName cfg entry ownerName)) = none := by
  rw [← hagree.get_eq (drawn_not_claimed hplan h hi)]
  exact h.not_held i entry hi

theorem index_of_pool (hpools : (queues.map QueueConfig.nodepool).Nodup) {i j : Nat} {e e' : QueueConfig}
    (hi : queues[i]? = some e) (hj : queues[j]? = some e') (h : e.nodepool = e'.nodepool) : i = j := by
  apply (List.getElem?_inj (by simpa using (List.getElem?_eq_some_iff.1 hi).1) hpools).1
  simp [hi, hj, h]

/-- `s₀` written over with the wanted queues under the claimed names. -/
abbrev Overwritten (s₀ : QueueStore) (planned : List String → Nat → QueueConfig → Option String)
    (queues : List QueueConfig) (want : Nat → QueueConfig → String → Queue) (i : Nat) (s : QueueStore) : Prop :=
  s₀.Written Queue.name (fun e q => areQueuesEqual e q) (writesUpTo (wantAt planned queues want) i) s

/-! ## Deletion -/

/-- A listed queue that goes when it is met. -/
def unnecessary (cfg : Config) (reconciledQueues : List String) (ownerUID ownerKind : String) (q : Queue) : Bool :=
  isOwnedByKind q.ownerReferences ownerKind && decide (q.name ∉ reconciledQueues) &&
    !isExternalQueue cfg q ownerUID

/-- Goes when it carries the label and no entry reconciles it. -/
def Removable (cfg : Config) (uid kind : String) (q : Queue) : Prop :=
  isOwnedByKind q.ownerReferences kind ∧ isExternalQueue cfg q uid = false

theorem unnecessary_iff {q : Queue} :
    unnecessary cfg reconciled uid kind q ↔ Removable cfg uid kind q ∧ q.name ∉ reconciled := by
  simp only [unnecessary, Removable, Bool.and_eq_true, Bool.not_eq_true', decide_eq_true_eq]
  tauto

theorem clientDelete_ok {name : String} (h : clientDelete server name s = .ok s') : s' = s.remove name := by
  unfold clientDelete at h
  split at h
  · cases h
  · split at h
    · cases h
    · exact (Except.ok.inj h).symm

theorem deleteUnnecessaryQueue_cases (acc : List ApiError × QueueStore) (d : Queue) :
    (deleteUnnecessaryQueue cfg server reconciled uid kind acc d).2 = acc.2 ∨ (unnecessary cfg reconciled uid kind d ∧
      (deleteUnnecessaryQueue cfg server reconciled uid kind acc d).2 = acc.2.remove d.name) := by
  unfold deleteUnnecessaryQueue deleteQueue
  split_ifs with hkind hreconciled hext
  · exact .inl rfl
  · exact .inl rfl
  · exact .inl rfl
  · cases hdelete : clientDelete server d.name acc.2 with
    | error e => exact .inl rfl
    | ok s => exact .inr ⟨by simp_all [unnecessary], clientDelete_ok hdelete⟩

theorem deleteUnnecessaryQueues_induction {m : Moment} {key value : String} {R : QueueStore → QueueStore → Prop} (hrefl : ∀ s, R s s)
    (htrans : ∀ {s s' s''}, R s s' → R s' s'' → R s s'')
    (hremove : ∀ listed, listQueuesWithLabelSelector m.view key value = .ok listed → ∀ d ∈ listed,
      unnecessary cfg reconciled uid kind d → ∀ s : QueueStore, R s (s.remove d.name)) :
    R m.store (deleteUnnecessaryQueues cfg m reconciled uid key value kind).2 := by
  unfold deleteUnnecessaryQueues
  split
  · exact hrefl _
  · rename_i listed hlisted
    have hloop (l : List Queue) (hl : ∀ d ∈ l, unnecessary cfg reconciled uid kind d → ∀ s : QueueStore,
        R s (s.remove d.name)) (acc : List ApiError × QueueStore) :
        R acc.2 (l.foldl (deleteUnnecessaryQueue cfg m.server reconciled uid kind) acc).2 := by
      induction l generalizing acc with
      | nil => exact hrefl _
      | cons d l ih =>
        obtain ⟨hd, hl⟩ := List.forall_mem_cons.1 hl
        refine htrans ?_ (ih hl _)
        rcases deleteUnnecessaryQueue_cases acc d with hsame | ⟨hgone, hremoved⟩
        · rw [hsame]
          exact hrefl _
        · rw [hremoved]
          exact hd hgone acc.2
    exact hloop listed (hremove listed hlisted) ([], m.store)

theorem deleteUnnecessaryQueue_ok {d : Queue}
    (h : (deleteUnnecessaryQueue cfg server reconciled uid kind acc d).1 = []) :
    acc.1 = [] ∧ (deleteUnnecessaryQueue cfg server reconciled uid kind acc d).2 =
      if unnecessary cfg reconciled uid kind d then acc.2.remove d.name else acc.2 := by
  unfold deleteUnnecessaryQueue at h ⊢
  by_cases hkind : isOwnedByKind d.ownerReferences kind
  · by_cases hrec : d.name ∈ reconciled
    · simp_all [unnecessary]
    · by_cases hext : isExternalQueue cfg d uid
      · simp_all [unnecessary, deleteQueue]
      · simp only [hkind, hrec, hext, deleteQueue, clientDelete, unnecessary, Bool.not_true, if_false] at h ⊢
        cases hrefuse : server.refuse .delete d.name with
        | some message => simp [hrefuse] at h
        | none => cases hget : acc.2.get d.name <;> simp_all
  · simp_all [unnecessary]

theorem deleteLoop_ok {qs : List Queue}
    (h : (qs.foldl (deleteUnnecessaryQueue cfg server reconciled uid kind) acc).1 = []) :
    acc.1 = [] ∧ ∀ q, q ∈ (qs.foldl (deleteUnnecessaryQueue cfg server reconciled uid kind) acc).2.items ↔
      q ∈ acc.2.items ∧ ∀ d ∈ qs, unnecessary cfg reconciled uid kind d → q.name ≠ d.name := by
  induction qs generalizing acc with
  | nil => simpa using h
  | cons d qs ih =>
    obtain ⟨hd, hitems⟩ := ih h
    obtain ⟨hacc, hstore⟩ := deleteUnnecessaryQueue_ok hd
    refine ⟨hacc, fun q => ?_⟩
    rw [List.foldl_cons, hitems q, hstore]
    by_cases hun : unnecessary cfg reconciled uid kind d
    · simp [hun, and_assoc]
    · simp [hun]

theorem deleteUnnecessaryQueues_fresh {departments : DepartmentStore} {rand : Nat → Nat → String} {s : QueueStore}
    {uid key value kind : String}
    (h : (deleteUnnecessaryQueues cfg ⟨.fresh departments rand s, server, s⟩ reconciled uid key value kind).1 = [])
    (q : Queue) :
    q ∈ (deleteUnnecessaryQueues cfg ⟨.fresh departments rand s, server, s⟩ reconciled uid key value kind).2.items ↔
      q ∈ s.items ∧ ¬ (q.labels.lookup key = some value ∧ unnecessary cfg reconciled uid kind q) := by
  simp only [deleteUnnecessaryQueues, listQueuesWithLabelSelector, View.fresh] at h ⊢
  rw [(deleteLoop_ok h).2 q]
  simp only [Store.list, List.mem_filter, Selector.Matches, List.all_cons, List.all_nil, Bool.and_true,
    Requirement.matches_doubleEquals, not_and]
  constructor
  · rintro ⟨hq, hall⟩
    exact ⟨hq, fun hlabel hun => hall q ⟨hq, hlabel⟩ hun rfl⟩
  · rintro ⟨hq, hkeep⟩
    refine ⟨hq, ?_⟩
    rintro d ⟨hd, hlabel⟩ hun hname
    cases Store.eq_of_mem hq hd hname
    exact hkeep hlabel hun

/-! ## The work on the entries -/

/-- How the progress goes on from the work on an entry. -/
structure Handles (env : Environment) (reconcile : Moment → QueueConfig → Except ApiError (String × QueueStore))
    (handleEntry : Progress → QueueConfig × Nat → Progress) : Prop where
  failed : ∀ {acc entry i e}, reconcile (env i acc.store) entry = .error e →
    (handleEntry acc (entry, i)).errs ≠ [] ∧ (handleEntry acc (entry, i)).store = (env i acc.store).store
  done : ∀ {acc entry i name s}, reconcile (env i acc.store) entry = .ok (name, s) →
    (handleEntry acc (entry, i)).errs = acc.errs ∧ (handleEntry acc (entry, i)).store = s ∧
      (handleEntry acc (entry, i)).reconciledQueues = name :: acc.reconciledQueues

theorem Handles.foldl_induction {env : Environment}
    {reconcile : Moment → QueueConfig → Except ApiError (String × QueueStore)}
    {handleEntry : Progress → QueueConfig × Nat → Progress} (h : Handles env reconcile handleEntry)
    {P : QueueStore → Prop} (hothers : ∀ i s, P s → P (env i s).store)
    (hreconcile : ∀ i s entry name s', P s → reconcile (env i s) entry = .ok (name, s') → P s')
    (entries : List (QueueConfig × Nat)) {acc : Progress} (hacc : P acc.store) : P (entries.foldl handleEntry acc).store := by
  induction entries generalizing acc with
  | nil => exact hacc
  | cons entry entries ih =>
    refine ih ?_
    cases hresult : reconcile (env entry.2 acc.store) entry.1 with
    | error e =>
      rw [(h.failed hresult).2]
      exact hothers _ _ hacc
    | ok result =>
      rw [(h.done hresult).2.1]
      exact hreconcile _ _ _ _ _ hacc hresult

theorem QueueResourceHandler.handles (cfg : Config) (env : Environment) (project : Project) :
    Handles env (fun m => reconcileEntry cfg m project) (handleEntry cfg env project) := by
  constructor
  · intro acc entry i e h
    simp [handleEntry, h]
  · intro acc entry i name s h
    simp only [handleEntry, h, and_self]

theorem DepartmentHandler.handles (cfg : Config) (env : Environment) (department : Department) :
    Handles env (fun m entry => (reconcileEntry cfg m department entry).map Prod.snd) (handleEntry cfg env department) := by
  constructor
  · intro acc entry i e h
    cases hfailed : reconcileEntry cfg (env i acc.store) department entry with
    | ok result => simp [hfailed, Except.map] at h
    | error e' => simp [handleEntry, hfailed]
  · intro acc entry i name s h
    obtain ⟨⟨held, result⟩, hdone, rfl⟩ := map_ok h
    simp only [handleEntry, hdone, and_self]

end Krm.Queues
