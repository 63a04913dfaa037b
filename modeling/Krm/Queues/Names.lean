import Krm.Lib.Subdomain
import Krm.Queues.Steps

/-! # Generated queue names: their syntax, and whether they are free -/

open Krm.Lib

namespace Krm.Queues

/-- Random texts of the length asked for, of lowercase letters and digits. -/
structure RandomSuffixes (rand : Nat → Nat → String) : Prop where
  length : ∀ k len, (rand k len).toList.length = len
  alphanum : ∀ k len, ∀ c ∈ (rand k len).toList, isLowerAlphanum c = true

/-! ## The names tried -/

/-- The `i`-th name from `name` on. -/
def nameAfter (v : View) (suggestedQueueName : String) (trimNameLen k : Nat) (name : String) : Nat → String
  | 0 => name
  | i + 1 => suffixedName v suggestedQueueName trimNameLen (k + i) queueNameRandSuffixLen

def triedName (v : View) (suggestedQueueName : String) (i : Nat) : String :=
  if suggestedQueueName.toList.length ≤ maxNameLen then
    nameAfter v suggestedQueueName maxNameLen 0 suggestedQueueName i
  else suffixedName v suggestedQueueName maxNameLen i queueNameRandSuffixLen

theorem nameAfter_succ (v : View) (suggested : String) (n k : Nat) (name : String) (i : Nat) :
    nameAfter v suggested n k name (i + 1) =
      nameAfter v suggested n (k + 1) (suffixedName v suggested n k queueNameRandSuffixLen) i := by
  cases i with
  | zero => rfl
  | succ i => simp only [nameAfter, Nat.add_assoc, Nat.add_comm 1]

theorem tryNames_eq (v : View) (taken : String → Bool) (suggested : String) (n tries k : Nat) (name : String) :
    tryNames v taken suggested n tries k name =
      ((List.range tries).find? fun i => !taken (nameAfter v suggested n k name i)).map
        (nameAfter v suggested n k name) := by
  induction tries generalizing k name with
  | zero => rfl
  | succ tries ih =>
    have hzero : nameAfter v suggested n k name 0 = name := rfl
    rw [tryNames, ih, List.range_succ_eq_map, List.find?_cons, List.find?_map, hzero]
    cases htaken : taken name <;> simp [hzero, Function.comp_def, nameAfter_succ]

theorem suffixedName_min (v : View) (name : String) (n k len : Nat) :
    suffixedName v name (min name.toList.length n) k len = suffixedName v name n k len := by
  rw [suffixedName, cutName_min, suffixedName]

theorem nameAfter_eq_triedName (v : View) (name : String) (i : Nat) :
    nameAfter v name (min name.toList.length maxNameLen) (if name.toList.length > maxNameLen then 1 else 0)
        (if name.toList.length > maxNameLen then suffixedName v name maxNameLen 0 queueNameRandSuffixLen else name) i =
      triedName v name i := by
  unfold triedName
  by_cases hlen : name.toList.length ≤ maxNameLen
  · simp only [Nat.not_lt.2 hlen, hlen, if_true, if_false]
    cases i with
    | zero => rfl
    | succ i => rw [nameAfter, suffixedName_min, nameAfter]
  · simp only [Nat.lt_of_not_le hlen, hlen, if_true, if_false]
    cases i with
    | zero => rfl
    | succ i => rw [nameAfter, suffixedName_min, Nat.add_comm]

/-! ## Syntax -/

section Syntax

variable {v : View} (hrand : RandomSuffixes v.rand) {name : String} (hname : isDNS1123Subdomain name.toList = true)

theorem toList_suffixedName (v : View) (name : String) (n k len : Nat) :
    (suffixedName v name n k len).toList = name.toList.take n ++ '-' :: (v.rand k len).toList := by
  simp [suffixedName, cutName]

include hrand hname

theorem suffixedName_valid_iff {n len : Nat} (k : Nat) (hn : 0 < n) (hlen : 0 < len) (hfits : n + len < 253) :
    isDNS1123Subdomain (suffixedName v name n k len).toList = true ↔ (name.toList.take n).getLast? ≠ some '.' := by
  rw [toList_suffixedName]
  refine subdomain_cut hname hn (hrand.alphanum k len) ?_ (by rwa [hrand.length])
  intro hnil
  have := hrand.length k len
  rw [hnil, List.length_nil] at this
  omega

theorem triedName_valid_iff (i : Nat) :
    isDNS1123Subdomain (triedName v name i).toList = true ↔ (name.toList.take maxNameLen).getLast? ≠ some '.' := by
  have hsuffixed : ∀ k, isDNS1123Subdomain (suffixedName v name maxNameLen k queueNameRandSuffixLen).toList = true ↔
      (name.toList.take maxNameLen).getLast? ≠ some '.' :=
    fun k => suffixedName_valid_iff hrand hname k (by decide) (by decide) (by decide)
  unfold triedName
  split_ifs with hlen
  · cases i with
    | zero =>
      rw [nameAfter, List.take_of_length_le hlen]
      exact iff_of_true hname (subdomain_getLast hname)
    | succ i => exact hsuffixed _
  · exact hsuffixed i

theorem suffixedName_bytes (n k len : Nat) : (suffixedName v name n k len).utf8ByteSize ≤ n + len + 1 := by
  have hascii : ∀ c ∈ (suffixedName v name n k len).toList, c.utf8Size = 1 := by
    intro c hc
    rw [toList_suffixedName, List.mem_append, List.mem_cons] at hc
    rcases hc with hc | rfl | hc
    · exact subdomain_ascii hname c (List.mem_of_mem_take hc)
    · rfl
    · exact ascii_of_labelChar (isDNS1123LabelChar_of_alphanum (hrand.alphanum k len c hc))
  have hlength : (suffixedName v name n k len).toList.length ≤ n + len + 1 := by
    rw [toList_suffixedName, List.length_append, List.length_cons, hrand.length, List.length_take]
    omega
  rw [← String.ofList_toList (s := suffixedName v name n k len), utf8ByteSize_of_ascii hascii]
  exact hlength

theorem triedName_bytes (i : Nat) : (triedName v name i).utf8ByteSize ≤ 63 := by
  unfold triedName
  split_ifs with hlen
  · cases i with
    | zero =>
      rw [nameAfter, ← String.ofList_toList (s := name), utf8ByteSize_of_ascii (subdomain_ascii hname)]
      exact hlen.trans (by decide)
    | succ i => exact suffixedName_bytes hrand hname _ _ _
  · exact suffixedName_bytes hrand hname _ _ _

end Syntax

/-! ## Free names -/

/-- Owned by a Project or Department of another UID. -/
def OwnedByAnother (ownerUID : String) (q : Queue) : Prop :=
  ∃ ref ∈ q.ownerReferences, (ref.kind = projectKind ∨ ref.kind = departmentKind) ∧ ref.uid ≠ ownerUID

/-- The labels that pass for the resource's own: project and department are swapped. -/
def MistakenForOwn (cfg : Config) (projectName departmentName : String) (q : Queue) : Prop :=
  (projectName ≠ "" ∧ isOwnedByKind q.ownerReferences departmentKind = true ∧
    projectName = q.labels.value cfg.queueDepartmentNameLabelKey) ∨
  (departmentName ≠ "" ∧ isOwnedByKind q.ownerReferences projectKind = true ∧
    departmentName = q.labels.value cfg.projectLabelKey)

/-- An external queue, or one of another owner that does not pass for the own. -/
def KeepsName (cfg : Config) (projectName departmentName ownerUID : String) (q : Queue) : Prop :=
  isExternalQueue cfg q ownerUID = true ∨
    ((isOwnedByKind q.ownerReferences departmentKind = true ∨ isOwnedByKind q.ownerReferences projectKind = true) ∧
      ¬MistakenForOwn cfg projectName departmentName q)

/-- The name is held by a queue that keeps the generator from it. -/
def Occupied (cfg : Config) (s : QueueStore) (projectName departmentName ownerUID name : String) : Prop :=
  ∃ q, s.get name = some q ∧ KeepsName cfg projectName departmentName ownerUID q

theorem takenBy_iff {cfg : Config} {project department uid : String} {q : Queue} :
    takenBy cfg project department uid q = true ↔ KeepsName cfg project department uid q := by
  simp only [takenBy, KeepsName, MistakenForOwn, Bool.or_eq_true, Bool.and_eq_true, Bool.not_eq_true', decide_eq_false_iff_not,
    not_or, and_comm]

theorem isTaken_iff {cfg : Config} (departments : DepartmentStore) (rand : Nat → Nat → String) {s : QueueStore}
    {project department name uid : String} :
    isSuggestedQueueTakenByOtherResource cfg (.fresh departments rand s) project department name uid = true ↔
      Occupied cfg s project department uid name := by
  rw [isSuggestedQueueTakenByOtherResource, isQueueTaken_fresh, Option.any_eq_true]
  simp only [takenBy_iff, Occupied]

/-- The first name not occupied, one of the ten unless all are. -/
theorem generated_iff (cfg : Config) (departments : DepartmentStore) (rand : Nat → Nat → String) (s : QueueStore)
    (project department uid suggested : String) :
    let v := View.fresh departments rand s
    let occupied := fun i => Occupied cfg s project department uid (triedName v suggested i)
    (∃ i < generateQueueNameTries, ¬occupied i ∧ (∀ j < i, occupied j) ∧
      generateQueueNameForResource cfg v project department suggested uid = triedName v suggested i) ∨
    ((∀ i < generateQueueNameTries, occupied i) ∧
      ∃ k, generateQueueNameForResource cfg v project department suggested uid =
        suffixedName v suggested maxNameLenWithLongSuffix k queueNameRandSuffixLongLen) := by
  intro v occupied
  simp only [generateQueueNameForResource, tryNames_eq, nameAfter_eq_triedName]
  rcases hfind : (List.range generateQueueNameTries).find? _ with _ | i
  · have hmin : min (min suggested.toList.length maxNameLen) maxNameLenWithLongSuffix =
        min suggested.toList.length maxNameLenWithLongSuffix := by
      simp only [maxNameLen, maxNameLenWithLongSuffix]
      omega
    rw [hmin, suffixedName_min]
    refine .inr ⟨fun i hi => (isTaken_iff departments rand).1 ?_, _, rfl⟩
    simpa using List.find?_eq_none.1 hfind i (List.mem_range.2 hi)
  · obtain ⟨hfree, hi, hbefore⟩ := List.find?_range_eq_some.1 hfind
    refine .inl ⟨i, List.mem_range.1 hi, fun hoccupied => ?_, fun j hj => (isTaken_iff departments rand).1 ?_,
      nameAfter_eq_triedName v suggested i⟩
    · rw [(isTaken_iff departments rand).2 hoccupied] at hfree
      cases hfree
    · simpa using hbefore j hj

/-- A domain name unless cut behind a dot, and free unless a queue passes for the own one. -/
theorem generated_name_valid_and_free_iff (cfg : Config) (departments : DepartmentStore)
    {rand : Nat → Nat → String} (hrand : RandomSuffixes rand) (s : QueueStore)
    (projectName departmentName ownerUID : String) {suggestedQueueName : String}
    (hname : isDNS1123Subdomain suggestedQueueName.toList = true) :
    let v := View.fresh departments rand s
    let tried := triedName v suggestedQueueName
    let occupied := fun i => Occupied cfg s projectName departmentName ownerUID (tried i)
    let allCollided := ∀ i < generateQueueNameTries, occupied i
    let name := generateQueueNameForResource cfg v projectName departmentName suggestedQueueName ownerUID
    name.utf8ByteSize ≤ 63 ∧
    (isDNS1123Subdomain name.toList = true ↔
      (¬allCollided → (suggestedQueueName.toList.take maxNameLen).getLast? ≠ some '.') ∧
      (allCollided → (suggestedQueueName.toList.take maxNameLenWithLongSuffix).getLast? ≠ some '.')) ∧
    ((¬allCollided → ∀ q, s.get name = some q → ¬OwnedByAnother ownerUID q) ↔
      ∀ i < generateQueueNameTries, (∀ j < i, occupied j) → ∀ q, s.get (tried i) = some q →
        OwnedByAnother ownerUID q → KeepsName cfg projectName departmentName ownerUID q) := by
  intro v tried occupied allCollided name
  rcases generated_iff cfg departments rand s projectName departmentName ownerUID suggestedQueueName with
    ⟨i, hi, hfree, hbefore, htried⟩ | ⟨hall, k, hlong⟩
  · have hnot : ¬allCollided := fun hall => hfree (hall i hi)
    rw [show name = tried i from htried]
    refine ⟨triedName_bytes (v := v) hrand hname i, ?_, ?_, ?_⟩
    · rw [triedName_valid_iff (v := v) hrand hname i]
      exact ⟨fun h => ⟨fun _ => h, fun hall => absurd hall hnot⟩, fun h => h.1 hnot⟩
    · intro hunowned j hj hjbefore q hq hother
      by_contra hpasses
      -- The first tried name that is not occupied is the generated one.
      have hjfree : ¬occupied j := by
        rintro ⟨q', hq', hkeeps⟩
        cases hq.symm.trans hq'
        exact hpasses hkeeps
      have hij : i = j := by
        rcases Nat.lt_trichotomy i j with hlt | heq | hlt
        · exact absurd (hjbefore i hlt) hfree
        · exact heq
        · exact absurd (hbefore j hlt) hjfree
      subst hij
      exact hunowned hnot q hq hother
    · intro h _ q hq hother
      exact hfree ⟨q, hq, h i hi hbefore q hq hother⟩
  · rw [show name = _ from hlong]
    refine ⟨suffixedName_bytes (v := v) hrand hname _ _ _, ?_, ?_, fun _ hnot => absurd hall hnot⟩
    · rw [suffixedName_valid_iff (v := v) hrand hname k (by decide) (by decide) (by decide)]
      exact ⟨fun h => ⟨fun hnot => absurd hall hnot, fun _ => h⟩, fun h => h.2 hall⟩
    · intro _ i hi _ q hq _
      obtain ⟨q', hq', hkeeps⟩ := hall i hi
      cases hq.symm.trans hq'
      exact hkeeps

/-! ## A name that is cut behind a dot, and one that a department has -/

namespace NameSample

def sameLetter (_ len : Nat) : String := String.ofList (List.replicate len 'a')

theorem sameLetter_suffixes : RandomSuffixes sameLetter where
  length k len := by simp [sameLetter]
  alphanum k len c hc := by
    simp only [sameLetter, String.toList_ofList, List.mem_replicate] at hc
    rw [hc.2]
    decide

/-- A label of 57 letters, and two more behind it. -/
def dotted : String := String.ofList (List.replicate 57 'a' ++ ['.', 'b', 'c'])

def departmentQueue : Queue where
  name := "team"
  labels := (∅ : Labels).insert "kai.resources/department-name" "team"
  ownerReferences := [ownerReference departmentKind "team" "u0"]
  spec := populateQueueSpec none "team" "" none
  resourceVersion := 1

def departmentStore : QueueStore := .single departmentQueue

end NameSample

open NameSample in
theorem generated_name_not_valid_or_free :
    let longName := generateQueueNameForResource (.default false) (.fresh .empty sameLetter .empty) "team" "" dotted "u1"
    let takenName := generateQueueNameForResource (.default false) (.fresh .empty sameLetter departmentStore)
      "team" "" "team" "u1"
    RandomSuffixes sameLetter ∧
    isDNS1123Subdomain dotted.toList = true ∧ isDNS1123Subdomain longName.toList = false ∧
    isDNS1123Subdomain "team".toList = true ∧ takenName = departmentQueue.name ∧
    ¬Occupied (.default false) departmentStore "team" "" "u1" "team" ∧ OwnedByAnother "u1" departmentQueue := by
  -- For the Project `team` the name of the Department's queue `team` is generated, and a long name gets a label that
  -- starts with a dash.
  refine ⟨sameLetter_suffixes, by decide +kernel, by decide +kernel, by decide, by decide +kernel, ?_, ?_⟩
  · rintro ⟨q, hq, hkeeps⟩
    cases hq
    exact absurd (takenBy_iff.2 hkeeps) (by decide)
  · exact ⟨_, List.mem_singleton.2 rfl, .inr rfl, by decide⟩

open NameSample in
theorem generated_name_beside_department :
    let name := generateQueueNameForResource (.default true) (.fresh .empty sameLetter departmentStore) "team" "" "team"
      "u1"
    name.utf8ByteSize ≤ 63 ∧ isDNS1123Subdomain name.toList = true ∧
      ∀ q, departmentStore.get name = some q → ¬ OwnedByAnother "u1" q := by
  -- With external queues allowed, the Project `team` gets a name of its own.
  obtain ⟨hbytes, hvalid, hfree⟩ := generated_name_valid_and_free_iff (.default true) .empty sameLetter_suffixes
    departmentStore "team" "" "u1" (show isDNS1123Subdomain "team".toList = true by decide)
  refine ⟨hbytes, hvalid.2 ⟨fun _ => by decide, fun _ => by decide⟩, hfree.2 ?_ fun hall => ?_⟩
  · intro i _ _ q hq _
    obtain rfl : q = departmentQueue := List.mem_singleton.1 (Store.get_mem hq)
    exact .inl (by decide)
  · obtain ⟨q, hq, -⟩ := hall 1 (by decide)
    have hnone : departmentStore.get (triedName (.fresh .empty sameLetter departmentStore) "team" 1) = none := by
      decide +kernel
    cases hnone.symm.trans hq

end Krm.Queues
