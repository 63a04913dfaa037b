import Krm.PodGroups.PodMutator

/-! # What it means to add node affinity to a pod -/

open Krm.Lib

namespace Krm.PodGroups

/-! ## Node selectors, as the scheduler reads them

A requirement that cannot be read holds on no node, and a term that is empty matches no node. -/

def parseDigits (digits : List Char) : Option Nat :=
  if !digits.isEmpty && digits.all Char.isDigit then
    some (digits.foldl (fun n digit => 10 * n + (digit.toNat - '0'.toNat)) 0)
  else none

/-- A decimal integer of 64 bits. -/
def parseInt (text : String) : Option Int :=
  let parsed : Option Int :=
    match text.toList with
    | '-' :: digits => (parseDigits digits).map fun n => -(n : Int)
    | '+' :: digits => (parseDigits digits).map fun n => (n : Int)
    | digits => (parseDigits digits).map fun n => (n : Int)
  parsed.filter fun n => -2 ^ 63 ≤ n && n < 2 ^ 63

namespace NodeSelectorRequirement

/-- The label's value lies beyond the one bound, in the order given. -/
def compares (bounds : List String) (value : Option String) (beyond : Int → Int → Bool) : Bool :=
  match bounds, value.bind parseInt with
  | [bound], some n => (parseInt bound).any (beyond n)
  | _, _ => false

def isValid (requirement : NodeSelectorRequirement) : Bool :=
  isLabelKey requirement.key && requirement.values.all isLabelValue

def holds (requirement : NodeSelectorRequirement) (labels : Labels) : Bool :=
  let value := labels.lookup requirement.key
  requirement.isValid &&
    match requirement.operator with
    | .in => value.any (· ∈ requirement.values)
    | .notIn => !requirement.values.isEmpty && value.all (· ∉ requirement.values)
    | .exists => requirement.values.isEmpty && value.isSome
    | .doesNotExist => requirement.values.isEmpty && value.isNone
    | .gt => compares requirement.values value fun n bound => bound < n
    | .lt => compares requirement.values value fun n bound => n < bound

/-- The only field of a node is its name. -/
def holdsOnField (requirement : NodeSelectorRequirement) (node : Nodes.Node) : Bool :=
  let field := if requirement.key = "metadata.name" then node.name else ""
  match requirement.operator, requirement.values with
  | .in, [value] => field = value
  | .notIn, [value] => field ≠ value
  | _, _ => false

end NodeSelectorRequirement

namespace NodeSelectorTerm

def isEmpty (term : NodeSelectorTerm) : Bool := term.matchExpressions.isEmpty && term.matchFields.isEmpty

def holds (term : NodeSelectorTerm) (node : Nodes.Node) : Bool :=
  !term.isEmpty && term.matchExpressions.all (·.holds node.labels) && term.matchFields.all (·.holdsOnField node)

end NodeSelectorTerm

/-- A pod that requires nothing can go to every node. -/
def satisfiesRequired (affinity : Option Affinity) (node : Nodes.Node) : Bool :=
  match (affinity.bind Affinity.nodeAffinity).bind NodeAffinity.requiredDuringSchedulingIgnoredDuringExecution with
  | none => true
  | some terms => terms.any (·.holds node)

/-! ## The terms after the addition -/

open PodMutator

/-- The term with the expression in the place of those on its key. -/
def replaced (expr : NodeSelectorRequirement) (term : NodeSelectorTerm) : NodeSelectorTerm :=
  { term with matchExpressions := term.matchExpressions.filter (fun other => other.key ≠ expr.key) ++ [expr] }

/-- The terms that an expression is added to, an empty one if none. -/
def startTerms (affinity : Option Affinity) : List NodeSelectorTerm :=
  if nodeSelectorTerms affinity = [] then [⟨[], []⟩] else nodeSelectorTerms affinity

theorem startTerms_ne (affinity : Option Affinity) : startTerms affinity ≠ [] := by
  unfold startTerms
  split_ifs with h
  · exact List.cons_ne_nil _ _
  · exact h

section

variable (affinity : Option Affinity) {exprs : List NodeSelectorRequirement}

/-- Every expression makes its own copy of the terms. -/
theorem addNodeAffinityToPodSpec_eq (hne : exprs ≠ []) :
    addNodeAffinityToPodSpec affinity exprs =
      ⟨some ⟨some (exprs.flatMap fun expr => (startTerms affinity).map (replaced expr))⟩⟩ := by
  obtain ⟨expr, exprs, rfl⟩ := List.exists_cons_of_ne_nil hne
  unfold addNodeAffinityToPodSpec startTerms
  cases nodeSelectorTerms affinity with
  | nil => simp [replaced, ← List.map_eq_flatMap]
  | cons first rest =>
    simp only [List.isEmpty_cons, Bool.false_eq_true, if_false, reduceCtorEq]
    rw [if_neg (by simp)]
    rfl

theorem nodeSelectorTerms_added (hne : exprs ≠ []) :
    nodeSelectorTerms (some (addNodeAffinityToPodSpec affinity exprs)) =
      exprs.flatMap fun expr => (startTerms affinity).map (replaced expr) := by
  rw [addNodeAffinityToPodSpec_eq affinity hne]
  rfl

/-! ## Where the pod can go -/

theorem replaced_holds {expr : NodeSelectorRequirement} {term : NodeSelectorTerm} {node : Nodes.Node} :
    (replaced expr term).holds node ↔ expr.holds node.labels ∧ (∀ field ∈ term.matchFields, field.holdsOnField node) ∧
      ∀ other ∈ term.matchExpressions, other.key ≠ expr.key → other.holds node.labels := by
  have hfilled : (replaced expr term).isEmpty = false := by simp [replaced, NodeSelectorTerm.isEmpty]
  have hexprs : (replaced expr term).matchExpressions.all (·.holds node.labels) ↔ expr.holds node.labels ∧
      ∀ other ∈ term.matchExpressions, other.key ≠ expr.key → other.holds node.labels := by
    rw [replaced, List.all_append, Bool.and_eq_true, and_comm]
    simp [or_iff_not_imp_left]
  rw [NodeSelectorTerm.holds, hfilled, Bool.not_false, Bool.true_and, Bool.and_eq_true, hexprs, and_assoc]
  refine and_congr_right fun _ => ?_
  rw [and_comm]
  exact and_congr_left fun _ => List.all_eq_true

/-- A node is allowed exactly if an expression holds, with the rest of a term. -/
theorem added_affinity_iff (hne : exprs ≠ []) (node : Nodes.Node) :
    satisfiesRequired (some (addNodeAffinityToPodSpec affinity exprs)) node ↔
      ∃ expr ∈ exprs, expr.holds node.labels ∧ (nodeSelectorTerms affinity = [] ∨
        ∃ term ∈ nodeSelectorTerms affinity, (∀ field ∈ term.matchFields, field.holdsOnField node) ∧
          ∀ other ∈ term.matchExpressions, other.key ≠ expr.key → other.holds node.labels) := by
  have hstart : ∀ expr : NodeSelectorRequirement, (∃ term ∈ startTerms affinity, (replaced expr term).holds node) ↔
      expr.holds node.labels ∧ (nodeSelectorTerms affinity = [] ∨
        ∃ term ∈ nodeSelectorTerms affinity, (∀ field ∈ term.matchFields, field.holdsOnField node) ∧
          ∀ other ∈ term.matchExpressions, other.key ≠ expr.key → other.holds node.labels) := by
    intro expr
    simp only [replaced_holds]
    unfold startTerms
    split_ifs with hterms
    · simp [hterms]
    · simp only [hterms, false_or]
      constructor
      · rintro ⟨term, hterm, hexpr, hrest⟩
        exact ⟨hexpr, term, hterm, hrest⟩
      · rintro ⟨hexpr, term, hterm, hrest⟩
        exact ⟨term, hterm, hexpr, hrest⟩
  rw [addNodeAffinityToPodSpec_eq affinity hne]
  simp only [satisfiesRequired, Option.bind_some, List.any_eq_true, List.mem_flatMap, List.mem_map]
  constructor
  · rintro ⟨_, ⟨expr, hexpr, term, hterm, rfl⟩, hholds⟩
    exact ⟨expr, hexpr, (hstart expr).1 ⟨term, hterm, hholds⟩⟩
  · rintro ⟨expr, hexpr, hholds⟩
    obtain ⟨term, hterm, hholds⟩ := (hstart expr).2 hholds
    exact ⟨_, ⟨expr, hexpr, term, hterm, rfl⟩, hholds⟩

theorem same_key_given_up :
    satisfiesRequired (some (addNodeAffinityToPodSpec
        (some ⟨some ⟨some [⟨[⟨"pool", .in, ["infer"]⟩, ⟨"zone", .in, ["a"]⟩], []⟩]⟩⟩) [⟨"pool", .in, ["train"]⟩]))
      ⟨"n1", ((∅ : Labels).insert "pool" "train").insert "zone" "a", false⟩ := by
  -- An expression on another key still counts, the one on the same key no longer does.
  refine (added_affinity_iff _ (List.cons_ne_nil _ _) _).2 ⟨_, List.mem_cons_self, by decide, .inr ⟨_, List.mem_cons_self, ?_⟩⟩
  decide

end

end Krm.PodGroups
