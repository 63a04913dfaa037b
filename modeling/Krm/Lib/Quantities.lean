import Mathlib.Algebra.Ring.Nat
import Mathlib.Data.List.SplitBy

/-! # Texts of numbers with units

A text such as `1h30m` or `1.5m` is a sequence of quantities: digits, perhaps a dot and more digits, and a unit. It is
cut wherever a unit ends. -/

namespace Krm.Lib

structure Quantity where
  whole : List Char
  fraction : Option (List Char)
  unit : List Char
deriving DecidableEq, Repr

def isUnitChar (c : Char) : Bool := c ≠ '.' && !c.isDigit

/-- Two neighbours in the text of one quantity: no number follows a unit. -/
def together (a b : Char) : Bool := !isUnitChar a || isUnitChar b

def readQuantity (text : List Char) : Quantity :=
  let whole := text.takeWhile Char.isDigit
  match text.dropWhile Char.isDigit with
  | '.' :: rest => ⟨whole, some (rest.takeWhile Char.isDigit), rest.dropWhile Char.isDigit⟩
  | unit => ⟨whole, none, unit⟩

def quantities (text : List Char) : List Quantity := (text.splitBy together).map readQuantity

namespace Quantity

def text (q : Quantity) : List Char := q.whole ++ (q.fraction.elim [] ('.' :: ·) ++ q.unit)

structure Proper (q : Quantity) : Prop where
  whole_ne : q.whole ≠ []
  whole : ∀ c ∈ q.whole, c.isDigit = true
  fraction : ∀ f ∈ q.fraction, ∀ c ∈ f, c.isDigit = true
  unit_ne : q.unit ≠ []
  unit : ∀ c ∈ q.unit, isUnitChar c = true

variable {q q' : Quantity}

theorem not_isDigit_of_isUnitChar {c : Char} (h : isUnitChar c = true) : c.isDigit = false ∧ c ≠ '.' := by
  simp only [isUnitChar, Bool.and_eq_true, decide_eq_true_eq, Bool.not_eq_true'] at h
  exact h.symm

theorem not_isUnitChar_of_isDigit {c : Char} (h : c.isDigit = true) : isUnitChar c = false := by
  simp [isUnitChar, h]

theorem span_digits {digits : List Char} (hdigits : ∀ c ∈ digits, c.isDigit = true) (rest : List Char)
    (hrest : ∀ c ∈ rest.head?, c.isDigit = false) :
    (digits ++ rest).takeWhile Char.isDigit = digits ∧ (digits ++ rest).dropWhile Char.isDigit = rest := by
  rw [List.takeWhile_append_of_pos hdigits, List.dropWhile_append_of_pos hdigits]
  cases rest with
  | nil => simp
  | cons c rest =>
    have hc := hrest c rfl
    simp [hc]

theorem Proper.head_unit (h : q.Proper) : ∃ c rest, q.unit = c :: rest ∧ isUnitChar c = true := by
  cases hunit : q.unit with
  | nil => exact absurd hunit h.unit_ne
  | cons c rest => exact ⟨c, rest, rfl, h.unit c (by rw [hunit]; exact .head _)⟩

theorem readQuantity_text (h : q.Proper) : readQuantity q.text = q := by
  obtain ⟨c, rest, hunit, hc⟩ := h.head_unit
  obtain ⟨hdigit, hdot⟩ := not_isDigit_of_isUnitChar hc
  obtain ⟨whole, fraction, unit⟩ := q
  obtain rfl : unit = c :: rest := hunit
  cases fraction with
  | none =>
    obtain ⟨htake, hdrop⟩ := span_digits h.whole (c :: rest) (by simpa using hdigit)
    simp only [readQuantity, text, Option.elim_none, List.nil_append, htake, hdrop]
    split
    · rename_i hcons
      exact absurd (List.cons.inj hcons).1 hdot
    · rfl
  | some f =>
    obtain ⟨htake, hdrop⟩ := span_digits h.whole ('.' :: (f ++ c :: rest)) (by simp)
    obtain ⟨hf, hu⟩ := span_digits (h.fraction f rfl) (c :: rest) (by simpa using hdigit)
    simp only [readQuantity, text, Option.elim_some, List.cons_append, htake, hdrop, hf, hu]

theorem Proper.number_unit (h : q.Proper) :
    ∃ number, q.text = number ++ q.unit ∧ (∃ c rest, number = c :: rest ∧ c.isDigit = true) ∧
      ∀ c ∈ number, isUnitChar c = false := by
  refine ⟨q.whole ++ q.fraction.elim [] ('.' :: ·), (List.append_assoc ..).symm, ?_, fun c hc => ?_⟩
  · cases hwhole : q.whole with
    | nil => exact absurd hwhole h.whole_ne
    | cons c rest => exact ⟨c, _, rfl, h.whole c (by rw [hwhole]; exact .head _)⟩
  · rcases List.mem_append.1 hc with hc | hc
    · exact not_isUnitChar_of_isDigit (h.whole c hc)
    · cases hf : q.fraction with
      | none => simp [hf] at hc
      | some f =>
        rw [hf, Option.elim_some, List.mem_cons] at hc
        rcases hc with rfl | hc
        · decide
        · exact not_isUnitChar_of_isDigit (h.fraction f hf c hc)

theorem Proper.text_ne (h : q.Proper) : q.text ≠ [] := by
  obtain ⟨number, htext, ⟨c, rest, rfl, -⟩, -⟩ := h.number_unit
  rw [htext]
  exact List.cons_ne_nil _ _

theorem Proper.head_text (h : q.Proper) : (q.text.head h.text_ne).isDigit = true := by
  obtain ⟨number, htext, ⟨c, rest, rfl, hc⟩, -⟩ := h.number_unit
  simp only [htext, List.cons_append, List.head_cons]
  exact hc

theorem Proper.getLast_text (h : q.Proper) : isUnitChar (q.text.getLast h.text_ne) = true := by
  obtain ⟨number, htext, -⟩ := h.number_unit
  simp only [htext, List.getLast_append_of_ne_nil _ h.unit_ne]
  exact h.unit _ (List.getLast_mem _)

theorem Proper.isChain_text (h : q.Proper) : List.IsChain (fun a b => together a b = true) q.text := by
  obtain ⟨number, htext, -, hnumber⟩ := h.number_unit
  rw [htext]
  refine List.Pairwise.isChain (List.pairwise_append.2 ⟨?_, ?_, fun a ha b _ => ?_⟩)
  · exact List.pairwise_of_forall_mem_list fun a ha b _ => by simp [together, hnumber a ha]
  · exact List.pairwise_of_forall_mem_list fun a _ b hb => by simp [together, h.unit b hb]
  · simp [together, hnumber a ha]

variable {units : List (List Char × Nat)} {qs : List Quantity}

theorem quantities_text (h : ∀ q ∈ qs, q.Proper) : quantities (qs.flatMap text) = qs := by
  have hcut : (qs.flatMap text).splitBy together = qs.map text := by
    rw [List.flatMap_def]
    refine List.splitBy_flatten ?_ ?_ ?_
    · rw [List.mem_map]
      rintro ⟨q, hq, htext⟩
      exact (h q hq).text_ne htext
    · rintro m hm
      obtain ⟨q, hq, rfl⟩ := List.mem_map.1 hm
      exact (h q hq).isChain_text
    · -- a unit before the digits of the next quantity
      refine List.Pairwise.isChain (List.pairwise_map.2 (List.pairwise_of_forall_mem_list fun a ha b hb => ?_))
      refine ⟨(h a ha).text_ne, (h b hb).text_ne, ?_⟩
      simp [together, (h a ha).getLast_text, not_isUnitChar_of_isDigit (h b hb).head_text]
  rw [quantities, hcut, List.map_map]
  exact (List.map_congr_left fun q hq => readQuantity_text (h q hq)).trans (List.map_id qs)

theorem readQuantity_whole (text : List Char) : (readQuantity text).whole = text.takeWhile Char.isDigit := by
  unfold readQuantity
  dsimp only
  split <;> rfl

theorem head_of_whole {text : List Char} (h : quantities text = q :: qs) (hq : q.whole ≠ []) :
    ∃ c rest, text = c :: rest ∧ c.isDigit = true := by
  unfold quantities at h
  cases hcut : text.splitBy together with
  | nil => simp [hcut] at h
  | cons group groups =>
    rw [hcut, List.map_cons, List.cons.injEq] at h
    have htext := List.flatten_splitBy together text
    rw [hcut, List.flatten_cons] at htext
    rw [← h.1, readQuantity_whole] at hq
    cases group with
    | nil => exact absurd rfl hq
    | cons c rest =>
      refine ⟨c, _, htext.symm, ?_⟩
      by_contra hdigit
      exact hq (by simp [hdigit])

/-! ## Their values -/

/-- The number without its dot, for what is before the dot or behind it. -/
def number (digits : List Char) : Nat := Nat.ofDigitChars 10 digits 0

/-- In the smallest unit, rounded down. -/
def value (units : List (List Char × Nat)) (q : Quantity) : Option Nat :=
  let fraction := q.fraction.getD []
  if q.whole = [] ∧ fraction = [] then none
  else (units.lookup q.unit).map fun size =>
    number q.whole * size + number fraction * size / 10 ^ fraction.length

def total (units : List (List Char × Nat)) : List Quantity → Option Nat
  | [] => some 0
  | q :: qs => do
    let first ← value units q
    let rest ← total units qs
    return first + rest

theorem total_cons_of_value {a b : Nat} (hq : value units q = some a) (hqs : total units qs = some b) :
    total units (q :: qs) = some (a + b) := by
  simp only [total, hq, hqs]
  rfl

theorem total_cons {a : Nat} (h : total units (q :: qs) = some a) :
    ∃ first rest, value units q = some first ∧ total units qs = some rest ∧ a = first + rest := by
  obtain ⟨first, hfirst, h⟩ := Option.bind_eq_some_iff.1 h
  obtain ⟨rest, hrest, h⟩ := Option.bind_eq_some_iff.1 h
  exact ⟨first, rest, hfirst, hrest, (Option.some.inj h).symm⟩

theorem total_agree {units units' : List (List Char × Nat)}
    (h : ∀ unit a b, units.lookup unit = some a → units'.lookup unit = some b → a = b) {a b : Nat}
    (ha : total units qs = some a) (hb : total units' qs = some b) : a = b := by
  induction qs generalizing a b with
  | nil => exact (Option.some.inj ha).symm.trans (Option.some.inj hb)
  | cons q qs ih =>
    obtain ⟨a₁, a₂, hva, hta, rfl⟩ := total_cons ha
    obtain ⟨b₁, b₂, hvb, htb, rfl⟩ := total_cons hb
    have hhead : a₁ = b₁ := by
      simp only [value] at hva hvb
      split_ifs at hva hvb
      obtain ⟨size, hsize, rfl⟩ := Option.map_eq_some_iff.1 hva
      obtain ⟨size', hsize', rfl⟩ := Option.map_eq_some_iff.1 hvb
      rw [h _ _ _ hsize hsize']
    rw [hhead, ih hta htb]

theorem total_singleton_isSome (hq : q.whole ≠ []) (hunit : q.unit ∈ units.map Prod.fst) :
    ∃ a, total units [q] = some a := by
  obtain ⟨entry, hentry, hunit⟩ := List.mem_map.1 hunit
  have hlookup : (units.lookup q.unit).isSome := List.lookup_isSome_iff.2 ⟨entry, hentry, beq_iff_eq.2 hunit.symm⟩
  obtain ⟨size, hsize⟩ := Option.isSome_iff_exists.1 hlookup
  have hvalue : value units q = some (number q.whole * size +
      number (q.fraction.getD []) * size / 10 ^ (q.fraction.getD []).length) := by
    simp only [value, hq, false_and, if_false, hsize, Option.map_some]
  exact ⟨_, total_cons_of_value hvalue (show total units [] = some 0 from rfl)⟩

/-! ## Whole numbers of a unit -/

def count (n : Nat) (unit : String) : Quantity := ⟨Nat.toDigits 10 n, none, unit.toList⟩

theorem number_toDigits (n : Nat) : number (Nat.toDigits 10 n) = n := Nat.ofDigitChars_toDigits (by decide) (by decide)

theorem isDigit_toDigits {n : Nat} {c : Char} (h : c ∈ Nat.toDigits 10 n) : c.isDigit = true :=
  Nat.isDigit_of_mem_toDigits (by decide) (by decide) h

theorem count_proper (n : Nat) {unit : String} (hne : unit.toList ≠ [])
    (hunit : ∀ c ∈ unit.toList, isUnitChar c = true) : (count n unit).Proper where
  whole_ne := Nat.toDigits_ne_nil
  whole := fun _ => isDigit_toDigits
  fraction := fun f hf => by cases hf
  unit_ne := hne
  unit := hunit

theorem text_count (n : Nat) (unit : String) : (count n unit).text = (toString n ++ unit).toList := by
  rw [String.toList_append]
  exact congrArg (· ++ unit.toList) Nat.toList_repr.symm

theorem value_count {unit : String} {size : Nat} (h : units.lookup unit.toList = some size) (n : Nat) :
    (count n unit).value units = some (n * size) := by
  have hne : (count n unit).whole ≠ [] := Nat.toDigits_ne_nil
  have hlookup : units.lookup (count n unit).unit = some size := h
  have hnumber : number (count n unit).whole = n := number_toDigits n
  have hnone : (count n unit).fraction.getD [] = [] := rfl
  simp only [value, hnone, hne, false_and, if_false, hlookup, Option.map_some, hnumber]
  simp [number]

end Quantity

end Krm.Lib
