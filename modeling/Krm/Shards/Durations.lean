import Krm.Lib.Quantities
import Mathlib.Algebra.Ring.Int.Defs

/-! # Durations and their texts

A shard and a NodePool write durations in different ways: a shard holds machine durations and a window size of whole
counts of units, a NodePool holds texts of days, hours and minutes. -/

open Krm.Lib
open Krm.Lib.Quantity (total)

namespace Krm.Shards

structure Duration where
  ns : Int
  inRange : -2 ^ 63 ≤ ns ∧ ns < 2 ^ 63
deriving DecidableEq

def second : Nat := 10 ^ 9
def minute : Nat := 60 * second
def hour : Nat := 60 * minute
def day : Nat := 24 * hour

/-! ## Reading -/

/-- The standard library's units, days and weeks. -/
def durationUnits : List (List Char × Nat) :=
  [("ns".toList, 1), ("us".toList, 10 ^ 3), ("µs".toList, 10 ^ 3), ("μs".toList, 10 ^ 3),
    ("ms".toList, 10 ^ 6), ("s".toList, second), ("m".toList, minute), ("h".toList, hour), ("d".toList, day),
    ("w".toList, 7 * day)]

variable {d : Duration} {n : Nat}

theorem inRange_natCast (h : n < 2 ^ 63) : -2 ^ 63 ≤ (n : Int) ∧ (n : Int) < 2 ^ 63 := by omega

def Duration.ofNat (n : Nat) : Option Duration := if h : n < 2 ^ 63 then some ⟨n, inRange_natCast h⟩ else none

/-- Digits first, it is read as the exact sum of its units. -/
def ExactSums (parse : String → Option Duration) : Prop :=
  ∀ text : String, text ≠ "0" → text.toList.head?.any Char.isDigit →
    parse text = (total durationUnits (quantities text.toList)).bind Duration.ofNat

/-- Prometheus's units, in the order in which they may stand. -/
def prometheusUnits : List (List Char × Nat) :=
  [("y".toList, 365 * day), ("w".toList, 7 * day), ("d".toList, day), ("h".toList, hour), ("m".toList, minute),
    ("s".toList, second), ("ms".toList, 10 ^ 6)]

/-- A Prometheus duration counts each unit in whole numbers. -/
def prometheusDuration (text : String) : Option Nat :=
  if text = "0" then some 0
  else
    let counts := quantities text.toList
    if counts ≠ [] ∧ (∀ q ∈ counts, q.whole ≠ [] ∧ q.fraction = none) ∧
        (counts.map Quantity.unit).Sublist (prometheusUnits.map Prod.fst) then
      total prometheusUnits counts
    else none

/-! ## Writing -/

/-- The last digits of `v` behind a dot, without trailing zeros. -/
def fmtFrac : Nat → Nat → List Char → List Char
  | 0, _, printed => if printed = [] then [] else '.' :: printed
  | prec + 1, v, printed =>
    fmtFrac prec (v / 10) (if printed = [] ∧ v % 10 = 0 then [] else Nat.digitChar (v % 10) :: printed)

def decimalText (v prec : Nat) : String := toString (v / 10 ^ prec) ++ String.ofList (fmtFrac prec v [])

/-- `Duration.String` of the standard library. -/
def durationString (d : Duration) : String :=
  let u := d.ns.natAbs
  let text :=
    if u < second then
      if u = 0 then "0s"
      else if u < 10 ^ 3 then decimalText u 0 ++ "ns"
      else if u < 10 ^ 6 then decimalText u 3 ++ "µs"
      else decimalText u 6 ++ "ms"
    else
      let minutes := u / minute
      let seconds := decimalText (u % minute) 9 ++ "s"
      if minutes = 0 then seconds
      else
        let hours := minutes / 60
        let short := toString (minutes % 60) ++ "m" ++ seconds
        if hours = 0 then short else toString hours ++ "h" ++ short
  if d.ns < 0 then "-" ++ text else text

/-- Days, hours or minutes, all that a NodePool takes. -/
def nodePoolDuration (minutes : Duration → String) (duration : Duration) : String :=
  let ns := duration.ns.toNat
  if duration.ns ≤ 0 then "0"
  else if ns % day = 0 then toString (ns / day) ++ "d"
  else if ns % hour = 0 then toString (ns / hour) ++ "h"
  else minutes duration ++ "m"

/-! ## Reading what was written -/

theorem Duration.ofNat_natCast (h : d.ns = n) : Duration.ofNat n = some d := by
  have hlt : n < 2 ^ 63 := by
    have := d.inRange
    omega
  obtain ⟨ns, hrange⟩ := d
  subst h
  rw [ofNat, dif_pos hlt]

theorem Duration.ns_of_ofNat (h : Duration.ofNat n = some d) : d.ns = n := by
  unfold ofNat at h
  split_ifs at h
  cases h
  rfl

theorem count_proper_of_unit {unit : String} (h : unit.toList ∈ durationUnits.map Prod.fst) (n : Nat) :
    (Quantity.count n unit).Proper := by
  have hunits : ∀ u ∈ durationUnits.map Prod.fst, u ≠ [] ∧ u.all isUnitChar = true := by decide
  exact Quantity.count_proper n (hunits _ h).1 (List.all_eq_true.1 (hunits _ h).2)

/-- The text of some quantities, `n` nanoseconds in all. -/
structure Written (text : String) (n : Nat) (qs : List Quantity) : Prop where
  proper : ∀ q ∈ qs, q.Proper
  text : text.toList = qs.flatMap Quantity.text
  total : total durationUnits qs = some n

namespace Written

variable {text : String} {n : Nat} {qs : List Quantity}

theorem quantities (h : Written text n qs) : quantities text.toList = qs := by
  rw [h.text]
  exact Quantity.quantities_text h.proper

theorem head (h : Written text n qs) (hne : qs ≠ []) : ∃ c rest, text.toList = c :: rest ∧ c.isDigit = true := by
  rw [h.text]
  cases qs with
  | nil => exact absurd rfl hne
  | cons q qs =>
    obtain ⟨number, htext, ⟨c, rest, rfl, hc⟩, -⟩ := (h.proper q (.head _)).number_unit
    exact ⟨c, _, by rw [List.flatMap_cons, htext]; rfl, hc⟩

theorem ne_zero (h : Written text n qs) : text.toList ≠ ['0'] := by
  intro hzero
  have hread := h.quantities
  rw [hzero] at hread
  have hmem : readQuantity ['0'] ∈ qs := by
    rw [← hread]
    decide
  exact (h.proper _ hmem).unit_ne (by decide)

theorem parse (h : Written text n qs) (hne : qs ≠ []) {parse : String → Option Duration} (hsums : ExactSums parse)
    {d : Duration} (hd : d.ns = n) : parse text = some d := by
  obtain ⟨c, rest, htext, hc⟩ := h.head hne
  have hzero : text ≠ "0" := fun hzero => h.ne_zero (by rw [hzero]; rfl)
  rw [hsums text hzero (by simp [htext, hc]), h.quantities, h.total, Option.bind_some, Duration.ofNat_natCast hd]

theorem nil : Written "" 0 [] where
  proper := by simp
  text := rfl
  total := rfl

theorem cons (h : Written text n qs) (m : Nat) (unit : String) {size : Nat}
    (hunit : durationUnits.lookup unit.toList = some size) (hmem : unit.toList ∈ durationUnits.map Prod.fst) :
    Written (toString m ++ unit ++ text) (m * size + n) (Quantity.count m unit :: qs) where
  proper := List.forall_mem_cons.2 ⟨count_proper_of_unit hmem m, h.proper⟩
  text := by rw [String.toList_append, h.text, List.flatMap_cons, Quantity.text_count]
  total := Quantity.total_cons_of_value (Quantity.value_count hunit m) h.total

theorem count (m : Nat) (unit : String) {size : Nat} (hunit : durationUnits.lookup unit.toList = some size)
    (hmem : unit.toList ∈ durationUnits.map Prod.fst) :
    Written (toString m ++ unit) (m * size) [Quantity.count m unit] := by
  have hcons := Written.nil.cons m unit hunit hmem
  rwa [String.append_empty, Nat.add_zero] at hcons

end Written

/-! ## Multiples of thirty seconds -/

def Duration.Regular (d : Duration) : Prop := 0 < d.ns ∧ ((30 * second : Nat) : Int) ∣ d.ns

/-- The number of minutes in `k` times thirty seconds. -/
def halfMinutesText (k : Nat) : String := if k % 2 = 0 then toString (k / 2) else toString (k / 2) ++ ".5"

/-- Minutes of a multiple of thirty seconds are formatted exactly. -/
def ExactMinutes (minutes : Duration → String) : Prop :=
  ∀ d : Duration, d.Regular → minutes d = halfMinutesText (d.ns.toNat / (30 * second))

theorem Duration.Regular.natCast (h : d.Regular) : ∃ k, 0 < k ∧ d.ns = ((30 * second * k : Nat) : Int) := by
  obtain ⟨hpos, k, hk⟩ := h
  have hsecond : second = 1000000000 := rfl
  rw [hsecond] at hk
  refine ⟨k.toNat, ?_, ?_⟩
  · omega
  · rw [hsecond]
    omega

theorem fmtFrac_of_dvd {prec v : Nat} (h : 10 ^ prec ∣ v) : fmtFrac prec v [] = [] := by
  induction prec generalizing v with
  | zero => rfl
  | succ prec ih =>
    obtain ⟨w, rfl⟩ := h
    have hsplit : 10 ^ (prec + 1) * w = 10 * (10 ^ prec * w) := by rw [Nat.pow_succ', Nat.mul_assoc]
    have hmod : 10 ^ (prec + 1) * w % 10 = 0 := by omega
    have hdiv : 10 ^ (prec + 1) * w / 10 = 10 ^ prec * w := by omega
    rw [fmtFrac, hmod, hdiv, if_pos ⟨rfl, rfl⟩]
    exact ih (Nat.dvd_mul_right ..)

theorem decimalText_of_dvd {prec v : Nat} (h : 10 ^ prec ∣ v) : decimalText v prec = toString (v / 10 ^ prec) := by
  rw [decimalText, fmtFrac_of_dvd h]
  exact String.append_empty

theorem hours_minutes_seconds (h : 10 ^ 9 ∣ n % minute) :
    n / minute / 60 * hour + (n / minute % 60 * minute + n % minute / 10 ^ 9 * second) = n := by
  simp only [hour, minute, second] at h ⊢
  omega

theorem durationString_regular (h : d.Regular) : ∃ qs, qs ≠ [] ∧ Written (durationString d) d.ns.natAbs qs := by
  obtain ⟨k, hk, hns⟩ := h.natCast
  have hn : d.ns.natAbs = 30000000000 * k := by
    rw [hns]
    rfl
  have hlarge : ¬ d.ns.natAbs < second := by
    rw [hn, second]
    omega
  have hwhole : 10 ^ 9 ∣ d.ns.natAbs % minute := by
    rw [hn, minute, second]
    omega
  have hpositive : ¬ d.ns < 0 := by omega
  have hsum := hours_minutes_seconds hwhole
  have hseconds := Written.count (d.ns.natAbs % minute / 10 ^ 9) "s" rfl (by decide)
  have hshort := hseconds.cons (d.ns.natAbs / minute % 60) "m" rfl (by decide)
  have hlong := hshort.cons (d.ns.natAbs / minute / 60) "h" rfl (by decide)
  rw [durationString, if_neg hlarge, if_neg hpositive, decimalText_of_dvd hwhole]
  dsimp only
  split_ifs with hminutes hhours
  · rw [hminutes, Nat.zero_div, Nat.zero_mod, Nat.zero_mul, Nat.zero_mul, Nat.zero_add, Nat.zero_add] at hsum
    rw [hsum] at hseconds
    exact ⟨_, List.cons_ne_nil _ _, hseconds⟩
  · rw [hhours, Nat.zero_mul, Nat.zero_add] at hsum
    rw [hsum] at hshort
    exact ⟨_, List.cons_ne_nil _ _, hshort⟩
  · rw [hsum] at hlong
    exact ⟨_, List.cons_ne_nil _ _, hlong⟩

/-- Thirty seconds more than `m` minutes. -/
def halfMinute (m : Nat) : Quantity := ⟨Nat.toDigits 10 m, some ['5'], "m".toList⟩

theorem written_halfMinute (m : Nat) :
    Written (toString m ++ ".5" ++ "m") (m * minute + 30 * second) [halfMinute m] where
  proper := by
    rw [List.forall_mem_singleton]
    have hunit : "m".toList ≠ [] ∧ "m".toList.all isUnitChar = true := by decide
    refine ⟨Nat.toDigits_ne_nil, fun _ => Quantity.isDigit_toDigits, fun f hf => ?_, hunit.1, List.all_eq_true.1 hunit.2⟩
    cases hf
    exact List.forall_mem_singleton.2 (by decide)
  text := by
    rw [String.toList_append, String.toList_append, List.flatMap_singleton]
    have hdigits : (toString m).toList = Nat.toDigits 10 m := Nat.toList_repr
    rw [hdigits, List.append_assoc]
    rfl
  total := by
    have hne : Nat.toDigits 10 m ≠ [] := Nat.toDigits_ne_nil
    have hunit : durationUnits.lookup "m".toList = some minute := rfl
    have hhalf : Quantity.number ['5'] * minute / 10 ^ ['5'].length = 30 * second := by decide
    have hvalue : (halfMinute m).value durationUnits = some (m * minute + 30 * second) := by
      simp only [Quantity.value, halfMinute, hne, false_and, if_false, hunit, Quantity.number_toDigits, Option.map_some,
        Option.getD_some, hhalf]
    have hnil : Quantity.total durationUnits [] = some 0 := rfl
    have htotal := Quantity.total_cons_of_value hvalue hnil
    rwa [Nat.add_zero] at htotal

theorem nodePoolDuration_count {n size : Nat} (unit : String) (hunit : durationUnits.lookup unit.toList = some size)
    (hmem : unit.toList ∈ durationUnits.map Prod.fst) (hmem' : unit.toList ∈ prometheusUnits.map Prod.fst)
    (hn : size ∣ n) (hminute : minute ∣ size) :
    ∃ q, Written (toString (n / size) ++ unit) n [q] ∧ q.unit ∈ prometheusUnits.map Prod.fst ∧
      (q.fraction = none ↔ minute ∣ n) := by
  refine ⟨Quantity.count (n / size) unit, ?_, hmem', iff_of_true rfl (Nat.dvd_trans hminute hn)⟩
  have hcount := Written.count (n / size) unit hunit hmem
  rwa [Nat.div_mul_cancel hn] at hcount

theorem nodePoolDuration_regular {minutes : Duration → String} (hexact : ExactMinutes minutes) (h : d.Regular) :
    ∃ q, Written (nodePoolDuration minutes d) d.ns.natAbs [q] ∧ q.unit ∈ prometheusUnits.map Prod.fst ∧
      (q.fraction = none ↔ minute ∣ d.ns.natAbs) := by
  obtain ⟨k, hk, hns⟩ := h.natCast
  have htoNat : d.ns.toNat = d.ns.natAbs := by omega
  have hpositive : ¬ d.ns ≤ 0 := by
    rw [hns, second]
    omega
  have hminutes := hexact d h
  rw [htoNat] at hminutes
  rw [nodePoolDuration, if_neg hpositive, htoNat, hminutes]
  have hn : d.ns.natAbs = 30 * second * k := by omega
  generalize d.ns.natAbs = n at hn ⊢
  split_ifs with hday hhour
  · exact nodePoolDuration_count "d" rfl (by decide) (by decide) (Nat.dvd_of_mod_eq_zero hday) (by decide)
  · exact nodePoolDuration_count "h" rfl (by decide) (by decide) (Nat.dvd_of_mod_eq_zero hhour) (by decide)
  · have hhalves : n / (30 * second) = k := by rw [hn, Nat.mul_div_cancel_left k (by decide)]
    rw [hhalves, halfMinutesText]
    split_ifs with heven
    · have hdvd : minute ∣ n := ⟨k / 2, by rw [hn, minute, second]; omega⟩
      have hquotient : k / 2 = n / minute := by rw [hn, minute, second]; omega
      rw [hquotient]
      exact nodePoolDuration_count "m" rfl (by decide) (by decide) hdvd (by decide)
    · refine ⟨halfMinute (k / 2), ?_, by simp only [halfMinute]; decide, ?_⟩
      · have hsum : k / 2 * minute + 30 * second = n := by rw [hn, minute, second]; omega
        exact hsum ▸ written_halfMinute (k / 2)
      · refine iff_of_false (by simp [halfMinute]) ?_
        rw [hn, minute, second]
        omega

/-! ## Window sizes -/

theorem units_agree (unit : List Char) (a b : Nat) (ha : durationUnits.lookup unit = some a)
    (hb : prometheusUnits.lookup unit = some b) : a = b := by
  have hsame : ∀ entry ∈ prometheusUnits, (durationUnits.lookup entry.1).all (· = entry.2) = true := by decide
  obtain ⟨before, behind, hunits, -⟩ := List.lookup_eq_some_iff.1 hb
  have hentry := hsame (unit, b) (by rw [hunits]; simp)
  rw [ha] at hentry
  simpa using hentry

theorem Written.prometheus {text : String} {q : Quantity} (h : Written text n [q])
    (hunit : q.unit ∈ prometheusUnits.map Prod.fst) :
    prometheusDuration text = if q.fraction = none then some n else none := by
  have hq := h.proper q (.head _)
  have hzero : text ≠ "0" := fun hzero => h.ne_zero (by rw [hzero]; rfl)
  have hsublist : [q.unit].Sublist (prometheusUnits.map Prod.fst) := List.singleton_sublist.2 hunit
  obtain ⟨m, hm⟩ := Quantity.total_singleton_isSome hq.whole_ne hunit
  have hsame : n = m := Quantity.total_agree units_agree h.total hm
  rw [prometheusDuration, if_neg hzero, h.quantities]
  simp only [List.map_cons, List.map_nil, hsublist, and_true, ne_eq, List.cons_ne_nil, not_false_eq_true, true_and,
    List.forall_mem_singleton, hq.whole_ne, hm, hsame]

theorem ExactSums.prometheus {parse : String → Option Duration} (hsums : ExactSums parse) {text : String}
    (hn : prometheusDuration text = some n) (hpos : 0 < n) (hd : parse text = some d) : d.ns = n := by
  unfold prometheusDuration at hn
  dsimp only at hn
  split_ifs at hn with hzero hcounts
  · cases hn
    exact absurd hpos (Nat.lt_irrefl 0)
  · obtain ⟨hne, hwhole, -⟩ := hcounts
    have hdigit : text.toList.head?.any Char.isDigit = true := by
      obtain ⟨q, qs, hread⟩ := List.exists_cons_of_ne_nil hne
      obtain ⟨c, rest, htext, hc⟩ := Quantity.head_of_whole hread (hwhole q (by rw [hread]; exact .head _)).1
      simp [htext, hc]
    rw [hsums text hzero hdigit] at hd
    obtain ⟨m, hm, hm'⟩ := Option.bind_eq_some_iff.1 hd
    rw [← Quantity.total_agree units_agree hm hn]
    exact Duration.ns_of_ofNat hm'

/-! ## Back and forth -/

section

variable {d : Duration} {minutes : Duration → String} {parse : String → Option Duration}

theorem Duration.Regular.natAbs (h : d.Regular) : d.ns = d.ns.natAbs := by
  have := h.1
  omega

theorem ExactSums.durationString (hsums : ExactSums parse) (h : d.Regular) : parse (durationString d) = some d := by
  obtain ⟨qs, hne, hwritten⟩ := durationString_regular h
  exact hwritten.parse hne hsums h.natAbs

theorem ExactSums.nodePoolDuration (hsums : ExactSums parse) (hexact : ExactMinutes minutes) (h : d.Regular) :
    parse (nodePoolDuration minutes d) = some d := by
  obtain ⟨q, hwritten, -⟩ := nodePoolDuration_regular hexact h
  exact hwritten.parse (List.cons_ne_nil _ _) hsums h.natAbs

theorem prometheusDuration_nodePoolDuration (hexact : ExactMinutes minutes) (h : d.Regular) :
    (prometheusDuration (nodePoolDuration minutes d)).isSome ↔ minute ∣ d.ns.natAbs := by
  obtain ⟨q, hwritten, hunit, hfraction⟩ := nodePoolDuration_regular hexact h
  rw [hwritten.prometheus hunit, ← hfraction]
  split_ifs with hwhole
  · exact iff_of_true rfl hwhole
  · exact iff_of_false (by simp) hwhole

end

end Krm.Shards
