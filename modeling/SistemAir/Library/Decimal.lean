import Mathlib.Algebra.Order.Ring.Rat
import Mathlib.Algebra.Ring.Subring.Order
import Mathlib.Data.Nat.Factorization.Basic
import Mathlib.Tactic.FieldSimp
import Mathlib.Tactic.Ring

/-! Numbers with finitely many decimal places, and their text without needless zeros. -/

def decimals : Subring ℚ where
  carrier := {q | ∃ (k : ℕ) (n : ℤ), q * 10 ^ k = n}
  zero_mem' := ⟨0, 0, by simp⟩
  one_mem' := ⟨0, 1, by simp⟩
  add_mem' := by
    rintro a b ⟨k, n, hn⟩ ⟨l, m, hm⟩
    refine ⟨k + l, n * 10 ^ l + m * 10 ^ k, ?_⟩
    push_cast
    rw [← hn, ← hm]
    ring
  mul_mem' := by
    rintro a b ⟨k, n, hn⟩ ⟨l, m, hm⟩
    refine ⟨k + l, n * m, ?_⟩
    push_cast
    rw [← hn, ← hm]
    ring
  neg_mem' := by
    rintro a ⟨k, n, hn⟩
    exact ⟨k, -n, by rw [neg_mul, hn, Int.cast_neg]⟩

abbrev Decimal : Type := decimals

namespace Decimal

instance instRepr : Repr Decimal := ⟨fun x => reprPrec x.val⟩
instance instZero : Zero Decimal := inferInstanceAs (Zero decimals)
instance instOne : One Decimal := inferInstanceAs (One decimals)
instance instAdd : Add Decimal := inferInstanceAs (Add decimals)
instance instNeg : Neg Decimal := inferInstanceAs (Neg decimals)
instance instSub : Sub Decimal := inferInstanceAs (Sub decimals)
instance instMul : Mul Decimal := inferInstanceAs (Mul decimals)
instance instNatCast : NatCast Decimal := inferInstanceAs (NatCast decimals)
instance instIntCast : IntCast Decimal := inferInstanceAs (IntCast decimals)

/-! ## Long division -/

def places (d : ℕ) : ℕ → ℕ → List Char
  | 0, _ => []
  | fuel + 1, r =>
    if r = 0 then [] else Nat.digitChar (10 * r / d) :: places d fuel (10 * r % d)

section LongDivision
variable {d r : ℕ}

theorem isDigit_of_mem_places {fuel : ℕ} (hr : r < d) {c : Char} (hc : c ∈ places d fuel r) :
    c.isDigit = true := by
  induction fuel generalizing r with
  | zero => cases hc
  | succ fuel ih =>
    rw [places] at hc
    split at hc
    · cases hc
    · rcases List.mem_cons.mp hc with rfl | hc
      · rw [Nat.isDigit_digitChar, decide_eq_true_eq]
        exact Nat.div_lt_of_lt_mul (by omega)
      · exact ih (Nat.mod_lt _ (Nat.zero_lt_of_lt hr)) hc

theorem ofDigitChars_places {fuel : ℕ} (hr : r < d) (hfuel : d ∣ r * 10 ^ fuel) :
    Nat.ofDigitChars 10 (places d fuel r) 0 * d = r * 10 ^ (places d fuel r).length := by
  induction fuel generalizing r with
  | zero =>
    have hzero : r = 0 := Nat.eq_zero_of_dvd_of_lt (by simpa using hfuel) hr
    simp [places, hzero]
  | succ fuel ih =>
    rw [places]
    split
    · rename_i hzero
      simp [hzero]
    · have hdigit : 10 * r / d < 10 := Nat.div_lt_of_lt_mul (by omega)
      have hsplit := Nat.div_add_mod (10 * r) d
      have hrest : d ∣ (10 * r % d) * 10 ^ fuel := by
        have hall : d ∣ 10 * r * 10 ^ fuel := by
          rw [pow_succ] at hfuel
          exact (show r * (10 ^ fuel * 10) = 10 * r * 10 ^ fuel by ring) ▸ hfuel
        rw [← hsplit, Nat.add_mul, Nat.mul_assoc] at hall
        exact (Nat.dvd_add_right (Nat.dvd_mul_right _ _)).mp hall
      have hih := ih (Nat.mod_lt _ (Nat.zero_lt_of_lt hr)) hrest
      rw [Nat.ofDigitChars_cons_digitChar_of_lt_ten hdigit, Nat.mul_zero, Nat.zero_add,
        Nat.ofDigitChars_eq_ofDigitChars_zero, Nat.add_mul, hih, List.length_cons, pow_succ]
      calc 10 ^ (places d fuel (10 * r % d)).length * (10 * r / d) * d +
            10 * r % d * 10 ^ (places d fuel (10 * r % d)).length
          = (d * (10 * r / d) + 10 * r % d) * 10 ^ (places d fuel (10 * r % d)).length := by ring
        _ = r * (10 ^ (places d fuel (10 * r % d)).length * 10) := by rw [hsplit]; ring

end LongDivision

theorem dvd_pow_self_of_dvd_pow {d m k : ℕ} (hd : d ≠ 0) (hm : m ≠ 0) (h : d ∣ m ^ k) :
    d ∣ m ^ d := by
  rw [← Nat.factorization_le_iff_dvd hd (pow_ne_zero _ hm)] at h ⊢
  intro p
  have hp := h p
  rw [Nat.factorization_pow, Finsupp.smul_apply, smul_eq_mul] at hp ⊢
  rcases Nat.eq_zero_or_pos (m.factorization p) with hzero | hpos
  · rw [hzero, Nat.mul_zero] at hp ⊢
    exact hp
  · exact (Nat.factorization_lt p hd).le.trans (Nat.le_mul_of_pos_right d hpos)

theorem den_dvd (x : Decimal) : x.val.den ∣ 10 ^ x.val.den := by
  obtain ⟨k, n, hn⟩ := x.property
  refine dvd_pow_self_of_dvd_pow x.val.den_nz (by decide) (k := k) ?_
  have hnum : x.val.num * 10 ^ k = x.val.den * n := by
    rw [← Rat.num_div_den x.val] at hn
    field_simp at hn
    exact_mod_cast hn
  have habs := congrArg Int.natAbs hnum
  rw [Int.natAbs_mul, Int.natAbs_mul, Int.natAbs_pow, Int.natAbs_natCast] at habs
  exact x.val.reduced.symm.dvd_of_dvd_mul_left ⟨n.natAbs, habs⟩

/-! ## The text -/

def fraction (x : Decimal) : List Char :=
  places x.val.den x.val.den (x.val.num.natAbs % x.val.den)

def digits (x : Decimal) : List Char :=
  Nat.toDigits 10 (x.val.num.natAbs / x.val.den) ++
    if x.fraction = [] then [] else '.' :: x.fraction

def text (x : Decimal) : String :=
  String.ofList (if x < 0 then '-' :: x.digits else x.digits)

def ofDigits (negative : Bool) (whole fraction : List Char) : Decimal :=
  ⟨(if negative then -1 else 1) *
      (Nat.ofDigitChars 10 (whole ++ fraction) 0 / 10 ^ fraction.length),
    fraction.length,
    (if negative then -1 else 1) * Nat.ofDigitChars 10 (whole ++ fraction) 0, by
      field_simp
      split <;> simp⟩

def ofDigits? (negative : Bool) (s : List Char) : Option Decimal :=
  let whole := s.takeWhile Char.isDigit
  if whole = [] then none
  else
    match s.dropWhile Char.isDigit with
    | [] => some (ofDigits negative whole [])
    | c :: fraction =>
      if c = '.' ∧ fraction ≠ [] ∧ fraction.all Char.isDigit then
        some (ofDigits negative whole fraction)
      else none

def ofText? (s : String) : Option Decimal :=
  match s.toList with
  | '-' :: s => ofDigits? true s
  | s => ofDigits? false s

section RoundTrip
variable (x : Decimal)

theorem isDigit_of_mem_fraction {c : Char} (hc : c ∈ x.fraction) : c.isDigit = true :=
  isDigit_of_mem_places (Nat.mod_lt _ x.val.den_pos) hc

theorem isDigit_of_mem_whole {n : ℕ} {c : Char} (hc : c ∈ Nat.toDigits 10 n) : c.isDigit = true :=
  Nat.isDigit_of_mem_toDigits (by decide) (by decide) hc

theorem natAbs_num_eq :
    Nat.ofDigitChars 10 (Nat.toDigits 10 (x.val.num.natAbs / x.val.den) ++ x.fraction) 0 *
      x.val.den = x.val.num.natAbs * 10 ^ x.fraction.length := by
  have hfuel : x.val.den ∣ x.val.num.natAbs % x.val.den * 10 ^ x.val.den :=
    (den_dvd x).mul_left _
  have hfraction : Nat.ofDigitChars 10 x.fraction 0 * x.val.den =
      x.val.num.natAbs % x.val.den * 10 ^ x.fraction.length :=
    ofDigitChars_places (Nat.mod_lt _ x.val.den_pos) hfuel
  have hsplit := Nat.div_add_mod x.val.num.natAbs x.val.den
  rw [Nat.ofDigitChars_append, Nat.ofDigitChars_ten_toDigits,
    Nat.ofDigitChars_eq_ofDigitChars_zero, Nat.add_mul, hfraction]
  generalize 10 ^ x.fraction.length = size
  calc size * (x.val.num.natAbs / x.val.den) * x.val.den + x.val.num.natAbs % x.val.den * size
      = (x.val.den * (x.val.num.natAbs / x.val.den) + x.val.num.natAbs % x.val.den) * size := by
        ring
    _ = x.val.num.natAbs * size := by rw [hsplit]

theorem ofDigits_digits :
    ofDigits (decide (x < 0)) (Nat.toDigits 10 (x.val.num.natAbs / x.val.den)) x.fraction = x := by
  have hnat := natAbs_num_eq x
  have hden : (x.val.den : ℚ) ≠ 0 := Nat.cast_ne_zero.mpr x.val.den_nz
  have hq : (Nat.ofDigitChars 10
      (Nat.toDigits 10 (x.val.num.natAbs / x.val.den) ++ x.fraction) 0 : ℚ) /
        10 ^ x.fraction.length = x.val.num.natAbs / x.val.den := by
    rw [div_eq_div_iff (pow_ne_zero _ (by decide)) hden]
    exact_mod_cast hnat
  apply Subtype.ext
  rw [ofDigits]
  dsimp only
  rw [hq]
  have hvalue := Rat.num_div_den x.val
  by_cases hneg : x < 0
  · have hnum : x.val.num < 0 := Rat.num_neg.mpr hneg
    have habs : (x.val.num.natAbs : ℚ) = -x.val.num := by
      rw [← Int.cast_natCast, Int.ofNat_natAbs_of_nonpos hnum.le, Int.cast_neg]
    rw [decide_eq_true hneg, if_pos rfl, habs, neg_div, hvalue]
    ring
  · have hnum : 0 ≤ x.val.num := Rat.num_nonneg.mpr (not_lt.mp hneg)
    have habs : (x.val.num.natAbs : ℚ) = x.val.num := by
      rw [← Int.cast_natCast, Int.natAbs_of_nonneg hnum]
    rw [decide_eq_false hneg, if_neg Bool.false_ne_true, habs, hvalue, one_mul]

theorem ofDigits?_digits (negative : Bool) :
    ofDigits? negative x.digits =
      some (ofDigits negative (Nat.toDigits 10 (x.val.num.natAbs / x.val.den)) x.fraction) := by
  have hwhole : ∀ c ∈ Nat.toDigits 10 (x.val.num.natAbs / x.val.den), c.isDigit = true :=
    fun _ hc => isDigit_of_mem_whole hc
  unfold ofDigits? digits
  by_cases hnone : x.fraction = []
  · rw [if_pos hnone, hnone, List.takeWhile_append_of_pos hwhole,
      List.dropWhile_append_of_pos hwhole, List.takeWhile_nil, List.dropWhile_nil, List.append_nil]
    exact if_neg Nat.toDigits_ne_nil
  · have hall : x.fraction.all Char.isDigit = true :=
      List.all_eq_true.mpr fun c hc => isDigit_of_mem_fraction x hc
    rw [if_neg hnone, List.takeWhile_append_of_pos hwhole, List.dropWhile_append_of_pos hwhole,
      List.takeWhile_cons_of_neg (by decide), List.dropWhile_cons_of_neg (by decide),
      List.append_nil]
    dsimp only
    rw [if_neg Nat.toDigits_ne_nil, if_pos ⟨rfl, hnone, hall⟩]

theorem digits_ne_minus {c : Char} {s : List Char} (h : x.digits = c :: s) : c ≠ '-' := by
  rintro rfl
  have hdigit : '-' ∈ Nat.toDigits 10 (x.val.num.natAbs / x.val.den) := by
    cases hwhole : Nat.toDigits 10 (x.val.num.natAbs / x.val.den) with
    | nil => exact absurd hwhole Nat.toDigits_ne_nil
    | cons d ds =>
      rw [digits, hwhole, List.cons_append] at h
      rw [(List.cons.inj h).1]
      exact List.mem_cons_self
  exact absurd (isDigit_of_mem_whole hdigit) (by decide)

theorem ofText?_text : ofText? x.text = some x := by
  have hround := ofDigits_digits x
  unfold ofText? text
  by_cases hneg : x < 0
  · rw [decide_eq_true hneg] at hround
    rw [if_pos hneg, String.toList_ofList]
    exact (ofDigits?_digits x true).trans (congrArg some hround)
  · rw [if_neg hneg, String.toList_ofList]
    split
    · rename_i s heq
      exact absurd rfl (digits_ne_minus x heq)
    · rw [decide_eq_false hneg] at hround
      exact (ofDigits?_digits x false).trans (congrArg some hround)

end RoundTrip

/-- To the nearest integer, halves away from 0. -/
def round (x : Decimal) : ℤ :=
  if 0 ≤ x then (x.val + 1 / 2).floor else -(-x.val + 1 / 2).floor

example : (ofText? "-10.50").map text = some "-10.5" := by decide +kernel

end Decimal
