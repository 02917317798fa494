import Mathlib.Algebra.Order.Field.Power
import Mathlib.Tactic.FieldSimp
import Mathlib.Tactic.Linarith
import Mathlib.Tactic.Positivity
import Mathlib.Tactic.Ring
import ScriptGraph.Number.Binary

/-! Rounding a fraction to a binary format. A finite pattern owns the fractions between its two
halfway points, and the points themselves if its significand is even; whatever lies there is rounded
to the pattern. -/
namespace ScriptGraph

/-- The rational number that a numerator and a denominator stand for. -/
def ratio (p : Nat × Nat) : ℚ := p.1 / p.2

private lemma ratio_scale (b num den : Nat) (e : Int) :
    ratio (if 0 ≤ e then (num * Nat.pow b e.toNat, den) else (num, den * Nat.pow b (-e).toNat)) =
      num / den * (b : ℚ) ^ e := by
  unfold ratio
  split
  · next h =>
    obtain ⟨k, rfl⟩ := Int.eq_ofNat_of_zero_le h
    simp only [Nat.pow_eq, Int.toNat_natCast, Nat.cast_mul, Nat.cast_pow, zpow_natCast]
    ring
  · next h =>
    obtain ⟨k, hk⟩ := Int.eq_ofNat_of_zero_le (show 0 ≤ -e by omega)
    obtain rfl : e = -(k : Int) := by omega
    simp only [Nat.pow_eq, neg_neg, Int.toNat_natCast, Nat.cast_mul, Nat.cast_pow, zpow_neg,
      zpow_natCast]
    rw [div_mul_eq_div_div, div_eq_mul_inv _ ((b : ℚ) ^ k)]

private lemma den_scale_pos {b den : Nat} (hb : 0 < b) (hden : 0 < den) (num : Nat) (e : Int) :
    0 < (if 0 ≤ e then (num * Nat.pow b e.toNat, den)
      else (num, den * Nat.pow b (-e).toNat)).2 := by
  split
  · exact hden
  · exact Nat.mul_pos hden (Nat.pow_pos hb)

lemma ratio_scaleBinary (num den : Nat) (e : Int) :
    ratio (scaleBinary num den e) = num / den * 2 ^ e := ratio_scale 2 num den e

lemma scaleBinary_den_pos {den : Nat} (hden : 0 < den) (num : Nat) (e : Int) :
    0 < (scaleBinary num den e).2 := den_scale_pos (by decide) hden num e

lemma ratio_scaleDecimal (num den : Nat) (e : Int) :
    ratio (scaleDecimal num den e) = num / den * 10 ^ e := ratio_scale 10 num den e

lemma scaleDecimal_den_pos {den : Nat} (hden : 0 < den) (num : Nat) (e : Int) :
    0 < (scaleDecimal num den e).2 := den_scale_pos (by decide) hden num e

/-- A fraction within half a unit of an integer rounds to it; at exactly half a unit the integer
must be even. -/
lemma roundDiv_eq_of_nat {num den m : Nat} (hden : 0 < den) (hlow : 2 * (m * den) ≤ 2 * num + den)
    (hhigh : 2 * num ≤ 2 * (m * den) + den)
    (hodd : m % 2 = 1 → 2 * (m * den) < 2 * num + den ∧ 2 * num < 2 * (m * den) + den) :
    roundDiv num den = m := by
  have hdiv : den * (num / den) + num % den = num := Nat.div_add_mod num den
  have hmod : num % den < den := Nat.mod_lt num hden
  unfold roundDiv
  dsimp only
  generalize num / den = q at hdiv ⊢
  generalize num % den = t at hdiv hmod ⊢
  have hcomm : den * q = q * den := Nat.mul_comm den q
  rcases Nat.lt_trichotomy q m with hlt | rfl | hgt
  · -- the quotient is one below, and the remainder is at least a half
    have hstep : (q + 1) * den ≤ m * den := Nat.mul_le_mul_right den hlt
    have hq1 : (q + 1) * den = q * den + den := by ring
    have hm : m = q + 1 := by
      by_contra hne
      have hfar : (q + 2) * den ≤ m * den := Nat.mul_le_mul_right den (by omega)
      have hq2 : (q + 2) * den = q * den + 2 * den := by ring
      omega
    subst hm
    rw [if_neg (by omega)]
    split
    · have hparity : ¬ (q + 1) % 2 = 1 := fun h => by
        have := (hodd h).1
        omega
      omega
    · rfl
  · by_cases hr : 2 * t < den
    · rw [if_pos hr]
    · have hr' : 2 * t = den := by omega
      rw [if_neg hr, if_pos hr']
      have hparity : ¬ q % 2 = 1 := fun h => by
        have := (hodd h).2
        omega
      omega
  · have hfar : (m + 1) * den ≤ q * den := Nat.mul_le_mul_right den hgt
    have hm1 : (m + 1) * den = m * den + den := by ring
    omega

lemma roundDiv_eq {p : Nat × Nat} {m : Nat} (hden : 0 < p.2) (hlow : (m : ℚ) - 1 / 2 ≤ ratio p)
    (hhigh : ratio p ≤ m + 1 / 2)
    (hodd : m % 2 = 1 → (m : ℚ) - 1 / 2 < ratio p ∧ ratio p < m + 1 / 2) :
    roundDiv p.1 p.2 = m := by
  have hd : (0 : ℚ) < p.2 := by exact_mod_cast hden
  have hp : ratio p * p.2 = p.1 := by
    unfold ratio
    field_simp
  apply roundDiv_eq_of_nat hden
  · have h := mul_le_mul_of_nonneg_right hlow hd.le
    rw [hp, sub_mul] at h
    have h' : 2 * ((m : ℚ) * p.2) ≤ 2 * p.1 + p.2 := by linarith
    exact_mod_cast h'
  · have h := mul_le_mul_of_nonneg_right hhigh hd.le
    rw [hp, add_mul] at h
    have h' : 2 * (p.1 : ℚ) ≤ 2 * (m * p.2) + p.2 := by linarith
    exact_mod_cast h'
  · intro hm
    obtain ⟨hl, hh⟩ := hodd hm
    constructor
    · have h := mul_lt_mul_of_pos_right hl hd
      rw [hp, sub_mul] at h
      have h' : 2 * ((m : ℚ) * p.2) < 2 * p.1 + p.2 := by linarith
      exact_mod_cast h'
    · have h := mul_lt_mul_of_pos_right hh hd
      rw [hp, add_mul] at h
      have h' : 2 * (p.1 : ℚ) < 2 * (m * p.2) + p.2 := by linarith
      exact_mod_cast h'

lemma two_pow_log2_le {n : Nat} (h : n ≠ 0) : (2 : ℚ) ^ (n.log2 : Int) ≤ n := by
  rw [zpow_natCast]
  exact_mod_cast Nat.log2_self_le h

lemma lt_two_pow_log2 (n : Nat) : (n : ℚ) < 2 ^ ((n.log2 : Int) + 1) := by
  have h : n < 2 ^ (n.log2 + 1) := Nat.lt_log2_self
  rw [show (n.log2 : Int) + 1 = ((n.log2 + 1 : Nat) : Int) by push_cast; rfl, zpow_natCast]
  exact_mod_cast h

namespace BinaryFormat

variable {f : BinaryFormat}

/-- The exponent is that of the leading bit, less the width of the fraction, if that is no less than
the least one. -/
lemma exists_leading (f : BinaryFormat) {num den : Nat} (hnum : num ≠ 0) (hden : 0 < den) :
    ∃ k : Int, (2 : ℚ) ^ k ≤ num / den ∧ (num / den : ℚ) < 2 ^ (k + 1) ∧
      f.exponentOf num den = max (k - (f.precision - 1 : Nat)) f.minExponent := by
  have hn : (0 : ℚ) < num := by exact_mod_cast Nat.pos_of_ne_zero hnum
  have hd : (0 : ℚ) < den := by exact_mod_cast hden
  have htwo : (2 : ℚ) ≠ 0 := by norm_num
  have hnlow := two_pow_log2_le hnum
  have hnhigh := lt_two_pow_log2 num
  have hdlow := two_pow_log2_le hden.ne'
  have hdhigh := lt_two_pow_log2 den
  let guess : Int := (num.log2 : Int) - den.log2
  have hscaled : ratio (scaleBinary num den (-guess)) = num / den * 2 ^ (-guess) :=
    ratio_scaleBinary num den (-guess)
  have hpos : (0 : ℚ) < 2 ^ guess := zpow_pos (by norm_num) guess
  have hsd : (0 : ℚ) < (scaleBinary num den (-guess)).2 := by
    exact_mod_cast scaleBinary_den_pos hden num (-guess)
  have hless : (scaleBinary num den (-guess)).1 < (scaleBinary num den (-guess)).2 ↔
      (num / den : ℚ) < 2 ^ guess := by
    have hcast : ((scaleBinary num den (-guess)).1 : ℚ) < (scaleBinary num den (-guess)).2 ↔
        (scaleBinary num den (-guess)).1 < (scaleBinary num den (-guess)).2 := Nat.cast_lt
    rw [← hcast, ← div_lt_one hsd]
    change ratio _ < 1 ↔ _
    rw [hscaled, zpow_neg, mul_inv_lt_iff₀ hpos, one_mul]
  have hexp : f.exponentOf num den =
      max ((if (scaleBinary num den (-guess)).1 < (scaleBinary num den (-guess)).2 then guess - 1
        else guess) - (f.precision - 1 : Nat)) f.minExponent := rfl
  by_cases hlt : (num / den : ℚ) < 2 ^ guess
  · refine ⟨guess - 1, ?_, by simpa using hlt, by rw [hexp, if_pos (hless.mpr hlt)]⟩
    rw [le_div_iff₀ hd]
    calc (2 : ℚ) ^ (guess - 1) * den
        ≤ 2 ^ (guess - 1) * 2 ^ ((den.log2 : Int) + 1) := by gcongr
      _ = 2 ^ (num.log2 : Int) := by
          rw [← zpow_add₀ htwo]
          congr 1
          omega
      _ ≤ num := hnlow
  · refine ⟨guess, not_lt.mp hlt, ?_, by rw [hexp, if_neg (hless.not.mpr hlt)]⟩
    rw [div_lt_iff₀ hd]
    calc (num : ℚ) < 2 ^ ((num.log2 : Int) + 1) := hnhigh
      _ = 2 ^ (guess + 1) * 2 ^ (den.log2 : Int) := by
          rw [← zpow_add₀ htwo]
          congr 1
          omega
      _ ≤ 2 ^ (guess + 1) * den := by gcongr

/-- The significand and the exponent of a nonzero finite pattern: a full significand, or the least
exponent. -/
structure Normal (f : BinaryFormat) (m : Nat) (e : Int) : Prop where
  pos : 0 < m
  least : f.minExponent ≤ e
  below : m < 2 * f.binade
  full : f.binade ≤ m ∨ e = f.minExponent

/-- The halfway point below, in quarters of a unit. Below a power of two units are half as wide. -/
def lowEnd (f : BinaryFormat) (m : Nat) (e : Int) : Nat :=
  if m = f.binade ∧ f.minExponent < e then 4 * m - 1 else 4 * m - 2

/-- The number lies between the halfway points of `m * 2 ^ e`, or is one of them and `m` is even. -/
structure Owns (f : BinaryFormat) (m : Nat) (e : Int) (v : ℚ) : Prop where
  low : (f.lowEnd m e : ℚ) * 2 ^ (e - 2) ≤ v
  high : v ≤ (4 * m + 2 : Nat) * 2 ^ (e - 2)
  strict : m % 2 = 1 → (f.lowEnd m e : ℚ) * 2 ^ (e - 2) < v ∧ v < (4 * m + 2 : Nat) * 2 ^ (e - 2)

lemma cast_binade (f : BinaryFormat) : (f.binade : ℚ) = 2 ^ ((f.precision - 1 : Nat) : Int) := by
  rw [zpow_natCast]
  exact_mod_cast rfl

lemma binade_pos (f : BinaryFormat) : 0 < f.binade := Nat.pow_pos (by decide)

lemma ratio_eq_units (v : ℚ) (e : Int) : v = v * 2 ^ (-e) * 2 ^ e := by
  rw [mul_assoc, ← zpow_add₀ (by norm_num), neg_add_cancel, zpow_zero, mul_one]

lemma units_pred (v : ℚ) (e : Int) : v * 2 ^ (-(e - 1)) = 2 * (v * 2 ^ (-e)) := by
  rw [show -(e - 1) = -e + 1 by ring, zpow_add_one₀ (by norm_num)]
  ring

lemma exponentOf_eq_min {num den : Nat} (hnum : num ≠ 0) (hden : 0 < den)
    (hhigh : (num / den : ℚ) * 2 ^ (-f.minExponent) < 2 * f.binade) :
    f.exponentOf num den = f.minExponent := by
  obtain ⟨k, hk, _, he⟩ := f.exists_leading hnum hden
  have htop := mul_lt_mul_of_pos_right hhigh (zpow_pos two_pos f.minExponent)
  rw [← ratio_eq_units, cast_binade, ← zpow_one_add₀ two_ne_zero, ← zpow_add₀ two_ne_zero] at htop
  have hkj := (zpow_lt_zpow_iff_right₀ (one_lt_two : (1 : ℚ) < 2)).mp (hk.trans_lt htop)
  rw [he]
  omega

lemma exponentOf_eq {num den : Nat} (hnum : num ≠ 0) (hden : 0 < den) {e : Int}
    (hlow : (f.binade : ℚ) ≤ num / den * 2 ^ (-e))
    (hhigh : (num / den : ℚ) * 2 ^ (-e) < 2 * f.binade) :
    f.exponentOf num den = max e f.minExponent := by
  obtain ⟨k, hk, hk', he⟩ := f.exists_leading hnum hden
  have hpow : (0 : ℚ) < 2 ^ e := zpow_pos two_pos e
  have hbottom := mul_le_mul_of_nonneg_right hlow hpow.le
  have htop := mul_lt_mul_of_pos_right hhigh hpow
  rw [← ratio_eq_units, cast_binade, ← zpow_add₀ two_ne_zero] at hbottom
  rw [← ratio_eq_units, cast_binade, ← zpow_one_add₀ two_ne_zero, ← zpow_add₀ two_ne_zero] at htop
  have htwo : (1 : ℚ) < 2 := one_lt_two
  have hjk := (zpow_lt_zpow_iff_right₀ htwo).mp (hbottom.trans_lt hk')
  have hkj := (zpow_lt_zpow_iff_right₀ htwo).mp (hk.trans_lt htop)
  rw [he]
  omega

/-- The halfway points in units of the last place. -/
lemma Owns.scaled {m : Nat} {e : Int} {v : ℚ} (ho : f.Owns m e v) :
    (f.lowEnd m e : ℚ) / 4 ≤ v * 2 ^ (-e) ∧ v * 2 ^ (-e) ≤ m + 1 / 2 ∧
      (m % 2 = 1 → (f.lowEnd m e : ℚ) / 4 < v * 2 ^ (-e) ∧ v * 2 ^ (-e) < m + 1 / 2) := by
  have hpos : (0 : ℚ) < 2 ^ e := zpow_pos (by norm_num) e
  have hquarter : (2 : ℚ) ^ (e - 2) = 2 ^ e / 4 := by
    rw [zpow_sub₀ (by norm_num)]
    norm_num
  have hv : v * 2 ^ (-e) = v / 2 ^ e := by rw [zpow_neg, div_eq_mul_inv]
  obtain ⟨hlow, hhigh, hstrict⟩ := ho
  rw [hquarter] at hlow hhigh hstrict
  push_cast at hhigh hstrict
  rw [hv, le_div_iff₀ hpos, div_le_iff₀ hpos]
  refine ⟨by linarith, by linarith, fun hm => ?_⟩
  obtain ⟨hl, hh⟩ := hstrict hm
  rw [lt_div_iff₀ hpos, div_lt_iff₀ hpos]
  exact ⟨by linarith, by linarith⟩

lemma lowEnd_pos {m : Nat} {e : Int} (hm : 0 < m) : 0 < f.lowEnd m e := by
  unfold lowEnd
  split <;> omega

lemma le_lowEnd {m : Nat} {e : Int} (hm : 0 < m) : (4 * m : ℚ) - 2 ≤ f.lowEnd m e := by
  have h : 4 * m ≤ f.lowEnd m e + 2 := by
    unfold lowEnd
    split <;> omega
  have h' : (4 * m : ℚ) ≤ f.lowEnd m e + 2 := by exact_mod_cast h
  linarith

/-- With the exponent of the pattern, the significand is the nearest integer. -/
lemma roundDiv_of_owns {num den m : Nat} {e : Int} (hden : 0 < den) (hm : 0 < m)
    (ho : f.Owns m e (num / den)) :
    roundDiv (scaleBinary num den (-e)).1 (scaleBinary num den (-e)).2 = m := by
  obtain ⟨hlow, hhigh, hstrict⟩ := ho.scaled
  have hend := le_lowEnd (f := f) (e := e) hm
  apply roundDiv_eq (scaleBinary_den_pos hden num (-e))
  · rw [ratio_scaleBinary]
    linarith
  · rw [ratio_scaleBinary]
    exact hhigh
  · intro hodd
    obtain ⟨hl, hh⟩ := hstrict hodd
    rw [ratio_scaleBinary]
    exact ⟨by linarith, hh⟩

/-- What lies just below a power of two has twice as many units, and rounds up to all of them. -/
lemma roundDiv_below_binade {num den : Nat} {e : Int} (hden : 0 < den) (hmin : f.minExponent < e)
    (ho : f.Owns f.binade e (num / den)) (hbelow : (num / den : ℚ) * 2 ^ (-e) < f.binade) :
    roundDiv (scaleBinary num den (-(e - 1))).1 (scaleBinary num den (-(e - 1))).2 =
      2 * f.binade := by
  obtain ⟨hlow, _, _⟩ := ho.scaled
  have hend : f.lowEnd f.binade e + 1 = 4 * f.binade := by
    have := f.binade_pos
    rw [lowEnd, if_pos ⟨rfl, hmin⟩]
    omega
  have hend' : (f.lowEnd f.binade e : ℚ) + 1 = 4 * f.binade := by exact_mod_cast hend
  have hdouble := units_pred (num / den) e
  apply roundDiv_eq (scaleBinary_den_pos hden num _)
  · rw [ratio_scaleBinary, hdouble]
    push_cast
    linarith
  · rw [ratio_scaleBinary, hdouble]
    push_cast
    linarith
  · intro hodd
    omega

/-- What a pattern owns has its exponent, unless it lies below a power of two. -/
lemma exponentOf_of_owns {num den m : Nat} {e : Int} (hnum : num ≠ 0) (hden : 0 < den)
    (hn : f.Normal m e) (ho : f.Owns m e (num / den))
    (hcase : ¬ (m = f.binade ∧ f.minExponent < e ∧ (num / den : ℚ) * 2 ^ (-e) < f.binade)) :
    f.exponentOf num den = e := by
  obtain ⟨hlow, hhigh, _⟩ := ho.scaled
  have hend := le_lowEnd (f := f) (e := e) hn.pos
  have htop : (num / den : ℚ) * 2 ^ (-e) < 2 * f.binade := by
    have hm : (m : ℚ) + 1 ≤ 2 * f.binade := by exact_mod_cast hn.below
    linarith
  by_cases hmin : e = f.minExponent
  · rw [hmin] at htop ⊢
    exact exponentOf_eq_min hnum hden htop
  · have hfull : f.binade ≤ m := hn.full.resolve_right hmin
    have hless : f.minExponent < e := by
      have := hn.least
      omega
    have hbottom : (f.binade : ℚ) ≤ num / den * 2 ^ (-e) := by
      rcases Nat.lt_or_eq_of_le hfull with hgt | heq
      · have hm : (f.binade : ℚ) + 1 ≤ m := by exact_mod_cast hgt
        linarith
      · by_contra hb
        exact hcase ⟨heq.symm, hless, not_le.mp hb⟩
    rw [exponentOf_eq hnum hden hbottom htop]
    omega

/-- Whatever a finite pattern owns is rounded to it. -/
theorem roundSize_of_owns {num den m : Nat} {e : Int} (hden : 0 < den) (hn : f.Normal m e)
    (ho : f.Owns m e (num / den))
    (hfinite : (e - f.minExponent).toNat * f.binade + m ≤ f.infinity) :
    f.roundSize num den = (e - f.minExponent).toNat * f.binade + m := by
  obtain ⟨hlow, _, _⟩ := ho.scaled
  have hend := le_lowEnd (f := f) (e := e) hn.pos
  have hm : (1 : ℚ) ≤ m := by exact_mod_cast hn.pos
  have hnum : num ≠ 0 := by
    rintro rfl
    rw [Nat.cast_zero, zero_div, zero_mul] at hlow
    linarith
  unfold roundSize
  rw [if_neg hnum]
  dsimp only
  by_cases hcase : m = f.binade ∧ f.minExponent < e ∧ (num / den : ℚ) * 2 ^ (-e) < f.binade
  · -- Units are half as wide there, and rounding up to all of them carries into the exponent.
    obtain ⟨rfl, hmin, hbelow⟩ := hcase
    have hdouble := units_pred (num / den) e
    have hexp : f.exponentOf num den = e - 1 := by
      rw [exponentOf_eq (e := e - 1) hnum hden (by linarith) (by linarith)]
      omega
    rw [hexp, roundDiv_below_binade hden hmin ho hbelow]
    have hsteps : (e - f.minExponent).toNat = (e - 1 - f.minExponent).toNat + 1 := by omega
    have htotal : (e - f.minExponent).toNat * f.binade + f.binade =
        (e - 1 - f.minExponent).toNat * f.binade + 2 * f.binade := by
      rw [hsteps]
      ring
    omega
  · rw [exponentOf_of_owns hnum hden hn ho hcase, roundDiv_of_owns hden hn.pos ho]
    omega

lemma withSign_magnitude {bits : Nat} (h : bits < 2 * f.signBit) :
    f.withSign (f.isNegative bits) (f.magnitude bits) = bits := by
  unfold withSign isNegative magnitude
  by_cases hneg : f.signBit ≤ bits
  · have hmod : bits % f.signBit = bits - f.signBit := by
      rw [Nat.mod_eq_sub_mod hneg, Nat.mod_eq_of_lt (by omega)]
    simp only [hneg, decide_true, if_true]
    omega
  · have hmod : bits % f.signBit = bits := Nat.mod_eq_of_lt (by omega)
    simp [hneg, hmod]

/-- The significand and the exponent of a finite pattern give it back. -/
theorem decode_finite {bits m : Nat} {negative : Bool} {e : Int} (hbits : bits < 2 * f.signBit)
    (h : f.decode bits = .finite negative m e) :
    f.withSign negative ((e - f.minExponent).toNat * f.binade + m) = bits ∧
      (e - f.minExponent).toNat * f.binade + m < f.infinity ∧
      (m = 0 ∧ e = f.minExponent ∨ f.Normal m e) := by
  have hwhole := withSign_magnitude hbits
  have hb := f.binade_pos
  unfold decode at h
  dsimp only at h
  split at h
  · cases h
  · next hnan =>
    split at h
    · cases h
    · next hinf =>
      split at h
      · next hsmall =>
        cases h
        rw [sub_self, Int.toNat_zero, Nat.zero_mul, Nat.zero_add]
        refine ⟨hwhole, by omega, ?_⟩
        by_cases hm : f.magnitude bits = 0
        · exact .inl ⟨hm, rfl⟩
        · exact .inr ⟨by omega, le_rfl, by omega, .inr rfl⟩
      · next hlarge =>
        cases h
        have hdiv := Nat.div_add_mod (f.magnitude bits) f.binade
        have hmod := Nat.mod_lt (f.magnitude bits) hb
        have hquot : 1 ≤ f.magnitude bits / f.binade :=
          (Nat.one_le_div_iff hb).mpr (not_lt.mp hlarge)
        have hsteps : (f.minExponent + (f.magnitude bits / f.binade : Nat) - 1 -
            f.minExponent).toNat + 1 = f.magnitude bits / f.binade := by omega
        have hsize : (f.minExponent + (f.magnitude bits / f.binade : Nat) - 1 -
            f.minExponent).toNat * f.binade + (f.magnitude bits % f.binade + f.binade) =
              f.magnitude bits := by
          rw [← hsteps, Nat.mul_add, Nat.mul_comm f.binade, Nat.mul_one] at hdiv
          omega
        rw [hsize]
        exact ⟨hwhole, by omega, .inr ⟨by omega, by omega, by omega, .inl (by omega)⟩⟩

end BinaryFormat

end ScriptGraph
