import Mathlib.Data.List.TakeWhile
import Mathlib.Tactic.NormNum
import ScriptGraph.Number.Single
import ScriptGraph.Proofs.Rounding

/-! The decimal text of a float reads back as the float. The digits that are written name a number
that the float owns, since one is looked for on ever finer grids until one is found there; laying
them out around a point does not change that number, and rounding gives the owner back. -/
namespace ScriptGraph

lemma span_of_stop {α : Type} {p : α → Bool} {xs ys : List α} (hxs : ∀ x ∈ xs, p x = true)
    (hys : ys.head?.any p = false) :
    (xs ++ ys).takeWhile p = xs ∧ (xs ++ ys).dropWhile p = ys := by
  rw [List.takeWhile_append_of_pos hxs, List.dropWhile_append_of_pos hxs]
  cases ys with
  | nil => simp
  | cons y ys =>
    have hy : p y = false := by simpa using hys
    simp [hy]

lemma digitsValue_append (xs ys : List Nat) :
    digitsValue (xs ++ ys) = digitsValue xs * 10 ^ ys.length + digitsValue ys := by
  induction ys using List.reverseRecOn with
  | nil => simp [digitsValue]
  | append_singleton ys y ih =>
    rw [← List.append_assoc, digitsValue_append_singleton, ih, digitsValue_append_singleton,
      List.length_append, List.length_singleton, pow_succ]
    ring

@[simp] lemma digitsValue_replicate_zero (n : Nat) : digitsValue (List.replicate n 0) = 0 := by
  induction n with
  | zero => rfl
  | succ n ih => rw [List.replicate_succ', digitsValue_append_singleton, ih]

/-- A positive number lies between two powers of ten that its digits count. -/
lemma decimalDigits_bounds {n : Nat} (h : 0 < n) :
    10 ^ ((decimalDigits n).length - 1) ≤ n ∧ n < 10 ^ (decimalDigits n).length := by
  fun_induction decimalDigits n with
  | case1 n hn => simpa using ⟨h, hn⟩
  | case2 n hn ih =>
    obtain ⟨hlow, hhigh⟩ := ih (by omega)
    have hlen : 0 < (decimalDigits (n / 10)).length :=
      List.length_pos_iff.mpr (decimalDigits_ne_nil (n / 10))
    rw [List.length_append, List.length_singleton, Nat.add_sub_cancel]
    obtain ⟨k, hk⟩ := Nat.exists_eq_add_of_lt hlen
    rw [Nat.zero_add] at hk
    rw [hk] at hlow hhigh ⊢
    rw [Nat.add_sub_cancel] at hlow
    rw [pow_succ] at hhigh ⊢
    rw [pow_succ]
    omega

def digitChars (ds : List Nat) : List Char := ds.map digitChar

lemma isDigit_digitChar {d : Nat} (h : d < 10) : isDigit (digitChar d) = true := by
  rw [isDigit, charDigit?_digitChar h]
  rfl

lemma isDigit_of_mem_digitChars {ds : List Nat} (h : ∀ d ∈ ds, d < 10) {c : Char}
    (hc : c ∈ digitChars ds) : isDigit c = true := by
  obtain ⟨d, hd, rfl⟩ := List.mem_map.mp hc
  exact isDigit_digitChar (h d hd)

lemma charsValue_digitChars {ds : List Nat} (h : ∀ d ∈ ds, d < 10) :
    charsValue (digitChars ds) = digitsValue ds := by
  rw [charsValue, digitChars, List.map_map]
  congr 1
  conv => rhs; rw [← List.map_id ds]
  apply List.map_congr_left
  intro d hd
  simp [charDigit?_digitChar (h d hd)]

namespace Decimal

/-- The number that a decimal stands for. -/
def value (d : Decimal) : ℚ :=
  digitsValue d.digits * 10 ^ (d.exponent - (d.digits.length - 1 : Nat))

/-- There are digits, and they are below ten. -/
structure Proper (d : Decimal) : Prop where
  nonempty : d.digits ≠ []
  small : ∀ x ∈ d.digits, x < 10

/-- Trailing zeros of the significand are taken into the exponent. -/
lemma ofScaled_spec {n : Nat} (h : 0 < n) (unit : Int) :
    (ofScaled n unit).Proper ∧ (ofScaled n unit).value = n * 10 ^ unit := by
  have hn := digitsValue_decimalDigits n
  have hsmall := decimalDigits_lt_ten n
  unfold ofScaled
  dsimp only
  set kept := ((decimalDigits n).reverse.dropWhile (· = 0)).reverse with hkept
  set zeros := ((decimalDigits n).reverse.takeWhile (· = 0)).reverse with hzeros
  have hsplit : decimalDigits n = kept ++ zeros := by
    rw [hkept, hzeros, ← List.reverse_append, List.takeWhile_append_dropWhile, List.reverse_reverse]
  have hzero : zeros = List.replicate zeros.length 0 := by
    refine List.eq_replicate_iff.mpr ⟨rfl, fun d hd => ?_⟩
    have := List.mem_takeWhile_imp (List.mem_reverse.mp hd)
    simpa using this
  have hvalue : n = digitsValue kept * 10 ^ zeros.length := by
    conv => lhs; rw [← hn, hsplit, digitsValue_append]
    rw [hzero, digitsValue_replicate_zero, List.length_replicate, Nat.add_zero]
  have hne : kept ≠ [] := by
    intro he
    rw [he] at hvalue
    simp [digitsValue] at hvalue
    omega
  have hlen : 0 < kept.length := List.length_pos_iff.mpr hne
  refine ⟨⟨hne, fun d hd => hsmall d ?_⟩, ?_⟩
  · rw [hsplit]
    exact List.mem_append_left _ hd
  · have htotal : (decimalDigits n).length = kept.length + zeros.length := by
      rw [hsplit, List.length_append]
    have hexp : unit + ((decimalDigits n).length - 1 : Nat) - (kept.length - 1 : Nat) =
        (zeros.length : Int) + unit := by omega
    rw [value, hexp, zpow_add₀ (by norm_num), zpow_natCast, ← mul_assoc]
    conv => rhs; rw [hvalue]
    push_cast
    ring

lemma toList_positional_of_neg {d : Decimal} (h : d.exponent < 0) :
    (d.positional true).toList =
      digitChars [0] ++ '.' ::
        digitChars (List.replicate (-d.exponent - 1).toNat 0 ++ d.digits) := by
  have hzero : digitChar 0 = '0' := rfl
  rw [positional, if_pos h]
  simp [digitChars, hzero]

lemma toList_positional_of_le {d : Decimal} (h : 0 ≤ d.exponent)
    (hlen : d.digits.length ≤ d.exponent.toNat + 1) :
    (d.positional true).toList =
      digitChars (d.digits ++ List.replicate (d.exponent.toNat + 1 - d.digits.length) 0) ++
        '.' :: digitChars [0] := by
  have hzero : digitChar 0 = '0' := rfl
  have hchars : (d.digits.map digitChar).length = d.digits.length := List.length_map digitChar
  have hdrop : (d.digits.map digitChar).drop (d.exponent.toNat + 1) = [] :=
    List.drop_eq_nil_of_le (by omega)
  have htake : (d.digits.map digitChar).take (d.exponent.toNat + 1) = d.digits.map digitChar :=
    List.take_of_length_le (by omega)
  rw [positional, if_neg (by omega)]
  simp [hdrop, htake, digitChars, hzero]

lemma toList_positional_of_lt {d : Decimal} (h : 0 ≤ d.exponent)
    (hlen : d.exponent.toNat + 1 < d.digits.length) :
    (d.positional true).toList =
      digitChars (d.digits.take (d.exponent.toNat + 1)) ++
        '.' :: digitChars (d.digits.drop (d.exponent.toNat + 1)) := by
  have hchars : (d.digits.map digitChar).length = d.digits.length := List.length_map digitChar
  have hsome : ((d.digits.map digitChar).drop (d.exponent.toNat + 1)).isEmpty = false := by
    rw [List.isEmpty_eq_false_iff, ne_eq, List.drop_eq_nil_iff]
    omega
  have hpad : d.exponent.toNat + 1 - (d.digits.map digitChar).length = 0 := by omega
  rw [positional, if_neg (by omega)]
  dsimp only
  rw [hsome, hpad]
  simp [digitChars]

/-- A proper decimal is written as digits on both sides of a point, which denote its value. -/
lemma positional_parts {d : Decimal} (hd : d.Proper) :
    ∃ front back : List Nat, front ≠ [] ∧ back ≠ [] ∧ (∀ x ∈ front ++ back, x < 10) ∧
      (d.positional true).toList = digitChars front ++ '.' :: digitChars back ∧
      (digitsValue (front ++ back) : ℚ) * 10 ^ (-(back.length : Int)) = d.value := by
  have hne := hd.nonempty
  have hlen : 0 < d.digits.length := List.length_pos_iff.mpr hne
  unfold value
  by_cases hneg : d.exponent < 0
  · refine ⟨_, _, by simp, by simp [hne], ?_, toList_positional_of_neg hneg, ?_⟩
    · intro x hx
      simp only [List.singleton_append, List.mem_cons, List.mem_append, List.mem_replicate] at hx
      rcases hx with rfl | ⟨_, rfl⟩ | hx
      · omega
      · omega
      · exact hd.small x hx
    · have hdigits : digitsValue ([0] ++ (List.replicate (-d.exponent - 1).toNat 0 ++ d.digits)) =
          digitsValue d.digits := by
        rw [digitsValue_append, digitsValue_append, digitsValue_replicate_zero]
        simp [digitsValue]
      rw [hdigits, List.length_append, List.length_replicate]
      congr 2
      push_cast
      omega
  have hpos : 0 ≤ d.exponent := not_lt.mp hneg
  by_cases hback : d.digits.length ≤ d.exponent.toNat + 1
  · refine ⟨_, _, by simp [hne], by simp, ?_, toList_positional_of_le hpos hback, ?_⟩
    · intro x hx
      simp only [List.mem_append, List.mem_replicate, List.mem_singleton] at hx
      rcases hx with (hx | ⟨_, rfl⟩) | rfl
      · exact hd.small x hx
      · omega
      · omega
    · have hexp : d.exponent - (d.digits.length - 1 : Nat) =
          ((d.exponent.toNat + 1 - d.digits.length : Nat) : Int) := by omega
      rw [hexp, zpow_natCast, digitsValue_append, digitsValue_append, digitsValue_replicate_zero,
        List.length_replicate]
      simp [digitsValue]
  · have hback' : d.exponent.toNat + 1 < d.digits.length := not_le.mp hback
    refine ⟨_, _, by simp [hne], by simpa using hback', ?_, toList_positional_of_lt hpos hback', ?_⟩
    · rw [List.take_append_drop]
      exact hd.small
    · rw [List.take_append_drop, List.length_drop]
      congr 2
      omega

lemma ten_pow_leadingExponent_le {num den : Nat} (hnum : 0 < num) (hden : 0 < den) :
    (10 : ℚ) ^ leadingExponent num den ≤ num / den := by
  have hd : (0 : ℚ) < den := by exact_mod_cast hden
  unfold leadingExponent
  split
  · next hle =>
    have hquot : 0 < num / den := Nat.div_pos hle hden
    have hdigits := (decimalDigits_bounds hquot).1
    have hmul : 10 ^ ((decimalDigits (num / den)).length - 1) * den ≤ num :=
      (Nat.mul_le_mul_right den hdigits).trans (Nat.div_mul_le_self num den)
    rw [zpow_natCast, le_div_iff₀ hd]
    exact_mod_cast hmul
  · next hlt =>
    have hquot : 0 < (den - 1) / num := Nat.div_pos (by omega) hnum
    have hdigits := (decimalDigits_bounds hquot).2
    have hmul : den ≤ num * 10 ^ (decimalDigits ((den - 1) / num)).length := by
      have := (Nat.div_lt_iff_lt_mul hnum).mp hdigits
      rw [Nat.mul_comm] at this
      omega
    have hpos : (0 : ℚ) < 10 ^ (decimalDigits ((den - 1) / num)).length := by positivity
    rw [zpow_neg, zpow_natCast, inv_le_iff_one_le_mul₀ hpos, div_mul_eq_mul_div, one_le_div hd]
    exact_mod_cast hmul

/-- One unit of `2 ^ scale` in units of `10 ^ unit`. -/
def density (scale unit : Int) : Nat × Nat :=
  scaleDecimal (scaleBinary 1 1 scale).1 (scaleBinary 1 1 scale).2 (-unit)

lemma density_den_pos (scale unit : Int) : 0 < (density scale unit).2 :=
  scaleDecimal_den_pos (scaleBinary_den_pos Nat.one_pos 1 scale) _ _

lemma ratio_density (scale unit : Int) :
    ratio (density scale unit) = 2 ^ scale * 10 ^ (-unit) := by
  have h := ratio_scaleBinary 1 1 scale
  unfold ratio at h
  rw [density, ratio_scaleDecimal, h]
  norm_num

lemma ratio_density_pos (scale unit : Int) : 0 < ratio (density scale unit) := by
  rw [ratio_density]
  positivity

lemma mul_density_le {scale unit : Int} {a b : Nat} :
    a * (density scale unit).1 ≤ b * (density scale unit).2 ↔
      (a : ℚ) * ratio (density scale unit) ≤ b := by
  have hd : (0 : ℚ) < (density scale unit).2 := by exact_mod_cast density_den_pos scale unit
  rw [ratio, mul_div_assoc', div_le_iff₀ hd]
  exact_mod_cast Iff.rfl

lemma le_mul_density {scale unit : Int} {a b : Nat} :
    b * (density scale unit).2 ≤ a * (density scale unit).1 ↔
      (b : ℚ) ≤ a * ratio (density scale unit) := by
  have hd : (0 : ℚ) < (density scale unit).2 := by exact_mod_cast density_den_pos scale unit
  rw [ratio, mul_div_assoc', le_div_iff₀ hd]
  exact_mod_cast Iff.rfl

/-- A multiple of the unit between the halfway points, or one of them where they count. -/
structure Between (low high : Nat) (closed : Bool) (scale unit : Int) (n : Nat) : Prop where
  lower : (low : ℚ) * ratio (density scale unit) ≤ n
  upper : (n : ℚ) ≤ high * ratio (density scale unit)
  strict : closed = false → (low : ℚ) * ratio (density scale unit) < n ∧
    (n : ℚ) < high * ratio (density scale unit)

lemma floor_bounds (mid : Nat) (scale unit : Int) :
    ((mid * (density scale unit).1 / (density scale unit).2 : Nat) : ℚ) ≤
        mid * ratio (density scale unit) ∧
      (mid : ℚ) * ratio (density scale unit) <
        (mid * (density scale unit).1 / (density scale unit).2 + 1 : Nat) := by
  constructor
  · exact le_mul_density.mp (Nat.div_mul_le_self _ _)
  · have h := Nat.lt_div_mul_add (a := mid * (density scale unit).1) (density_den_pos scale unit)
    rw [← Nat.succ_mul] at h
    exact not_le.mp (le_mul_density.not.mp (not_le.mpr h))

/-- A number or the next one, whichever is admitted. Where both are it is the nearer one to a point:
`twice` is twice the point and `centre` twice the middle between the two. -/
def choice (belowIn aboveIn : Prop) [Decidable belowIn] [Decidable aboveIn]
    (below twice centre : Nat) (tie : DecimalTie) : Option Nat :=
  if belowIn ∧ aboveIn then
    if twice < centre then some below
    else if centre < twice then some (below + 1)
    else match tie with
      | .up => some (below + 1)
      | .even => some (if below % 2 = 0 then below else below + 1)
  else if belowIn then some below
  else if aboveIn then some (below + 1)
  else none

lemma admitted_of_choice {B A : Prop} [Decidable B] [Decidable A] {below twice centre n : Nat}
    {tie : DecimalTie} (h : choice B A below twice centre tie = some n) :
    n = below ∧ B ∨ n = below + 1 ∧ A := by
  unfold choice at h
  by_cases hB : B
  · by_cases hA : A
    · simp only [hB, hA, and_self, if_true] at h ⊢
      cases tie <;> grind
    · simp only [hB, hA, and_false, if_true, if_false, Option.some.injEq] at h
      exact .inl ⟨h.symm, hB⟩
  · by_cases hA : A
    · simp only [hB, hA, false_and, if_true, if_false, Option.some.injEq] at h
      exact .inr ⟨h.symm, hA⟩
    · simp [hB, hA] at h

lemma exists_choice {B A : Prop} [Decidable B] [Decidable A] (hB : B) (below twice centre : Nat)
    (tie : DecimalTie) : ∃ n, choice B A below twice centre tie = some n := by
  unfold choice
  by_cases hA : A
  · simp only [hB, hA, and_self, if_true]
    cases tie <;> (repeat' split) <;> exact ⟨_, rfl⟩
  · simp [hB, hA]

/-- What is found on the grid lies between the halfway points. -/
lemma between_of_onGrid {low mid high : Nat} {closed : Bool} {scale unit : Int} {tie : DecimalTie}
    {n : Nat} (hlow : low < mid) (hhigh : mid < high)
    (h : onGrid low mid high closed scale unit tie = some n) :
    Between low high closed scale unit n := by
  have hpos := ratio_density_pos scale unit
  obtain ⟨hbelow, habove⟩ := floor_bounds mid scale unit
  have hl : (low : ℚ) * ratio (density scale unit) < mid * ratio (density scale unit) := by gcongr
  have hh : (mid : ℚ) * ratio (density scale unit) < high * ratio (density scale unit) := by gcongr
  rcases admitted_of_choice h with ⟨rfl, hin⟩ | ⟨rfl, hin⟩
  · have hupper := hbelow.trans_lt hh
    cases closed with
    | true => exact ⟨mul_density_le.mp hin, hupper.le, by simp⟩
    | false =>
      have hlower := not_le.mp (le_mul_density.not.mp (not_le.mpr hin))
      exact ⟨hlower.le, hupper.le, fun _ => ⟨hlower, hupper⟩⟩
  · have hlower := hl.trans habove
    cases closed with
    | true => exact ⟨hlower.le, le_mul_density.mp hin, by simp⟩
    | false =>
      have hupper := not_le.mp (mul_density_le.not.mp (not_le.mpr hin))
      exact ⟨hlower.le, hupper.le, fun _ => ⟨hlower, hupper⟩⟩

/-- Where the unit is no wider than that of the scale, a number is found. -/
lemma exists_onGrid {low mid : Nat} (high : Nat) (closed : Bool) {scale unit : Int}
    (tie : DecimalTie) (hlow : low < mid) (hfine : 1 ≤ ratio (density scale unit)) :
    ∃ n, onGrid low mid high closed scale unit tie = some n := by
  obtain ⟨_, habove⟩ := floor_bounds mid scale unit
  have hstep : ((low : ℚ) + 1) * ratio (density scale unit) ≤ mid * ratio (density scale unit) := by
    gcongr
    exact_mod_cast hlow
  push_cast at habove
  have hbelow : (low : ℚ) * ratio (density scale unit) <
      (mid * (density scale unit).1 / (density scale unit).2 : Nat) := by linarith
  have hin := not_le.mp (le_mul_density.not.mpr (not_le.mpr hbelow))
  cases closed with
  | true => exact exists_choice hin.le _ _ _ tie
  | false => exact exists_choice hin _ _ _ tie

/-- Sixteen digits past the leading one are fine enough for a significand that has no more. -/
lemma one_le_ratio_density {mid : Nat} (hmid : 0 < mid) (hsmall : mid ≤ 10 ^ 16) (scale : Int) :
    1 ≤ ratio (density scale (leadingExponent (scaleBinary mid 1 scale).1
      (scaleBinary mid 1 scale).2 - 16)) := by
  have hden := scaleBinary_den_pos Nat.one_pos mid scale
  have hexact : ratio (scaleBinary mid 1 scale) = mid * 2 ^ scale := by
    rw [ratio_scaleBinary, Nat.cast_one, div_one]
  have hm : (0 : ℚ) < mid := by exact_mod_cast hmid
  have hnum : 0 < (scaleBinary mid 1 scale).1 := by
    rcases Nat.eq_zero_or_pos (scaleBinary mid 1 scale).1 with h | h
    · have hpos : (0 : ℚ) < mid * 2 ^ scale := by positivity
      rw [← hexact, ratio, h, Nat.cast_zero, zero_div] at hpos
      exact absurd hpos (lt_irrefl _)
    · exact h
  have htop := ten_pow_leadingExponent_le hnum hden
  change _ ≤ ratio (scaleBinary mid 1 scale) at htop
  rw [hexact] at htop
  generalize leadingExponent (scaleBinary mid 1 scale).1 (scaleBinary mid 1 scale).2 = top at htop ⊢
  have hwide : (mid : ℚ) ≤ 10 ^ (16 : Int) := by exact_mod_cast hsmall
  have hpow : (0 : ℚ) < 10 ^ top := by positivity
  have hscaled : (mid : ℚ) * ratio (density scale (top - 16)) =
      mid * 2 ^ scale / 10 ^ top * 10 ^ (16 : Int) := by
    rw [ratio_density, neg_sub, zpow_sub₀ (by norm_num)]
    ring
  have hone : 1 ≤ (mid : ℚ) * 2 ^ scale / 10 ^ top := (one_le_div hpow).mpr htop
  have hle : (mid : ℚ) * 1 ≤ mid * ratio (density scale (top - 16)) := by
    rw [hscaled, mul_one]
    calc (mid : ℚ) ≤ 1 * 10 ^ (16 : Int) := by rwa [one_mul]
      _ ≤ _ := by gcongr
  exact le_of_mul_le_mul_left hle hm

/-- The fewest digits denote a number that the pattern owns. -/
theorem shortest_spec {f : BinaryFormat} {m : Nat} (e : Int) (hm : 0 < m)
    (hsmall : 4 * m ≤ 10 ^ 16) (tie : DecimalTie) :
    (shortest f m e tie).Proper ∧ f.Owns m e (shortest f m e tie).value := by
  have hlow : f.lowEnd m e < 4 * m := by
    unfold BinaryFormat.lowEnd
    split <;> omega
  have hlowpos : (0 : ℚ) < f.lowEnd m e := by exact_mod_cast BinaryFormat.lowEnd_pos hm
  let top := leadingExponent (scaleBinary (4 * m) 1 (e - 2)).1 (scaleBinary (4 * m) 1 (e - 2)).2
  let search (n : Nat) : Option Decimal :=
    (onGrid (f.lowEnd m e) (4 * m) (4 * m + 2) (m % 2 = 0) (e - 2) (top - n) tie).map fun d =>
      ofScaled d (top - n)
  have hshortest : shortest f m e tie = ((List.range 17).findSome? search).getD
      (ofScaled (4 * m) 0) := by
    unfold shortest
    rw [if_neg hm.ne']
    rfl
  -- The last grid is finer than the span of a pattern of this size, so the search ends there.
  have hfound : ((List.range 17).findSome? search).isSome := by
    rw [List.findSome?_isSome_iff]
    obtain ⟨n, hn⟩ := exists_onGrid (4 * m + 2) (m % 2 = 0) tie hlow
      (one_le_ratio_density (by omega) hsmall (e - 2))
    exact ⟨16, by decide, by simp [search, top, hn]⟩
  obtain ⟨d, hd⟩ := Option.isSome_iff_exists.mp hfound
  obtain ⟨k, _, hk⟩ := List.exists_of_findSome?_eq_some hd
  obtain ⟨n, hgrid, rfl⟩ := Option.map_eq_some_iff.mp hk
  rw [hshortest, hd, Option.getD_some]
  obtain ⟨hlower, hupper, hstrict⟩ := between_of_onGrid hlow (by omega) hgrid
  generalize top - (k : Int) = unit at hlower hupper hstrict ⊢
  have hratio := ratio_density (e - 2) unit
  have hpos := ratio_density_pos (e - 2) unit
  have hunit : (0 : ℚ) < 10 ^ unit := by positivity
  have hback : ∀ x : ℚ, x * ratio (density (e - 2) unit) * 10 ^ unit = x * 2 ^ (e - 2) := by
    intro x
    rw [hratio, zpow_neg]
    field_simp
  have hn : 0 < n := by
    have : (0 : ℚ) < n := (mul_pos hlowpos hpos).trans_le hlower
    exact_mod_cast this
  obtain ⟨hproper, hvalue⟩ := ofScaled_spec hn unit
  refine ⟨hproper, ?_⟩
  rw [hvalue]
  refine ⟨?_, ?_, fun hodd => ?_⟩
  · rw [← hback]
    gcongr
  · rw [← hback]
    gcongr
  · obtain ⟨hl, hh⟩ := hstrict (by simpa using hodd)
    rw [← hback, ← hback]
    exact ⟨by gcongr, by gcongr⟩

end Decimal

namespace DecimalLiteral

lemma leading_bounds {n : Nat} (hn : 0 < n) (power : Int) :
    (10 : ℚ) ^ (((decimalDigits n).length - 1 : Nat) + power) ≤ n * 10 ^ power ∧
      (n : ℚ) * 10 ^ power < 10 ^ (((decimalDigits n).length - 1 : Nat) + power + 1) := by
  have hten : (10 : ℚ) ≠ 0 := by norm_num
  obtain ⟨hlow, hhigh⟩ := decimalDigits_bounds hn
  have hlen : 0 < (decimalDigits n).length := List.length_pos_iff.mpr (decimalDigits_ne_nil n)
  constructor
  · rw [zpow_add₀ hten, zpow_natCast]
    gcongr
    exact_mod_cast hlow
  · have hexp : (((decimalDigits n).length - 1 : Nat) : Int) + power + 1 =
        (decimalDigits n).length + power := by omega
    rw [hexp, zpow_add₀ hten, zpow_natCast]
    gcongr
    exact_mod_cast hhigh

/-- What a finite single owns is far inside the range in which literals are looked at closely. -/
lemma owns_range {m : Nat} {e : Int} {v : ℚ} (hn : BinaryFormat.single.Normal m e)
    (hfinite : (e - BinaryFormat.single.minExponent).toNat * BinaryFormat.single.binade + m <
      BinaryFormat.single.infinity)
    (ho : BinaryFormat.single.Owns m e v) :
    (10 : ℚ) ^ (-151 : Int) ≤ v ∧ v ≤ 10 ^ (128 : Int) := by
  have hmin : BinaryFormat.single.minExponent = -149 := rfl
  have hbinade : BinaryFormat.single.binade = 2 ^ 23 := rfl
  have hinf : BinaryFormat.single.infinity = 255 * 2 ^ 23 := rfl
  have hleast := hn.least
  have hbelow := hn.below
  rw [hmin] at hleast hfinite
  rw [hbinade] at hbelow hfinite
  rw [hinf] at hfinite
  have htop : e ≤ 105 := by omega
  have hlow : (1 : ℚ) ≤ BinaryFormat.single.lowEnd m e := by
    exact_mod_cast BinaryFormat.lowEnd_pos hn.pos
  have hhigh : ((4 * m + 2 : Nat) : ℚ) ≤ 2 ^ (25 : Int) * 2 := by
    have h : 4 * m + 2 ≤ 2 ^ 25 * 2 := by omega
    exact_mod_cast h
  constructor
  · calc (10 : ℚ) ^ (-151 : Int) ≤ 2 ^ (-151 : Int) := by norm_num
      _ ≤ 1 * 2 ^ (e - 2) := by
          rw [one_mul]
          exact zpow_le_zpow_right₀ (by norm_num) (by omega)
      _ ≤ BinaryFormat.single.lowEnd m e * 2 ^ (e - 2) := by gcongr
      _ ≤ v := ho.low
  · calc v ≤ (4 * m + 2 : Nat) * 2 ^ (e - 2) := ho.high
      _ ≤ 2 ^ (25 : Int) * 2 * 2 ^ (103 : Int) := by
          gcongr
          · norm_num
          · omega
      _ ≤ 10 ^ (128 : Int) := by norm_num

/-- A literal whose number a finite single owns is rounded to it. -/
lemma round_of_owns {m : Nat} {e : Int} (hn : BinaryFormat.single.Normal m e)
    (hfinite : (e - BinaryFormat.single.minExponent).toNat * BinaryFormat.single.binade + m <
      BinaryFormat.single.infinity) (d : DecimalLiteral)
    (ho : BinaryFormat.single.Owns m e (charsValue d.digits * 10 ^ d.power)) :
    d.round .single = BinaryFormat.single.withSign d.negative
      ((e - BinaryFormat.single.minExponent).toNat * BinaryFormat.single.binade + m) := by
  obtain ⟨hsmall, hlarge⟩ := owns_range hn hfinite ho
  have hpos : 0 < charsValue d.digits := by
    rcases Nat.eq_zero_or_pos (charsValue d.digits) with h | h
    · rw [h, Nat.cast_zero, zero_mul] at hsmall
      exact absurd hsmall (not_le.mpr (by positivity))
    · exact h
  obtain ⟨hlow, hhigh⟩ := leading_bounds hpos d.power
  have hten : (1 : ℚ) < 10 := by norm_num
  have hmin := (zpow_lt_zpow_iff_right₀ hten).mp (hsmall.trans_lt hhigh)
  have hmax := (zpow_le_zpow_iff_right₀ hten).mp (hlow.trans hlarge)
  have hbound : ((Nat.pow 2 BinaryFormat.single.exponentBits : Nat) : Int) = 256 := rfl
  unfold round
  dsimp only
  rw [hbound, if_neg (by omega), if_neg (by omega)]
  have hratio := ratio_scaleDecimal (charsValue d.digits) 1 d.power
  rw [Nat.cast_one, div_one] at hratio
  rw [← hratio] at ho
  rw [BinaryFormat.roundSize_of_owns (scaleDecimal_den_pos Nat.one_pos _ _) hn ho hfinite.le]

lemma takeSign_of_isDigit {c : Char} (hc : isDigit c = true) (cs : List Char) :
    takeSign (c :: cs) = (false, c :: cs) := by
  unfold takeSign
  split
  · next h =>
    cases h
    exact absurd hc Bool.false_ne_true
  · next h =>
    cases h
    exact absurd hc Bool.false_ne_true
  · rfl

/-- Digits on both sides of a point are taken as one number and the place of the point. -/
lemma read?_digitChars {front back : List Nat} (hfront : front ≠ [])
    (hdigits : ∀ d ∈ front ++ back, d < 10) (negative : Bool) :
    read? ((if negative then ['-'] else []) ++ digitChars front ++ '.' :: digitChars back) =
      some ⟨negative, digitChars (front ++ back), -(back.length : Int)⟩ := by
  have hfrontDigits : ∀ c ∈ digitChars front, isDigit c = true := fun c hc =>
    isDigit_of_mem_digitChars (fun d hd => hdigits d (List.mem_append_left _ hd)) hc
  have hbackDigits : ∀ c ∈ digitChars back, isDigit c = true := fun c hc =>
    isDigit_of_mem_digitChars (fun d hd => hdigits d (List.mem_append_right _ hd)) hc
  have hsign : takeSign ((if negative then ['-'] else []) ++ digitChars front ++
      '.' :: digitChars back) = (negative, digitChars front ++ '.' :: digitChars back) := by
    cases negative with
    | true => rfl
    | false =>
      obtain ⟨d, ds, rfl⟩ := List.exists_cons_of_ne_nil hfront
      exact takeSign_of_isDigit (hfrontDigits _ (List.mem_cons_self ..)) _
  have hpoint : ('.' :: digitChars back).head?.any isDigit = false := rfl
  have hend : ([] : List Char).head?.any isDigit = false := rfl
  obtain ⟨htake, hdrop⟩ := span_of_stop hfrontDigits hpoint
  obtain ⟨htakeBack, hdropBack⟩ := span_of_stop hbackDigits hend
  rw [List.append_nil] at htakeBack hdropBack
  have hne : digitChars front ++ digitChars back ≠ [] := by simp [digitChars, hfront]
  unfold read?
  rw [hsign]
  dsimp only
  simp only [htake, hdrop, htakeBack, hdropBack, if_neg hne]
  simp [readPower?, digitChars]

end DecimalLiteral

lemma BinaryFormat.Normal.significand_le {m : Nat} {e : Int} (hn : single.Normal m e) :
    4 * m ≤ 10 ^ 16 := by
  have hbinade : single.binade = 2 ^ 23 := rfl
  have hbelow := hn.below
  omega

/-- The text of a finite single in a layout without exponents: digits on both sides of a point. They
are read as the single itself. -/
theorem Single.write_finite {l : FloatLayout} (hfixed : ∀ e, l.isFixed e = true)
    (hpoint : l.pointZero = true) {x : Single} {negative : Bool} {m : Nat} {e : Int}
    (hx : BinaryFormat.single.decode x.pattern = .finite negative m e) :
    ∃ front back : List Nat, front ≠ [] ∧ back ≠ [] ∧ (∀ d ∈ front ++ back, d < 10) ∧
      (x.write l).toList =
        (if negative then ['-'] else []) ++ digitChars front ++ '.' :: digitChars back ∧
      ofDecimal ⟨negative, digitChars (front ++ back), -(back.length : Int)⟩ = x := by
  have hbits : x.pattern < 2 * BinaryFormat.single.signBit := x.bits.toNat_lt
  obtain ⟨hwhole, hfinite, hm⟩ := BinaryFormat.decode_finite hbits hx
  have hproper : (Decimal.shortest .single m e l.tie).Proper := by
    rcases hm with ⟨rfl, _⟩ | hn
    · exact ⟨by simp [Decimal.shortest], by simp [Decimal.shortest]⟩
    · exact (Decimal.shortest_spec e hn.pos hn.significand_le l.tie).1
  obtain ⟨front, back, hfront, hback, hdigits, htext, hvalue⟩ := Decimal.positional_parts hproper
  refine ⟨front, back, hfront, hback, hdigits, ?_, ?_⟩
  · unfold write FloatLayout.write
    rw [hx]
    dsimp only
    rw [hfixed, hpoint, if_pos rfl]
    cases negative with
    | true => simp [htext]
    | false => simp [htext]
  · have hround : DecimalLiteral.round .single
        ⟨negative, digitChars (front ++ back), -(back.length : Int)⟩ = x.pattern := by
      rw [← charsValue_digitChars hdigits] at hvalue
      rcases hm with ⟨rfl, rfl⟩ | hn
      · have hzero : charsValue (digitChars (front ++ back)) = 0 := by
          simpa [Decimal.value, Decimal.shortest, digitsValue] using hvalue
        rw [← hwhole]
        simp [DecimalLiteral.round, hzero]
      · obtain ⟨_, ho⟩ := Decimal.shortest_spec e hn.pos hn.significand_le l.tie
        rw [← hvalue] at ho
        rw [DecimalLiteral.round_of_owns hn hfinite _ ho, hwhole]
    rw [ofDecimal, hround]
    exact congrArg Single.mk (UInt32.ofNat_toNat)

end ScriptGraph
