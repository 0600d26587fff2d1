/-
The double nearest to a ratio. Around each positive double lies the interval of the ratios that round to it (`Rounds`):
half a step up and down, a quarter of a step down from a power of two; its ends belong to it where the mantissa is even.
- `roundDiv_eq`, `roundScaled_eq`: rounding gives the integer within a half, of two the even one;
- `le_log2Ratio`: the order of magnitude of a ratio;
- `nearestBits_eq`: **a ratio in the interval of a double is rounded to that double**.
-/
import Mathlib
import TileCrew.Proofs.Arithmetic.Words

namespace TileCrew

namespace Arithmetic

/-! ## Rounding to an integer -/

/-- the integer within a half of a ratio, of two the even one -/
theorem roundDiv_eq {num den n : ℕ} (hden : 0 < den) (hlow : 2 * n * den ≤ 2 * num + den)
    (hhigh : 2 * num ≤ 2 * n * den + den)
    (heven : 2 * n * den = 2 * num + den ∨ 2 * num = 2 * n * den + den → n % 2 = 0) : roundDiv num den = n := by
  have hsplit : den * (num / den) + num % den = num := Nat.div_add_mod num den
  have hrest : num % den < den := Nat.mod_lt num hden
  unfold roundDiv
  generalize num / den = q at *
  generalize num % den = r at *
  subst hsplit
  have hle : n ≤ q + 1 := by
    by_contra hc
    have hmul : den * (q + 2) ≤ den * n := Nat.mul_le_mul_left den (by omega)
    nlinarith
  have hge : q ≤ n := by
    by_contra hc
    have hmul : den * (n + 1) ≤ den * q := Nat.mul_le_mul_left den (by omega)
    nlinarith
  dsimp only
  rcases Nat.eq_or_lt_of_le hge with rfl | hlt
  · have hr : 2 * r ≤ den := by nlinarith
    rw [if_neg (by omega : ¬den < 2 * r)]
    by_cases heq : 2 * r < den
    · rw [if_pos heq]
    · have hq : q % 2 = 0 := heven (.inr (by nlinarith))
      rw [if_neg heq, if_pos hq]
  · obtain rfl : n = q + 1 := by omega
    have hr : den ≤ 2 * r := by nlinarith
    rw [if_neg (by omega : ¬2 * r < den)]
    by_cases heq : den < 2 * r
    · rw [if_pos heq]
    · have hq : (q + 1) % 2 = 0 := heven (.inl (by nlinarith))
      rw [if_neg heq, if_neg (by omega)]

theorem roundDiv_of_div {num den n : ℕ} (hden : 0 < den) (hlow : (2 * n - 1 : ℚ) ≤ 2 * (num / den))
    (hhigh : (2 * (num / den) : ℚ) ≤ 2 * n + 1)
    (heven : (2 * n - 1 : ℚ) = 2 * (num / den) ∨ (2 * (num / den) : ℚ) = 2 * n + 1 → n % 2 = 0) :
    roundDiv num den = n := by
  have hd : (0 : ℚ) < den := by exact_mod_cast hden
  have hx : (2 * (num / den) : ℚ) = 2 * num / den := by ring
  rw [hx] at hlow hhigh heven
  rw [le_div_iff₀ hd] at hlow
  rw [div_le_iff₀ hd] at hhigh
  rw [eq_div_iff hd.ne', div_eq_iff hd.ne'] at heven
  refine roundDiv_eq hden ?_ ?_ fun h => heven ?_
  · have h : (2 * n * den : ℚ) ≤ 2 * num + den := by linarith
    exact_mod_cast h
  · have h : (2 * num : ℚ) ≤ 2 * n * den + den := by linarith
    exact_mod_cast h
  · rcases h with h | h
    · have h' : (2 * n * den : ℚ) = 2 * num + den := by exact_mod_cast h
      exact .inl (by linarith)
    · have h' : (2 * num : ℚ) = 2 * n * den + den := by exact_mod_cast h
      exact .inr (by linarith)

theorem two_zpow_toNat {e : ℤ} (h : 0 ≤ e) : ((2 ^ e.toNat : ℕ) : ℚ) = 2 ^ e := by
  obtain ⟨k, rfl⟩ := Int.eq_ofNat_of_zero_le h
  simp

theorem two_zpow_neg_toNat {e : ℤ} (h : e ≤ 0) : ((2 ^ (-e).toNat : ℕ) : ℚ) = (2 ^ e)⁻¹ := by
  rw [two_zpow_toNat (by omega), zpow_neg]

theorem roundScaled_eq {num den n : ℕ} {e : ℤ} (hden : 0 < den)
    (hlow : (2 * n - 1 : ℚ) * 2 ^ e ≤ 2 * (num / den)) (hhigh : (2 * (num / den) : ℚ) ≤ (2 * n + 1) * 2 ^ e)
    (heven : (2 * n - 1 : ℚ) * 2 ^ e = 2 * (num / den) ∨ (2 * (num / den) : ℚ) = (2 * n + 1) * 2 ^ e → n % 2 = 0) :
    roundScaled num den e = n := by
  have hp : (0 : ℚ) < 2 ^ e := by positivity
  have hd : (0 : ℚ) < den := by exact_mod_cast hden
  rw [← le_div_iff₀ hp] at hlow
  rw [← div_le_iff₀ hp] at hhigh
  rw [← eq_div_iff hp.ne', ← div_eq_iff hp.ne'] at heven
  have hx : (2 * (num / den) : ℚ) / 2 ^ e = 2 * (num / den / 2 ^ e) := by ring
  rw [hx] at hlow hhigh heven
  unfold roundScaled
  by_cases he : 0 ≤ e
  · have hratio : (num / ((den * 2 ^ e.toNat : ℕ) : ℚ)) = num / den / 2 ^ e := by
      rw [Nat.cast_mul, two_zpow_toNat he, div_div]
    rw [if_pos he]
    rw [← hratio] at hlow hhigh heven
    exact roundDiv_of_div (by positivity) hlow hhigh heven
  · have hratio : (((num * 2 ^ (-e).toNat : ℕ) : ℚ) / den) = num / den / 2 ^ e := by
      rw [Nat.cast_mul, two_zpow_neg_toNat (by omega)]
      field_simp
    rw [if_neg he]
    rw [← hratio] at hlow hhigh heven
    exact roundDiv_of_div hden hlow hhigh heven

/-! ## Orders of magnitude -/

theorem powLeRatio_iff {e : ℤ} {num den : ℕ} (hden : 0 < den) :
    powLeRatio e num den = true ↔ (2 : ℚ) ^ e ≤ num / den := by
  have hd : (0 : ℚ) < den := by exact_mod_cast hden
  have hp : (0 : ℚ) < 2 ^ e := by positivity
  rw [le_div_iff₀ hd]
  unfold powLeRatio
  by_cases he : 0 ≤ e
  · rw [if_pos he, decide_eq_true_eq, ← two_zpow_toNat he, mul_comm]
    exact_mod_cast Iff.rfl
  · have hneg := two_zpow_neg_toNat (e := e) (by omega)
    rw [if_neg he, decide_eq_true_eq, ← Nat.cast_le (α := ℚ), Nat.cast_mul, hneg, ← div_eq_mul_inv, le_div_iff₀ hp,
      mul_comm]

/-- a ratio lies within a factor of two of the ratio of the powers below its parts -/
theorem ratio_log2 {num den : ℕ} (hnum : 0 < num) (hden : 0 < den) :
    (2 : ℚ) ^ ((num.log2 : ℤ) - den.log2 - 1) ≤ num / den ∧ (num / den : ℚ) < 2 ^ ((num.log2 : ℤ) - den.log2 + 1) := by
  have hd : (0 : ℚ) < den := by exact_mod_cast hden
  have hnlow : (2 : ℚ) ^ (num.log2 : ℤ) ≤ num := by exact_mod_cast Nat.log2_self_le hnum.ne'
  have hnhigh : (num : ℚ) < 2 ^ ((num.log2 : ℤ) + 1) := by exact_mod_cast Nat.lt_log2_self
  have hdlow : (2 : ℚ) ^ (den.log2 : ℤ) ≤ den := by exact_mod_cast Nat.log2_self_le hden.ne'
  have hdhigh : (den : ℚ) < 2 ^ ((den.log2 : ℤ) + 1) := by exact_mod_cast Nat.lt_log2_self
  generalize (num.log2 : ℤ) = a at *
  generalize (den.log2 : ℤ) = b at *
  have ha : (0 : ℚ) < 2 ^ a := by positivity
  have hb : (0 : ℚ) < 2 ^ b := by positivity
  constructor
  · calc (2 : ℚ) ^ (a - b - 1) = 2 ^ a / 2 ^ (b + 1) := by rw [← zpow_sub₀ two_ne_zero]; congr 1; ring
      _ ≤ num / den := by gcongr
  · calc (num : ℚ) / den < 2 ^ (a + 1) / 2 ^ b := by gcongr
      _ = 2 ^ (a - b + 1) := by rw [← zpow_sub₀ two_ne_zero]; congr 1; ring

/-- `log2Ratio` is the largest power of two not above the ratio -/
theorem le_log2Ratio {k : ℤ} {num den : ℕ} (hnum : 0 < num) (hden : 0 < den) :
    k ≤ log2Ratio num den ↔ (2 : ℚ) ^ k ≤ num / den := by
  obtain ⟨hlow, hhigh⟩ := ratio_log2 hnum hden
  unfold log2Ratio
  generalize (num.log2 : ℤ) - den.log2 = e at *
  have mono {a b : ℤ} (h : a ≤ b) : (2 : ℚ) ^ a ≤ 2 ^ b := zpow_le_zpow_right₀ one_le_two h
  have below {a b : ℤ} (h : (2 : ℚ) ^ a < 2 ^ b) : a < b := (zpow_lt_zpow_iff_right₀ one_lt_two).1 h
  by_cases he : powLeRatio e num den = true
  · rw [if_pos he]
    rw [powLeRatio_iff hden] at he
    constructor
    · intro hk
      exact (mono hk).trans he
    · intro hk
      have hlt : k < e + 1 := below (hk.trans_lt hhigh)
      omega
  · rw [if_neg he]
    rw [powLeRatio_iff hden, not_le] at he
    constructor
    · intro hk
      exact (mono hk).trans hlow
    · intro hk
      have hlt : k < e := below (hk.trans_lt he)
      omega

end Arithmetic

namespace Binary64

open Arithmetic

/-! ## The interval of a double -/

namespace Exact

/-- how far below a double its interval begins, in steps -/
def gap (v : Exact) : ℚ := if v.mantissa = 2 ^ 52 ∧ -1074 < v.exponent then 1 / 4 else 1 / 2

/-- the ratio rounds to the double: it lies in its interval, at an end only where the mantissa is even -/
structure Rounds (v : Exact) (x : ℚ) : Prop where
  low : (v.mantissa - v.gap) * 2 ^ v.exponent ≤ x
  high : x ≤ (v.mantissa + 1 / 2) * 2 ^ v.exponent
  even : (v.mantissa - v.gap) * 2 ^ v.exponent = x ∨ x = (v.mantissa + 1 / 2) * 2 ^ v.exponent → v.mantissa % 2 = 0

theorem gap_le (v : Exact) : v.gap ≤ 1 / 2 := by
  unfold gap
  split
  · norm_num
  · exact le_refl _

theorem Rounds.pos {v : Exact} {x : ℚ} (h : v.Rounds x) (hm : 0 < v.mantissa) : 0 < x := by
  have hp : (0 : ℚ) < 2 ^ v.exponent := by positivity
  have hmq : (1 : ℚ) ≤ v.mantissa := by exact_mod_cast hm
  have hgap := v.gap_le
  have hlow : (0 : ℚ) < (v.mantissa - v.gap) * 2 ^ v.exponent := mul_pos (by linarith) hp
  exact hlow.trans_le h.low

/-- at the exponent of the double, a ratio in its interval is rounded to its mantissa -/
theorem Rounds.roundScaled {v : Exact} {num den : ℕ} (h : v.Rounds (num / den)) (hden : 0 < den) :
    Arithmetic.roundScaled num den v.exponent = v.mantissa := by
  have hp : (0 : ℚ) < 2 ^ v.exponent := by positivity
  have hgap := v.gap_le
  obtain ⟨hlow, hhigh, heven⟩ := h
  have hhalf : (v.mantissa - 1 / 2 : ℚ) * 2 ^ v.exponent ≤ (v.mantissa - v.gap) * 2 ^ v.exponent :=
    mul_le_mul_of_nonneg_right (by linarith) hp.le
  refine roundScaled_eq hden (by linarith) (by linarith) fun hends => heven ?_
  rcases hends with hends | hends
  · exact .inl (le_antisymm hlow (by linarith))
  · exact .inr (by linarith)

/-- where an interval reaches below the binade of its double, the double is a power of two -/
theorem Rounds.power {v : Exact} {x : ℚ} (h : v.Rounds x) (hc : v.Canonical) (he : v.exponent ≠ -1074)
    (hx : x < 2 ^ 52 * 2 ^ v.exponent) : v.mantissa = 2 ^ 52 ∧ (2 ^ 52 - 1 / 4) * 2 ^ v.exponent ≤ x := by
  have hp : (0 : ℚ) < 2 ^ v.exponent := by positivity
  have hgap := v.gap_le
  have hfull : 2 ^ 52 ≤ v.mantissa := hc.full.resolve_right he
  have hlt : (v.mantissa - v.gap : ℚ) < 2 ^ 52 := lt_of_mul_lt_mul_right (h.low.trans_lt hx) hp.le
  have hm : v.mantissa = 2 ^ 52 := by
    have hsucc : (v.mantissa : ℚ) < 2 ^ 52 + 1 := by linarith
    have hsucc' : v.mantissa < 2 ^ 52 + 1 := by exact_mod_cast hsucc
    omega
  have hquarter : v.gap = 1 / 4 := if_pos ⟨hm, lt_of_le_of_ne hc.exponent_ge (Ne.symm he)⟩
  have hlow := h.low
  rw [hm, hquarter] at hlow
  exact ⟨hm, by exact_mod_cast hlow⟩

theorem Rounds.num_pos {v : Exact} {num den : ℕ} (h : v.Rounds (num / den)) (hm : 0 < v.mantissa) (hden : 0 < den) :
    0 < num := by
  have hd : (0 : ℚ) < den := by exact_mod_cast hden
  have hx : (0 : ℚ) < num / den := h.pos hm
  rw [lt_div_iff₀ hd, zero_mul] at hx
  exact_mod_cast hx

theorem two_zpow_shift (v : Exact) (k : ℤ) : (2 : ℚ) ^ (v.exponent + k) = 2 ^ v.exponent * 2 ^ k :=
  zpow_add₀ two_ne_zero _ _

/-- no ratio in an interval lies above the binade of its double -/
theorem Rounds.log2_le {v : Exact} {num den : ℕ} (h : v.Rounds (num / den)) (hc : v.Canonical)
    (hm : 0 < v.mantissa) (hden : 0 < den) : log2Ratio num den ≤ v.exponent + 52 := by
  have hp : (0 : ℚ) < 2 ^ v.exponent := by positivity
  have hbelow : (num / den : ℚ) < 2 ^ (v.exponent + 53) := by
    have hmlt : (v.mantissa : ℚ) + 1 ≤ 2 ^ 53 := by exact_mod_cast hc.mantissa_lt
    rw [two_zpow_shift]
    calc (num / den : ℚ) ≤ (v.mantissa + 1 / 2) * 2 ^ v.exponent := h.high
      _ < 2 ^ 53 * 2 ^ v.exponent := mul_lt_mul_of_pos_right (by linarith) hp
      _ = 2 ^ v.exponent * 2 ^ (53 : ℤ) := by rw [mul_comm]; norm_cast
  by_contra hcon
  have habove := (le_log2Ratio (k := v.exponent + 53) (h.num_pos hm hden) hden).1 (by omega)
  exact absurd habove (not_le.2 hbelow)

/-- a ratio in the interval of a double, but below its binade, is rounded up to the end of the binade below -/
theorem Rounds.below_binade {v : Exact} {num den : ℕ} (h : v.Rounds (num / den)) (hc : v.Canonical)
    (hm : 0 < v.mantissa) (hden : 0 < den) (he : v.exponent ≠ -1074)
    (hlt : (num / den : ℚ) < 2 ^ 52 * 2 ^ v.exponent) :
    v.mantissa = 2 ^ 52 ∧ log2Ratio num den = v.exponent + 51 ∧
      Arithmetic.roundScaled num den (v.exponent - 1) = 2 ^ 53 := by
  have hp : (0 : ℚ) < 2 ^ v.exponent := by positivity
  have hnum := h.num_pos hm hden
  obtain ⟨hpow, hquarter⟩ := h.power hc he hlt
  have hlow : v.exponent + 51 ≤ log2Ratio num den := by
    rw [le_log2Ratio hnum hden, two_zpow_shift]
    have h51 : (2 : ℚ) ^ (51 : ℤ) ≤ 2 ^ 52 - 1 / 4 := by norm_num
    nlinarith
  have hnot : ¬v.exponent + 52 ≤ log2Ratio num den := by
    rw [le_log2Ratio hnum hden, two_zpow_shift, mul_comm]
    exact_mod_cast not_le.2 hlt
  have hhalf : (2 : ℚ) ^ (v.exponent - 1) = 2 ^ v.exponent / 2 := by rw [zpow_sub_one₀ two_ne_zero, div_eq_mul_inv]
  refine ⟨hpow, by omega, roundScaled_eq hden ?_ ?_ fun _ => by norm_num⟩
  · rw [hhalf]
    push_cast
    linarith
  · rw [hhalf]
    push_cast
    linarith

end Exact

/-- **A ratio in the interval of a double is rounded to that double.** -/
theorem nearestBits_eq {v : Exact} (hc : v.Canonical) (hm : 0 < v.mantissa) {num den : ℕ} (hden : 0 < den)
    (h : v.Rounds (num / den)) : nearestBits num den = v.word := by
  have hnum := h.num_pos hm hden
  have hle := h.log2_le hc hm hden
  have hge := hc.exponent_ge
  unfold nearestBits
  rw [if_neg hnum.ne']
  -- below its binade the interval of a double reaches only where the double is a power of two
  by_cases hbin : v.exponent = -1074 ∨ (2 : ℚ) ^ 52 * 2 ^ v.exponent ≤ num / den
  · have hexp : max (log2Ratio num den - 52) (-1074) = v.exponent := by
      rcases hbin with hbin | hbin
      · omega
      · have hlow : v.exponent + 52 ≤ log2Ratio num den := by
          rw [le_log2Ratio hnum hden, v.two_zpow_shift, mul_comm]
          exact_mod_cast hbin
        omega
    simp only [hexp, h.roundScaled hden]
    rfl
  · obtain ⟨hne, hlt⟩ := not_or.1 hbin
    obtain ⟨hpow, hlog, hround⟩ := h.below_binade hc hm hden hne (not_le.1 hlt)
    have hexp : max (log2Ratio num den - 52) (-1074) = v.exponent - 1 := by omega
    simp only [hexp, hround, Exact.word, hpow]
    omega

end Binary64

end TileCrew
