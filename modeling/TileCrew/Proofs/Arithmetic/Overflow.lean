/-
Integers without a double. Half a step above the largest double lies the first magnitude that is not rounded to one.
- `le_roundDiv`: rounding reaches an even integer from half a unit below it on;
- `roundScaled_range`: an integer is rounded to 53 places, or up to the power of two above these;
- `ofInt?_eq_none`: **an integer has no double exactly where its magnitude is 2^1024 - 2^970 or more**.
-/
import TileCrew.Proofs.Arithmetic.Nearest

namespace TileCrew

namespace Arithmetic

/-- an even integer is reached from half a unit below it on -/
theorem le_roundDiv {num den k : ℕ} (hden : 0 < den) (hk : k % 2 = 0) :
    k ≤ roundDiv num den ↔ 2 * (k * den) ≤ 2 * num + den := by
  have hsplit : den * (num / den) + num % den = num := Nat.div_add_mod num den
  have hrest : num % den < den := Nat.mod_lt num hden
  unfold roundDiv
  generalize num / den = q at *
  generalize num % den = r at *
  subst hsplit
  dsimp only
  rcases Nat.lt_trichotomy k (q + 1) with hlt | rfl | hgt
  · have hmul : k * den ≤ den * q := by rw [Nat.mul_comm]; exact Nat.mul_le_mul_left den (by omega)
    have hreach : k ≤ q := by omega
    constructor
    · intro _
      omega
    · intro _
      split_ifs <;> omega
  · -- the even integer is the upper neighbour, so a tie goes up to it
    have hmul : (q + 1) * den = den * q + den := by ring
    rw [hmul]
    split_ifs <;> omega
  · have hmul : den * q + 2 * den ≤ k * den :=
      calc den * q + 2 * den = (q + 2) * den := by ring
        _ ≤ k * den := Nat.mul_le_mul_right den (by omega)
    constructor
    · intro hle
      split_ifs at hle <;> omega
    · intro hle
      omega

theorem roundDiv_bounds (num den : ℕ) : num / den ≤ roundDiv num den ∧ roundDiv num den ≤ num / den + 1 := by
  unfold roundDiv
  dsimp only
  split_ifs <;> omega

theorem log2Ratio_whole {n : ℕ} (hn : n ≠ 0) : log2Ratio n 1 = n.log2 := by
  have hle : powLeRatio n.log2 n 1 = true := by
    rw [powLeRatio_iff Nat.one_pos, Nat.cast_one, div_one, zpow_natCast]
    exact_mod_cast Nat.log2_self_le hn
  have hlog : (n.log2 : ℤ) - ((1 : ℕ).log2 : ℕ) = n.log2 := Int.sub_zero _
  unfold log2Ratio
  rw [hlog]
  exact if_pos hle

/-- an integer is rounded to 53 places, or up to the power of two above these -/
theorem roundScaled_range {n : ℕ} (hn : n ≠ 0) :
    2 ^ 52 ≤ roundScaled n 1 ((n.log2 : ℤ) - 52) ∧ roundScaled n 1 ((n.log2 : ℤ) - 52) ≤ 2 ^ 53 := by
  have hlow : 2 ^ n.log2 ≤ n := Nat.log2_self_le hn
  have hhigh : n < 2 ^ (n.log2 + 1) := Nat.lt_log2_self
  generalize n.log2 = l at *
  unfold roundScaled
  by_cases hl : 52 ≤ l
  · obtain ⟨k, rfl⟩ := Nat.exists_eq_add_of_le hl
    have hexp : ((52 + k : ℕ) : ℤ) - 52 = k := by omega
    rw [hexp, if_pos (by omega), Int.toNat_natCast, Nat.one_mul]
    have hdiv : 2 ^ 52 ≤ n / 2 ^ k ∧ n / 2 ^ k < 2 ^ 53 := by
      have hpos : 0 < 2 ^ k := Nat.two_pow_pos k
      rw [Nat.le_div_iff_mul_le hpos, Nat.div_lt_iff_lt_mul hpos, ← Nat.pow_add, ← Nat.pow_add]
      exact ⟨hlow, by rwa [show 53 + k = 52 + k + 1 by omega]⟩
    have hbounds := roundDiv_bounds n (2 ^ k)
    omega
  · obtain ⟨k, hk⟩ := Nat.exists_eq_add_of_le (Nat.le_of_not_le hl)
    have hneg : (-((l : ℤ) - 52)).toNat = k := by omega
    rw [if_neg (by omega), hneg]
    have hmul : 2 ^ 52 ≤ n * 2 ^ k ∧ n * 2 ^ k < 2 ^ 53 := by
      constructor
      · calc 2 ^ 52 = 2 ^ l * 2 ^ k := by rw [← Nat.pow_add, ← hk]
          _ ≤ n * 2 ^ k := Nat.mul_le_mul_right _ hlow
      · calc n * 2 ^ k < 2 ^ (l + 1) * 2 ^ k := Nat.mul_lt_mul_of_pos_right hhigh (Nat.two_pow_pos k)
          _ = 2 ^ 53 := by rw [← Nat.pow_add, show l + 1 + k = 53 by omega]
    have hexact : roundDiv (n * 2 ^ k) 1 = n * 2 ^ k := by
      unfold roundDiv
      rw [Nat.div_one, Nat.mod_one]
      rfl
    omega

end Arithmetic

namespace Binary64

open Arithmetic

/-- the first magnitude that is not rounded to a double: half a step above the largest -/
def beyond : ℕ := 2 ^ 1024 - 2 ^ 970

/-- a whole number is rounded to a word beyond the finite ones exactly from that magnitude on -/
theorem infinityBits_le_nearestBits (n : ℕ) : infinityBits ≤ nearestBits n 1 ↔ beyond ≤ n := by
  have habove : 2 ^ 1023 < beyond := by decide +kernel
  by_cases hn : n = 0
  · rw [hn]
    exact ⟨fun h => absurd h (by decide), fun h => absurd h (by omega)⟩
  obtain ⟨hr, hr'⟩ := roundScaled_range hn
  have hlow : 2 ^ n.log2 ≤ n := Nat.log2_self_le hn
  have hhigh : n < 2 ^ (n.log2 + 1) := Nat.lt_log2_self
  have hbits : nearestBits n 1 = (n.log2 + 1022) * 2 ^ 52 + roundScaled n 1 ((n.log2 : ℤ) - 52) := by
    unfold nearestBits
    rw [if_neg hn, log2Ratio_whole hn]
    have hexp : max ((n.log2 : ℤ) - 52) (-1074) = (n.log2 : ℤ) - 52 := by omega
    have hfield : ((n.log2 : ℤ) - 52 + 1074).toNat = n.log2 + 1022 := by omega
    simp only [hexp, hfield]
  have hinfinity : infinityBits = 2047 * 2 ^ 52 := rfl
  rw [hbits, hinfinity]
  rcases Nat.lt_trichotomy n.log2 1023 with hlt | heq | hgt
  · have hle : n.log2 + 1 ≤ 1023 := hlt
    have hsmall := Nat.pow_le_pow_right Nat.two_pos hle
    omega
  · -- the binade of the largest double
    rw [heq]
    have hstep : roundScaled n 1 (((1023 : ℕ) : ℤ) - 52) = roundDiv n (2 ^ 971) := by
      have hexp : (((1023 : ℕ) : ℤ) - 52).toNat = 971 := rfl
      unfold roundScaled
      rw [if_pos (by decide), Nat.one_mul, hexp]
    have hreach : 2 ^ 53 ≤ roundDiv n (2 ^ 971) ↔ 2 * (2 ^ 53 * 2 ^ 971) ≤ 2 * n + 2 ^ 971 :=
      le_roundDiv (Nat.two_pow_pos 971) (by decide)
    have hhalf : 2 * (2 ^ 53 * 2 ^ 971) = 2 * beyond + 2 ^ 971 := by decide +kernel
    rw [hstep]
    generalize roundDiv n (2 ^ 971) = r at *
    constructor
    · intro h
      have h53 : 2 ^ 53 ≤ r := by omega
      have hle := hreach.1 h53
      rw [hhalf] at hle
      omega
    · intro h
      have h53 : 2 ^ 53 ≤ r := hreach.2 (by rw [hhalf]; omega)
      omega
  · have hge : 1024 ≤ n.log2 := hgt
    have hlarge := Nat.pow_le_pow_right Nat.two_pos hge
    have hgap : beyond ≤ 2 ^ 1024 := by decide +kernel
    omega

/-- **An integer has no double exactly where its magnitude is 2^1024 - 2^970 or more.** -/
theorem ofInt?_eq_none {n : ℤ} : ofInt? n = none ↔ beyond ≤ n.natAbs := by
  rw [← infinityBits_le_nearestBits, ofInt?, Option.map_eq_none_iff, nearest?]
  simp only [ite_eq_right_iff, reduceCtorEq, imp_false, not_lt]

end Binary64

end TileCrew
