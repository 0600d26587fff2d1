/-
The shortest decimal of a double reads back as that double.
- `holds_iff`: a point is in the interval of a double where it rounds to it;
- `holds_floorAt`: on a grid as fine as the gap below a double, the point next below it is in its interval;
- `coarsest_fine`: 23 grids below the coarsest, the grid is that fine;
- `shortest_rounds`: the shortest decimal is in the interval;
- `toFloat_eq`: a decimal in the interval of a double is read as that double;
- `readSigned_shortest`: **the decimal that a double is written with is read as that double**.
-/
import Mathlib
import TileCrew.Decimal.Conversion
import TileCrew.Proofs.Arithmetic.Nearest
import TileCrew.Proofs.Text.Digits

namespace TileCrew.Decimal

open Arithmetic Binary64

def Scaled.value (d : Scaled) : ℚ := d.coefficient * 10 ^ d.exponent

/-! ## Ratios -/

theorem ten_zpow_toNat {e : ℤ} (h : 0 ≤ e) : ((10 ^ e.toNat : ℕ) : ℚ) = 10 ^ e := by
  obtain ⟨k, rfl⟩ := Int.eq_ofNat_of_zero_le h
  simp

theorem gridPoint_pos (c : ℕ) (g : ℤ) : 0 < (gridPoint c g).2 := by
  unfold gridPoint
  split
  · exact Nat.one_pos
  · exact Nat.pos_of_ne_zero (by positivity)

theorem gridPoint_eq (c : ℕ) (g : ℤ) : ((gridPoint c g).1 / (gridPoint c g).2 : ℚ) = c * 10 ^ g := by
  unfold gridPoint
  by_cases hg : 0 ≤ g
  · rw [if_pos hg, Nat.cast_mul, ten_zpow_toNat hg, Nat.cast_one, div_one]
  · rw [if_neg hg, ten_zpow_toNat (by omega), zpow_neg, div_inv_eq_mul]

theorem ratio_eq (v : Exact) : 0 < v.ratio.2 ∧ (v.ratio.1 / v.ratio.2 : ℚ) = v.mantissa * 2 ^ v.exponent := by
  unfold Exact.ratio
  by_cases he : 0 ≤ v.exponent
  · rw [if_pos he, Nat.cast_mul, two_zpow_toNat he, Nat.cast_one, div_one]
    exact ⟨Nat.one_pos, rfl⟩
  · rw [if_neg he, two_zpow_neg_toNat (by omega), div_inv_eq_mul]
    exact ⟨Nat.pos_of_ne_zero (by positivity), rfl⟩

/-! ## Intervals -/

/-- the ends and the middle of an interval as ratios -/
structure Interval.Spans (i : Interval) (v : Exact) : Prop where
  den_pos : 0 < i.den
  low : (i.low / i.den : ℚ) = (v.mantissa - v.gap) * 2 ^ v.exponent
  mid : (i.mid / i.den : ℚ) = v.mantissa * 2 ^ v.exponent
  high : (i.high / i.den : ℚ) = (v.mantissa + 1 / 2) * 2 ^ v.exponent
  closed : i.closed = decide (v.mantissa % 2 = 0)

/-- quarters of a step below a double that its interval reaches -/
theorem gap_quarters (v : Exact) : ∃ down : ℕ, down ≤ 2 ∧ v.gap = down / 4 ∧
    (if v.mantissa = 2 ^ 52 ∧ -1074 < v.exponent then 1 else 2) = down := by
  unfold Exact.gap
  split
  · exact ⟨1, by omega, by norm_num, rfl⟩
  · exact ⟨2, by omega, by norm_num, rfl⟩

/-- quarters of a step as a ratio span the interval -/
theorem quarters_span {v : Exact} {down up den : ℕ} (hm : 0 < v.mantissa) (hdown : down ≤ 2) (hgap : v.gap = down / 4)
    (hden : 0 < den) (hstep : (up / den : ℚ) = 2 ^ v.exponent / 4) :
    Interval.Spans ⟨(4 * v.mantissa - down) * up, 4 * v.mantissa * up, (4 * v.mantissa + 2) * up, den,
      v.mantissa % 2 = 0⟩ v := by
  have hlow : ((4 * v.mantissa - down : ℕ) : ℚ) = 4 * v.mantissa - down := by
    rw [Nat.cast_sub (by omega)]
    push_cast
    rfl
  refine ⟨hden, ?_, ?_, ?_, rfl⟩
  · rw [Nat.cast_mul, hlow, mul_div_assoc, hstep, hgap]
    ring
  · rw [Nat.cast_mul, mul_div_assoc, hstep]
    push_cast
    ring
  · rw [Nat.cast_mul, mul_div_assoc, hstep]
    push_cast
    ring

theorem ofExact_spans {v : Exact} (hm : 0 < v.mantissa) : (Interval.ofExact v).Spans v := by
  have hquarter : (2 : ℚ) ^ (v.exponent - 2) = 2 ^ v.exponent / 4 := by
    rw [zpow_sub₀ two_ne_zero]
    norm_num
  obtain ⟨down, hdown, hgap, hif⟩ := gap_quarters v
  unfold Interval.ofExact
  rw [hif]
  by_cases he : 0 ≤ v.exponent - 2
  · simp only [if_pos he]
    refine quarters_span hm hdown hgap Nat.one_pos ?_
    rw [two_zpow_toNat he, hquarter, Nat.cast_one, div_one]
  · simp only [if_neg he]
    refine quarters_span hm hdown hgap (Nat.pos_of_ne_zero (by positivity)) ?_
    rw [two_zpow_neg_toNat (by omega), hquarter, Nat.cast_one, one_div, inv_inv]

/-- a point is in the interval of a double where it rounds to it -/
theorem holds_iff {i : Interval} {v : Exact} (h : i.Spans v) (c : ℕ) (g : ℤ) :
    i.holds c g = true ↔ v.Rounds (c * 10 ^ g) := by
  obtain ⟨hiden, hlow, -, hhigh, hclosed⟩ := h
  have hi : (0 : ℚ) < i.den := by exact_mod_cast hiden
  have hg : (0 : ℚ) < (gridPoint c g).2 := by exact_mod_cast gridPoint_pos c g
  have hle : i.low * (gridPoint c g).2 ≤ (gridPoint c g).1 * i.den ↔
      (v.mantissa - v.gap) * 2 ^ v.exponent ≤ (c * 10 ^ g : ℚ) := by
    rw [← gridPoint_eq, ← hlow, div_le_div_iff₀ hi hg]
    exact_mod_cast Iff.rfl
  have hlt : i.low * (gridPoint c g).2 < (gridPoint c g).1 * i.den ↔
      (v.mantissa - v.gap) * 2 ^ v.exponent < (c * 10 ^ g : ℚ) := by
    rw [← gridPoint_eq, ← hlow, div_lt_div_iff₀ hi hg]
    exact_mod_cast Iff.rfl
  have hle' : (gridPoint c g).1 * i.den ≤ i.high * (gridPoint c g).2 ↔
      (c * 10 ^ g : ℚ) ≤ (v.mantissa + 1 / 2) * 2 ^ v.exponent := by
    rw [← gridPoint_eq, ← hhigh, div_le_div_iff₀ hg hi]
    exact_mod_cast Iff.rfl
  have hlt' : (gridPoint c g).1 * i.den < i.high * (gridPoint c g).2 ↔
      (c * 10 ^ g : ℚ) < (v.mantissa + 1 / 2) * 2 ^ v.exponent := by
    rw [← gridPoint_eq, ← hhigh, div_lt_div_iff₀ hg hi]
    exact_mod_cast Iff.rfl
  unfold Interval.holds
  rw [hclosed]
  by_cases he : v.mantissa % 2 = 0
  · simp only [he, decide_true, if_true, Bool.and_eq_true, decide_eq_true_eq, hle, hle']
    exact ⟨fun h => ⟨h.1, h.2, fun _ => he⟩, fun h => ⟨h.low, h.high⟩⟩
  · simp only [he, decide_false, Bool.false_eq_true, if_false, Bool.and_eq_true, decide_eq_true_eq, hlt, hlt']
    constructor
    · rintro ⟨h1, h2⟩
      exact ⟨h1.le, h2.le, fun hends => hends.elim (fun h => absurd h h1.ne) fun h => absurd h h2.ne⟩
    · intro h
      exact ⟨h.low.lt_of_ne fun hends => he (h.even (.inl hends)),
        h.high.lt_of_ne fun hends => he (h.even (.inr hends))⟩

/-- the point of a grid next below a double -/
theorem floorAt_bounds {i : Interval} {v : Exact} (h : i.Spans v) (g : ℤ) :
    (i.floorAt g * 10 ^ g : ℚ) ≤ v.mantissa * 2 ^ v.exponent ∧
      (v.mantissa * 2 ^ v.exponent : ℚ) < (i.floorAt g + 1) * 10 ^ g := by
  have hi : (0 : ℚ) < i.den := by exact_mod_cast h.den_pos
  have hg : 0 < (gridPoint 1 g).2 := gridPoint_pos 1 g
  have hten : ((gridPoint 1 g).1 / (gridPoint 1 g).2 : ℚ) = 10 ^ g := by rw [gridPoint_eq, Nat.cast_one, one_mul]
  have hg' : (0 : ℚ) < (gridPoint 1 g).2 := by exact_mod_cast hg
  have hnum : 0 < (gridPoint 1 g).1 := by
    have hp : (0 : ℚ) < (gridPoint 1 g).1 / (gridPoint 1 g).2 := by
      rw [hten]
      positivity
    have hn : (0 : ℚ) < (gridPoint 1 g).1 := by
      rw [lt_div_iff₀ hg'] at hp
      linarith
    exact_mod_cast hn
  have hden : 0 < i.den * (gridPoint 1 g).1 := Nat.mul_pos h.den_pos hnum
  have hfloor : i.floorAt g = i.mid * (gridPoint 1 g).2 / (i.den * (gridPoint 1 g).1) := rfl
  rw [← h.mid, ← hten, hfloor]
  generalize (gridPoint 1 g).1 = n at *
  generalize (gridPoint 1 g).2 = d at *
  have hlow : i.mid * d / (i.den * n) * (i.den * n) ≤ i.mid * d := Nat.div_mul_le_self _ _
  have hhigh : i.mid * d < (i.mid * d / (i.den * n) + 1) * (i.den * n) :=
    (Nat.lt_mul_div_succ _ hden).trans_eq (mul_comm _ _)
  generalize i.mid * d / (i.den * n) = c at *
  constructor
  · rw [← mul_div_assoc, div_le_div_iff₀ hg' hi]
    have hcast : (c * (i.den * n) : ℚ) ≤ i.mid * d := by exact_mod_cast hlow
    linarith
  · rw [← mul_div_assoc, div_lt_div_iff₀ hi hg']
    have hcast : (i.mid * d : ℚ) < (c + 1) * (i.den * n) := by exact_mod_cast hhigh
    linarith

/-- on a grid as fine as the gap below a double, the point next below it is in its interval -/
theorem holds_floorAt {i : Interval} {v : Exact} (h : i.Spans v) {g : ℤ} (hg : (10 : ℚ) ^ g ≤ v.gap * 2 ^ v.exponent) :
    i.holds (i.floorAt g) g = true := by
  have hp : (0 : ℚ) < 2 ^ v.exponent := by positivity
  obtain ⟨hbelow, habove⟩ := floorAt_bounds h g
  have hlow : ((v.mantissa - v.gap) * 2 ^ v.exponent : ℚ) < i.floorAt g * 10 ^ g := by linarith
  have hhigh : (i.floorAt g * 10 ^ g : ℚ) < (v.mantissa + 1 / 2) * 2 ^ v.exponent := by linarith
  rw [holds_iff h]
  exact ⟨hlow.le, hhigh.le, fun hends => hends.elim (fun he => absurd he hlow.ne) fun he => absurd he hhigh.ne⟩

/-! ## The search -/

theorem pick?_holds {i : Interval} {g : ℤ} {c : ℕ} (h : i.pick? g = some c) : i.holds c g = true := by
  unfold Interval.pick? at h
  dsimp only at h
  split at h
  · next h1 h2 =>
    cases h
    split
    · exact h2
    · exact h1
  · next h1 h2 =>
    cases h
    exact h1
  · next h1 h2 =>
    cases h
    exact h2
  · cases h

theorem pick?_isSome {i : Interval} {g : ℤ} (h : i.holds (i.floorAt g) g = true) : (i.pick? g).isSome = true := by
  unfold Interval.pick?
  dsimp only
  rw [h]
  split
  · rfl
  · rfl
  · rfl
  · next h1 h2 => cases h1

/-- a search that comes to a grid with a point in the interval ends at such a point -/
theorem search_holds {i : Interval} {fuel k : ℕ} {g : ℤ} (hk : k < fuel)
    (h : i.holds (i.floorAt (g - k)) (g - k) = true) :
    i.holds (i.search fuel g).coefficient (i.search fuel g).exponent = true := by
  induction fuel generalizing k g with
  | zero => omega
  | succ fuel ih =>
    unfold Interval.search
    cases hpick : i.pick? g with
    | some c => exact pick?_holds hpick
    | none =>
      cases k with
      | zero =>
        rw [Nat.cast_zero, sub_zero] at h
        have hsome := pick?_isSome h
        rw [hpick] at hsome
        cases hsome
      | succ k =>
        refine ih (k := k) (by omega) ?_
        have hg : g - 1 - k = g - (k + 1 : ℕ) := by
          push_cast
          ring
        rw [hg]
        exact h

theorem trimZeros_value (fuel : ℕ) (d : Scaled) : (d.trimZeros fuel).value = d.value := by
  induction fuel generalizing d with
  | zero => rfl
  | succ fuel ih =>
    unfold Scaled.trimZeros
    split
    · next h =>
      have hc : d.coefficient = d.coefficient / 10 * 10 := by omega
      have hcast : (d.coefficient : ℚ) = (d.coefficient / 10 : ℕ) * 10 := by exact_mod_cast hc
      rw [ih, Scaled.value, Scaled.value, hcast, zpow_add_one₀ (by norm_num)]
      ring
    · rfl

/-! ## The shortest decimal -/

/-- the grid 23 below the coarsest of an order of magnitude, against a quarter of the last of 53 binary places: checked
    for every order of magnitude of a double, both sides times `2 ^ 1200` and `10 ^ 400` -/
theorem fine_table : (List.range 2098).all (fun n =>
    let order : ℤ := n - 1074
    10 ^ ((order * 30103).fdiv 100000 - 21 + 400).toNat * 2 ^ 1200 ≤ 2 ^ (order - 54 + 1200).toNat * 10 ^ 400) = true := by
  decide +kernel

/-- a power of ten against a power of two, both scaled to naturals -/
theorem ten_le_two {a b : ℤ} {p q : ℕ} (ha : 0 ≤ a + p) (hb : 0 ≤ b + q)
    (h : 10 ^ (a + p).toNat * 2 ^ q ≤ 2 ^ (b + q).toNat * 10 ^ p) : (10 : ℚ) ^ a ≤ 2 ^ b := by
  have hcast : (10 : ℚ) ^ (a + p) * 2 ^ q ≤ 2 ^ (b + q) * 10 ^ p := by
    rw [← ten_zpow_toNat ha, ← two_zpow_toNat hb]
    exact_mod_cast h
  rw [zpow_add₀ (by norm_num), zpow_add₀ two_ne_zero, zpow_natCast, zpow_natCast] at hcast
  have hp : (0 : ℚ) < 10 ^ p * 2 ^ q := by positivity
  exact le_of_mul_le_mul_right (by linarith) hp

theorem fine_order {order : ℤ} (hlow : -1074 ≤ order) (hhigh : order ≤ 1023) :
    (10 : ℚ) ^ ((order * 30103).fdiv 100000 - 21) ≤ 2 ^ (order - 54) := by
  have hrow := List.all_eq_true.1 fine_table (order + 1074).toNat (List.mem_range.2 (by omega))
  have horder : ((order + 1074).toNat : ℤ) - 1074 = order := by omega
  rw [horder, decide_eq_true_eq] at hrow
  have hdiv : -400 ≤ (order * 30103).fdiv 100000 - 21 := by
    rw [Int.fdiv_eq_ediv_of_nonneg _ (by norm_num)]
    omega
  exact ten_le_two (p := 400) (q := 1200) (by omega) (by omega) hrow

/-- the order of magnitude of a double -/
theorem order_bounds {v : Exact} (hc : v.Canonical) (hm : 0 < v.mantissa) :
    -1074 ≤ log2Ratio v.ratio.1 v.ratio.2 ∧ log2Ratio v.ratio.1 v.ratio.2 ≤ v.exponent + 52 := by
  obtain ⟨hden, hratio⟩ := ratio_eq v
  have hp : (0 : ℚ) < 2 ^ v.exponent := by positivity
  have hmq : (1 : ℚ) ≤ v.mantissa := by exact_mod_cast hm
  have hmlt : (v.mantissa : ℚ) < 2 ^ 53 := by exact_mod_cast hc.mantissa_lt
  have hnum : 0 < v.ratio.1 := by
    rw [Nat.pos_iff_ne_zero]
    intro h0
    rw [h0, Nat.cast_zero, zero_div] at hratio
    nlinarith
  constructor
  · rw [le_log2Ratio hnum hden, hratio]
    calc (2 : ℚ) ^ (-1074 : ℤ) ≤ 2 ^ v.exponent := zpow_le_zpow_right₀ one_le_two hc.exponent_ge
      _ ≤ v.mantissa * 2 ^ v.exponent := le_mul_of_one_le_left hp.le hmq
  · by_contra hcon
    have hge := (le_log2Ratio (k := v.exponent + 53) hnum hden).1 (by omega)
    have h53 : (2 : ℚ) ^ (v.exponent + 53) = 2 ^ v.exponent * 2 ^ 53 := by
      rw [zpow_add₀ two_ne_zero]
      norm_cast
    rw [hratio, h53] at hge
    nlinarith

/-- 23 grids below the coarsest, the grid is as fine as the gap below the double -/
theorem coarsest_fine {v : Exact} (hc : v.Canonical) (hm : 0 < v.mantissa) :
    (10 : ℚ) ^ (coarsest v - 23) ≤ v.gap * 2 ^ v.exponent := by
  obtain ⟨hlow, hhigh⟩ := order_bounds hc hm
  have hle := hc.exponent_le
  have hp : (0 : ℚ) < 2 ^ v.exponent := by positivity
  have hgap : (1 / 4 : ℚ) ≤ v.gap := by
    unfold Exact.gap
    split
    · exact le_refl _
    · norm_num
  have hgrid : coarsest v - 23 = (log2Ratio v.ratio.1 v.ratio.2 * 30103).fdiv 100000 - 21 := by
    unfold coarsest
    ring
  calc (10 : ℚ) ^ (coarsest v - 23) ≤ 2 ^ (log2Ratio v.ratio.1 v.ratio.2 - 54) := by
        rw [hgrid]
        exact fine_order hlow (by omega)
    _ ≤ 2 ^ (v.exponent - 2) := zpow_le_zpow_right₀ one_le_two (by omega)
    _ = 1 / 4 * 2 ^ v.exponent := by
        rw [zpow_sub₀ two_ne_zero]
        ring
    _ ≤ v.gap * 2 ^ v.exponent := mul_le_mul_of_nonneg_right hgap hp.le

theorem shortest_rounds {v : Exact} (hc : v.Canonical) (hm : 0 < v.mantissa) : v.Rounds (shortest v).value := by
  have hspans := ofExact_spans hm
  have hend := holds_floorAt hspans (coarsest_fine hc hm)
  have hfound : (Interval.ofExact v).holds ((Interval.ofExact v).search 24 (coarsest v)).coefficient
      ((Interval.ofExact v).search 24 (coarsest v)).exponent = true := search_holds (k := 23) (by norm_num) hend
  unfold shortest
  rw [if_neg hm.ne', trimZeros_value]
  exact (holds_iff hspans _ _).1 hfound

/-! ## Reading -/

/-- digits and exponent place a decimal between two powers of ten -/
theorem value_bounds {d : Scaled} (h : d.coefficient ≠ 0) :
    (10 : ℚ) ^ ((digitsOf d.coefficient).length + d.exponent - 1) ≤ d.value ∧
      d.value < 10 ^ ((digitsOf d.coefficient).length + d.exponent) := by
  have hp : (0 : ℚ) < 10 ^ d.exponent := by positivity
  have hlen : 0 < (digitsOf d.coefficient).length := List.length_pos_of_ne_nil (Text.digitsOf_ne_nil _)
  have hlt : d.coefficient < 10 ^ (digitsOf d.coefficient).length := (Text.digitsOf_length_le hlen).1 (Nat.le_refl _)
  have hge : 10 ^ ((digitsOf d.coefficient).length - 1) ≤ d.coefficient := by
    by_cases hone : (digitsOf d.coefficient).length = 1
    · rw [hone]
      exact Nat.pos_of_ne_zero h
    · by_contra hcon
      have hle := (Text.digitsOf_length_le (k := (digitsOf d.coefficient).length - 1) (by omega)).2 (not_le.1 hcon)
      omega
  generalize (digitsOf d.coefficient).length = n at *
  obtain ⟨k, rfl⟩ : ∃ k, n = k + 1 := ⟨n - 1, by omega⟩
  have hltq : (d.coefficient : ℚ) < 10 ^ (k + 1) := by exact_mod_cast hlt
  have hgeq : (10 : ℚ) ^ k ≤ d.coefficient := by exact_mod_cast hge
  unfold Scaled.value
  constructor
  · calc (10 : ℚ) ^ (((k + 1 : ℕ) : ℤ) + d.exponent - 1) = 10 ^ k * 10 ^ d.exponent := by
          rw [← zpow_natCast, ← zpow_add₀ (by norm_num)]
          congr 1
          push_cast
          ring
      _ ≤ d.coefficient * 10 ^ d.exponent := mul_le_mul_of_nonneg_right hgeq hp.le
  · calc (d.coefficient : ℚ) * 10 ^ d.exponent < 10 ^ (k + 1) * 10 ^ d.exponent := mul_lt_mul_of_pos_right hltq hp
      _ = 10 ^ (((k + 1 : ℕ) : ℤ) + d.exponent) := by
          rw [← zpow_natCast, ← zpow_add₀ (by norm_num)]

/-- three powers of two are less than one of ten -/
theorem two_le_ten (n : ℕ) : (2 : ℚ) ^ (3 * (n : ℤ)) ≤ 10 ^ (n : ℤ) := by
  rw [zpow_mul, zpow_natCast, zpow_natCast]
  exact pow_le_pow_left₀ (by positivity) (by norm_num) n

/-- doubles lie well within the decimals that are read by their digits -/
theorem rounds_bounds {v : Exact} {x : ℚ} (hc : v.Canonical) (hm : 0 < v.mantissa) (h : v.Rounds x) :
    (10 : ℚ) ^ (-400 : ℤ) ≤ x ∧ x < 10 ^ (400 : ℤ) := by
  have hp : (0 : ℚ) < 2 ^ v.exponent := by positivity
  have hmq : (1 : ℚ) ≤ v.mantissa := by exact_mod_cast hm
  have hmlt : (v.mantissa : ℚ) + 1 ≤ 2 ^ 53 := by exact_mod_cast hc.mantissa_lt
  have hgap := v.gap_le
  have hlow := hc.exponent_ge
  have hhigh := hc.exponent_le
  constructor
  · calc (10 : ℚ) ^ (-400 : ℤ) ≤ 10 ^ (-((359 : ℕ) : ℤ)) := zpow_le_zpow_right₀ (by norm_num) (by norm_num)
      _ = (10 ^ ((359 : ℕ) : ℤ))⁻¹ := zpow_neg _ _
      _ ≤ (2 ^ (3 * ((359 : ℕ) : ℤ)))⁻¹ := inv_anti₀ (by positivity) (two_le_ten 359)
      _ = 2 ^ (-(3 * ((359 : ℕ) : ℤ))) := (zpow_neg _ _).symm
      _ ≤ 2 ^ (v.exponent - 1) := zpow_le_zpow_right₀ one_le_two (by omega)
      _ = 1 / 2 * 2 ^ v.exponent := by
          rw [zpow_sub_one₀ two_ne_zero]
          ring
      _ ≤ (v.mantissa - v.gap) * 2 ^ v.exponent := mul_le_mul_of_nonneg_right (by linarith) hp.le
      _ ≤ x := h.low
  · calc x ≤ (v.mantissa + 1 / 2) * 2 ^ v.exponent := h.high
      _ ≤ 2 ^ 53 * 2 ^ v.exponent := mul_le_mul_of_nonneg_right (by linarith) hp.le
      _ = 2 ^ (v.exponent + 53) := by
          rw [zpow_add₀ two_ne_zero, mul_comm]
          norm_cast
      _ ≤ 2 ^ (3 * ((342 : ℕ) : ℤ)) := zpow_le_zpow_right₀ one_le_two (by omega)
      _ ≤ 10 ^ ((342 : ℕ) : ℤ) := two_le_ten 342
      _ < 10 ^ (400 : ℤ) := zpow_lt_zpow_right₀ (by norm_num) (by norm_num)

/-- **A decimal in the interval of a double is read as that double.** -/
theorem toFloat_eq {v : Exact} {d : Scaled} (hc : v.Canonical) (hm : 0 < v.mantissa) (h : v.Rounds d.value) :
    d.toFloat = Float.ofBits (UInt64.ofNat v.word) := by
  have hcoef : d.coefficient ≠ 0 := fun h0 => by
    have hpos := h.pos hm
    rw [Scaled.value, h0, Nat.cast_zero, zero_mul] at hpos
    exact lt_irrefl _ hpos
  obtain ⟨hlow, hhigh⟩ := rounds_bounds hc hm h
  obtain ⟨hplace, hplace'⟩ := value_bounds hcoef
  have hle : ((digitsOf d.coefficient).length : ℤ) + d.exponent - 1 < 400 :=
    (zpow_lt_zpow_iff_right₀ (by norm_num)).1 (hplace.trans_lt hhigh)
  have hge : -400 < ((digitsOf d.coefficient).length : ℤ) + d.exponent :=
    (zpow_lt_zpow_iff_right₀ (by norm_num)).1 (hlow.trans_lt hplace')
  have hbits : nearestBits (gridPoint d.coefficient d.exponent).1 (gridPoint d.coefficient d.exponent).2 = v.word := by
    refine nearestBits_eq hc hm (gridPoint_pos _ _) ?_
    rw [gridPoint_eq]
    exact h
  unfold Scaled.toFloat
  simp only [hcoef, if_false, nearest?, hbits, hc.word_lt, if_true, Option.getD_some]
  rw [if_neg (by omega), if_neg (by omega)]

theorem value_eq_zero {d : Scaled} (h : d.value = 0) : d.coefficient = 0 := by
  have hp : (10 : ℚ) ^ d.exponent ≠ 0 := by positivity
  exact_mod_cast (mul_eq_zero.1 h).resolve_right hp

/-- **A decimal of the magnitude that a finite double is written with is read, with its sign, as that double.** -/
theorem readSigned_shortest {x : Float} {v : Exact} (hx : value x = .finite v) {d : Scaled}
    (h : d.value = (shortest v).value) : readSigned v.negative d = x := by
  obtain ⟨hc, hbits⟩ := value_finite hx
  have hfloat : d.toFloat = Float.ofBits (UInt64.ofNat v.word) := by
    by_cases hm : v.mantissa = 0
    · have hshort : shortest v = ⟨0, 0⟩ := if_pos hm
      have hexp : v.exponent = -1074 := hc.full.resolve_left (by omega)
      have hword : v.word = 0 := by
        unfold Exact.word
        omega
      have hzero : d.coefficient = 0 := by
        refine value_eq_zero ?_
        rw [h, hshort, Scaled.value, Nat.cast_zero, zero_mul]
      rw [hword]
      simp only [Scaled.toFloat, hzero, if_true]
      rfl
    · refine toFloat_eq hc (Nat.pos_of_ne_zero hm) ?_
      rw [h]
      exact shortest_rounds hc (Nat.pos_of_ne_zero hm)
  unfold readSigned
  rw [hfloat]
  exact signed_magnitude hbits hc.word_lt.le

end TileCrew.Decimal
