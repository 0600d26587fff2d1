/-
Rounding half up has an integer for every finite double: a half added to it does not go beyond the largest one.
- `shiftRight_mantissa`, `rounded_le`: what is left of a mantissa that is shifted and rounded;
- `round_bounded`: a magnitude below the half-way point behind the largest double is rounded to a double
  (`Bounded`);
- `add_half_bounded`: a half added to a double stays below that point;
- `nearestTile_ok`: **every finite coordinate lies on a tile**;
- `nearestTile_fails`: a NaN and an infinity, which a half does not change, lie on none.
-/
import TileCrew.Grid.Tile
import TileCrew.Proofs.Arithmetic.Words

namespace TileCrew.Binary64

open Float.Model Float.Model.UnpackedFloat

/-! ## Finite doubles, packed and unpacked -/

theorem isFinite_iff {x : Float} : isFinite x = true ↔ x.toBits.toNat / 2 ^ 52 % 2 ^ 11 ≠ 2047 := by
  unfold isFinite value
  generalize x.toBits.toNat = n
  dsimp only
  by_cases htop : n / 2 ^ 52 % 2 ^ 11 = 2047
  · by_cases hzero : n % 2 ^ 52 = 0
    · rw [if_pos htop, if_pos hzero]; simp [htop]
    · rw [if_pos htop, if_neg hzero]; simp [htop]
  · by_cases hlow : n / 2 ^ 52 % 2 ^ 11 = 0
    · rw [if_neg htop, if_pos hlow]; simp [htop]
    · rw [if_neg htop, if_neg hlow]; simp [htop]

/-- a zero, or finite with an exponent that doubles can have -/
def Bounded : UnpackedFloat → Prop
  | .zero _ => True
  | .finite _ _ e _ => e ≤ 971
  | _ => False

theorem pack_bounded {f : UnpackedFloat} (h : Bounded f) : isFinite (.ofModel (.pack f)) = true := by
  rw [isFinite_iff]
  have hword : (Float.ofModel (.pack f)).toBits.toNat = (pack Format.binary64 f).toNat := rfl
  rw [hword]
  have parts (s : Sign) (e : BitVec 11) (m : BitVec 52) (he : e.toNat ≠ 2047) :
      (packComponents Format.binary64 s e m).toNat / 2 ^ 52 % 2 ^ 11 ≠ 2047 := by
    rw [packComponents_toNat]
    have hm := m.isLt
    have he' := e.isLt
    omega
  cases f with
  | infinity s => cases h
  | notANumber => cases h
  | zero s => exact parts s 0 0 (by decide)
  | finite s m e hm =>
    have he : e ≤ 971 := h
    have hfield : (e + Format.binary64.exponentBias + Format.binary64.mantissaBitsWithoutImplicit).toNat ≤ 2046 := by
      have h1 : (Format.binary64.exponentBias : Int) = 1023 := rfl
      have h2 : (Format.binary64.mantissaBitsWithoutImplicit : Int) = 52 := rfl
      omega
    simp only [UnpackedFloat.pack]
    generalize (e + Format.binary64.exponentBias + Format.binary64.mantissaBitsWithoutImplicit).toNat = field at *
    rw [if_neg (by omega)]
    split
    · refine parts s _ _ ?_
      rw [BitVec.toNat_ofNat]
      omega
    · exact parts s _ _ (by decide)

/-- what a finite double is unpacked to -/
theorem unpack_cases {x : Float} (h : isFinite x = true) :
    (∃ s, x.toModel.unpack = .zero s) ∨
      ∃ s m e hm, x.toModel.unpack = .finite s m e hm ∧ m < 2 ^ 53 ∧ -1074 ≤ e ∧ e ≤ 971 := by
  rw [isFinite_iff] at h
  have hfield : (unpackExponent (wordOf x)).toNat ≠ 2047 := by rw [unpackExponent_toNat]; exact h
  have hexp : (unpackExponent (wordOf x)).toNat < 2 ^ 11 := (unpackExponent (wordOf x)).isLt
  have hman : (unpackMantissa (wordOf x)).toNat < 2 ^ 52 := (unpackMantissa (wordOf x)).isLt
  have hbias : (Format.binary64.exponentBias : Int) = 1023 := rfl
  have hunpack : x.toModel.unpack = unpack Format.binary64 (wordOf x) := rfl
  rw [hunpack]
  unfold UnpackedFloat.unpack
  dsimp only
  rw [if_neg (fun htop => hfield (congrArg BitVec.toNat htop))]
  by_cases hlow : unpackExponent (wordOf x) = 0#_
  · rw [if_pos hlow]
    by_cases hzero : unpackMantissa (wordOf x) = 0#_
    · rw [dif_pos hzero]; exact .inl ⟨_, rfl⟩
    · have hpos : 0 < (unpackMantissa (wordOf x)).toNat := Nat.pos_of_ne_zero fun h0 => hzero (BitVec.eq_of_toNat_eq h0)
      rw [dif_neg hzero, hlow]
      exact .inr ⟨_, _, _, hpos, rfl, by omega, by decide, by decide⟩
  · have hne : (unpackExponent (wordOf x)).toNat ≠ 0 := fun hc => hlow (BitVec.eq_of_toNat_eq hc)
    rw [if_neg hlow]
    have hman' : (1#1 ++ unpackMantissa (wordOf x)).toNat = 2 ^ 52 + (unpackMantissa (wordOf x)).toNat := by
      rw [append_toNat]
      rfl
    exact .inr ⟨_, _, _, by omega, rfl, by omega, by omega, by omega⟩

/-! ## Shifting and rounding -/

theorem shiftRight_mantissa (em : ExtendedMantissa) (k : Nat) : (em >>> k).mantissa = em.mantissa / 2 ^ k := by
  have hrepeat : em >>> k = k.repeat ExtendedMantissa.shiftRightOne em := rfl
  rw [hrepeat]
  clear hrepeat
  induction k with
  | zero => simp [Nat.repeat]
  | succ k ih => rw [Nat.repeat, ExtendedMantissa.shiftRightOne, ih, Nat.div_div_eq_div_mul, Nat.pow_succ]

theorem shiftRight_roundBit (em : ExtendedMantissa) (k : Nat) :
    (em >>> (k + 1)).roundBit = (em.mantissa / 2 ^ k % 2 != 0) := by
  rw [← shiftRight_mantissa]
  rfl

theorem roundedMantissa_le (em : ExtendedMantissa) : em.roundedMantissa ≤ em.mantissa + em.roundBit.toNat := by
  obtain ⟨m, r, s⟩ := em
  simp only [ExtendedMantissa.roundedMantissa]
  cases r <;> cases s <;> simp [ExtendedMantissa.accuracy, Accuracy.roundToNearestEven]
  omega

/-- a mantissa shifted by k + 1 places and rounded is at most half of what is left after k places, rounded up -/
theorem rounded_le (n k : Nat) :
    ((⟨n, false, false⟩ : ExtendedMantissa) >>> (k + 1)).roundedMantissa ≤ (n / 2 ^ k + 1) / 2 := by
  have h := roundedMantissa_le ((⟨n, false, false⟩ : ExtendedMantissa) >>> (k + 1))
  rw [shiftRight_mantissa, shiftRight_roundBit] at h
  have hhalf : n / 2 ^ (k + 1) = n / 2 ^ k / 2 := by rw [Nat.pow_succ, Nat.div_div_eq_div_mul]
  dsimp only at h
  rw [hhalf] at h
  generalize n / 2 ^ k = q at *
  rcases Nat.mod_two_eq_zero_or_one q with hq | hq
  · rw [hq] at h
    simp only [bne_self_eq_false, Bool.toNat_false, Nat.add_zero] at h
    omega
  · rw [hq] at h
    have hbit : ((1 : Nat) != 0).toNat = 1 := rfl
    rw [hbit] at h
    omega

/-! ## Rounding to a double -/

/-- the exponent that a mantissa of n places before its exponent is given -/
theorem targetExponent_eq (t : Int) : Format.binary64.targetExponent t = max (t - 53) (-1074) := rfl

theorem log2_shiftLeft {n : Nat} (hn : 0 < n) (k : Nat) : (n <<< k).log2 = n.log2 + k := by
  rw [Nat.shiftLeft_eq]
  induction k with
  | zero => simp
  | succ k ih =>
    rw [Nat.pow_succ, ← Nat.mul_assoc, Nat.mul_comm, Nat.log2_two_mul (by positivity), ih]
    rfl

/-- what is left of the exponent when the mantissa is brought to its place -/
theorem roundWithAccuracy_bounded {s : Sign} {n : Nat} {e : Int} {em : ExtendedMantissa} {e₁ : Int}
    (hshift : shiftToTargetExponent Format.binary64 n e .exact = (em, e₁)) (hlow : e₁ ≤ 971)
    (hhigh : (em.roundedMantissa.log2 : Int) + 1 + e₁ ≤ 1024) :
    Bounded (roundWithAccuracy Format.binary64 s n e .exact) := by
  simp only [roundWithAccuracy, hshift]
  split
  · trivial
  · show e₁ + _ ≤ 971
    rw [targetExponent_eq, totalExponent]
    omega

theorem log2_lt_of_lt {n k : Nat} (h : n < 2 ^ (k + 1)) : n.log2 ≤ k := by
  by_cases hn : n = 0
  · rw [hn, Nat.log2_zero]; omega
  · exact Nat.le_of_lt_succ ((Nat.log2_lt hn).2 h)

/-- a magnitude below the half-way point behind the largest double is rounded to a double -/
theorem round_bounded {s : Sign} {n : Nat} {e : Int} (hn : 0 < n) (he : e ≤ 970)
    (h : n < (2 ^ 54 - 1) * 2 ^ (970 - e).toNat) : Bounded (UnpackedFloat.round Format.binary64 s n e) := by
  have hlog : n.log2 < 54 + (970 - e).toNat := by
    rw [Nat.log2_lt (by omega), Nat.pow_add]
    exact Nat.lt_of_lt_of_le h (Nat.mul_le_mul_right _ (by decide))
  -- the exponent that the result is to have, and the places by which the mantissa is brought to it
  obtain ⟨e₁, he₁⟩ : ∃ e₁, max (totalExponent n e - 53) (-1074) = e₁ := ⟨_, rfl⟩
  obtain ⟨d, hd⟩ : ∃ d, (e - e₁).toNat = d := ⟨_, rfl⟩
  obtain ⟨k, hk⟩ : ∃ k, (e₁ - (e - d)).toNat = k := ⟨_, rfl⟩
  have htotal : totalExponent (n <<< d) (e - d) = totalExponent n e := by
    rw [totalExponent, totalExponent, log2_shiftLeft hn]
    omega
  have hround : UnpackedFloat.round Format.binary64 s n e =
      roundWithAccuracy Format.binary64 s (n <<< d) (e - d) .exact := by
    simp only [UnpackedFloat.round, decreaseExponent, targetExponent_eq, he₁, hd]
  have hshift : shiftToTargetExponent Format.binary64 (n <<< d) (e - d) .exact =
      ((⟨n <<< d, false, false⟩ : ExtendedMantissa) >>> k, e₁) := by
    simp only [shiftToTargetExponent, shiftToExponent, targetExponent_eq, htotal, he₁, hk]
    exact Prod.ext rfl (by dsimp only; omega)
  rw [hround]
  unfold totalExponent at he₁
  refine roundWithAccuracy_bounded hshift (by omega) ?_
  cases k with
  | zero =>
    have hsame : ((⟨n <<< d, false, false⟩ : ExtendedMantissa) >>> 0).roundedMantissa = n <<< d := rfl
    rw [hsame, log2_shiftLeft hn]
    omega
  | succ j =>
    obtain rfl : d = 0 := by omega
    have hle := rounded_le (n <<< 0) j
    generalize ((⟨n <<< 0, false, false⟩ : ExtendedMantissa) >>> (j + 1)).roundedMantissa = m at hle ⊢
    rw [Nat.shiftLeft_zero] at hle
    have hpos : 0 < 2 ^ j := by positivity
    by_cases htop : e₁ = 971
    · -- no more than 53 places are left, since the magnitude is below the half-way point
      obtain rfl : j = (970 - e).toNat := by omega
      have hq : n / 2 ^ (970 - e).toNat < 2 ^ 54 - 1 := (Nat.div_lt_iff_lt_mul hpos).2 h
      have hm : m.log2 ≤ 52 := log2_lt_of_lt (by omega)
      omega
    · have hlt : n < 2 ^ (54 + j) := (Nat.log2_lt (by omega)).1 (by omega)
      rw [Nat.pow_add] at hlt
      have hq : n / 2 ^ j < 2 ^ 54 := (Nat.div_lt_iff_lt_mul hpos).2 hlt
      have hm : m.log2 ≤ 53 := log2_lt_of_lt (by omega)
      omega

theorem normalize_bounded {z : Int} {e : Int} {s : Sign} (he : e ≤ 970)
    (h : z.natAbs < (2 ^ 54 - 1) * 2 ^ (970 - e).toNat) : Bounded (UnpackedFloat.normalize Format.binary64 z e s) := by
  unfold UnpackedFloat.normalize
  split
  · rename_i hz
    have hneg : z < 0 := Int.compare_eq_lt.1 hz
    exact round_bounded (by omega) he (by rwa [show (-z).toNat = z.natAbs by omega])
  · trivial
  · rename_i hz
    have hpos : 0 < z := Int.compare_eq_gt.1 hz
    exact round_bounded (by omega) he (by rwa [show z.toNat = z.natAbs by omega])

/-! ## A half -/

theorem unpack_half : (0.5 : Float).toModel.unpack = .finite .positive (2 ^ 52) (-53) (by decide) := rfl

theorem natAbs_apply (s : Sign) (m : Nat) : (s.apply (m : Int)).natAbs = m := by
  cases s <;> simp [Sign.apply]

theorem add_half_bounded {x : Float} (h : isFinite x = true) :
    Bounded (UnpackedFloat.add Format.binary64 x.toModel.unpack (0.5 : Float).toModel.unpack) := by
  rw [unpack_half]
  rcases unpack_cases h with ⟨s, hx⟩ | ⟨s, m, e, hm, hx, hmlt, -, hehigh⟩
  · rw [hx]
    show (-53 : Int) ≤ 971
    decide
  · rw [hx]
    simp only [UnpackedFloat.add, decreaseExponent]
    obtain ⟨low, hlow⟩ : ∃ low, min e (-53) = low := ⟨_, rfl⟩
    rw [hlow]
    refine normalize_bounded (by omega) ?_
    -- the half is less than a unit at the place behind the last of the largest doubles
    have hlarge : m <<< (e - low).toNat ≤ (2 ^ 54 - 2) * 2 ^ (970 - low).toNat :=
      calc m <<< (e - low).toNat = m * 2 ^ (e - low).toNat := Nat.shiftLeft_eq _ _
        _ ≤ (2 ^ 53 - 1) * 2 ^ ((970 - low).toNat + 1) :=
          Nat.mul_le_mul (by omega) (Nat.pow_le_pow_right (by decide) (by omega))
        _ = (2 ^ 54 - 2) * 2 ^ (970 - low).toNat := by rw [Nat.pow_succ]; omega
    have hhalf : 2 ^ 52 <<< (-53 - low).toNat < 2 ^ (970 - low).toNat :=
      calc 2 ^ 52 <<< (-53 - low).toNat = 2 ^ (52 + (-53 - low).toNat) := by rw [Nat.shiftLeft_eq, ← Nat.pow_add]
        _ < 2 ^ (970 - low).toNat := Nat.pow_lt_pow_right (by decide) (by omega)
    have hsum := Int.natAbs_add_le (s.apply ((m <<< (e - low).toNat : Nat) : Int))
      (Sign.positive.apply ((2 ^ 52 <<< (-53 - low).toNat : Nat) : Int))
    rw [natAbs_apply, natAbs_apply] at hsum
    omega

/-- what a NaN or an infinity is unpacked to -/
theorem unpack_unbounded {x : Float} (h : isFinite x = false) :
    (∃ s, x.toModel.unpack = .infinity s) ∨ x.toModel.unpack = .notANumber := by
  have htop : (unpackExponent (wordOf x)).toNat = 2047 := by
    rw [unpackExponent_toNat]
    by_contra hne
    rw [isFinite_iff.2 hne] at h
    cases h
  have hones : unpackExponent (wordOf x) = -1#_ := BitVec.eq_of_toNat_eq htop
  have hunpack : x.toModel.unpack = unpack Format.binary64 (wordOf x) := rfl
  rw [hunpack]
  unfold UnpackedFloat.unpack
  dsimp only
  rw [if_pos hones]
  split
  · exact .inl ⟨_, rfl⟩
  · exact .inr rfl

/-- a half added to what is not finite leaves it so -/
theorem add_half_unbounded {x : Float} (h : isFinite x = false) : isFinite (x + 0.5) = false := by
  have hsum : x + 0.5 =
      .ofModel (.pack (UnpackedFloat.add Format.binary64 x.toModel.unpack (0.5 : Float).toModel.unpack)) := rfl
  rw [hsum, unpack_half]
  rcases unpack_unbounded h with ⟨s, hx⟩ | hx
  · rw [hx]
    cases s <;> rfl
  · rw [hx]
    rfl

end TileCrew.Binary64

namespace TileCrew

open Binary64 in
/-- **Every finite coordinate lies on a tile.** -/
theorem nearestTile_ok {x : Float} (h : isFinite x = true) : ∃ n, nearestTile x = .ok n := by
  have hsum : isFinite (x + 0.5) = true := pack_bounded (add_half_bounded h)
  unfold isFinite at hsum
  unfold nearestTile Binary64.floor finite?
  cases hv : value (x + 0.5) with
  | nan => rw [hv] at hsum; cases hsum
  | infinite negative => rw [hv] at hsum; cases hsum
  | finite v => exact ⟨v.floor, rfl⟩

open Binary64 in
theorem nearestTile_fails {x : Float} (h : isFinite x = false) : ∃ e, nearestTile x = .error e := by
  have hsum : isFinite (x + 0.5) = false := add_half_unbounded h
  unfold isFinite at hsum
  unfold nearestTile Binary64.floor finite?
  cases hv : value (x + 0.5) with
  | nan => exact ⟨_, rfl⟩
  | infinite negative => exact ⟨_, rfl⟩
  | finite v => rw [hv] at hsum; cases hsum

end TileCrew
