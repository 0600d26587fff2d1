/-
Doubles and their words. A double is its word of 64 bits, and of the words for NaN only one is a double.
- `ofBits_toBits`: the double of a double's word is that double;
- `value_nan`, `value_infinite`, `value_finite`: what a double stands for gives its word, sign and magnitude apart;
- `signed_magnitude`: a double that is no NaN is the double of its magnitude, negated where its sign says so.
-/
import Mathlib
import TileCrew.Arithmetic.Binary64

namespace TileCrew.Binary64

open Float.Model Float.Model.UnpackedFloat

/-! ## Parts of a word -/

/-- a word of 64 bits as the format has it -/
abbrev Word := BitVec Format.binary64.numBits

def wordOf (x : Float) : Word := x.toBits.toBitVec

theorem unpackExponent_toNat (b : Word) : (unpackExponent b).toNat = b.toNat / 2 ^ 52 % 2 ^ 11 := by
  simp only [unpackExponent, BitVec.toNat_cast, BitVec.extractLsb_toNat, Nat.shiftRight_eq_div_pow]

theorem unpackMantissa_toNat (b : Word) : (unpackMantissa b).toNat = b.toNat % 2 ^ 52 := by
  simp only [unpackMantissa, BitVec.toNat_cast, BitVec.extractLsb_toNat, Nat.shiftRight_zero]

theorem unpackSign_toNat (b : Word) : (unpackSign b).toNat = b.toNat / 2 ^ 63 := by
  have h : b.toNat < 2 ^ 64 := b.isLt
  simp only [unpackSign, BitVec.toNat_cast, BitVec.extractLsb_toNat, Nat.shiftRight_eq_div_pow]
  omega

theorem append_toNat {m n : Nat} (x : BitVec m) (y : BitVec n) : (x ++ y).toNat = x.toNat * 2 ^ n + y.toNat := by
  rw [BitVec.toNat_append, ← Nat.shiftLeft_add_eq_or_of_lt y.isLt, Nat.shiftLeft_eq]

theorem packComponents_toNat (s : Sign) (e : BitVec 11) (m : BitVec 52) :
    (packComponents Format.binary64 s e m).toNat = s.toBitVec.toNat * 2 ^ 63 + e.toNat * 2 ^ 52 + m.toNat := by
  have h : (packComponents Format.binary64 s e m).toNat = (s.toBitVec ++ e ++ m).toNat := rfl
  rw [h, append_toNat, append_toNat]
  omega

theorem sign_toBitVec (b : BitVec 1) : (Sign.ofBitVec b).toBitVec = b := by
  revert b
  decide

theorem packComponents_parts (b : Word) :
    packComponents Format.binary64 (Sign.ofBitVec (unpackSign b)) (unpackExponent b) (unpackMantissa b) = b := by
  apply BitVec.eq_of_toNat_eq
  rw [packComponents_toNat, sign_toBitVec, unpackSign_toNat, unpackExponent_toNat, unpackMantissa_toNat]
  omega

/-! ## Doubles are their words -/

theorem pack_subnormal (s : Sign) {m : Nat} (hm : 0 < m) (hlt : m < 2 ^ 52) :
    pack Format.binary64 (.finite s m (-1074) hm) = packComponents Format.binary64 s 0#_ (BitVec.ofNat _ m) := by
  have hlog : m.log2 < 52 := (Nat.log2_lt (by omega)).2 hlt
  have hbias : (-1074 + (Format.binary64.exponentBias : Int) + (Format.binary64.mantissaBitsWithoutImplicit : Int)).toNat
      = 1 := by decide
  have hbits : Format.binary64.mantissaBits = 53 := by decide
  simp only [UnpackedFloat.pack, hbias, hbits]
  rw [if_neg (by decide), if_neg (by omega)]

theorem pack_normal (s : Sign) {m e : Nat} (hm : 0 < m) (hlow : 2 ^ 52 ≤ m) (hhigh : m < 2 ^ 53) (he : e < 2047) :
    pack Format.binary64 (.finite s m (e - 1075) hm) =
      packComponents Format.binary64 s (BitVec.ofNat _ e) (BitVec.ofNat _ m) := by
  have hlog : m.log2 = 52 := by
    have h1 : 52 ≤ m.log2 := (Nat.le_log2 (by omega)).2 hlow
    have h2 : m.log2 < 53 := (Nat.log2_lt (by omega)).2 hhigh
    omega
  have hbias : ((e : Int) - 1075 + (Format.binary64.exponentBias : Int) +
      (Format.binary64.mantissaBitsWithoutImplicit : Int)).toNat = e := by
    have h1 : (Format.binary64.exponentBias : Int) = 1023 := rfl
    have h2 : (Format.binary64.mantissaBitsWithoutImplicit : Int) = 52 := rfl
    omega
  have hbits : Format.binary64.mantissaBits = 53 := by decide
  simp only [UnpackedFloat.pack, hbias, hbits, hlog]
  rw [if_neg (by omega), if_pos trivial]

/-- **Taking a double's word apart and putting it together again gives that word.** -/
theorem pack_unpack {b : Word} (h : Format.binary64.Valid b) : pack Format.binary64 (unpack Format.binary64 b) = b := by
  have hparts := packComponents_parts b
  have hexp : (unpackExponent b).toNat < 2 ^ 11 := (unpackExponent b).isLt
  have hman : (unpackMantissa b).toNat < 2 ^ 52 := (unpackMantissa b).isLt
  unfold UnpackedFloat.unpack
  by_cases htop : unpackExponent b = -1#_
  · by_cases hzero : unpackMantissa b = 0#_
    · rw [htop, hzero] at hparts
      simp only [htop, hzero, if_true]
      exact hparts
    · simp only [htop, hzero, if_true, if_false]
      exact (h.eq_packedNaN htop hzero).symm
  by_cases hlow : unpackExponent b = 0#_
  · rw [if_neg htop, if_pos hlow]
    by_cases hzero : unpackMantissa b = 0#_
    · rw [hlow, hzero] at hparts
      rw [dif_pos hzero]
      exact hparts
    · have hpos : 0 < (unpackMantissa b).toNat := Nat.pos_of_ne_zero fun h0 => hzero (BitVec.eq_of_toNat_eq h0)
      rw [dif_neg hzero, hlow]
      refine (pack_subnormal _ hpos hman).trans ?_
      rw [hlow] at hparts
      rw [BitVec.ofNat_toNat, BitVec.setWidth_eq]
      exact hparts
  · have hne : (unpackExponent b).toNat ≠ 2047 := fun hc => htop (BitVec.eq_of_toNat_eq hc)
    have hman' : (1#1 ++ unpackMantissa b).toNat = 2 ^ 52 + (unpackMantissa b).toNat := by
      rw [append_toNat]
      rfl
    rw [if_neg htop, if_neg hlow]
    refine (pack_normal _ (by omega) (by omega) (by omega) (by omega)).trans ?_
    have hofNat : BitVec.ofNat 52 (1#1 ++ unpackMantissa b).toNat = unpackMantissa b := by
      apply BitVec.eq_of_toNat_eq
      rw [BitVec.toNat_ofNat, hman']
      omega
    refine Eq.trans ?_ hparts
    rw [BitVec.ofNat_toNat, BitVec.setWidth_eq]
    exact congrArg _ hofNat

/-- **The double of a double's word is that double.** -/
theorem ofBits_toBits (x : Float) : Float.ofBits x.toBits = x := by
  obtain ⟨⟨bits, hvalid⟩⟩ := x
  have h : UInt64.ofBitVec (pack Format.binary64 (unpack Format.binary64 bits.toBitVec)) = bits := by
    rw [pack_unpack hvalid]
  simp only [Float.ofBits, Float.toBits, Float.Model.ofBits, Float.Model.pack, h]

/-! ## Magnitudes -/

def signBit (negative : Bool) : Nat := if negative then 2 ^ 63 else 0

/-- the words of magnitudes up to infinity are words of doubles -/
theorem valid_magnitude {b : Word} (h : b.toNat ≤ infinityBits) : Format.binary64.Valid b := by
  refine ⟨fun htop hne => absurd ?_ hne⟩
  have hexp : (unpackExponent b).toNat = 2047 := congrArg BitVec.toNat htop
  rw [unpackExponent_toNat] at hexp
  apply BitVec.eq_of_toNat_eq
  rw [unpackMantissa_toNat]
  show b.toNat % 2 ^ 52 = 0
  unfold infinityBits at h
  omega

theorem unpack_neg {b c : Word} (h : c.toNat = 2 ^ 63 + b.toNat) (hb : b.toNat < 2 ^ 63) :
    unpack Format.binary64 c = (unpack Format.binary64 b).neg := by
  have hexp : unpackExponent c = unpackExponent b := by
    apply BitVec.eq_of_toNat_eq
    rw [unpackExponent_toNat, unpackExponent_toNat, h]
    omega
  have hman : unpackMantissa c = unpackMantissa b := by
    apply BitVec.eq_of_toNat_eq
    rw [unpackMantissa_toNat, unpackMantissa_toNat, h]
    omega
  have hneg : unpackSign c = 1#1 := by
    apply BitVec.eq_of_toNat_eq
    rw [unpackSign_toNat, h]
    show _ = 1
    omega
  have hpos : unpackSign b = 0#1 := by
    apply BitVec.eq_of_toNat_eq
    rw [unpackSign_toNat]
    show _ = 0
    omega
  unfold UnpackedFloat.unpack
  simp only [hexp, hman, hneg, hpos]
  split
  · split
    · rfl
    · rfl
  · split
    · split
      · rfl
      · rfl
    · rfl

theorem neg_ofBits {x : Float} {n : Nat} (hx : x.toBits.toNat = 2 ^ 63 + n) (hn : n ≤ infinityBits) :
    -Float.ofBits (UInt64.ofNat n) = x := by
  have hn' : n < 2 ^ 63 := by unfold infinityBits at hn; omega
  have hword : (UInt64.ofNat n).toBitVec.toNat = n := by
    show n % 2 ^ 64 = n
    omega
  have hvalid : Format.binary64.Valid (UInt64.ofNat n).toBitVec := valid_magnitude (by rw [hword]; exact hn)
  have hneg := unpack_neg (b := (UInt64.ofNat n).toBitVec) (c := x.toBits.toBitVec) (by rw [hword]; exact hx)
    (by rw [hword]; exact hn')
  calc -Float.ofBits (UInt64.ofNat n)
      = .ofModel (.pack (unpack Format.binary64 (pack Format.binary64
          (unpack Format.binary64 (UInt64.ofNat n).toBitVec))).neg) := rfl
    _ = .ofModel (.pack (unpack Format.binary64 x.toBits.toBitVec)) := by rw [pack_unpack hvalid, hneg]
    _ = x := ofBits_toBits x

/-- **A double that is no NaN is the double of its magnitude, negated where its sign says so.** -/
theorem signed_magnitude {x : Float} {negative : Bool} {n : Nat} (hx : x.toBits.toNat = signBit negative + n)
    (hn : n ≤ infinityBits) :
    (if negative then -Float.ofBits (UInt64.ofNat n) else Float.ofBits (UInt64.ofNat n)) = x := by
  cases negative with
  | true => exact neg_ofBits hx hn
  | false =>
    have hn' : x.toBits.toNat = n := hx.trans (Nat.zero_add n)
    have hbits : UInt64.ofNat n = x.toBits := by rw [← hn', UInt64.ofNat_toNat]
    show Float.ofBits (UInt64.ofNat n) = x
    rw [hbits, ofBits_toBits]

/-! ## Values and words -/

namespace Exact

/-- the least exponent that its magnitude can have, or a full mantissa; no larger than doubles are -/
structure Canonical (v : Exact) : Prop where
  mantissa_lt : v.mantissa < 2 ^ 53
  exponent_ge : -1074 ≤ v.exponent
  exponent_le : v.exponent ≤ 971
  full : 2 ^ 52 ≤ v.mantissa ∨ v.exponent = -1074

def word (v : Exact) : Nat := (v.exponent + 1074).toNat * 2 ^ 52 + v.mantissa

theorem Canonical.word_lt {v : Exact} (h : v.Canonical) : v.word < infinityBits := by
  obtain ⟨hm, hlow, hhigh, -⟩ := h
  unfold word infinityBits
  omega

end Exact

theorem toBits_lt (x : Float) : x.toBits.toNat < 2 ^ 64 := x.toBits.toNat_lt

theorem signBit_eq {n : Nat} (h : n < 2 ^ 64) : signBit (n / 2 ^ 63 == 1) = n / 2 ^ 63 * 2 ^ 63 := by
  by_cases h1 : n / 2 ^ 63 = 1
  · rw [h1]
    rfl
  · have h0 : n / 2 ^ 63 = 0 := by omega
    rw [h0]
    rfl

theorem value_finite {x : Float} {v : Exact} (h : value x = .finite v) :
    v.Canonical ∧ x.toBits.toNat = signBit v.negative + v.word := by
  have hbits := toBits_lt x
  unfold value at h
  generalize x.toBits.toNat = n at *
  have hsign := signBit_eq hbits
  dsimp only at h
  -- the field of the exponent: full for what is not finite, empty below the normal range
  by_cases htop : n / 2 ^ 52 % 2 ^ 11 = 2047
  · rw [if_pos htop] at h
    split at h
    · cases h
    · cases h
  by_cases hlow : n / 2 ^ 52 % 2 ^ 11 = 0
  · rw [if_neg htop, if_pos hlow] at h
    cases h
    refine ⟨⟨?_, ?_, ?_, .inr rfl⟩, ?_⟩
    · show n % 2 ^ 52 < 2 ^ 53
      omega
    · exact Int.le_refl _
    · show (-1074 : Int) ≤ 971
      decide
    · show n = signBit (n / 2 ^ 63 == 1) + (0 * 2 ^ 52 + n % 2 ^ 52)
      omega
  · rw [if_neg htop, if_neg hlow] at h
    cases h
    refine ⟨⟨?_, ?_, ?_, .inl ?_⟩, ?_⟩
    · show 2 ^ 52 + n % 2 ^ 52 < 2 ^ 53
      omega
    · show (-1074 : Int) ≤ (n / 2 ^ 52 % 2 ^ 11 : Nat) - 1075
      omega
    · show ((n / 2 ^ 52 % 2 ^ 11 : Nat) : Int) - 1075 ≤ 971
      omega
    · exact Nat.le_add_right _ _
    · show n = signBit (n / 2 ^ 63 == 1) +
        ((((n / 2 ^ 52 % 2 ^ 11 : Nat) : Int) - 1075 + 1074).toNat * 2 ^ 52 + (2 ^ 52 + n % 2 ^ 52))
      omega

theorem value_infinite {x : Float} {negative : Bool} (h : value x = .infinite negative) :
    x.toBits.toNat = signBit negative + infinityBits := by
  have hbits := toBits_lt x
  unfold value at h
  generalize x.toBits.toNat = n at *
  have hsign := signBit_eq hbits
  dsimp only at h
  by_cases htop : n / 2 ^ 52 % 2 ^ 11 = 2047
  · by_cases hzero : n % 2 ^ 52 = 0
    · rw [if_pos htop, if_pos hzero] at h
      cases h
      unfold infinityBits
      omega
    · rw [if_pos htop, if_neg hzero] at h
      cases h
  · rw [if_neg htop] at h
    split at h
    · cases h
    · cases h

theorem value_nan {x : Float} (h : value x = .nan) : x = nan := by
  have hparts : x.toBits.toNat / 2 ^ 52 % 2 ^ 11 = 2047 ∧ x.toBits.toNat % 2 ^ 52 ≠ 0 := by
    unfold value at h
    generalize x.toBits.toNat = n at *
    dsimp only at h
    by_cases htop : n / 2 ^ 52 % 2 ^ 11 = 2047
    · by_cases hzero : n % 2 ^ 52 = 0
      · rw [if_pos htop, if_pos hzero] at h
        cases h
      · exact ⟨htop, hzero⟩
    · rw [if_neg htop] at h
      split at h
      · cases h
      · cases h
  obtain ⟨htop, hne⟩ := hparts
  have hexp : unpackExponent (wordOf x) = -1#_ :=
    BitVec.eq_of_toNat_eq ((unpackExponent_toNat _).trans htop)
  have hman : unpackMantissa (wordOf x) ≠ 0#_ := fun hc =>
    hne ((unpackMantissa_toNat _).symm.trans (congrArg BitVec.toNat hc))
  have hword : wordOf x = packedNaN Format.binary64 := x.toModel.valid.eq_packedNaN hexp hman
  have hbits : x.toBits = 0x7ff8000000000000 := UInt64.toBitVec_inj.1 (hword.trans (by decide))
  rw [← ofBits_toBits x, hbits]
  rfl

end TileCrew.Binary64
