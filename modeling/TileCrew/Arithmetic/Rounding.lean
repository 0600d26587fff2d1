/-
Rounding a ratio of naturals to an integer.
- `roundDiv`: the nearest integer, a half going to the even neighbour.
- `floorSqrt`: the integer part of a square root, found bit by bit.
- `log2Ratio`: the binary order of magnitude of a positive ratio.
-/
namespace TileCrew.Arithmetic

-- powers are those of the core library, also where a module has another instance in scope
attribute [instance (2000), default_instance 20000] instPowNat

/-- the integer nearest to `num / den`; a half goes to the even neighbour -/
def roundDiv (num den : Nat) : Nat :=
  let q := num / den
  let r := num % den
  if 2 * r < den then q
  else if den < 2 * r then q + 1
  else if q % 2 = 0 then q else q + 1

/-- `num / (den * 2 ^ e)` rounded to the nearest integer -/
def roundScaled (num den : Nat) (e : Int) : Nat :=
  if 0 ≤ e then roundDiv num (den * 2 ^ e.toNat) else roundDiv (num * 2 ^ (-e).toNat) den

/-- `2 ^ e ≤ num / den` -/
def powLeRatio (e : Int) (num den : Nat) : Bool :=
  if 0 ≤ e then den * 2 ^ e.toNat ≤ num else den ≤ num * 2 ^ (-e).toNat

/-- the largest e with `2 ^ e ≤ num / den`, for positive num and den -/
def log2Ratio (num den : Nat) : Int :=
  let e : Int := (num.log2 : Int) - (den.log2 : Int)
  if powLeRatio e num den then e else e - 1

/-- the bits of the root from place `k` down, `r` being the bits above -/
def floorSqrt.bits (n : Nat) : Nat → Nat → Nat
  | 0, r => r
  | k + 1, r =>
    let s := r + 2 ^ k
    floorSqrt.bits n k (if s * s ≤ n then s else r)

/-- the largest r with `r * r ≤ n` -/
def floorSqrt (n : Nat) : Nat := floorSqrt.bits n (n.log2 / 2 + 1) 0

end TileCrew.Arithmetic
