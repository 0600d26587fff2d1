/-
Binary64 numbers as exact values. A finite double is (-1)^s * m * 2^e with a natural m. What the project needs beyond
the machine's own +, -, *, / and comparisons is computed on that triple in exact integer arithmetic:
- `floor`, `truncate`: the integers next to a double, which a NaN and an infinity do not have (`NotWhole`);
- `nearest`: the double closest to a ratio of naturals, halves to the even neighbour, none when it is too large;
- `hypot`: the square root of an exact sum of squares, rounded once.
Files and callers give numbers as integers of any size or as doubles (`Number`). Only on the way to a double does size
matter: `Number.toFloat?` is none for an integer beyond the largest finite double.
-/
import TileCrew.Arithmetic.Rounding

namespace TileCrew

open Arithmetic

namespace Binary64

/-! ## Exact values -/

/-- a finite value, (-1)^negative * mantissa * 2^exponent -/
structure Exact where
  negative : Bool
  mantissa : Nat
  exponent : Int
deriving DecidableEq, Repr

/-- what a double stands for -/
inductive Value where
  | nan
  | infinite (negative : Bool)
  | finite (exact : Exact)
deriving DecidableEq, Repr

/-- the value of a double, read off its bits -/
def value (x : Float) : Value :=
  let bits : Nat := x.toBits.toNat
  let negative := bits / 2 ^ 63 == 1
  let field : Nat := bits / 2 ^ 52 % 2 ^ 11
  let fraction : Nat := bits % 2 ^ 52
  if field = 2047 then (if fraction = 0 then .infinite negative else .nan)
  else if field = 0 then .finite ⟨negative, fraction, -1074⟩
  else .finite ⟨negative, 2 ^ 52 + fraction, field - 1075⟩

/-- neither a NaN nor an infinity -/
def isFinite (x : Float) : Bool :=
  match value x with
  | .finite _ => true
  | _ => false

namespace Exact

/-- the magnitude as a ratio of naturals -/
def ratio (v : Exact) : Nat × Nat :=
  if 0 ≤ v.exponent then (v.mantissa * 2 ^ v.exponent.toNat, 1) else (v.mantissa, 2 ^ (-v.exponent).toNat)

def numerator (v : Exact) : Int := if v.negative then -(v.ratio.1 : Int) else v.ratio.1

/-- the largest integer not above the value -/
def floor (v : Exact) : Int := v.numerator.fdiv v.ratio.2

/-- the integer part, towards zero -/
def truncate (v : Exact) : Int := v.numerator.tdiv v.ratio.2

def isIntegral (v : Exact) : Bool := v.ratio.1 % v.ratio.2 = 0

end Exact

/-! ## Integers next to a double -/

/-- why a double has no integer beside it -/
inductive NotWhole where
  | nan
  | infinite
deriving DecidableEq, Repr

/-- the exact finite value, or what stands in its place -/
def finite? (x : Float) : Except NotWhole Exact :=
  match value x with
  | .nan => .error .nan
  | .infinite _ => .error .infinite
  | .finite v => .ok v

def floor (x : Float) : Except NotWhole Int := (finite? x).map Exact.floor

def truncate (x : Float) : Except NotWhole Int := (finite? x).map Exact.truncate

def isIntegral (x : Float) : Bool :=
  match value x with
  | .finite v => v.isIntegral
  | _ => false

/-! ## The nearest double -/

/-- the bits of positive infinity: the first word that is no finite magnitude -/
def infinityBits : Nat := 0x7ff0000000000000

/-- the bits of the double nearest to `num / den`, as if the exponent had no upper bound -/
def nearestBits (num den : Nat) : Nat :=
  if num = 0 then 0
  else
    let e := max (log2Ratio num den - 52) (-1074)
    (e + 1074).toNat * 2 ^ 52 + roundScaled num den e

/-- the double nearest to `num / den`; none when that lies beyond the largest finite double -/
def nearest? (num den : Nat) : Option Float :=
  let bits := nearestBits num den
  if bits < infinityBits then some (Float.ofBits (UInt64.ofNat bits)) else none

def infinity : Float := Float.ofBits (UInt64.ofNat infinityBits)

def nan : Float := Float.ofBits 0x7ff8000000000000

/-- the double nearest to an integer; none when it is too large -/
def ofInt? (n : Int) : Option Float :=
  (nearest? n.natAbs 1).map fun x => if n < 0 then -x else x

/-! ## Distance -/

/-- the double nearest to the root of `s * 2 ^ (2 * e)`; infinity when it is too large. The root of s is taken with
    at least 64 bits; where it is not exact, the half-way point to the next integer stands for it, which lies on the
    same side of every boundary between doubles. -/
def nearestRoot (s : Nat) (e : Int) : Float :=
  let k := 64 - s.log2 / 2
  let n := s * 4 ^ k
  let r := floorSqrt n
  let e := e - k
  let (m, e) := if r * r = n then (r, e) else (2 * r + 1, e - 1)
  let (num, den) := Exact.ratio ⟨false, m, e⟩
  (nearest? num den).getD infinity

/-- `v.mantissa` over the smaller exponent e -/
def Exact.mantissaAt (v : Exact) (e : Int) : Nat := v.mantissa * 2 ^ (v.exponent - e).toNat

/-- the length of the vector (x, y), rounded once; an infinite part wins over a NaN -/
def hypot (x y : Float) : Float :=
  match value x, value y with
  | .infinite _, _ => infinity
  | _, .infinite _ => infinity
  | .nan, _ => nan
  | _, .nan => nan
  | .finite a, .finite b =>
    let e := min a.exponent b.exponent
    let m := a.mantissaAt e
    let n := b.mantissaAt e
    nearestRoot (m * m + n * n) e

end Binary64

/-! ## Integers and doubles -/

/-- an integer of any size, or a double -/
inductive Number where
  | whole (n : Int)
  | real (x : Float)

namespace Number

/-- the nearest double; none for an integer that is too large -/
def toFloat? : Number → Option Float
  | .whole n => Binary64.ofInt? n
  | .real x => some x

/-- the number is the integer n, in whichever form -/
def equals (n : Int) : Number → Bool
  | .whole m => m == n
  | .real x =>
    match Binary64.value x with
    | .finite v => v.isIntegral && v.truncate == n
    | _ => false

end Number

end TileCrew
