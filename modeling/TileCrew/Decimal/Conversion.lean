/-
Doubles as decimals, and decimals as doubles.
Around a finite double lies the interval of reals that round to it; its ends belong to it iff the mantissa is even.
`shortest` walks the grids 10^g from coarse to fine. On the first grid that has a point in the interval, one of the two
neighbours of the value is such a point; of two the nearer is taken, half way the even one. Coarse first makes the
digits fewest. `Layout` holds the decisions of a written form: where positional writing ends and how an exponent is spelt.
`fixed` writes a double with a fixed number of decimal places: the exact value, rounded once, a half going to the even
neighbour; the sign is that of the double, also where all written digits are zero.
`Scaled.toFloat` is the double that a decimal stands for: the nearest one, a half going to the even neighbour, infinity
when it is too large. Decimals far outside the range of doubles are settled by their order of magnitude alone.
-/
import TileCrew.Arithmetic.Binary64

namespace TileCrew.Decimal

open Arithmetic Binary64

/-- the magnitude `coefficient * 10 ^ exponent` -/
structure Scaled where
  coefficient : Nat
  exponent : Int
deriving DecidableEq, Repr

/-! ## The interval of a double -/

/-- the reals that round to a double, each end a numerator over `den`; `closed` says that the ends belong to it -/
structure Interval where
  low : Nat
  mid : Nat
  high : Nat
  den : Nat
  closed : Bool
deriving Repr

/-- the interval of a finite double: half a step up and down, but a quarter of a step down from a power of two whose
    lower neighbour lies closer -/
def Interval.ofExact (v : Exact) : Interval :=
  let down := if v.mantissa = 2 ^ 52 ∧ -1074 < v.exponent then 1 else 2
  let e := v.exponent - 2
  let (up, den) := if 0 ≤ e then (2 ^ e.toNat, 1) else (1, 2 ^ (-e).toNat)
  { low := (4 * v.mantissa - down) * up
    mid := 4 * v.mantissa * up
    high := (4 * v.mantissa + 2) * up
    den
    closed := v.mantissa % 2 = 0 }

/-- `c * 10 ^ g` as a ratio of naturals -/
def gridPoint (c : Nat) (g : Int) : Nat × Nat :=
  if 0 ≤ g then (c * 10 ^ g.toNat, 1) else (c, 10 ^ (-g).toNat)

def Interval.holds (i : Interval) (c : Nat) (g : Int) : Bool :=
  let (num, den) := gridPoint c g
  let below := i.low * den
  let point := num * i.den
  let above := i.high * den
  if i.closed then below ≤ point && point ≤ above else below < point && point < above

/-- the multiple of `10 ^ g` not above the middle of the interval, as its factor -/
def Interval.floorAt (i : Interval) (g : Int) : Nat :=
  let (num, den) := gridPoint 1 g
  i.mid * den / (i.den * num)

/-- of `c * 10 ^ g` and `(c + 1) * 10 ^ g` the middle is nearer to the second, or half way and c is odd -/
def Interval.nearerAbove (i : Interval) (c : Nat) (g : Int) : Bool :=
  let (num, den) := gridPoint 1 g
  let halfWay := (2 * c + 1) * num * i.den
  halfWay < 2 * i.mid * den || halfWay == 2 * i.mid * den && c % 2 == 1

/-- the point of the grid `10 ^ g` in the interval nearest to its middle, if there is one -/
def Interval.pick? (i : Interval) (g : Int) : Option Nat :=
  let c := i.floorAt g
  match i.holds c g, i.holds (c + 1) g with
  | true, true => some (if i.nearerAbove c g then c + 1 else c)
  | true, false => some c
  | false, true => some (c + 1)
  | false, false => none

/-! ## Digits -/

/-- the first grid from `10 ^ g` down that has a point in the interval -/
def Interval.search (i : Interval) : Nat → Int → Scaled
  | 0, g => ⟨i.floorAt g, g⟩
  | fuel + 1, g =>
    match i.pick? g with
    | some c => ⟨c, g⟩
    | none => i.search fuel (g - 1)

/-- trailing zeros of the coefficient moved into the exponent, at most `fuel` of them -/
def Scaled.trimZeros : Nat → Scaled → Scaled
  | 0, d => d
  | fuel + 1, d => if d.coefficient ≠ 0 ∧ d.coefficient % 10 = 0 then
      Scaled.trimZeros fuel ⟨d.coefficient / 10, d.exponent + 1⟩ else d

/-- a grid coarser than the value: above it no point but zero is near -/
def coarsest (v : Exact) : Int := (log2Ratio v.ratio.1 v.ratio.2 * 30103).fdiv 100000 + 2

/-- the fewest digits that read back as a positive finite double, the nearest such decimal among them. Seventeen digits
    always do, so the search ends within 24 grids of the coarsest. -/
def shortest (v : Exact) : Scaled :=
  if v.mantissa = 0 then ⟨0, 0⟩ else ((Interval.ofExact v).search 24 (coarsest v)).trimZeros 24

/-! ## Written forms -/

/-- the decisions of a written form of doubles -/
structure Layout where
  /-- leading decimal places from this one on are written positionally -/
  plainFrom : Int
  /-- and up to below this one -/
  plainBelow : Int
  /-- least number of digits of an exponent -/
  exponentDigits : Nat
  notANumber : String
  infinite : String
deriving DecidableEq, Repr

def digitsOf (n : Nat) : List Char := Nat.toDigits 10 n

def Layout.exponentChars (l : Layout) (e : Int) : List Char :=
  (if e < 0 then '-' else '+') :: (digitsOf e.natAbs).leftpad l.exponentDigits '0'

/-- digits with a point after the first `point` of them, zeros filled in where there are none -/
def positional (ds : List Char) (point : Int) : List Char :=
  if point ≤ 0 then '0' :: '.' :: (List.replicate (-point).toNat '0' ++ ds)
  else
    let whole := ds.take point.toNat
    let rest := ds.drop point.toNat
    whole ++ List.replicate (point.toNat - whole.length) '0' ++ '.' :: (if rest.isEmpty then ['0'] else rest)

/-- digits with an exponent: one digit, a point where more follow, and the place of the first -/
def Layout.scientific (l : Layout) (ds : List Char) (place : Int) : List Char :=
  match ds with
  | [] => []
  | d :: rest => d :: (if rest.isEmpty then [] else '.' :: rest) ++ 'e' :: l.exponentChars place

def Layout.magnitude (l : Layout) (d : Scaled) : List Char :=
  let ds := digitsOf d.coefficient
  let point := (ds.length : Int) + d.exponent
  let place := point - 1
  if d.coefficient = 0 then ['0', '.', '0']
  else if l.plainFrom ≤ place ∧ place < l.plainBelow then positional ds point
  else l.scientific ds place

def Layout.chars (l : Layout) (x : Float) : List Char :=
  match value x with
  | .nan => l.notANumber.toList
  | .infinite negative => (if negative then ['-'] else []) ++ l.infinite.toList
  | .finite v => (if v.negative then ['-'] else []) ++ l.magnitude (shortest v)

/-- the common layout: positional from 0.0001 up to below 10^16, exponents of two digits at least -/
def plainLayout : Layout :=
  { plainFrom := -4, plainBelow := 16, exponentDigits := 2, notANumber := "nan", infinite := "inf" }

/-! ## Fixed places -/

/-- a number of `10 ^ -places`, written with that many places -/
def placed (places n : Nat) : List Char :=
  let ds := (digitsOf n).leftpad (places + 1) '0'
  let whole := ds.length - places
  if places = 0 then ds else ds.take whole ++ '.' :: ds.drop whole

/-- the magnitude of an exact value in units of `10 ^ -places` -/
def unitsAt (places : Nat) (v : Exact) : Nat :=
  let (num, den) := v.ratio
  roundDiv (num * 10 ^ places) den

/-- a double with `places` decimal places -/
def fixed (places : Nat) (x : Float) : String :=
  String.ofList <|
    match value x with
    | .nan => plainLayout.notANumber.toList
    | .infinite negative => (if negative then ['-'] else []) ++ plainLayout.infinite.toList
    | .finite v => (if v.negative then ['-'] else []) ++ placed places (unitsAt places v)

/-! ## Reading -/

/-- the double nearest to a decimal magnitude -/
def Scaled.toFloat (d : Scaled) : Float :=
  let place := ((digitsOf d.coefficient).length : Int) + d.exponent
  if d.coefficient = 0 then Float.ofBits 0
  else if 400 < place then infinity
  else if place < -400 then Float.ofBits 0
  else
    let (num, den) := gridPoint d.coefficient d.exponent
    (nearest? num den).getD infinity

/-- the double nearest to a signed decimal -/
def readSigned (negative : Bool) (d : Scaled) : Float :=
  if negative then -d.toFloat else d.toFloat

end TileCrew.Decimal
