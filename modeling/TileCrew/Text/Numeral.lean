/-
Numerals in text: integers and reals as users, files and options spell them.
A numeral may be surrounded by spaces, its digits may be of any script, and single underscores may stand between digits.
Integers of more than 4300 digits are refused as too long, before anything behind their digits is looked at.
-/
import TileCrew.Text.Character
import TileCrew.Decimal.Conversion

namespace TileCrew.Text

/-- the most digits an integer may be read from or written with -/
def digitLimit : Nat := 4300

/-! ## Digit runs -/

/-- where a reader of digits stands: before the first, after a digit, after an underscore behind a digit -/
inductive Spot where
  | before
  | digit
  | gap
deriving DecidableEq, Repr

/-- the values of the digits from a spot on, and what follows them -/
def digitRun?.go (value? : Char → Option Nat) : Spot → List Char → Option (List Nat × List Char)
  | .gap, [] => none
  | _, [] => some ([], [])
  | spot, c :: cs =>
    match value? c, spot with
    | some d, _ => (digitRun?.go value? .digit cs).map fun r => (d :: r.1, r.2)
    | none, .gap => none
    | none, .before => some ([], c :: cs)
    | none, .digit => if c = '_' then digitRun?.go value? .gap cs else some ([], c :: cs)

/-- the values of a run of digits with single underscores between them, and what follows; none where an underscore is
    not followed by a digit -/
def digitRun? (value? : Char → Option Nat) (cs : List Char) : Option (List Nat × List Char) :=
  digitRun?.go value? .before cs

/-- an optional sign, true for minus, and what follows -/
def takeSign : List Char → Bool × List Char
  | '-' :: cs => (true, cs)
  | '+' :: cs => (false, cs)
  | cs => (false, cs)

/-! ## Integers -/

/-- why a text is no integer -/
inductive IntegerFault where
  | malformed
  | tooLong (digits : Nat)
deriving DecidableEq, Repr

def readInteger (s : String) : Except IntegerFault Int :=
  let (negative, cs) := takeSign (stripBy isSpace s.toList)
  match digitRun? digitValue? cs with
  | none => .error .malformed
  | some (ds, rest) =>
    if digitLimit < ds.length then .error (.tooLong ds.length)
    else if ds.isEmpty || !rest.isEmpty then .error .malformed
    else .ok (if negative then -(ofDigits ds : Int) else ofDigits ds)

/-! ## Reals -/

/-- an exponent, if one is spelt here: its value and what follows; none where it is begun and has no digits -/
def exponent? (value? : Char → Option Nat) : List Char → Option (Int × List Char)
  | [] => some (0, [])
  | c :: cs =>
    if c = 'e' ∨ c = 'E' then
      let (negative, cs) := takeSign cs
      match digitRun? value? cs with
      | none => none
      | some (ds, rest) =>
        if ds.isEmpty then none else some (if negative then -(ofDigits ds : Int) else ofDigits ds, rest)
    else some (0, c :: cs)

/-- the digits behind a point, if there is one -/
def fraction? (value? : Char → Option Nat) : List Char → Option (List Nat × List Char)
  | '.' :: cs => digitRun? value? cs
  | cs => some ([], cs)

/-- the decimal that a text spells: digits with an optional point among them and an optional exponent -/
def decimal? (value? : Char → Option Nat) (cs : List Char) : Option Decimal.Scaled := do
  let (whole, rest) ← digitRun? value? cs
  let (places, rest) ← fraction? value? rest
  let (e, rest) ← exponent? value? rest
  if (whole ++ places).isEmpty || !rest.isEmpty then none
  else some ⟨ofDigits (whole ++ places), e - places.length⟩

/-- the lower case of an ASCII capital -/
def lowerAscii (c : Char) : Char := if 'A' ≤ c ∧ c ≤ 'Z' then Char.ofNat (c.toNat + 32) else c

/-- the magnitude of a real: a decimal, or a name of infinity or of NaN in any case -/
def magnitude? (value? : Char → Option Nat) (cs : List Char) : Option Float :=
  let name := cs.map lowerAscii
  if name = "inf".toList ∨ name = "infinity".toList then some Binary64.infinity
  else if name = "nan".toList then some Binary64.nan
  else (decimal? value? cs).map Decimal.Scaled.toFloat

/-- the real that a text spells, its digits read by `value?` -/
def realOf? (value? : Char → Option Nat) (cs : List Char) : Option Float :=
  let (negative, cs) := takeSign cs
  (magnitude? value? cs).map fun x => if negative then -x else x

def readReal? (s : String) : Option Float := realOf? digitValue? (stripBy isSpace s.toList)

end TileCrew.Text
