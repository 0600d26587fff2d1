/-
Numerals in the fields of records, in ASCII digits. An integer is first taken as it stands (`written`): a minus sign at
most, then one zero, or digits of which the first is no zero. What is no integer then is put in order (`orderly?`): blanks
around it, a plus sign, leading zeros, a fraction of zeros and underscores are taken away, and it is tried once more.
An integer that is too long is told from a text that spells none only where it stands in that form already.
Reals are taken without the blanks around them, or else, with those kept, without underscores.
-/
import TileCrew.Text.Numeral

namespace TileCrew.Schema.Numeral

open Text

def plainDigit? (c : Char) : Option Nat := if isAsciiDigit c then some (asciiValue c) else none

/-- characters without underscores; none if one stands at an end or next to another -/
def dropUnderscores? (cs : List Char) : Option (List Char) :=
  let doubled := (cs.zip (cs.drop 1)).any fun p => p.1 = '_' && p.2 = '_'
  if cs.head? = some '_' || cs.getLast? = some '_' || doubled then none else some (cs.filter (· ≠ '_'))

/-! ## Integers -/

/-- a minus sign at most, true where it is there, and what follows -/
def takeMinus : List Char → Bool × List Char
  | '-' :: cs => (true, cs)
  | cs => (false, cs)

/-- the integer that characters are as they stand -/
def written (cs : List Char) : Except IntegerFault Int :=
  let (negative, cs) := takeMinus cs
  let ds := cs.takeWhile isAsciiDigit
  if ds.head? = some '0' then (if cs = ['0'] then .ok 0 else .error .malformed)
  else if digitLimit < ds.length then .error (.tooLong ds.length)
  else if ds.isEmpty || ds.length < cs.length then .error .malformed
  else
    let n : Int := ofDigits (ds.map asciiValue)
    .ok (if negative then -n else n)

/-- what an integer without leading zeros starts with -/
def isStart (c : Char) : Bool := ('1' ≤ c && c ≤ '9') || c = '-'

/-- what follows the zeros and underscores behind a leading zero, `last` being the one before: a start is kept, a point
    with the character before it, and of nothing but zeros and underscores the last; none where anything else follows -/
def pastZeros? (last : Char) : List Char → Option (List Char)
  | [] => some [last]
  | c :: cs =>
    if c = '0' ∨ c = '_' then pastZeros? c cs
    else if isStart c then some (c :: cs)
    else if c = '.' then some (last :: c :: cs)
    else none

/-- characters without leading zeros; none where they start neither with a zero nor as an integer does -/
def dropZeros? : List Char → Option (List Char)
  | [] => none
  | c :: cs => if c = '0' then pastZeros? c cs else if isStart c then some (c :: cs) else none

/-- characters without a first point that at least one zero and only zeros follow -/
def dropZeroFraction (cs : List Char) : List Char :=
  let places := (cs.dropWhile (· ≠ '.')).drop 1
  if !places.isEmpty && places.all (· = '0') then cs.takeWhile (· ≠ '.') else cs

/-- characters without a plus sign; none where a minus sign follows it -/
def dropPlus? : List Char → Option (List Char)
  | '+' :: '-' :: _ => none
  | '+' :: cs => some cs
  | cs => some cs

def orderly? (cs : List Char) : Option (List Char) := do
  let (negative, cs) := takeMinus (← dropPlus? (stripBy isSpace cs))
  let cs := dropZeroFraction (← dropZeros? cs)
  let cs := (dropUnderscores? cs).getD cs
  return if negative then '-' :: cs else cs

def integer (s : String) : Except IntegerFault Int :=
  match written s.toList with
  | .error .malformed =>
    match (orderly? s.toList).map written with
    | some (.ok n) => .ok n
    | _ => .error .malformed
  | outcome => outcome

/-! ## Reals -/

def plainReal? (cs : List Char) : Option Float := if cs.contains '_' then none else realOf? plainDigit? cs

def real? (s : String) : Option Float :=
  plainReal? (stripBy isSpace s.toList) <|> (dropUnderscores? s.toList).bind plainReal?

end TileCrew.Schema.Numeral
