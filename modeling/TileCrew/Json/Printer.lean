/-
JSON text of a value: one line, `", "` between items and `": "` behind a field name. In strings the quote, the backslash
and the control characters below U+0020 are escaped, all else stands as itself, lone halves of surrogate pairs included.
Doubles have their shortest form; NaN and the infinities are written by name. An integer of more digits than
`Text.digitLimit` has no written form, and a text with a lone half has no octets: `isPrintable` says whether a value can
be put into a file.
-/
import TileCrew.Json.Value
import TileCrew.Text.Quoted
import TileCrew.Text.Numeral

namespace TileCrew.Json

open Decimal Text

/-- how doubles are written in JSON -/
def layout : Layout := { plainLayout with notANumber := "NaN", infinite := "Infinity" }

def escapedChar (c : Char) : List Char :=
  if c = '"' then ['\\', '"']
  else if c = '\\' then ['\\', '\\']
  else if c = '\n' then ['\\', 'n']
  else if c = '\r' then ['\\', 'r']
  else if c = '\t' then ['\\', 't']
  else if c.toNat = 0x08 then ['\\', 'b']
  else if c.toNat = 0x0c then ['\\', 'f']
  else if c.toNat < 0x20 then '\\' :: 'u' :: hexChars 4 c.toNat
  else [c]

def stringLetters (t : Text) : List Letter :=
  .char '"' :: (t.letters.flatMap (Letter.image escapedChar) ++ [.char '"'])

def integerChars (n : Int) : List Char :=
  if n < 0 then '-' :: digitsOf n.natAbs else digitsOf n.natAbs

def numberChars : Number → List Char
  | .whole n => integerChars n
  | .real x => layout.chars x

mutual
def letters : Json → List Letter
  | .null => "null".toList.map .char
  | .bool b => (if b then "true" else "false").toList.map .char
  | .number n => (numberChars n).map .char
  | .text t => stringLetters t
  | .list items => .char '[' :: itemLetters items
  | .object fields => .char '\x7b' :: fieldLetters fields

/-- the items of a list with its closing bracket -/
def itemLetters : List Json → List Letter
  | [] => [.char ']']
  | v :: vs => letters v ++ moreItemLetters vs

def moreItemLetters : List Json → List Letter
  | [] => [.char ']']
  | v :: vs => .char ',' :: .char ' ' :: (letters v ++ moreItemLetters vs)

/-- the fields of an object with its closing brace -/
def fieldLetters : List (Text × Json) → List Letter
  | [] => [.char '\x7d']
  | (name, v) :: fs => stringLetters name ++ .char ':' :: .char ' ' :: (letters v ++ moreFieldLetters fs)

def moreFieldLetters : List (Text × Json) → List Letter
  | [] => [.char '\x7d']
  | (name, v) :: fs =>
    .char ',' :: .char ' ' :: (stringLetters name ++ .char ':' :: .char ' ' :: (letters v ++ moreFieldLetters fs))
end

/-- a value as JSON, U+FFFD for each lone half -/
def chars (v : Json) : List Char := v.letters.map Letter.masked

mutual
/-- every integer inside has at most `digitLimit` digits -/
def hasShortIntegers : Json → Bool
  | .number (.whole n) => (digitsOf n.natAbs).length ≤ digitLimit
  | .list items => haveShortIntegers items
  | .object fields => fieldsShort fields
  | _ => true

def haveShortIntegers : List Json → Bool
  | [] => true
  | v :: vs => hasShortIntegers v && haveShortIntegers vs

def fieldsShort : List (Text × Json) → Bool
  | [] => true
  | (_, v) :: fs => hasShortIntegers v && fieldsShort fs
end

/-- no lone half stands in what is written for the value -/
def isWhole (v : Json) : Bool := !v.letters.any Letter.isHalf

/-- the value can be put into a file -/
def isPrintable (v : Json) : Bool := v.hasShortIntegers && v.isWhole

end TileCrew.Json
