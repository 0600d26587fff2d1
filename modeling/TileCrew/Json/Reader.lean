/-
Reading JSON text. The grammar is the standard one with three additions: NaN, Infinity and -Infinity are numbers, of
fields with one name the last counts, and the escape of half a surrogate pair that stands alone gives that half. The
first fault ends the reading; it is kept as a complaint with the rest of the text at which it arose, from which line,
column and position are found. An integer of more than `Text.digitLimit` digits is a fault of its own, and so is a list
or an object within `depthLimit` others.
-/
import TileCrew.Json.Value
import TileCrew.Text.Numeral

namespace TileCrew.Json

open Text

/-! ## Faults -/

/-- what is wrong with a text as JSON -/
inductive Complaint where
  | value
  | fieldName
  | colon
  | comma
  | extraData
  | openString
  | controlCharacter
  | escape
  | unicodeEscape
  | byteOrderMark
deriving DecidableEq, Repr

/-- what holds other values -/
inductive Container where
  | list
  | object
deriving DecidableEq, Repr

def Container.name : Container → String
  | .list => "array"
  | .object => "object"

/-- why reading ended: a complaint where `rest` was left, an integer that is too long, or a container that is too deep -/
inductive Stop where
  | complaint (c : Complaint) (rest : List Char)
  | tooLong (digits : Nat)
  | tooDeep (c : Container)
deriving DecidableEq, Repr

abbrev Read (α : Type) := Except Stop (α × List Char)

/-! ## Strings -/

def hexValue? (c : Char) : Option Nat :=
  if '0' ≤ c ∧ c ≤ '9' then some (c.toNat - '0'.toNat)
  else if 'a' ≤ c ∧ c ≤ 'f' then some (c.toNat - 'a'.toNat + 10)
  else if 'A' ≤ c ∧ c ≤ 'F' then some (c.toNat - 'A'.toNat + 10)
  else none

/-- the code unit that four hexadecimal digits give -/
def hexUnit? (a b c d : Char) : Option Nat := do
  let a ← hexValue? a
  let b ← hexValue? b
  let c ← hexValue? c
  let d ← hexValue? d
  return ((a * 16 + b) * 16 + c) * 16 + d

/-- the character behind a backslash, other than `u` -/
def simpleEscape? (c : Char) : Option Nat :=
  if c = '"' ∨ c = '\\' ∨ c = '/' then some c.toNat
  else if c = 'b' then some 0x08
  else if c = 'f' then some 0x0c
  else if c = 'n' then some 0x0a
  else if c = 'r' then some 0x0d
  else if c = 't' then some 0x09
  else none

/-- the code units of a string up to its closing quote; `opening` is the text from the opening quote on. An escape by
    code point needs a character behind it. -/
def stringUnits (opening : List Char) : List Char → Read (List Nat)
  | [] => .error (.complaint .openString opening)
  | '"' :: cs => .ok ([], cs)
  | '\\' :: 'u' :: a :: b :: c :: d :: e :: cs =>
    match hexUnit? a b c d with
    | none => .error (.complaint .unicodeEscape ('u' :: a :: b :: c :: d :: e :: cs))
    | some n => (stringUnits opening (e :: cs)).map fun r => (n :: r.1, r.2)
  | '\\' :: c :: cs =>
    if c = 'u' then .error (.complaint .unicodeEscape (c :: cs))
    else
      match simpleEscape? c with
      | none => .error (.complaint .escape ('\\' :: c :: cs))
      | some n => (stringUnits opening cs).map fun r => (n :: r.1, r.2)
  | c :: cs =>
    if c = '\\' then .error (.complaint .openString opening)
    else if c.toNat ≤ 0x1f then .error (.complaint .controlCharacter (c :: cs))
    else (stringUnits opening cs).map fun r => (c.toNat :: r.1, r.2)

/-- first half of a surrogate pair -/
def isHighHalf (n : Nat) : Bool := 0xd800 ≤ n && n ≤ 0xdbff

/-- second half of a surrogate pair -/
def isLowHalf (n : Nat) : Bool := 0xdc00 ≤ n && n ≤ 0xdfff

/-- the letter of a code unit that is no part of a pair -/
def unitLetter (n : Nat) : Letter :=
  if h : 0xd800 ≤ n ∧ n ≤ 0xdfff then .half ⟨n - 0xd800, by omega⟩ else .char (Char.ofNat n)

/-- the letters of code units, surrogate pairs joined -/
def joinUnits : List Nat → List Letter
  | [] => []
  | [n] => [unitLetter n]
  | m :: n :: ns =>
    if isHighHalf m && isLowHalf n then
      .char (Char.ofNat (0x10000 + (m - 0xd800) * 0x400 + (n - 0xdc00))) :: joinUnits ns
    else unitLetter m :: joinUnits (n :: ns)

/-- a string, its opening quote already passed -/
def readString (cs : List Char) : Read Text :=
  (stringUnits ('"' :: cs) cs).map fun r => (⟨joinUnits r.1⟩, r.2)

/-! ## Numbers -/

/-- the digits behind a point: at least one, else the point is not part of the number -/
def pointDigits (cs : List Char) : List Char × List Char :=
  match cs with
  | '.' :: d :: rest =>
    if isAsciiDigit d then (d :: rest.takeWhile isAsciiDigit, rest.dropWhile isAsciiDigit) else ([], cs)
  | _ => ([], cs)

/-- an exponent: a sign and at least one digit behind the letter, else the letter is not part of the number -/
def exponentPart (cs : List Char) : Option Int × List Char :=
  match cs with
  | c :: rest =>
    if c = 'e' ∨ c = 'E' then
      let (negative, rest) := takeSign rest
      let ds := rest.takeWhile isAsciiDigit
      if ds.isEmpty then (none, cs)
      else
        let n : Int := ofDigits (ds.map asciiValue)
        (some (if negative then -n else n), rest.dropWhile isAsciiDigit)
    else (none, cs)
  | [] => (none, cs)

/-- the digits before the point: one zero, or a run that starts with another digit -/
def wholeDigits (cs : List Char) : List Char × List Char :=
  match cs with
  | '0' :: rest => (['0'], rest)
  | _ => (cs.takeWhile isAsciiDigit, cs.dropWhile isAsciiDigit)

/-- a number: a double if it has a point or an exponent, else an integer -/
def readNumber (start : List Char) : Read Json :=
  let (negative, cs) := match start with
    | '-' :: rest => (true, rest)
    | _ => (false, start)
  let (ds, cs) := wholeDigits cs
  if ds.isEmpty then .error (.complaint .value start)
  else
    let (fs, cs) := pointDigits cs
    let (e?, cs) := exponentPart cs
    if fs.isEmpty && e?.isNone then
      if digitLimit < ds.length then .error (.tooLong ds.length)
      else
        let n : Int := ofDigits (ds.map asciiValue)
        .ok (.int (if negative then -n else n), cs)
    else
      let d : Decimal.Scaled := ⟨ofDigits ((ds ++ fs).map asciiValue), e?.getD 0 - fs.length⟩
      .ok (.float (Decimal.readSigned negative d), cs)

def fixedWords : List (List Char × Json) :=
  [ ("null".toList, .null), ("true".toList, .bool true), ("false".toList, .bool false),
    ("NaN".toList, .float Binary64.nan), ("Infinity".toList, .float Binary64.infinity),
    ("-Infinity".toList, .float (-Binary64.infinity)) ]

/-- a fixed word, or a number -/
def readScalar (cs : List Char) : Read Json :=
  match fixedWords.find? fun w => w.1.isPrefixOf cs with
  | some w => .ok (w.2, cs.drop w.1.length)
  | none => readNumber cs

/-! ## Values -/

def isGap (c : Char) : Bool := c = ' ' || c = '\t' || c = '\n' || c = '\r'

/-- the text behind the blanks at its start -/
def skipGap (cs : List Char) : List Char := cs.dropWhile isGap

/-- how many containers may lie within each other -/
def depthLimit : Nat := 990

mutual
/-- a value that starts here and goes no more than `depth` containers deep; two steps of `fuel` are enough for every
    character of the text -/
def readValue : Nat → Nat → List Char → Read Json
  | 0, _, cs => .error (.complaint .value cs)
  | fuel + 1, depth, cs =>
    match cs, depth with
    | '"' :: rest, _ => (readString rest).map fun r => (.text r.1, r.2)
    | '[' :: _, 0 => .error (.tooDeep .list)
    | '\x7b' :: _, 0 => .error (.tooDeep .object)
    | '[' :: rest, depth + 1 =>
      match skipGap rest with
      | ']' :: rest => .ok (.list [], rest)
      | rest => (readItems fuel depth rest).map fun r => (.list r.1, r.2)
    | '\x7b' :: rest, depth + 1 =>
      match skipGap rest with
      | '\x7d' :: rest => .ok (.object [], rest)
      | rest => (readFields fuel depth [] rest).map fun r => (.object r.1, r.2)
    | _, _ => readScalar cs

/-- items up to the closing bracket; at least one -/
def readItems : Nat → Nat → List Char → Read (List Json)
  | 0, _, cs => .error (.complaint .value cs)
  | fuel + 1, depth, cs =>
    match readValue fuel depth cs with
    | .error e => .error e
    | .ok (v, rest) =>
      match skipGap rest with
      | ']' :: rest => .ok ([v], rest)
      | ',' :: rest => (readItems fuel depth (skipGap rest)).map fun r => (v :: r.1, r.2)
      | rest => .error (.complaint .comma rest)

/-- fields up to the closing brace, put to the ones already read; at least one -/
def readFields : Nat → Nat → List (Text × Json) → List Char → Read (List (Text × Json))
  | 0, _, _, cs => .error (.complaint .value cs)
  | fuel + 1, depth, fields, cs =>
    match cs with
    | '"' :: rest =>
      match readString rest with
      | .error e => .error e
      | .ok (name, rest) =>
        match skipGap rest with
        | ':' :: rest =>
          match readValue fuel depth (skipGap rest) with
          | .error e => .error e
          | .ok (v, rest) =>
            let fields := putField name v fields
            match skipGap rest with
            | '\x7d' :: rest => .ok (fields, rest)
            | ',' :: rest => readFields fuel depth fields (skipGap rest)
            | rest => .error (.complaint .comma rest)
        | rest => .error (.complaint .colon rest)
    | _ => .error (.complaint .fieldName cs)
end

/-- a whole text as one value, blanks around it allowed -/
def readChars (cs : List Char) : Except Stop Json :=
  match cs with
  | '\ufeff' :: _ => .error (.complaint .byteOrderMark cs)
  | _ =>
    match readValue (2 * cs.length + 2) depthLimit (skipGap cs) with
    | .error e => .error e
    | .ok (v, rest) =>
      match skipGap rest with
      | [] => .ok v
      | rest => .error (.complaint .extraData rest)

/-! ## Reports -/

/-- why a text is no JSON value: a complaint and its place, an integer that is too long, a container that is too deep -/
inductive Fault where
  | malformed (c : Complaint) (line column position : Nat)
  | tooLong (digits : Nat)
  | tooDeep (c : Container)
deriving DecidableEq, Repr

/-- the place at which `rest` is left of a text: line and column from 1, position from 0 -/
def placeOf (cs rest : List Char) : Nat × Nat × Nat :=
  let position := cs.length - rest.length
  let before := cs.take position
  (before.count '\n' + 1, (before.reverse.takeWhile (· ≠ '\n')).length + 1, position)

def read (s : String) : Except Fault Json :=
  match readChars s.toList with
  | .ok v => .ok v
  | .error (.tooLong n) => .error (.tooLong n)
  | .error (.tooDeep c) => .error (.tooDeep c)
  | .error (.complaint c rest) =>
    let (line, column, position) := placeOf s.toList rest
    .error (.malformed c line column position)

def Complaint.message : Complaint → String
  | .value => "Expecting value"
  | .fieldName => "Expecting property name enclosed in double quotes"
  | .colon => "Expecting ':' delimiter"
  | .comma => "Expecting ',' delimiter"
  | .extraData => "Extra data"
  | .openString => "Unterminated string starting at"
  | .controlCharacter => "Invalid control character at"
  | .escape => "Invalid \\escape"
  | .unicodeEscape => "Invalid \\uXXXX escape"
  | .byteOrderMark => "Unexpected UTF-8 BOM (decode using utf-8-sig)"

end TileCrew.Json
