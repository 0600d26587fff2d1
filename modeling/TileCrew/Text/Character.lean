/-
Classes of characters, and what is cut and stripped by them.
Of blanks two classes are in use. `isBlank` is the wider one: prompts, scripts and styles are stripped and split by it.
`isSpace` leaves out the four information separators U+001C to U+001F: numerals may be surrounded by it only.
Decimal digits come from every script; Unicode 14.0 has them in blocks of ten consecutive code points, zero first.
Files are read with every kind of newline turned into a line feed (`unifyNewlines`). Command scripts are then cut at
eleven kinds of line break (`splitLines`), replay logs at line feeds alone (`splitFeeds`).
-/
namespace TileCrew.Text

/-! ## Blanks -/

/-- blank in a line of text -/
def isBlank (c : Char) : Bool :=
  let n := c.toNat
  (0x09 ≤ n && n ≤ 0x0d) || (0x1c ≤ n && n ≤ 0x20) || n == 0x85 || n == 0xa0 || n == 0x1680 ||
    (0x2000 ≤ n && n ≤ 0x200a) || n == 0x2028 || n == 0x2029 || n == 0x202f || n == 0x205f || n == 0x3000

/-- blank around a numeral -/
def isSpace (c : Char) : Bool := isBlank c && !(0x1c ≤ c.toNat && c.toNat ≤ 0x1f)

/-- the part between the first and the last character outside the class `p` -/
def stripBy (p : Char → Bool) (cs : List Char) : List Char :=
  ((cs.dropWhile p).reverse.dropWhile p).reverse

def strip (s : String) : String := String.ofList (stripBy isBlank s.toList)

/-- the maximal runs of characters that are not blank, `word` being the run under way, last character first -/
def words.go (word : List Char) : List Char → List (List Char)
  | [] => if word.isEmpty then [] else [word.reverse]
  | c :: cs =>
    if isBlank c then (if word.isEmpty then words.go [] cs else word.reverse :: words.go [] cs)
    else words.go (c :: word) cs

def words (cs : List Char) : List (List Char) := words.go [] cs

/-! ## Digits -/

/-- the zeros of the decimal digit blocks -/
def digitZeros : List Nat :=
  [0x30, 0x660, 0x6f0, 0x7c0, 0x966, 0x9e6, 0xa66, 0xae6, 0xb66, 0xbe6, 0xc66, 0xce6, 0xd66, 0xde6, 0xe50, 0xed0,
   0xf20, 0x1040, 0x1090, 0x17e0, 0x1810, 0x1946, 0x19d0, 0x1a80, 0x1a90, 0x1b50, 0x1bb0, 0x1c40, 0x1c50, 0xa620,
   0xa8d0, 0xa900, 0xa9d0, 0xa9f0, 0xaa50, 0xabf0, 0xff10, 0x104a0, 0x10d30, 0x11066, 0x110f0, 0x11136, 0x111d0,
   0x112f0, 0x11450, 0x114d0, 0x11650, 0x116c0, 0x11730, 0x118e0, 0x11950, 0x11c50, 0x11d50, 0x11da0, 0x16a60,
   0x16ac0, 0x16b50, 0x1d7ce, 0x1d7d8, 0x1d7e2, 0x1d7ec, 0x1d7f6, 0x1e140, 0x1e2f0, 0x1e950, 0x1fbf0]

/-- the value of a decimal digit of any script -/
def digitValue? (c : Char) : Option Nat :=
  (digitZeros.find? fun z => z ≤ c.toNat && c.toNat < z + 10).map (c.toNat - ·)

/-- one of the digits 0 to 9 of ASCII -/
def isAsciiDigit (c : Char) : Bool := '0' ≤ c && c ≤ '9'

def asciiValue (c : Char) : Nat := c.toNat - '0'.toNat

/-- the number that a run of digit values stands for -/
def ofDigits (ds : List Nat) : Nat := ds.foldl (fun n d => 10 * n + d) 0

/-! ## Lines -/

/-- `\r\n` and a lone `\r` become `\n` -/
def unifyNewlines : List Char → List Char
  | [] => []
  | '\r' :: '\n' :: cs => '\n' :: unifyNewlines cs
  | c :: cs => (if c = '\r' then '\n' else c) :: unifyNewlines cs

/-- ends a line of a script, by itself or as `\r\n` -/
def isLineBreak (c : Char) : Bool :=
  let n := c.toNat
  (0x0a ≤ n && n ≤ 0x0d) || (0x1c ≤ n && n ≤ 0x1e) || n == 0x85 || n == 0x2028 || n == 0x2029

/-- lines without their breaks, `line` being the one under way, last character first -/
def splitLines.go (line : List Char) : List Char → List (List Char)
  | [] => if line.isEmpty then [] else [line.reverse]
  | '\r' :: '\n' :: cs => line.reverse :: splitLines.go [] cs
  | c :: cs => if isLineBreak c then line.reverse :: splitLines.go [] cs else splitLines.go (c :: line) cs

/-- the lines of a text without their breaks; a break at the end starts no further line -/
def splitLines (cs : List Char) : List (List Char) := splitLines.go [] cs

/-- the pieces between line feeds, `piece` being the one under way, last character first -/
def splitFeeds.go (piece : List Char) : List Char → List (List Char)
  | [] => [piece.reverse]
  | c :: cs => if c = '\n' then piece.reverse :: splitFeeds.go [] cs else splitFeeds.go (c :: piece) cs

/-- the pieces between line feeds: one more than there are feeds -/
def splitFeeds (cs : List Char) : List (List Char) := splitFeeds.go [] cs

end TileCrew.Text
