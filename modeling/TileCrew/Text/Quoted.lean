/-
Text in quotes, as it is shown inside messages.
Single quotes are used unless the text holds a single quote and no double quote. The quote in use and the backslash
are escaped, tab, line feed and carriage return have short escapes, and every other character that is not printable is
written by its code point: \x and two digits, \u and four, or \U and eight.
-/
import TileCrew.Text.Letter
import TileCrew.Text.Printable

namespace TileCrew.Text

/-- a code point in hexadecimal, at least `width` digits -/
def hexChars (width n : Nat) : List Char := (Nat.toDigits 16 n).leftpad width '0'

/-- the escape of a character that is not shown as itself -/
def codeEscape (n : Nat) : List Char :=
  if n ≤ 0xff then '\\' :: 'x' :: hexChars 2 n
  else if n ≤ 0xffff then '\\' :: 'u' :: hexChars 4 n
  else '\\' :: 'U' :: hexChars 8 n

/-- one character inside quotes -/
def quotedChar (quote c : Char) : List Char :=
  if c = quote ∨ c = '\\' then ['\\', c]
  else if c = '\t' then ['\\', 't']
  else if c = '\n' then ['\\', 'n']
  else if c = '\r' then ['\\', 'r']
  else if isPrintable c then [c]
  else codeEscape c.toNat

def quotedLetter (quote : Char) : Letter → List Char
  | .char c => quotedChar quote c
  | .half n => codeEscape (Letter.half n).code

/-- the quote that a text is shown in -/
def quoteFor (cs : List Char) : Char :=
  if cs.contains '\'' && !cs.contains '"' then '"' else '\''

def quoted (t : Text) : String :=
  let q := quoteFor t.masked.toList
  String.ofList (q :: (t.letters.flatMap (quotedLetter q) ++ [q]))

end TileCrew.Text
