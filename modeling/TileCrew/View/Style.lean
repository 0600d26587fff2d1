/-
Styles in words. A definition is blank, or `none`, or a row of words: attributes (`bold`), `not` and an attribute, `on`
and a colour, `link` and an address, a colour. A colour is `default`, a name, `#` and six hexadecimal digits,
`color(N)` or `rgb(R,G,B)` with numbers up to 255. `isUsable` tells whether a definition is of this form; a component of
`rgb` that is no numeral is a fault of its own. `agentStyle` is the style of an agent of a given colour.
-/
import TileCrew.Fault
import TileCrew.Text.Casing
import TileCrew.Text.Numeral
import TileCrew.View.ColorNames

namespace TileCrew.Style

open Text

/-! ## Colours -/

def isHexDigit (c : Char) : Bool := isAsciiDigit c || ('a' ≤ c && c ≤ 'f')

/-- what stands between an opening, like `rgb(`, and a closing bracket at the end -/
def bracketed? (opening : String) (cs : List Char) : Option (List Char) :=
  if opening.toList.isPrefixOf cs && cs.getLast? == some ')' then some (cs.drop opening.length).dropLast else none

/-- the pieces between commas, `piece` being the one under way, last character first -/
def cutCommas (piece : List Char) : List Char → List (List Char)
  | [] => [piece.reverse]
  | c :: cs => if c = ',' then piece.reverse :: cutCommas [] cs else cutCommas (c :: piece) cs

def component (cs : List Char) : Except Fault Int :=
  match readInteger (String.ofList cs) with
  | .ok n => .ok n
  | .error .malformed => .error (.integerText (String.ofList cs))
  | .error (.tooLong n) => .error (.longNumeral n)

def isHexColor (cs : List Char) : Bool :=
  match cs with
  | '#' :: ds => ds.length == 6 && ds.all isHexDigit
  | _ => false

/-- a place of the palette: one to three digits, at most 255 -/
def isPaletteColor (cs : List Char) : Bool :=
  match bracketed? "color(" cs with
  | some ds => 1 ≤ ds.length && ds.length ≤ 3 && ds.all isAsciiDigit && ofDigits (ds.map asciiValue) ≤ 255
  | none => false

def isMixedColor (cs : List Char) : Except Fault Bool :=
  match bracketed? "rgb(" cs with
  | none => .ok false
  | some inner =>
    if inner.isEmpty || !inner.all (fun c => (digitValue? c).isSome || isBlank c || c == ',') then .ok false
    else
      match cutCommas [] inner with
      | [r, g, b] => do
        let r ← component r
        let g ← component g
        let b ← component b
        return r ≤ 255 && g ≤ 255 && b ≤ 255
      | _ => .ok false

def isColor (word : String) : Except Fault Bool :=
  let w := lower word
  if w == "default" || isColorName w || isHexColor w.toList || isPaletteColor w.toList then .ok true
  else isMixedColor w.toList

/-! ## Definitions -/

def attributes : List String :=
  [ "dim", "d", "bold", "b", "italic", "i", "underline", "u", "blink", "blink2", "reverse", "r", "conceal", "c",
    "strike", "s", "underline2", "uu", "frame", "encircle", "overline", "o" ]

/-- a row of words of a definition -/
def areUsable : List String → Except Fault Bool
  | [] => .ok true
  | word :: rest =>
    let w := lower word
    if w == "on" then
      match rest with
      | [] => .ok false
      | color :: rest => do if ← isColor color then areUsable rest else return false
    else if w == "not" then
      match rest with
      | [] => .ok false
      | quality :: rest => if attributes.contains quality then areUsable rest else .ok false
    else if w == "link" then
      match rest with
      | [] => .ok false
      | _ :: rest => areUsable rest
    else if attributes.contains w then areUsable rest
    else do if ← isColor w then areUsable rest else return false

def isUsable (definition : String) : Except Fault Bool :=
  match words definition.toList with
  | [] => .ok true
  | ws => if strip definition == "none" then .ok true else areUsable (ws.map String.ofList)

/-! ## Agents -/

/-- the colour of an agent whose own is of no use -/
def fallbackColor : String := "bright_cyan"

/-- the style of an agent of a given colour, which is judged with U+FFFD for each lone half -/
def agentStyle (color : Text) : Except Fault Text :=
  (isUsable color.masked).map fun usable => "bold " ++ (if usable then color else fallbackColor : Text)

end TileCrew.Style
