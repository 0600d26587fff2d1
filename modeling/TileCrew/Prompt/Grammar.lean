/-
The grammar of prompts. A line is a target, a verb and what the verb takes, with blanks between; the target is the first
word as it stands, verbs count in any case.
- `move to X,Y`: two runs of ASCII digits; between them blanks and at most one comma, but not nothing.
- `explore`: nothing follows.
- `gather R`, `build R`: the rest of the line in lower case, `say R`: the rest as it stands; it may hold no line feed.
A line of no such shape is no command; a coordinate with too many digits is a fault.
-/
import TileCrew.Crew.Command
import TileCrew.Fault
import TileCrew.Text.Numeral

namespace TileCrew.Prompt

open Text

/-! ## Words -/

/-- the first word and what follows the blanks behind it -/
def cutWord (cs : List Char) : List Char × List Char :=
  (cs.takeWhile (!isBlank ·), (cs.dropWhile (!isBlank ·)).dropWhile isBlank)

def standsFor (k c : Char) : Bool :=
  lowerAscii c == k || (k == 's' && c.toNat == 0x17f) || (k == 'i' && (c.toNat == 0x130 || c.toNat == 0x131))

/-- letter by letter, a word stands for a name in small letters -/
def spells : List Char → List Char → Bool
  | [], [] => true
  | k :: ks, c :: cs => standsFor k c && spells ks cs
  | _, _ => false

/-! ## Orders -/

def isSeparator (cs : List Char) : Bool :=
  !cs.isEmpty && cs.all (fun c => isBlank c || c == ',') && cs.count ',' ≤ 1

/-- the number of a run of ASCII digits -/
def readCoordinate (ds : List Char) : Except Fault Int :=
  if digitLimit < ds.length then .error (.longNumeral ds.length) else .ok (ofDigits (ds.map asciiValue))

/-- two coordinates and what separates them -/
def readPoint (cs : List Char) : Except Fault (Option Order) :=
  let xs := cs.takeWhile isAsciiDigit
  let rest := cs.dropWhile isAsciiDigit
  let gap := rest.takeWhile (!isAsciiDigit ·)
  let ys := rest.dropWhile (!isAsciiDigit ·)
  if !xs.isEmpty && isSeparator gap && !ys.isEmpty && ys.all isAsciiDigit then do
    let x ← readCoordinate xs
    let y ← readCoordinate ys
    return some (.move x y)
  else .ok none

/-- the argument that takes the rest of a line -/
def readRest (cs : List Char) : Option String :=
  if cs.isEmpty || cs.contains '\n' then none else some (String.ofList cs)

def readOrder (verb rest : List Char) : Except Fault (Option Order) :=
  if spells "move".toList verb then
    let (link, rest) := cutWord rest
    if spells "to".toList link then readPoint rest else .ok none
  else if spells "explore".toList verb then .ok (if rest.isEmpty then some .explore else none)
  else if spells "gather".toList verb then .ok ((readRest rest).map fun r => .gather (lower r))
  else if spells "build".toList verb then .ok ((readRest rest).map fun r => .build (lower r))
  else if spells "say".toList verb then .ok ((readRest rest).map fun (r : String) => .say r)
  else .ok none

/-! ## Lines -/

def readLine (line : List Char) : Except Fault (Option Command) :=
  let (target, rest) := cutWord line
  let (verb, rest) := cutWord rest
  (readOrder verb rest).map fun order => order.map (Command.mk (String.ofList target) ·)

/-- the command that a text is -/
def parse (text : String) : Except Fault (Option Command) := readLine (stripBy isBlank text.toList)

def parse? (text : Option String) : Except Fault (Option Command) := parse (text.getD "")

def help : String := "AgentName move to X,Y | explore | gather <resource> | build <structure> | say <msg>"

end TileCrew.Prompt
