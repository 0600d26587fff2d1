/-
Full case mappings of text: lower case, upper case, and the folding under which names are compared.
A capital sigma is lowered to its final form at the end of a word: a cased letter goes before it and none follows,
case-ignorable characters being skipped on both sides. All else is mapped character by character; a lone half of a
surrogate pair is its own image.
-/
import TileCrew.Text.CaseTable
import TileCrew.Text.Letter

namespace TileCrew.Text

def inRanges (ranges : List (Nat × Nat)) (n : Nat) : Bool := ranges.any fun r => r.1 ≤ n && n ≤ r.2

def inRun (r : Nat × Nat × Nat × Int) (n : Nat) : Bool :=
  r.1 ≤ n && n ≤ r.2.1 && (n - r.1) % r.2.2.1 == 0

/-- the image of one character under a mapping given by runs and expansions -/
def mapChar (runs : List (Nat × Nat × Nat × Int)) (expansions : List (Nat × List Nat)) (c : Char) : List Char :=
  match expansions.find? (·.1 == c.toNat) with
  | some e => e.2.map Char.ofNat
  | none =>
    match runs.find? (inRun · c.toNat) with
    | some r => [Char.ofNat ((c.toNat : Int) + r.2.2.2).toNat]
    | none => [c]

/-- skipped by the rule for a final sigma -/
def isCaseIgnorable (c : Char) : Bool := inRanges CaseTable.caseIgnorable c.toNat

/-- the first character that is not case-ignorable is cased -/
def startsCased (cs : List Char) : Bool :=
  match cs.dropWhile isCaseIgnorable with
  | [] => false
  | c :: _ => inRanges CaseTable.casedLetters c.toNat

def lowerChar (c : Char) : List Char := mapChar CaseTable.lowerRuns CaseTable.lowerExpansions c

def capitalSigma : Char := Char.ofNat 0x3a3

/-- lower case of what follows, `before` being the characters already passed, nearest first -/
def lowerChars (before : List Char) : List Char → List Char
  | [] => []
  | c :: cs =>
    let image :=
      if c = capitalSigma then (if startsCased before && !startsCased cs then [Char.ofNat 0x3c2] else [Char.ofNat 0x3c3])
      else lowerChar c
    image ++ lowerChars (c :: before) cs

def lower (s : String) : String := String.ofList (lowerChars [] s.toList)

def upperChar (c : Char) : List Char := mapChar CaseTable.upperRuns CaseTable.upperExpansions c

def upper (s : String) : String := String.ofList (s.toList.flatMap upperChar)

def foldChar (c : Char) : List Char := mapChar CaseTable.foldRuns CaseTable.foldExpansions c

/-- a text under case folding: two texts differ in case alone iff their foldings agree -/
def fold (t : Text) : Text := ⟨t.letters.flatMap (Letter.image foldChar)⟩

end TileCrew.Text
