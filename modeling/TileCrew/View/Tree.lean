/-
What is shown, as a tree: texts with styles on parts of them, panels, groups, columns and tables. A styled text leaves
out the letters that would move the cursor (`isShown`). For a terminal without styles a view is lines of plain characters
(`lines`): the parts of a panel are set in under its title, the cells of a row stand side by side with bars between them.
-/
import TileCrew.Json.Value

namespace TileCrew

/-- a style on the letters from `start` up to before `stop` -/
structure Span where
  start : Nat
  stop : Nat
  style : Text
deriving DecidableEq, Repr

/-- text with a style for all of it and styles for parts -/
structure StyledText where
  plain : Text
  style : Text := ""
  spans : List Span := []
deriving DecidableEq, Repr

namespace StyledText

/-- a letter that is shown: not a bell, a backspace, a vertical tab, a form feed or a carriage return -/
def isShown (l : Letter) : Bool := !([7, 8, 11, 12, 13].contains l.code)

def shownPart (t : Text) : Text := ⟨t.letters.filter isShown⟩

/-- a text in one style -/
def ofText (s : Text) (style : Text := "") : StyledText := { plain := shownPart s, style }

/-- a styled piece at the end, with a span of its own -/
def append (t : StyledText) (piece style : Text) : StyledText :=
  let start := t.plain.letters.length
  let piece := shownPart piece
  { t with plain := t.plain ++ piece, spans := t.spans ++ [⟨start, start + piece.letters.length, style⟩] }

end StyledText

/-- what is shown -/
inductive View where
  | plain (t : Text)
  | text (t : StyledText)
  | panel (title : String) (body : View)
  | group (parts : List View)
  | columns (parts : List View)
  | table (title : Option String) (headers : List String) (rows : List (List View))

namespace View

def note (t : Text) : View := .text (.ofText t)

/-! ## Lines -/

/-- a line set in under a title -/
def setIn (line : String) : String := "  " ++ line

mutual
def lines : View → List String
  | .plain t => [t.masked]
  | .text t => t.plain.masked.splitOn "\n"
  | .panel title body => title :: (lines body).map setIn
  | .group parts => linesOfAll parts
  | .columns parts => linesOfAll parts
  | .table title _ rows => title.toList ++ linesOfRows rows

def linesOfAll : List View → List String
  | [] => []
  | v :: vs => lines v ++ linesOfAll vs

def linesOfRows : List (List View) → List String
  | [] => []
  | row :: rows => " | ".intercalate (linesOfAll row) :: linesOfRows rows
end

end View

end TileCrew
