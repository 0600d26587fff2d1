/-
Paths of files. A path starts from the working folder or from the root and goes through names. Empty names and single
dots mean nothing and are left out, so two texts for one way give one path; `..` is kept, since what it leads to depends
on the files (`Store.walk`).
-/
namespace TileCrew

/-- a way to a file: its start, empty for the working folder, and the names it goes through -/
structure Path where
  start : String
  names : List String
deriving DecidableEq, Repr

namespace Path

/-- the pieces between slashes, `piece` being the one under way, last character first -/
def pieces (piece : List Char) : List Char → List String
  | [] => [String.ofList piece.reverse]
  | c :: cs => if c = '/' then String.ofList piece.reverse :: pieces [] cs else pieces (c :: piece) cs

/-- where a text starts from: the working folder, the root, or the second root that exactly two slashes name -/
def startOf : List Char → String
  | '/' :: '/' :: '/' :: _ => "/"
  | '/' :: '/' :: _ => "//"
  | '/' :: _ => "/"
  | _ => ""

def ofText (s : String) : Path :=
  ⟨startOf s.toList, (pieces [] s.toList).filter fun n => n ≠ "" ∧ n ≠ "."⟩

/-- the text of a path; the working folder is a dot -/
def text (p : Path) : String :=
  if p.start.isEmpty && p.names.isEmpty then "." else p.start ++ "/".intercalate p.names

/-- a path taken from a folder; one that has a start of its own is taken from there -/
def join (folder p : Path) : Path :=
  if p.start.isEmpty then ⟨folder.start, folder.names ++ p.names⟩ else p

def child (folder : Path) (name : String) : Path := ⟨folder.start, folder.names ++ [name]⟩

/-- the last name, empty where there is none -/
def name (p : Path) : String := p.names.getLastD ""

/-- the path without its last name -/
def parent (p : Path) : Path := ⟨p.start, p.names.dropLast⟩

end Path

end TileCrew
