/-
JSON values. Numbers keep the form they were written in, integer or double, and an object keeps its fields in the order
in which their names first came; a later field of the same name replaces the value in place (`putField`).
-/
import TileCrew.Arithmetic.Binary64
import TileCrew.Text.Letter

namespace TileCrew

inductive Json where
  | null
  | bool (b : Bool)
  | number (n : Number)
  | text (t : Text)
  | list (items : List Json)
  | object (fields : List (Text × Json))

namespace Json

def int (n : Int) : Json := .number (.whole n)

def float (x : Float) : Json := .number (.real x)

/-- a text, or null where there is none -/
def text? : Option Text → Json
  | none => .null
  | some t => .text t

/-- an integer, or null where there is none -/
def int? : Option Int → Json
  | none => .null
  | some n => .int n

def lookup (name : Text) (fields : List (Text × Json)) : Option Json :=
  (fields.find? (·.1 == name)).map (·.2)

/-- the fields with one set: in place where the name is there, else at the end -/
def putField (name : Text) (v : Json) : List (Text × Json) → List (Text × Json)
  | [] => [(name, v)]
  | f :: fs => if f.1 = name then (name, v) :: fs else f :: putField name v fs

/-- neither null, false, zero nor empty -/
def isSubstantial : Json → Bool
  | .null => false
  | .bool b => b
  | .number n => !n.equals 0
  | .text t => !t.isEmpty
  | .list items => !items.isEmpty
  | .object fields => !fields.isEmpty

end Json

end TileCrew
