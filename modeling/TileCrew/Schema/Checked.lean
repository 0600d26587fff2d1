/-
Checking JSON values against records. A check gives the typed value or the list of all issues: checks of several fields
are combined so that issues of all of them are kept, in the order of the fields (`Checked.ap`).
Scalars are read leniently: an integer field takes integers, truth values, doubles without fraction and numerals in text;
a real field takes every number that has a double, truth values and numerals. Text fields take text only. An integer
may be of any size, in text of up to `Text.digitLimit` digits; a double must stay below 2^63. A lone half of a surrogate
pair may stand in a text, but neither in a numeral, a word or the name of a field.
-/
import TileCrew.Schema.Issue
import TileCrew.Schema.Numeral
import TileCrew.Json.Value

namespace TileCrew.Schema

/-! ## Results of checks -/

/-- the value that was asked for, or why there is none -/
inductive Checked (α : Type) where
  | valid (a : α)
  | invalid (issues : List Issue)

namespace Checked

/-- a single issue at the value itself -/
def fail {α : Type} (c : Cause) : Checked α := .invalid [⟨[], c⟩]

def map {α β : Type} (f : α → β) : Checked α → Checked β
  | .valid a => .valid (f a)
  | .invalid es => .invalid es

/-- two checks side by side: the issues of the first come before those of the second -/
def ap {α β : Type} : Checked (α → β) → Checked α → Checked β
  | .valid f, .valid a => .valid (f a)
  | .valid _, .invalid es => .invalid es
  | .invalid es, .valid _ => .invalid es
  | .invalid es, .invalid es' => .invalid (es ++ es')

instance : Functor Checked := { map := fun f c => c.map f }

instance : Applicative Checked := { pure := .valid, seq := fun f c => f.ap (c ()) }

/-- a check one step deeper: its issues are reported under that step -/
def under {α : Type} (s : Step) : Checked α → Checked α
  | .valid a => .valid a
  | .invalid es => .invalid (es.map fun e => { e with path := s :: e.path })

/-- a second check of a valid value -/
def andThen {α β : Type} (c : Checked α) (f : α → Checked β) : Checked β :=
  match c with
  | .valid a => f a
  | .invalid es => .invalid es

def report {α : Type} (title : String) : Checked α → Except Report α
  | .valid a => .ok a
  | .invalid es => .error ⟨title, es⟩

end Checked

/-! ## Scalars -/

def text : Json → Checked Text
  | .text t => .valid t
  | _ => .fail .notText

/-- the integer that a text spells -/
def integerOfText (t : Text) : Checked Int :=
  if t.isWhole then
    match Numeral.integer t.masked with
    | .ok n => .valid n
    | .error .malformed => .fail .integerText
    | .error (.tooLong _) => .fail .integerSize
  else .fail .notUnicode

/-- the magnitude from which on a double is not taken for an integer -/
def wholeBound : Nat := 2 ^ 63

def integerOfReal (x : Float) : Checked Int :=
  match Binary64.value x with
  | .finite v =>
    if !v.isIntegral then .fail .integerFraction
    else if v.truncate.natAbs < wholeBound then .valid v.truncate
    else .fail .integerSize
  | _ => .fail .notFinite

def integer : Json → Checked Int
  | .number (.whole n) => .valid n
  | .number (.real x) => integerOfReal x
  | .bool b => .valid (if b then 1 else 0)
  | .text t => integerOfText t
  | _ => .fail .notInteger

def realOfText (t : Text) : Checked Float :=
  if t.isWhole then
    match Numeral.real? t.masked with
    | some x => .valid x
    | none => .fail .realText
  else .fail .notUnicode

def realOfNumber (n : Number) : Checked Float :=
  match n.toFloat? with
  | some x => .valid x
  | none => .fail .notReal

def real : Json → Checked Float
  | .number n => realOfNumber n
  | .bool b => .valid (if b then 1 else 0)
  | .text t => realOfText t
  | _ => .fail .notReal

/-- one of a list of words -/
def word {α : Type} (words : List (String × α)) (cause : Cause) : Json → Checked α
  | .text t =>
    match words.find? fun w => Text.ofString w.1 == t with
    | some w => .valid w.2
    | none => .fail (if t.isWhole then cause else .notUnicode)
  | _ => .fail cause

/-! ## Lists and records -/

/-- null, or a value that the check accepts -/
def nullable {α : Type} (check : Json → Checked α) : Json → Checked (Option α)
  | .null => .valid none
  | v => (check v).map some

/-- items that the check accepts, counted from i -/
def items {α : Type} (check : Json → Checked α) (i : Nat) : List Json → Checked (List α)
  | [] => .valid []
  | v :: vs => ((check v).under (.item i)).map List.cons |>.ap (items check (i + 1) vs)

def list {α : Type} (check : Json → Checked α) : Json → Checked (List α)
  | .list vs => items check 0 vs
  | _ => .fail .notList

/-- the fields of a record, under a check -/
def record {α : Type} (check : List (Text × Json) → Checked α) : Json → Checked α
  | .object fields => if fields.all (·.1.isWhole) then check fields else .fail .notUnicode
  | _ => .fail .notRecord

/-- a field that has to be there -/
def required {α : Type} (fields : List (Text × Json)) (name : String) (check : Json → Checked α) : Checked α :=
  match Json.lookup name fields with
  | some v => (check v).under (.field name)
  | none => Checked.fail .missing |>.under (.field name)

/-- a field that may be left out -/
def optional {α : Type} (fields : List (Text × Json)) (name : String) (default : α) (check : Json → Checked α) :
    Checked α :=
  match Json.lookup name fields with
  | some v => (check v).under (.field name)
  | none => .valid default

/-- no fields but those named -/
def noOthers (fields : List (Text × Json)) (names : List String) : Checked Unit :=
  match (fields.filter fun f => !(names.map Text.ofString).contains f.1).map fun f => Issue.mk [.field f.1] .extra with
  | [] => .valid ()
  | es => .invalid es

end TileCrew.Schema
