/-
Commands: whom they address and what they order. A command addresses one agent by name or, as `all`, every agent; names
count under case folding. The JSON form has one field per kind of order for its arguments, null for all kinds but one;
`Command.check` accepts exactly the objects in which the arguments that are there fit the kind.
-/
import TileCrew.Crew.Action
import TileCrew.Text.Casing

namespace TileCrew

inductive Order where
  | move (x y : Int)
  | explore
  | gather (resource : Text)
  | build (building : Text)
  | say (message : Text)
deriving DecidableEq, Repr

/-- an order and whom it is for -/
structure Command where
  target : Text
  order : Order
deriving DecidableEq, Repr

def Order.verb : Order → Verb
  | .move .. => .move
  | .explore => .explore
  | .gather _ => .gather
  | .build _ => .build
  | .say _ => .say

/-- a target that means every agent -/
def isBroadcast (target : Text) : Bool := Text.fold target == "all"

def Command.isBroadcast (c : Command) : Bool := TileCrew.isBroadcast c.target

namespace Command

open Schema

/-! ## Writing -/

/-- the arguments of an order, under the name of its verb -/
def arguments : Order → List (Text × Json)
  | .move x y => [("move", .object [("x", .int x), ("y", .int y)])]
  | .explore => []
  | .gather resource => [("gather", .object [("resource", .text resource)])]
  | .build building => [("build", .object [("structure", .text building)])]
  | .say message => [("say", .object [("message", .text message)])]

/-- the verbs that take arguments -/
def argumentVerbs : List Verb := [.move, .gather, .build, .say]

def toJson (c : Command) : Json :=
  .object (("target", .text c.target) :: ("kind", .text c.order.verb.name) ::
    argumentVerbs.map fun v => (v.name, (Json.lookup v.name (arguments c.order)).getD .null))

/-! ## Checking -/

/-- the fields of a command, each by itself in order -/
structure Draft where
  target : Text
  kind : Verb
  move : Option (Int × Int)
  gather : Option Text
  build : Option Text
  say : Option Text

def checkPoint : Json → Checked (Int × Int) :=
  record fun fields =>
    (fun x y _ => (x, y)) <$> required fields "x" integer <*> required fields "y" integer <*>
      noOthers fields ["x", "y"]

def checkArgument (name : String) : Json → Checked Text :=
  record fun fields => (fun s _ => s) <$> required fields name text <*> noOthers fields [name]

def checkDraft : Json → Checked Draft :=
  record fun fields =>
    (fun target kind move gather build say _ => ⟨target, kind, move, gather, build, say⟩) <$>
      required fields "target" text <*> required fields "kind" (word Verb.byName .notWord) <*>
      optional fields "move" none (nullable checkPoint) <*>
      optional fields "gather" none (nullable (checkArgument "resource")) <*>
      optional fields "build" none (nullable (checkArgument "structure")) <*>
      optional fields "say" none (nullable (checkArgument "message")) <*>
      noOthers fields ["target", "kind", "move", "gather", "build", "say"]

def Draft.has (d : Draft) : Verb → Bool
  | .move => d.move.isSome
  | .explore => false
  | .gather => d.gather.isSome
  | .build => d.build.isSome
  | .say => d.say.isSome

/-- what is wrong with the arguments of a verb: they are needed and missing, or there and not fitting -/
def Draft.complaint? (d : Draft) (v : Verb) : Option String :=
  let kind := Text.upper d.kind.name
  if v = d.kind then (if d.has v then none else some (kind ++ " requires " ++ v.name ++ " args"))
  else if d.has v then some (kind ++ " cannot include " ++ v.name ++ " args")
  else none

/-- the order that the fields give, none where its arguments are missing -/
def Draft.order? (d : Draft) : Option Order :=
  match d.kind with
  | .move => d.move.map fun p => .move p.1 p.2
  | .explore => some .explore
  | .gather => d.gather.map .gather
  | .build => d.build.map .build
  | .say => d.say.map .say

/-- the command that fields give: the first verb with a complaint decides; without a complaint the order is there -/
def Draft.toCommand (d : Draft) : Checked Command :=
  match argumentVerbs.findSome? d.complaint?, d.order? with
  | some wording, _ => .fail (.rule wording)
  | none, some order => .valid ⟨d.target, order⟩
  | none, none => .fail .missing

def check (v : Json) : Checked Command := (checkDraft v).andThen Draft.toCommand

def title : String := "Command"

end Command

end TileCrew
