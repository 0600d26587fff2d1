/-
What an agent can be told to do, and its JSON form: an object whose field `kind` names the action. `Action.check` reads
any of the five by that field; `Action.checkMove` reads a move alone, where `kind` may be left out. A queue may also hold
values that are no action (`Queued.unknown`).
-/
import TileCrew.Schema.Checked

namespace TileCrew

/-- what an agent does: go to a point, go to a tile, take a resource, put up a building, speak -/
inductive Action where
  | move (x y : Float)
  | explore (x y : Int)
  | gather (resource : Text)
  | build (building : Text)
  | say (message : Text)

/-- what stands in an agent's queue -/
inductive Queued where
  | action (a : Action)
  | unknown (v : Json)

inductive Verb where
  | move
  | explore
  | gather
  | build
  | say
deriving DecidableEq, Repr

namespace Verb

def name : Verb → String
  | .move => "move"
  | .explore => "explore"
  | .gather => "gather"
  | .build => "build"
  | .say => "say"

def byName : List (String × Verb) :=
  [("move", .move), ("explore", .explore), ("gather", .gather), ("build", .build), ("say", .say)]

end Verb

namespace Action

open Schema

def toJson : Action → Json
  | .move x y => .object [("kind", .text "move"), ("x", .float x), ("y", .float y)]
  | .explore x y => .object [("kind", .text "explore"), ("x", .int x), ("y", .int y)]
  | .gather resource => .object [("kind", .text "gather"), ("resource", .text resource)]
  | .build building => .object [("kind", .text "build"), ("structure", .text building)]
  | .say message => .object [("kind", .text "say"), ("message", .text message)]

def kindIs (v : Verb) (fields : List (Text × Json)) : Checked Unit :=
  optional fields "kind" () (word [(v.name, ())] .notLiteral)

def checkFields (fields : List (Text × Json)) : Verb → Checked Action
  | .move =>
    (fun _ x y _ => Action.move x y) <$> kindIs .move fields <*> required fields "x" real <*>
      required fields "y" real <*> noOthers fields ["kind", "x", "y"]
  | .explore =>
    (fun _ x y _ => Action.explore x y) <$> kindIs .explore fields <*> required fields "x" integer <*>
      required fields "y" integer <*> noOthers fields ["kind", "x", "y"]
  | .gather =>
    (fun _ r _ => Action.gather r) <$> kindIs .gather fields <*> required fields "resource" text <*>
      noOthers fields ["kind", "resource"]
  | .build =>
    (fun _ b _ => Action.build b) <$> kindIs .build fields <*> required fields "structure" text <*>
      noOthers fields ["kind", "structure"]
  | .say =>
    (fun _ m _ => Action.say m) <$> kindIs .say fields <*> required fields "message" text <*>
      noOthers fields ["kind", "message"]

def checkMove : Json → Checked Action := record fun fields => checkFields fields .move

/-- an action of the kind that its field `kind` names; issues are reported under that name -/
def check : Json → Checked Action
  | .object fields =>
    match Json.lookup "kind" fields with
    | none => .fail .noKind
    | some (.text kind) =>
      match Verb.byName.find? fun w => Text.ofString w.1 == kind with
      | some (_, v) => (record (fun fields => checkFields fields v) (.object fields)).under (.field kind)
      | none => .fail .unknownKind
    | some _ => .fail .unknownKind
  | _ => .fail .notTagged

def title : String := "tagged-union[MoveAction,ExploreAction,GatherAction,BuildAction,SayAction]"

def moveTitle : String := "MoveAction"

end Action

def Queued.toJson : Queued → Json
  | .action a => a.toJson
  | .unknown v => v

end TileCrew
