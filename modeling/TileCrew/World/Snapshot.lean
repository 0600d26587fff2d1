/-
What is seen of a world at one tick: its agents, its tiles and the messages kept. Each record has a JSON form with all
its fields in their order (`toJson`) and a check that reads it back (`check`); the fields that have a default may be
left out.
-/
import TileCrew.Crew.Agent

namespace TileCrew

/-- a line of the message log and when it was added -/
structure Message where
  text : Text
  timestamp : Float

/-- what is seen of an agent -/
structure AgentView where
  id : Int
  name : Text
  x : Float
  y : Float
  color : Text
  activity : Activity
  inventory : List Text := []
  lastMessage : Text := ""
  current : Option Action := none
  queued : Int := 0
  status : Text := ""

/-- what is seen of a world apart from its tick -/
structure Scene where
  agents : List AgentView := []
  tiles : TileGrid := []
  messages : List Message := []

/-- what is seen of a world -/
structure Snapshot where
  tick : Int
  scene : Scene

/-! ## Writing -/

def Message.toJson (m : Message) : Json := .object [("text", .text m.text), ("timestamp", .float m.timestamp)]

def AgentView.toJson (a : AgentView) : Json :=
  .object [
    ("id", .int a.id), ("name", .text a.name), ("x", .float a.x), ("y", .float a.y), ("color", .text a.color),
    ("state", .text a.activity.name), ("inventory", .list (a.inventory.map .text)),
    ("last_message", .text a.lastMessage), ("current_action", (a.current.map Action.toJson).getD .null),
    ("queued", .int a.queued), ("status", .text a.status)]

def TileGrid.toJson (tiles : TileGrid) : Json :=
  .list (tiles.map fun (row : List Tile) => .list (row.map fun t => .text t.name))

def Scene.toJson (s : Scene) : Json :=
  .object [
    ("agents", .list (s.agents.map AgentView.toJson)), ("tiles", s.tiles.toJson),
    ("messages", .list (s.messages.map Message.toJson))]

def Snapshot.toJson (s : Snapshot) : Json := .object [("tick", .int s.tick), ("state", s.scene.toJson)]

/-! ## Checking -/

open Schema

def Message.check : Json → Checked Message :=
  record fun fields =>
    (fun text timestamp _ => ⟨text, timestamp⟩) <$> required fields "text" Schema.text <*>
      required fields "timestamp" real <*> noOthers fields ["text", "timestamp"]

def AgentView.fieldNames : List String :=
  ["id", "name", "x", "y", "color", "state", "inventory", "last_message", "current_action", "queued", "status"]

def AgentView.check : Json → Checked AgentView :=
  record fun fields =>
    (fun id name x y color activity inventory lastMessage current queued status _ =>
      ⟨id, name, x, y, color, activity, inventory, lastMessage, current, queued, status⟩) <$>
      required fields "id" integer <*> required fields "name" text <*> required fields "x" real <*>
      required fields "y" real <*> required fields "color" text <*>
      required fields "state" (word Activity.byName .notWord) <*> optional fields "inventory" [] (list text) <*>
      optional fields "last_message" "" text <*> optional fields "current_action" none (nullable Action.check) <*>
      optional fields "queued" 0 integer <*> optional fields "status" "" text <*> noOthers fields AgentView.fieldNames

def TileGrid.check : Json → Checked TileGrid := list (list (word Tile.byName .notWord))

def Scene.check : Json → Checked Scene :=
  record fun fields =>
    (fun agents tiles messages _ => ⟨agents, tiles, messages⟩) <$>
      optional fields "agents" [] (list AgentView.check) <*> optional fields "tiles" [] TileGrid.check <*>
      optional fields "messages" [] (list Message.check) <*> noOthers fields ["agents", "tiles", "messages"]

def Snapshot.check : Json → Checked Snapshot :=
  record fun fields =>
    (fun tick scene _ => ⟨tick, scene⟩) <$> required fields "tick" integer <*> required fields "state" Scene.check <*>
      noOthers fields ["tick", "state"]

/-- the titles under which the records are reported -/
def Message.title : String := "MessageEntry"

def AgentView.title : String := "AgentSnapshot"

def Scene.title : String := "StateSnapshot"

def Snapshot.title : String := "TickPayload"

/-! ## Taking the view of an agent -/

/-- what is seen of an agent; one that stands nowhere cannot be seen while idle -/
def Agent.view (a : Agent) : Except Fault AgentView :=
  a.status.map fun status =>
    { id := a.id, name := a.name, x := a.x, y := a.y, color := a.color, activity := a.activity, inventory := a.inventory,
      lastMessage := a.lastMessage, current := a.current, queued := a.queue.length, status }

end TileCrew
