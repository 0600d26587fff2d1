/-
Snapshots and run headers as they are shown: the panels of the play screen (map, agents, messages) and the page of a
replayed tick. Rows of the newest messages are cut by `newest`, where a count of zero keeps all and a negative count
leaves out so many of the oldest.
-/
import TileCrew.Replay.Header
import TileCrew.View.MapLines

namespace TileCrew.View

/-- texts with commas between them, or a word where there are none -/
def commaList (items : List Text) (none : Text) : Text :=
  let t := Text.intercalate ", " items
  if t.isEmpty then none else t

def orWord (t word : Text) : Text := if t.isEmpty then word else t

/-- the last n items; all for zero, all but the first -n below -/
def newest {α : Type} (n : Int) (items : List α) : List α :=
  if 0 < n then items.drop (items.length - n.toNat) else items.drop (-n).toNat

/-- the name of the tile that an agent stands on, or a word -/
def tileName (tiles : TileGrid) (a : AgentView) (word : String) : Except Fault String :=
  (MapLines.tileUnder tiles a).map fun t => (t.map Tile.name).getD word

/-- the map of a scene in a panel -/
def mapPanel (title : String) (s : Scene) : Except Fault View :=
  if s.tiles.isEmpty then .ok (.panel title (note "No map generated."))
  else (MapLines.render s.tiles s.agents).map fun lines => .panel title (.group (lines.map .text))

/-! ## The play screen -/

def worldTitle (tick : Int) (paused : Bool) : String :=
  "World (tick " ++ toString tick ++ (if paused then ", paused" else "") ++ ")"

/-- the map with the tick -/
def worldPanel (s : Snapshot) (paused : Bool := false) : Except Fault View :=
  mapPanel (worldTitle s.tick paused) s.scene

def agentCard (tiles : TileGrid) (a : AgentView) : Except Fault View := do
  let tile ← tileName tiles a "unknown"
  let style ← Style.agentStyle a.color
  let inventory : Text := if a.inventory.isEmpty then "empty" else Text.intercalate ", " a.inventory
  return .group [
    .text (.ofText a.name style), note a.status, note ("Inventory: " ++ inventory), note ("Standing on: " ++ tile)]

def agentCards (s : Snapshot) : Except Fault View :=
  (s.scene.agents.mapM (agentCard s.scene.tiles)).map fun cards =>
    let rows := if cards.isEmpty then [[note "No agents."]] else cards.map fun card => [card]
    .panel "Agents" (.table none ["Agent"] rows)

def messagePanel (s : Snapshot) (limit : Int := 12) : View :=
  let text := Text.intercalate "\n" ((newest limit s.scene.messages).map Message.text)
  .panel "Log" (note (orWord text "No messages yet."))

/-! ## Replayed ticks -/

def agentRow (tiles : TileGrid) (a : AgentView) : Except Fault (List View) := do
  let style ← Style.agentStyle a.color
  let place := "(" ++ Decimal.fixed 1 a.x ++ ", " ++ Decimal.fixed 1 a.y ++ ")"
  let tile ← tileName tiles a "-"
  return [
    .text (.ofText a.name style), .plain a.activity.name, .plain place, .plain tile,
    .plain (commaList a.inventory "empty"), .plain (orWord a.lastMessage "-")]

def agentTable (s : Scene) : Except Fault View :=
  (s.agents.mapM (agentRow s.tiles)).map fun rows =>
    let rows := if rows.isEmpty then [[.plain "-", .plain "None", .plain "", .plain "", .plain "", .plain ""]] else rows
    .table (some "Agents") ["Agent", "State", "Position", "Tile", "Inventory", "Says"] rows

def messageTable (s : Scene) (limit : Int) : View :=
  let rows := (newest limit s.messages).map fun m => [View.plain m.text]
  .table (some "Messages") ["Text"] (if rows.isEmpty then [[.plain "None"]] else rows)

def tickPage (s : Snapshot) (maxMessages : Int := 8) : Except Fault View := do
  let agents ← agentTable s.scene
  let map ← mapPanel "World" s.scene
  let heading := StyledText.ofText ("Tick " ++ toString s.tick) "bold"
  return .columns [.panel "Simulation" (.group [.text heading, agents, messageTable s.scene maxMessages]), map]

/-- the number of ticks that a run was made with; none or zero means no end -/
def ticksText : Option Int → String
  | none => "unbounded"
  | some n => if n = 0 then "unbounded" else toString n

def headerPanel (h : RunHeader) : View :=
  let row (field : String) (value : Text) : List View := [.plain field, .plain value]
  .panel "Replay" (.table none ["Field", "Value"] [
    row "Run" h.runId, row "Created" h.createdAt, row "Ticks" (ticksText h.ticks),
    row "dt" (Decimal.fixed 4 h.dt ++ "s"), row "Seed" ((h.seed.map fun n => toString n).getD "random"),
    row "Map" (toString h.mapWidth ++ "x" ++ toString h.mapHeight), row "World" (orWord (h.world.getD "") "default"),
    row "Script" (orWord (h.script.getD "") "none"), row "Agents" (commaList h.agents "none")])

end TileCrew.View
