/-
An agent: where it is, what it does, what it will do, what it has and what it last said. Orders put an action at the back
of its queue (`enqueue…`); `update` passes a span of time, in which the agent does one thing: an idle agent takes up the
front of its queue, a moving one goes on, a working one counts its timer on. What an agent is doing shows in `activity`,
the action it does in `current`; both change together, when an action is started (`start`) and when it ends (`finish`).
-/
import TileCrew.Crew.Action
import TileCrew.Decimal.Conversion
import TileCrew.Fault
import TileCrew.Grid.Tile

namespace TileCrew

inductive Activity where
  | idle
  | moving
  | exploring
  | gathering
  | building
deriving DecidableEq, Repr

namespace Activity

def name : Activity → String
  | .idle => "idle"
  | .moving => "moving"
  | .exploring => "exploring"
  | .gathering => "gathering"
  | .building => "building"

def byName : List (String × Activity) :=
  [("idle", .idle), ("moving", .moving), ("exploring", .exploring), ("gathering", .gathering), ("building", .building)]

end Activity

/-- an agent; speed is in tiles a second, the timer and the duration of a task in seconds -/
structure Agent where
  id : Nat
  name : Text
  x : Float := 0.0
  y : Float := 0.0
  color : Text := "#ff5555"
  mapWidth : Int := 12
  mapHeight : Int := 12
  activity : Activity := .idle
  inventory : List Text := []
  current : Option Action := none
  queue : List Queued := []
  lastMessage : Text := ""
  timer : Float := 0.0
  speed : Float := 3.0
  taskDuration : Float := 2.0

namespace Agent

/-! ## Orders -/

def enqueue (a : Agent) (q : Queued) : Agent := { a with queue := a.queue ++ [q] }

/-- a move to a point, whose coordinates need a double each -/
def enqueueMove (a : Agent) (x y : Number) : Except Fault (Agent × Action) :=
  let point : Schema.Checked Action :=
    Action.move <$> (Schema.realOfNumber x).under (.field "x") <*> (Schema.realOfNumber y).under (.field "y")
  (Fault.ofReport (point.report Action.moveTitle)).map fun m => (a.enqueue (.action m), m)

/-- an integer brought down to high and up to low, the latter winning -/
def clamp (v low high : Int) : Int := max low (min high v)

/-- a move to a tile at most two columns and rows away, on the map; the generator gives the columns, then the rows,
    also to an agent that stands nowhere -/
def enqueueExplore (a : Agent) (g : Twister) : Except Fault (Agent × Action) × Twister :=
  let (dx, g) := g.nextOffset
  let (dy, g) := g.nextOffset
  let outcome : Except Binary64.NotWhole (Agent × Action) := do
    let x ← nearestTile a.x
    let y ← nearestTile a.y
    let hop := Action.explore (clamp (x + dx) 0 (a.mapWidth - 1)) (clamp (y + dy) 0 (a.mapHeight - 1))
    return (a.enqueue (.action hop), hop)
  (outcome.mapError .notWhole, g)

def enqueueGather (a : Agent) (resource : Text) : Agent := a.enqueue (.action (.gather resource))

def enqueueBuild (a : Agent) (building : Text) : Agent := a.enqueue (.action (.build building))

/-- speech: it is heard at once, and again when its turn comes -/
def enqueueSay (a : Agent) (message : Text) : Agent :=
  { a with lastMessage := message }.enqueue (.action (.say message))

/-! ## Time -/

def finish (a : Agent) : Agent := { a with activity := .idle, current := none, timer := 0.0 }

/-- an action taken up; speech is done at once, and so is nothing -/
def start (a : Agent) (q : Queued) : Agent :=
  let a := { a with timer := 0.0 }
  match q with
  | .action (.move x y) => { a with activity := .moving, current := some (.move x y) }
  | .action (.explore x y) => { a with activity := .exploring, current := some (.explore x y) }
  | .action (.gather r) => { a with activity := .gathering, current := some (.gather r) }
  | .action (.build b) => { a with activity := .building, current := some (.build b) }
  | .action (.say m) => { a with lastMessage := m }.finish
  | .unknown _ => a.finish

def wholeCoordinate (n : Int) : Except Fault Float :=
  match Binary64.ofInt? n with
  | some x => .ok x
  | none => .error .tooLargeForReal

def destination : Option Action → Except Fault (Option (Float × Float))
  | some (.move x y) => .ok (some (x, y))
  | some (.explore x y) => do
    let x ← wholeCoordinate x
    let y ← wholeCoordinate y
    return some (x, y)
  | _ => .ok none

/-- the distance below which an agent has arrived -/
def arrivalDistance : Float := 0.05

/-- a step towards a point: at most what the speed allows, and onto it from close by -/
def approach (a : Agent) (dt x y : Float) : Agent :=
  let dx := x - a.x
  let dy := y - a.y
  let distance := Binary64.hypot dx dy
  if distance < arrivalDistance then { a with x := x, y := y }.finish
  else
    let reach := a.speed * dt
    let step := if distance < reach then distance else reach
    { a with x := a.x + dx / distance * step, y := a.y + dy / distance * step }

def advance (a : Agent) (dt : Float) : Except Fault Agent :=
  (destination a.current).map fun
    | some (x, y) => a.approach dt x y
    | none => a.finish

/-- time for an agent at work on an action; what it gathers it has when the time is up -/
def work (a : Agent) (dt : Float) (action : Action) : Agent :=
  let a := { a with timer := a.timer + dt }
  if a.timer < a.taskDuration then a
  else
    match a.activity, action with
    | .gathering, .gather r => { a with inventory := a.inventory ++ [r] }.finish
    | _, _ => a.finish

def update (a : Agent) (dt : Float) : Except Fault Agent :=
  match a.activity with
  | .moving | .exploring => a.advance dt
  | .gathering | .building =>
    match a.current with
    | some action => .ok (a.work dt action)
    | none => .ok a
  | .idle =>
    match a.queue with
    | q :: rest => .ok ({ a with queue := rest }.start q)
    | [] => .ok a

/-! ## What is seen of it -/

/-- the column and the row of the tile it stands on -/
def tile (a : Agent) : Except Fault (Int × Int) :=
  let place : Except Binary64.NotWhole (Int × Int) := do
    let x ← nearestTile a.x
    let y ← nearestTile a.y
    return (x, y)
  place.mapError .notWhole

/-- a coordinate in a status: whole numbers without a point, others with two places -/
def coordinateText (x : Float) : String :=
  match Binary64.value x with
  | .finite v => if v.isIntegral then toString v.truncate else Decimal.fixed 2 x
  | _ => Decimal.fixed 2 x

/-- what it does, in words -/
def status (a : Agent) : Except Fault Text :=
  match a.activity, a.current with
  | .idle, _ => a.tile.map fun t => a.name ++ " is idle at (" ++ toString t.1 ++ ", " ++ toString t.2 ++ ")"
  | .moving, some (.move x y) =>
    .ok (a.name ++ " is moving to (" ++ coordinateText x ++ ", " ++ coordinateText y ++ ")")
  | .moving, _ => .ok (a.name ++ ": " ++ Activity.moving.name)
  | .gathering, some (.gather r) => .ok (a.name ++ " is gathering " ++ r)
  | .gathering, _ => .ok (a.name ++ " is gathering resources")
  | .building, some (.build b) => .ok (a.name ++ " is building " ++ b)
  | .building, _ => .ok (a.name ++ " is building something")
  | .exploring, _ => .ok (a.name ++ " is exploring")

end Agent

end TileCrew
