/-
A world: a map of tiles, a roster of agents, a log of the last fifty messages, a tick counter, a clock that is read for
every message and one random generator that the map and all agents share. Every operation gives the world that follows; one
that may fail gives that world together with its outcome, since what was done before the failure stays done.
-/
import TileCrew.Crew.Roster
import TileCrew.World.Snapshot

namespace TileCrew

/-- a clock: what it reads, reading by reading, and how often it has been read -/
structure Clock where
  readings : Nat → Float
  reads : Nat := 0

namespace Clock

def steady (seconds : Float) : Clock := { readings := fun _ => seconds }

instance : Coe Float Clock := ⟨steady⟩

/-- what it reads when it is read next -/
def now (c : Clock) : Float := c.readings c.reads

/-- the clock once it has been read -/
def next (c : Clock) : Clock := { c with reads := c.reads + 1 }

end Clock

/-- the messages kept, oldest first -/
structure MessageLog where
  entries : List Message := []

namespace MessageLog

def capacity : Nat := 50

/-- a message added; beyond the capacity the oldest is dropped -/
def push (l : MessageLog) (m : Message) : MessageLog :=
  let entries := l.entries ++ [m]
  ⟨entries.drop (entries.length - capacity)⟩

end MessageLog

structure World where
  rng : Twister
  clock : Clock
  roster : Roster := {}
  tiles : TileGrid := []
  mapWidth : Int := 12
  mapHeight : Int := 12
  tick : Nat := 0
  log : MessageLog := {}
  nextId : Nat := 1

namespace World

/-- a world without map, agents and messages, whose clock stands still -/
def bare (rng : Twister) (clock : Float) : World := { rng, clock }

/-! ## Agents -/

/-- a new agent on this map, in the slot of its name -/
def addAgent (w : World) (name : Text) (x y : Number) (color : Text) : Except Fault (Agent × World) :=
  match x.toFloat?, y.toFloat? with
  | some x, some y =>
    let a : Agent := { id := w.nextId, name, x, y, color, mapWidth := w.mapWidth, mapHeight := w.mapHeight }
    .ok (a, { w with nextId := w.nextId + 1, roster := w.roster.put (Roster.keyOf name) a })
  | _, _ => .error .tooLargeForReal

def removeAgent (w : World) (name : Text) : World := { w with roster := w.roster.remove (Roster.keyOf name) }

def agent? (w : World) (name : Text) : Option Agent := w.roster.find? (Roster.keyOf name)

/-! ## Messages and map -/

def stamp (w : World) (text : Text) : Message := ⟨text, w.clock.now⟩

/-- a message added to the log; this reads the clock once -/
def addMessage (w : World) (text : Text) : World := { w with log := w.log.push (w.stamp text), clock := w.clock.next }

def generateMap (w : World) (width height : Int) : World :=
  let (tiles, rng) := TileGrid.draw width height w.rng
  { w with tiles, rng, mapWidth := width, mapHeight := height }

/-- a new map of the given size, with its tiles as the answer -/
def drawMap (w : World) (width height : Int) : TileGrid × World :=
  let w := w.generateMap width height
  (w.tiles, w)

/-! ## Time -/

/-- one tick: the counter goes up, and every agent has a span of time -/
def update (w : World) (dt : Float) : Except Fault Unit × World :=
  let (outcome, roster) := w.roster.update dt
  (outcome, { w with tick := w.tick + 1, roster })

def snapshot (w : World) : Except Fault Snapshot :=
  (w.roster.agents.mapM Agent.view).map fun agents =>
    ⟨w.tick, { agents, tiles := w.tiles, messages := w.log.entries }⟩

end World

end TileCrew
