/-
Runs: tick after tick the scheduled prompts are put in, a frame of time passes, and the world is seen. A schedule keeps
the ticks in the order in which they first came, and the prompts of a tick in the order in which they came. A run is
what was seen, the fault that ended it early, if any, and the world it left; runs compose (`Run.andThen`).
-/
import TileCrew.World.Dispatch

namespace TileCrew

/-! ## Frames -/

/-- the longest frame, in seconds -/
def maxFrame : Float := 0.1

/-- the frame of a run that names none -/
def defaultFrame : Float := 1.0 / 60.0

/-- a span of time brought into a frame: at most `longest` and not below zero; a NaN becomes zero -/
def clampFrame (elapsed : Float) (longest : Float := maxFrame) : Float :=
  let capped := if longest < elapsed then longest else elapsed
  if capped > 0.0 then capped else 0.0

/-! ## Schedules -/

/-- prompts by tick -/
structure Schedule where
  entries : List (Int × List String) := []
deriving DecidableEq, Repr

namespace Schedule

/-- a prompt added to the entries at its tick -/
def addTo (tick : Int) (prompt : String) : List (Int × List String) → List (Int × List String)
  | [] => [(tick, [prompt])]
  | e :: es => if e.1 = tick then (tick, e.2 ++ [prompt]) :: es else e :: addTo tick prompt es

def add (s : Schedule) (tick : Int) (prompt : String) : Schedule := ⟨addTo tick prompt s.entries⟩

def prompts (s : Schedule) (tick : Int) : List String := ((s.entries.find? (·.1 == tick)).map (·.2)).getD []

end Schedule

/-! ## Runs -/

/-- one tick: its prompts, a frame of time, and what is then seen -/
def World.runTick (schedule : Schedule) (frame : Float) (w : World) : Except Fault Snapshot × World :=
  match handleAll (schedule.prompts (w.tick + 1)) w with
  | (.error e, w) => (.error e, w)
  | (.ok (), w) =>
    match w.update frame with
    | (.error e, w) => (.error e, w)
    | (.ok (), w) => (w.snapshot, w)

/-- what came of a run -/
structure Run where
  snapshots : List Snapshot
  fault : Option Fault
  world : World

namespace Run

def start (w : World) : Run := ⟨[], none, w⟩

/-- a run and, if it did not fail, what follows it -/
def andThen (r : Run) (next : World → Run) : Run :=
  match r.fault with
  | some _ => r
  | none =>
    let s := next r.world
    { s with snapshots := r.snapshots ++ s.snapshots }

/-- ticks of one frame each -/
def ticks (schedule : Schedule) (frame : Float) : Nat → World → Run
  | 0, w => start w
  | n + 1, w =>
    match w.runTick schedule frame with
    | (.error e, w) => ⟨[], some e, w⟩
    | (.ok s, w) =>
      let r := ticks schedule frame n w
      { r with snapshots := s :: r.snapshots }

end Run

/-- a run of n ticks; each frame lasts dt, as far as a frame can -/
def World.run (w : World) (n : Nat) (dt : Float) (schedule : Schedule) : Run := Run.ticks schedule (clampFrame dt) n w

end TileCrew
