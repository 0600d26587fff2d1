/-
The play screen: a world, shown in three views, with a prompt. It is driven by events and answers with effects, among them
what each view shows from then on. A frame passes the time since the last one, unless the screen is paused, and shows the
map; agents and messages are shown anew every fifteenth tick and after every prompt. A clock reading of zero counts as
none.
-/
import TileCrew.View.Panels
import TileCrew.World.Run

namespace TileCrew

/-- the play screen; its views are there once it is mounted -/
structure Screen where
  world : World
  paused : Bool := false
  lastFrame : Option Float := none
  mounted : Bool := false

namespace Screen

/-- what happens to a screen, with the clock where it counts -/
inductive Event where
  | mount (now : Float)
  | frame (now : Float)
  | submit (text : String)
  | togglePause (now : Float)
  | quit

inductive Pane where
  | map
  | agents
  | messages
deriving DecidableEq, Repr

inductive Effect where
  | focusPrompt
  | everySeconds (seconds : Float)
  | update (pane : Pane) (view : View)
  | exit

/-- what came of an event: what was done, the fault that ended it, if any, and the screen after it -/
structure Outcome where
  effects : List Effect
  fault : Option Fault
  screen : Screen

/-- the time between frames, in seconds -/
def frameInterval : Float := 1.0 / 30.0

/-- the width of the column beside the map -/
def sidebarWidth : Nat := 40

/-- every so many ticks all views are shown anew -/
def refreshTicks : Int := 15

/-! ## Showing -/

/-- an outcome without fault -/
def done (effects : List Effect) (s : Screen) : Outcome := ⟨effects, none, s⟩

/-- views shown one after the other, up to the first that cannot be made -/
def showAll (s : Screen) : List (Pane × Except Fault View) → Outcome
  | [] => done [] s
  | (_, .error e) :: _ => ⟨[], some e, s⟩
  | (pane, .ok view) :: rest =>
    let r := showAll s rest
    { r with effects := .update pane view :: r.effects }

def showPanes (s : Screen) (seen : Snapshot) : Outcome :=
  if s.mounted then
    showAll s [
      (.map, View.worldPanel seen s.paused), (.agents, View.agentCards seen), (.messages, .ok (View.messagePanel seen))]
  else done [] s

def showMap (s : Screen) (seen : Snapshot) : Outcome :=
  if s.mounted then showAll s [(.map, View.worldPanel seen)] else done [] s

/-- all views of the world as it is -/
def refresh (s : Screen) : Outcome :=
  match s.world.snapshot with
  | .error e => ⟨[], some e, s⟩
  | .ok seen => s.showPanes seen

/-! ## Events -/

def elapsed (s : Screen) (now : Float) : Float :=
  match s.lastFrame with
  | some t => if t == 0.0 then now - now else now - t
  | none => now - now

def handle (s : Screen) : Event → Outcome
  | .mount now =>
    let r := refresh { s with mounted := true, lastFrame := some now }
    { r with effects := .focusPrompt :: .everySeconds frameInterval :: r.effects }
  | .frame now =>
    let span := s.elapsed now
    let s := { s with lastFrame := some now }
    if s.paused then done [] s
    else
      match s.world.update (clampFrame span) with
      | (.error e, world) => ⟨[], some e, { s with world }⟩
      | (.ok (), world) =>
        let s := { s with world }
        match s.world.snapshot with
        | .error e => ⟨[], some e, s⟩
        | .ok seen => if seen.tick % refreshTicks = 0 then s.showPanes seen else s.showMap seen
  | .submit text =>
    let text := Text.strip text
    if text.isEmpty then done [] s
    else
      match s.world.handlePrompt text with
      | (.error e, world) => ⟨[], some e, { s with world }⟩
      | (.ok _, world) => refresh { s with world }
  | .togglePause now => done [] { s with paused := !s.paused, lastFrame := some now }
  | .quit => done [.exit] s

def run (s : Screen) (events : List Event) : Screen := events.foldl (fun (s : Screen) e => (s.handle e).screen) s

end Screen

end TileCrew
