/-
Command scripts: one prompt a line, put in before the first tick, or before the tick that a marker `@N` in front of it
names. Blank lines and lines that start with `#` say nothing. A marker ends at the first space; whatever stands in it has
to be an integer from 1 on, also where no prompt follows.
-/
import TileCrew.Fault
import TileCrew.World.Run

namespace TileCrew.Script

open Text

/-- what a line of a script says: nothing, a prompt for a tick -/
inductive Line where
  | silent
  | prompt (tick : Int) (text : String)
deriving DecidableEq, Repr

/-- why a marker is refused -/
inductive MarkerFault where
  | noTick (marker : String)
  | belowOne
deriving DecidableEq, Repr

/-- the tick of a prompt without marker -/
def defaultTick : Int := 1

def readMarker (marker : List Char) : Except MarkerFault Int :=
  match readInteger (String.ofList (marker.drop 1)) with
  | .error _ => .error (.noTick (String.ofList marker))
  | .ok tick => if tick < 1 then .error .belowOne else .ok tick

def readLine (line : List Char) : Except MarkerFault Line :=
  match stripBy isBlank line with
  | [] => .ok .silent
  | '#' :: _ => .ok .silent
  | '@' :: cs =>
    let marker := ('@' :: cs).takeWhile (· ≠ ' ')
    let rest := stripBy isBlank (('@' :: cs).dropWhile (· ≠ ' '))
    (readMarker marker).map fun tick => if rest.isEmpty then .silent else .prompt tick (String.ofList rest)
  | cs => .ok (.prompt defaultTick (String.ofList cs))

/-- lines from number n on, their prompts added to a schedule -/
def readLines (p : Path) (n : Nat) (s : Schedule) : List (List Char) → Except Fault Schedule
  | [] => .ok s
  | line :: lines =>
    match readLine line with
    | .error (.noTick marker) => .error (.tickMarker p n marker)
    | .error .belowOne => .error (.tickBelowOne p n)
    | .ok .silent => readLines p (n + 1) s lines
    | .ok (.prompt tick text) => readLines p (n + 1) (s.add tick text) lines

/-- the schedule of a script; `p` is the path it is complained about under -/
def read (p : Path) (cs : List Char) : Except Fault Schedule := readLines p 1 {} (splitLines cs)

def load (s : Store) (p : Path) : Except Fault Schedule := (s.readText p).bind (read p)

end TileCrew.Script
