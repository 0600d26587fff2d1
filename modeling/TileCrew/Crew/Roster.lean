/-
The roster: agents in slots, each slot under the case folding of its agent's name. An agent whose name folds to a key
that has a slot takes that slot over; else it gets a new slot at the end. The order of the slots is the order in which
agents act, are addressed and are shown.
-/
import TileCrew.Crew.Agent
import TileCrew.Text.Casing

namespace TileCrew

/-- agents by the folding of their names, in the order of their slots -/
structure Roster where
  slots : List (Text × Agent) := []

namespace Roster

def keyOf (name : Text) : Text := Text.fold name

def find? (r : Roster) (key : Text) : Option Agent := (r.slots.find? (·.1 == key)).map (·.2)

/-- slots with an agent put: into its slot if there is one, else at the end -/
def putSlot (key : Text) (a : Agent) : List (Text × Agent) → List (Text × Agent)
  | [] => [(key, a)]
  | s :: ss => if s.1 = key then (key, a) :: ss else s :: putSlot key a ss

def put (r : Roster) (key : Text) (a : Agent) : Roster := ⟨putSlot key a r.slots⟩

def remove (r : Roster) (key : Text) : Roster := ⟨r.slots.filter fun s => s.1 ≠ key⟩

def keys (r : Roster) : List Text := r.slots.map (·.1)

def agents (r : Roster) : List Agent := r.slots.map (·.2)

/-- a span of time for every agent in turn; at the first that fails it ends, and those before it have had theirs -/
def updateSlots (dt : Float) : List (Text × Agent) → Except Fault Unit × List (Text × Agent)
  | [] => (.ok (), [])
  | s :: ss =>
    match s.2.update dt with
    | .error e => (.error e, s :: ss)
    | .ok a =>
      let (outcome, ss) := updateSlots dt ss
      (outcome, (s.1, a) :: ss)

def update (r : Roster) (dt : Float) : Except Fault Unit × Roster :=
  let (outcome, slots) := updateSlots dt r.slots
  (outcome, ⟨slots⟩)

end Roster

end TileCrew
