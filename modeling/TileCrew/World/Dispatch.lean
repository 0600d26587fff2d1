/-
Prompts and commands reach agents. A target addresses all slots of the roster or the one of its name (`addressed`); the
order is given to each in turn, and the log says so line by line (`give`). A prompt is echoed in the log, read, and if it
is a command dispatched. A fault ends the giving; what was given before it stays given.
-/
import TileCrew.Prompt.Grammar
import TileCrew.World.State

namespace TileCrew

/-- an order put into an agent's queue; to explore takes two offsets from the generator -/
def Agent.accept (a : Agent) (g : Twister) : Order → Except Fault Agent × Twister
  | .move x y => ((a.enqueueMove (.whole x) (.whole y)).map (·.1), g)
  | .explore =>
    let (outcome, g) := a.enqueueExplore g
    (outcome.map (·.1), g)
  | .gather resource => (.ok (a.enqueueGather resource), g)
  | .build building => (.ok (a.enqueueBuild building), g)
  | .say message => (.ok (a.enqueueSay message), g)

/-- the line that the log has for an order given to an agent of that name -/
def Order.report (name : Text) : Order → Text
  | .move x y => name ++ " → moving to (" ++ toString x ++ ", " ++ toString y ++ ")"
  | .explore => name ++ " → exploring"
  | .gather resource => name ++ " → gathering " ++ resource
  | .build building => name ++ " → building " ++ building
  | .say message => name ++ " says: \"" ++ message ++ "\""

namespace World

/-! ## Commands -/

def addressed (w : World) (target : Text) : List Text :=
  if isBroadcast target then w.roster.keys
  else if (w.agent? target).isSome then [Roster.keyOf target]
  else []

/-- an order given to the agent of one slot, and the line in the log -/
def give (w : World) (order : Order) (key : Text) : Except Fault Unit × World :=
  match w.roster.find? key with
  | none => (.ok (), w)
  | some a =>
    match a.accept w.rng order with
    | (.error e, rng) => (.error e, { w with rng })
    | (.ok b, rng) => (.ok (), { w with rng, roster := w.roster.put key b }.addMessage (order.report a.name))

/-- an order given to one slot after the other -/
def giveAll (order : Order) : List Text → World → Except Fault Unit × World
  | [], w => (.ok (), w)
  | key :: keys, w =>
    match w.give order key with
    | (.error e, w) => (.error e, w)
    | (.ok (), w) => giveAll order keys w

/-- the line that the log has where a target addresses nobody -/
def notFound (target : Text) : Text := "⚠ Agent \"" ++ target ++ "\" not found."

/-- an order given to whom the target addresses; the names of these. An order that nobody understands is taken without
    effect. -/
def dispatchTo (w : World) (target : Text) (order? : Option Order) : Except Fault (List Text) × World :=
  match w.addressed target with
  | [] => (.ok [], w.addMessage (notFound target))
  | keys =>
    let names := keys.filterMap fun k => (w.roster.find? k).map Agent.name
    match order? with
    | none => (.ok names, w)
    | some order =>
      let (outcome, w) := giveAll order keys w
      (outcome.map fun _ => names, w)

/-- a command given to whom it addresses; the names of these -/
def dispatch (w : World) (c : Command) : Except Fault (List Text) × World := w.dispatchTo c.target (some c.order)

/-! ## Prompts -/

/-- the line that the log has where a prompt is no command -/
def notUnderstood : String := "⚠ Unknown command. Try: " ++ Prompt.help

/-- a prompt: nothing where it is blank, else its echo, and then what comes of it; the command that it is -/
def handlePrompt (w : World) (text : String) : Except Fault (Option Command) × World :=
  let line := Text.strip text
  if line.isEmpty then (.ok none, w)
  else
    let w := w.addMessage ("> " ++ line)
    match Prompt.parse line with
    | .error e => (.error e, w)
    | .ok none => (.ok none, w.addMessage notUnderstood)
    | .ok (some c) =>
      let (outcome, w) := w.dispatch c
      (outcome.map fun _ => some c, w)

/-- prompts one after the other, up to the first that fails -/
def handleAll : List String → World → Except Fault Unit × World
  | [], w => (.ok (), w)
  | text :: texts, w =>
    match w.handlePrompt text with
    | (.error e, w) => (.error e, w)
    | (.ok _, w) => handleAll texts w

end World

end TileCrew
