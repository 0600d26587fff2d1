/-
World files: JSON objects that give a map size, a roster and a welcome. What is left out has a default. Numbers may be
given as text; a roster entry needs a name, and no two names may have one folding. The welcome is kept as it is given
and looked at only when the world is built.
-/
import TileCrew.Fault
import TileCrew.World.State

namespace TileCrew

/-- an agent as a world file describes it -/
structure AgentEntry where
  name : Text
  x : Number
  y : Number
  color : Text

/-- what a world is built from -/
structure WorldFile where
  width : Int
  height : Int
  agents : List AgentEntry
  welcome : Json

namespace WorldFile

/-! ## Defaults -/

/-- the size of a map that none is given for, in both directions -/
def defaultSize : Int := 12

def defaultAgents : List AgentEntry :=
  [ ⟨"Atlas", .whole 2, .whole 2, "#e74c3c"⟩,
    ⟨"Nova", .whole 6, .whole 4, "#3498db"⟩,
    ⟨"Echo", .whole 9, .whole 8, "#2ecc71"⟩ ]

def defaultWelcome : String := "Welcome to ISO Loot! Type a command below."

def defaultColor : String := "#ff5555"

def default : WorldFile := ⟨defaultSize, defaultSize, defaultAgents, .text defaultWelcome⟩

/-! ## Reading -/

def fieldsOf : Json → Except Fault (List (Text × Json))
  | .object fields => .ok fields
  | v => .error (.noFields v.kindName)

/-- the field of a name, or what stands for it where it is left out -/
def fieldOr (fields : List (Text × Json)) (name : String) (v : Json) : Json := (Json.lookup name fields).getD v

/-- the integer that a value gives: a number without its fraction, a truth value, a numeral in text -/
def integerOf : Json → Except Fault Int
  | .number (.whole n) => .ok n
  | .number (.real x) => (Binary64.truncate x).mapError .notWhole
  | .bool b => .ok (if b then 1 else 0)
  | .text t =>
    match Text.readInteger t.masked with
    | .ok n => .ok n
    | .error .malformed => .error (.integerText t)
    | .error (.tooLong n) => .error (.longNumeral n)
  | v => .error (.integerKind v.kindName)

/-- the coordinate that a value of an entry gives: a number, a truth value, a numeral in text -/
def coordinateOf (entry : Json) : Json → Except Fault Number
  | .number n =>
    match n.toFloat? with
    | some x => .ok (.real x)
    | none => .error .tooLargeForReal
  | .bool b => .ok (.real (if b then 1 else 0))
  | .text t =>
    match Text.readReal? t.masked with
    | some x => .ok (.real x)
    | none => .error (.realText t)
  | _ => .error (.agentEntry entry)

def agentEntryOf (entry : Json) : Except Fault AgentEntry :=
  match entry with
  | .object fields =>
    match Json.lookup "name" fields with
    | none => .error (.agentEntry entry)
    | some name => do
      let x ← coordinateOf entry (fieldOr fields "x" (.int 0))
      let y ← coordinateOf entry (fieldOr fields "y" (.int 0))
      return ⟨name.plain, x, y, (fieldOr fields "color" (.text defaultColor)).plain⟩
  | _ => .error (.agentEntry entry)

/-- the items of a value: of a list, the names of an object, the letters of a text -/
def itemsOf : Json → Except Fault (List Json)
  | .list items => .ok items
  | .object fields => .ok (fields.map fun f => .text f.1)
  | .text t => .ok (t.letters.map fun l => .text ⟨[l]⟩)
  | v => .error (.noItems v.kindName)

def agentsOf : Json → Except Fault (List AgentEntry)
  | .null => .ok defaultAgents
  | v => (itemsOf v).bind fun items => items.mapM agentEntryOf

/-- the first entry whose name has the folding of an earlier one -/
def firstTwice? (seen : List Text) : List AgentEntry → Option AgentEntry
  | [] => none
  | a :: rest =>
    let key := Roster.keyOf a.name
    if seen.contains key then some a else firstTwice? (key :: seen) rest

def checkSize (width height : Int) : Except Fault Unit :=
  if width ≤ 0 ∨ height ≤ 0 then .error (.mapSize width height) else .ok ()

def checkNames (agents : List AgentEntry) : Except Fault Unit :=
  match firstTwice? [] agents with
  | some a => .error (.nameTwice a.name)
  | none => .ok ()

/-- what a JSON value describes -/
def ofJson (v : Json) : Except Fault WorldFile := do
  let fields ← fieldsOf v
  let size ← fieldsOf (fieldOr fields "map" (.object []))
  let width ← integerOf (fieldOr size "width" (.int defaultSize))
  let height ← integerOf (fieldOr size "height" (.int defaultSize))
  checkSize width height
  let agents ← agentsOf (fieldOr fields "agents" .null)
  checkNames agents
  return ⟨width, height, agents, fieldOr fields "welcome" (.text defaultWelcome)⟩

def ofText (cs : List Char) : Except Fault WorldFile :=
  ((Json.read (String.ofList cs)).mapError Fault.ofJson).bind ofJson

/-- what a file describes, or the default where none is named -/
def load (s : Store) : Option Path → Except Fault WorldFile
  | none => .ok default
  | some p =>
    match s.readText p with
    | .ok cs => ofText cs
    | .error (.refused ⟨.missing, _⟩) => .error (.worldFileMissing p)
    | .error e => .error e

/-! ## Building -/

def addAgents : List AgentEntry → World → Except Fault World
  | [], w => .ok w
  | a :: rest, w => (w.addAgent a.name a.x a.y a.color).bind fun r => addAgents rest r.2

/-- the welcome added, where there is one; it has to be a text -/
def greet (welcome : Json) (w : World) : Except Fault World :=
  if welcome.isSubstantial then
    (Fault.ofReport (((Schema.text welcome).under (.field "text")).report Message.title)).map w.addMessage
  else .ok w

/-- the world that a file describes: its map is drawn first, then come the agents and the welcome -/
def build (f : WorldFile) (rng : Twister) (clock : Float) : Except Fault World :=
  let w := (World.bare rng clock).generateMap f.width f.height
  (addAgents f.agents w).bind (greet f.welcome)

end WorldFile

end TileCrew
