/-
What one call of the program comes to, as a value: how it ends, what it prints and shows, and the files after it. The
program replays a recorded run, opens the play screen, or makes a run and records it. Settings that the
options leave open are taken from the surroundings.
-/
import TileCrew.Cli.Options
import TileCrew.Replay.Reader
import TileCrew.Setup.Script
import TileCrew.Setup.WorldFile
import TileCrew.View.Panels

namespace TileCrew

/-- what surrounds a call: its clock, its settings, and a seed for what is left to chance -/
structure Surroundings where
  clock : Float
  seed : Option String := none
  world : Option String := none
  logLevel : Option String := none
  chance : Int := 0

namespace Session

/-! ## Settings -/

/-- a setting that is not empty -/
def given? (setting : Option String) : Option String := setting.filter fun s => !s.isEmpty

def levels : List (String × Nat) :=
  [ ("CRITICAL", 50), ("FATAL", 50), ("ERROR", 40), ("WARN", 30), ("WARNING", 30), ("INFO", 20), ("DEBUG", 10),
    ("NOTSET", 0) ]

def initialLevel : Nat := 30

/-- the level of log messages: that of the options, of the surroundings, or of warnings -/
def logLevel (o : Options) (e : Surroundings) : Except Fault Nat :=
  let name := Text.upper (((given? o.logLevel).orElse fun _ => given? e.logLevel).getD "WARNING")
  match levels.find? (·.1 == name) with
  | some l => .ok l.2
  | none => .error (.levelName name)

/-- the seed: that of the options or of the surroundings -/
def seed (o : Options) (e : Surroundings) : Except Fault (Option (Given Int)) :=
  match o.seed, given? e.seed with
  | some n, _ => .ok (some n)
  | none, none => .ok none
  | none, some s =>
    match Text.readInteger s with
    | .ok n => .ok (some (.value n))
    | .error _ => .error (.seedSetting s)

/-- the world file: that of the options or of the surroundings -/
def worldPath (o : Options) (e : Surroundings) : Option (Given Path) :=
  o.world <|> (given? e.world).map fun s => .value (Path.ofText s)

def needed {α : Type} (s : Setting) : Given α → Except Fault α
  | .value a => .ok a
  | .nothing => .error (.noValue s)

def buildWorld (path : Option (Given Path)) (seed : Option (Given Int)) (e : Surroundings) (s : Store) :
    Except Fault World := do
  let file ← WorldFile.load s (← path.mapM (needed .world))
  let seed ← seed.mapM (needed .seed)
  file.build (Twister.ofSeed (seed.getD e.chance)) e.clock

/-! ## Making a run -/

/-- a run that is ready to begin -/
structure Setup where
  folder : Path
  header : RunHeader
  world : World
  schedule : Schedule

/-- the schedule of a script, empty where there is none -/
def loadSchedule (s : Store) : Option Path → Except Fault Schedule
  | none => .ok {}
  | some p => Script.load s p

/-- the frame of a run; its header needs it -/
def frameOf (o : Options) : Except Fault Float :=
  match o.dt with
  | .value dt => .ok dt
  | .nothing => .error (.record ⟨RunHeader.title, [⟨[.field "dt"], .notReal⟩]⟩)

/-- the ticks that are asked for; zero asks for a run without end -/
def ticksAsked (o : Options) : Option Int := if o.ticks = 0 then none else some o.ticks

/-- a run of so many ticks made ready in a folder, begun at a moment -/
def setUpIn (ticks : Option Int) (o : Options) (e : Surroundings) (start : Moment) (folder : Path) (s : Store) :
    Except Fault Setup := do
  let seed ← seed o e
  let path := worldPath o e
  let world ← buildWorld path seed e s
  let schedule ← loadSchedule s o.script
  let dt ← frameOf o
  let header : RunHeader := {
    runId := folder.name, createdAt := start.iso, ticks, dt
    seed := seed.bind Given.value?
    world := (path.bind Given.value?).map fun p => p.text
    script := o.script.map fun p => p.text
    agents := world.roster.agents.map Agent.name, mapWidth := world.mapWidth, mapHeight := world.mapHeight }
  return ⟨folder, header, world, schedule⟩

def makeFolder (o : Options) (start : Moment) (s : Store) : Except Fault Path × Store :=
  match needed .folder o.replayDir with
  | .error f => (.error f, s)
  | .ok base => RunLog.makeFolderNamed base start.runId s

/-- a run made ready: its folder is made before anything else is looked at but the clock -/
def setUp (ticks : Option Int) (o : Options) (e : Surroundings) (s : Store) : Except Fault Setup × Store :=
  match Moment.ofClock e.clock with
  | .error i => (.error (.moment i), s)
  | .ok start =>
    match makeFolder o start s with
    | (.error f, s) => (.error f, s)
    | (.ok folder, s) => (setUpIn ticks o e start folder s, s)

/-- how many ticks a run makes: so many, or as many as there is patience for where they have no end -/
def tickCount : Option Int → Nat → Nat
  | some n, _ => n.toNat
  | none, patience => patience

/-- a run of so many ticks made and recorded; its folder -/
def simulate (ticks : Option Int) (o : Options) (e : Surroundings) (patience : Nat) (s : Store) :
    Except Fault Path × Store :=
  match setUp ticks o e s with
  | (.error f, s) => (.error f, s)
  | (.ok r, s) =>
    let run := r.world.run (tickCount ticks patience) r.header.dt r.schedule
    let (outcome, s) := RunLog.record r.folder r.header run s
    (outcome.map fun _ => r.folder, s)

/-! ## Outcomes -/

inductive Ending where
  | normal
  | code (n : Nat)
  | words (t : Text)
  | fault (f : Fault)

structure Outcome where
  ending : Ending := .normal
  stdout : String := ""
  stderr : String := ""
  level : Nat := initialLevel
  printed : List View := []
  played : List World := []
  store : Store

def savedLine (folder : Path) : String := "Run saved to " ++ folder.text ++ "\n"

def refusedLine (stop : Options.Stop) : String := "isoloot: error: " ++ stop.message

/-- a fault while a run is opened for replay: what is missing or wrong in its files is said in words -/
def openingFault : Fault → Ending
  | .refused r => if r.cause = .missing then .words (Fault.message (.refused r)) else .fault (.refused r)
  | .record r => .fault (.record r)
  | .tooDeep c => .fault (.tooDeep c)
  | f => .words f.message

/-- views up to the first that cannot be made -/
def showViews : List (Except Fault View) → List View × Option Fault
  | [] => ([], none)
  | .error f :: _ => ([], some f)
  | .ok v :: rest =>
    let (views, fault) := showViews rest
    (v :: views, fault)

/-- what is read is shown page by page, up to the fault that ends it -/
def pages (r : Reading Snapshot) : List View × Option Fault :=
  match showViews (r.items.map fun s => View.tickPage s) with
  | (views, some f) => (views, some f)
  | (views, none) => (views, r.fault)

/-- the pages of a recorded run behind its header, and the fault that ended them -/
def pagesIn (folder : Path) (every : Given Int) (s : Store) : List View × Option Fault :=
  match needed .stride every with
  | .error f => ([], some f)
  | .ok every => pages (RunLog.thinReading every (RunLog.snapshots folder s))

/-- the folder and header of a recorded run, or how a call ends that finds none -/
def openRun (folder : Given Path) (s : Store) : Except Ending (Path × RunHeader) :=
  match needed .folder folder with
  | .error f => .error (.fault f)
  | .ok folder => ((RunLog.header folder s).mapError openingFault).map fun h => (folder, h)

def replay (folder : Given Path) (every : Given Int) (level : Nat) (s : Store) : Outcome :=
  match openRun folder s with
  | .error ending => { ending, level, store := s }
  | .ok (folder, h) =>
    let (views, fault) := pagesIn folder every s
    { ending := (fault.map .fault).getD .normal, level, printed := View.headerPanel h :: views, store := s }

def play (o : Options) (e : Surroundings) (level : Nat) (s : Store) : Outcome :=
  match (seed o e).bind fun seed => buildWorld (worldPath o e) seed e s with
  | .error f => { ending := .fault f, level, store := s }
  | .ok w => { level, played := [w], store := s }

def makeRun (o : Options) (e : Surroundings) (patience : Nat) (level : Nat) (s : Store) : Outcome :=
  match simulate (ticksAsked o) o e patience s with
  | (.error f, s) => { ending := .fault f, level, store := s }
  | (.ok folder, s) => { stdout := savedLine folder, level, store := s }

def runOptions (o : Options) (e : Surroundings) (patience : Nat) (s : Store) : Outcome :=
  match logLevel o e with
  | .error f => { ending := .fault f, store := s }
  | .ok level =>
    match o.replay with
    | some folder => replay folder o.every level s
    | none => if o.play then play o e level s else makeRun o e patience level s

/-- a call with arguments; a run without end is given up after `patience` ticks -/
def run (arguments : List String) (e : Surroundings) (patience : Nat) (s : Store) : Outcome :=
  match Options.read arguments with
  | .error .help => { ending := .code 0, store := s }
  | .error stop => { ending := .code 2, stderr := refusedLine stop, store := s }
  | .ok o => runOptions o e patience s

end Session

end TileCrew
