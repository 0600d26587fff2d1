/-
The program. Arguments, settings, clock and files are gathered, `Session.run` says what comes of them, and that is carried
out: files are written, views and messages printed. Two things go on for as long as they are let and are driven from
here: a run without end, and the play screen, which takes its prompts line by line.
-/
import TileCrew.Cli.Session
import TileCrew.View.Screen

namespace TileCrew.Program

/-! ## Surroundings -/

/-- seconds since the start of 1970: the time at which a file is made now -/
def wallClock : IO Float := do
  let (_, file) ← IO.FS.createTempFile
  let stamp := (← file.metadata).modified
  IO.FS.removeFile file
  return Float.ofInt stamp.sec + stamp.nsec.toFloat / 1000000000.0

/-- seconds on a clock that never goes back -/
def steadyClock : IO Float := do
  return (← IO.monoMsNow).toFloat / 1000.0

def surroundings : IO Surroundings := do
  let octets ← IO.getRandomBytes 8
  return {
    clock := ← wallClock
    seed := ← IO.getEnv "ISOLOOT_SEED"
    world := ← IO.getEnv "ISOLOOT_WORLD"
    logLevel := ← IO.getEnv "ISOLOOT_LOG_LEVEL"
    chance := octets.toList.foldl (fun (n : Int) b => n * 256 + b.toNat) 0 }

/-! ## Files -/

/-- a path and the folders that lead to it, outermost first -/
def wayTo (p : Path) : List Path := (List.range (p.names.length + 1)).map fun n => ⟨p.start, p.names.take n⟩

/-- what is found at a path, added to a store -/
def gatherAt (s : Store) (p : Path) : IO Store := do
  try
    let file ← IO.FS.realPath p.text
    if ← file.isDir then return (s.makeFolders p).2
    return s.addFile p (← IO.FS.readBinFile file).toList
  catch _ => return s

/-- the paths that a call looks at -/
def pathsOf (o : Options) (e : Surroundings) : List Path :=
  let world := (Session.worldPath o e).bind Given.value?
  let replayed := o.replay.bind Given.value?
  let made := match o.replayDir, Moment.ofClock e.clock with
    | .value base, .ok start => [base.join (Path.ofText start.runId)]
    | _, _ => []
  world.toList ++ o.script.toList ++ (replayed.toList ++ made).map RunLog.pathIn

def gather (o : Options) (e : Surroundings) : IO Store :=
  ((pathsOf o e).flatMap wayTo).foldlM gatherAt Store.empty

/-- what a store has beyond an earlier one, written out -/
def save (old new : Store) : IO Unit := do
  for (place, entry) in new.entries do
    if old.entries.contains (place, entry) then continue
    match entry with
    | .folder => IO.FS.createDirAll place.text
    | .file octets => IO.FS.writeBinFile place.text ⟨octets.toArray⟩

/-! ## Endings -/

def printView (v : View) : IO Unit := v.lines.forM IO.println

/-- a fault told; the exit code -/
def tell (f : Fault) : IO UInt32 := do
  IO.eprintln f.message.masked
  return 1

def finish : Session.Ending → IO UInt32
  | .normal => return 0
  | .code n => return UInt32.ofNat n
  | .words t => do
    IO.eprintln t.masked
    return 1
  | .fault f => tell f

/-! ## What goes on -/

/-- ticks without end, each written to the log as it is made; the exit code when one fails -/
partial def runOn (log : IO.FS.Handle) (schedule : Schedule) (frame : Float) (w : World) : IO UInt32 := do
  match w.runTick schedule frame with
  | (.error f, _) => tell f
  | (.ok seen, w) =>
    match RunLog.writeLine .tick seen.toJson with
    | .error f => tell f
    | .ok line =>
      log.write ⟨line.toArray⟩
      log.flush
      runOn log schedule frame w

def runEndless (o : Options) (e : Surroundings) (s : Store) : IO UInt32 := do
  match Session.setUp (Session.ticksAsked o) o e s with
  | (.error f, after) =>
    save s after
    tell f
  | (.ok setup, after) =>
    save s after
    let log ← IO.FS.Handle.mk (RunLog.pathIn setup.folder).text .append
    match RunLog.writeLine .header setup.header.toJson with
    | .error f => tell f
    | .ok line =>
      log.write ⟨line.toArray⟩
      runOn log setup.schedule (clampFrame setup.header.dt) setup.world

/-- the effects of an event carried out; the screen after it -/
def carryOut (o : Screen.Outcome) : IO Screen := do
  for effect in o.effects do
    match effect with
    | .update _ view => printView view
    | _ => pure ()
  match o.fault with
  | some f => throw (IO.userError f.message.masked)
  | none => return o.screen

/-- the play screen, a frame and a prompt for every line -/
partial def playOn (input : IO.FS.Stream) (screen : Screen) : IO UInt32 := do
  let line ← input.getLine
  if line.isEmpty then return 0
  let screen ← carryOut (screen.handle (.frame (← steadyClock)))
  let screen ← carryOut (screen.handle (.submit line))
  playOn input screen

/-- the play screen opened on a world -/
def playWorld (w : World) : IO UInt32 := do
  let screen ← carryOut (({ world := w } : Screen).handle (.mount (← steadyClock)))
  playOn (← IO.getStdin) screen

def conclude (old : Store) (o : Session.Outcome) : IO UInt32 := do
  save old o.store
  o.printed.forM printView
  IO.print o.stdout
  if !o.stderr.isEmpty then IO.eprintln o.stderr
  match o.played with
  | w :: _ => playWorld w
  | [] => finish o.ending

def call (arguments : List String) : IO UInt32 := do
  let e ← surroundings
  match Options.read arguments with
  | .error _ => conclude Store.empty (Session.run arguments e 0 Store.empty)
  | .ok o =>
    let s ← gather o e
    let endless := o.ticks = 0 && o.replay.isNone && !o.play
    if endless && (Session.logLevel o e).isOk then runEndless o e s
    else conclude s (Session.run arguments e 0 s)

end TileCrew.Program

def main (arguments : List String) : IO UInt32 := TileCrew.Program.call arguments
