/-
Run logs: files of JSON lines, first one header record, then one record per tick. A writer appends to the log of a run
folder. It refuses a second header, a tick before the header, and everything while it is not open; a refused record
leaves file and writer as they were. `record` writes a whole run.
-/
import TileCrew.Fault
import TileCrew.Json.Printer
import TileCrew.Replay.Header
import TileCrew.Replay.Moment
import TileCrew.World.Run

namespace TileCrew

/-! ## Records -/

inductive RecordKind where
  | header
  | tick
deriving DecidableEq, Repr

def RecordKind.name : RecordKind → String
  | .header => "header"
  | .tick => "tick"

namespace RunLog

/-- the version of the record form -/
def version : Int := 2

/-- the name of the log in a run folder -/
def fileName : String := "run.jsonl"

def pathIn (folder : Path) : Path := folder.child fileName

def recordOf (kind : RecordKind) (body : Json) : Json :=
  .object [("type", .text kind.name), ("schema_version", .int version), ("body", body)]

def line (kind : RecordKind) (body : Json) : List UInt8 :=
  Utf8.encode ((recordOf kind body).chars ++ ['\n'])

/-- a record as a line; none where an integer in it has no written form, or lone halves have no octets -/
def writeLine (kind : RecordKind) (body : Json) : Except Fault (List UInt8) :=
  if !body.hasShortIntegers then .error .unwritable
  else
    match Utf8.firstHalves? (recordOf kind body).letters with
    | some u => .error (.unencodable u)
    | none => .ok (line kind body)

/-- tick records as lines, up to the first that has no written form -/
def tickLines : List Snapshot → List (List UInt8) × Option Fault
  | [] => ([], none)
  | s :: rest =>
    match writeLine .tick s.toJson with
    | .error e => ([], some e)
    | .ok l =>
      let (ls, fault) := tickLines rest
      (l :: ls, fault)

end RunLog

/-! ## Writers -/

/-- a writer of the log at a path -/
structure LogWriter where
  path : Path
  ticksWritten : Nat := 0
  isOpen : Bool := false
  hasHeader : Bool := false
deriving Repr

namespace LogWriter

def ofFolder (folder : Path) : LogWriter := { path := RunLog.pathIn folder }

/-- the log opened, its folder made -/
def openLog (wr : LogWriter) (s : Store) : Except Fault LogWriter × Store :=
  match s.makeFolders wr.path.parent with
  | (.error r, s) => (.error (.refused r), s)
  | (.ok (), s) =>
    match s.touch wr.path with
    | .error r => (.error (.refused r), s)
    | .ok s => (.ok { wr with isOpen := true }, s)

def closeLog (wr : LogWriter) : LogWriter := { wr with isOpen := false }

def write (wr : LogWriter) (kind : RecordKind) (body : Json) (s : Store) : Except Fault Store :=
  if wr.isOpen then (RunLog.writeLine kind body).map (s.append wr.path) else .error .logClosed

def writeHeader (wr : LogWriter) (h : RunHeader) (s : Store) : Except Fault (LogWriter × Store) :=
  if wr.hasHeader then .error (.headerTwice wr.path)
  else (wr.write .header h.toJson s).map fun s => ({ wr with hasHeader := true }, s)

def writeTick (wr : LogWriter) (snapshot : Snapshot) (s : Store) : Except Fault (LogWriter × Store) :=
  if !wr.hasHeader then .error (.headerFirst wr.path)
  else (wr.write .tick snapshot.toJson s).map fun s => ({ wr with ticksWritten := wr.ticksWritten + 1 }, s)

end LogWriter

/-! ## Whole runs -/

namespace RunLog

/-- the name of a run: as given, or else for the moment at which it starts -/
def nameOfRun (name? : Option String) (clock : Float) : Except Fault String :=
  match name?.filter fun name => !name.isEmpty with
  | some name => .ok name
  | none => ((Moment.ofClock clock).map Moment.runId).mapError .moment

def makeFolderNamed (base : Path) (name : String) (s : Store) : Except Fault Path × Store :=
  let folder := base.join (Path.ofText name)
  let (outcome, s) := s.makeFolders folder
  ((outcome.mapError .refused).map fun _ => folder, s)

/-- a folder for a run, named as given or for the moment at which it starts -/
def makeRunFolder (base : Path) (name? : Option String) (clock : Float) (s : Store) : Except Fault Path × Store :=
  match nameOfRun name? clock with
  | .error f => (.error f, s)
  | .ok name => makeFolderNamed base name s

/-- a header and what was seen in a run written to the log of a folder; the number of ticks. The fault of the run comes
    out when all it saw is written. -/
def record (folder : Path) (h : RunHeader) (r : Run) (s : Store) : Except Fault Nat × Store :=
  match (LogWriter.ofFolder folder).openLog s with
  | (.error e, s) => (.error e, s)
  | (.ok wr, s) =>
    match wr.writeHeader h s with
    | .error e => (.error e, s)
    | .ok (wr, s) =>
      let (lines, fault?) := tickLines r.snapshots
      let s := s.append wr.path lines.flatten
      match fault? <|> r.fault with
      | some e => (.error e, s)
      | none => (.ok lines.length, s)

end RunLog

end TileCrew
