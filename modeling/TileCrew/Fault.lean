/-
Everything an operation may fail for, as causes with their wording (`Fault.message`). The causes that belong to one
subject are kept in its own type and wrapped here: file operations, octets that are no text, JSON, records, moments.
The text of a file (`Store.readText`) is UTF-8 with any kind of newline, each read as a line feed.
-/
import TileCrew.Files.Store
import TileCrew.Json.Reader
import TileCrew.Json.Shown
import TileCrew.Replay.Moment
import TileCrew.Schema.Issue
import TileCrew.Text.Character
import TileCrew.Text.Utf8

namespace TileCrew

/-- the settings of a run whose values are needed once it is made or replayed -/
inductive Setting where
  | seed
  | world
  | folder
  | stride
deriving DecidableEq, Repr

def Setting.noValueMessage : Setting → String
  | .seed => "The only supported seed types are: None,\nint, float, str, bytes, and bytearray."
  | .world => "'list' object has no attribute 'read_text'"
  | .folder => "unsupported operand type(s) for /: 'list' and 'str'"
  | .stride => "'>' not supported between instances of 'list' and 'int'"

/-- why an operation failed -/
inductive Fault where
  /-- the files do not allow it -/
  | refused (r : Files.Refusal)
  /-- octets that are no text -/
  | octets (m : Utf8.Malformed)
  /-- text that is no JSON -/
  | json (c : Json.Complaint) (line column position : Nat)
  /-- a value that is not the record it should be -/
  | record (r : Schema.Report)
  /-- a coordinate without an integer beside it -/
  | notWhole (c : Binary64.NotWhole)
  /-- an integer beyond the largest double -/
  | tooLargeForReal
  /-- an integer of too many digits to be read -/
  | longNumeral (digits : Nat)
  /-- an integer of too many digits to be written -/
  | unwritable
  /-- a text with lone halves of surrogate pairs, which have no octets -/
  | unencodable (u : Utf8.Unencodable)
  /-- a text that spells no integer -/
  | integerText (t : Text)
  /-- a text that spells no real -/
  | realText (t : Text)
  /-- a value of a kind that has no integer -/
  | integerKind (kind : String)
  /-- a value of a kind that has no fields -/
  | noFields (kind : String)
  /-- a value of a kind that has no items -/
  | noItems (kind : String)
  /-- a world file that is not there -/
  | worldFileMissing (p : Path)
  | mapSize (width height : Int)
  | agentEntry (v : Json)
  | nameTwice (name : Text)
  /-- a script line whose marker is no tick -/
  | tickMarker (p : Path) (line : Nat) (marker : String)
  | tickBelowOne (p : Path) (line : Nat)
  /-- a run log that has its header already -/
  | headerTwice (log : Path)
  /-- a run log without header -/
  | headerFirst (log : Path)
  /-- a run log that is not open -/
  | logClosed
  | noLog (folder : Path)
  | noHeader (log : Path)
  /-- a seed in the environment that is no integer -/
  | seedSetting (s : String)
  | levelName (s : String)
  /-- a setting that is given and has no value -/
  | noValue (s : Setting)
  /-- a clock or a date without a moment -/
  | moment (i : Moment.Invalid)
  /-- a list or object in a JSON text that lies too deep in others -/
  | tooDeep (c : Json.Container)

namespace Fault

def wholeMessage : Binary64.NotWhole → String
  | .nan => "cannot convert float NaN to integer"
  | .infinite => "cannot convert float infinity to integer"

/-- the most characters of a text that the complaint about an integer shows -/
def shownLimit : Nat := 200

/-- how a too long integer is put, with what is known about its length -/
def digitsMessage (known : String) : String :=
  "Exceeds the limit (" ++ toString Text.digitLimit ++ " digits) for integer string conversion" ++ known ++
    "; use sys.set_int_max_str_digits() to increase the limit"

/-- the wording of a fault; a record is reported by its title and issues instead -/
def message : Fault → Text
  | .refused r => r.message
  | .octets m => m.message
  | .json c line column position =>
    c.message ++ ": line " ++ toString line ++ " column " ++ toString column ++ " (char " ++ toString position ++ ")"
  | .record r => r.title
  | .notWhole c => wholeMessage c
  | .tooLargeForReal => "int too large to convert to float"
  | .longNumeral n => digitsMessage (": value has " ++ toString n ++ " digits")
  | .unwritable => digitsMessage ""
  | .unencodable u => u.message
  | .integerText t =>
    "invalid literal for int() with base 10: " ++ String.ofList ((Text.quoted t).toList.take shownLimit)
  | .realText t => "could not convert string to float: " ++ Text.quoted t
  | .integerKind kind =>
    "int() argument must be a string, a bytes-like object or a real number, not '" ++ kind ++ "'"
  | .noFields kind => "'" ++ kind ++ "' object has no attribute 'get'"
  | .noItems kind => "'" ++ kind ++ "' object is not iterable"
  | .worldFileMissing p => "Missing world data file: " ++ p.text
  | .mapSize w h => "Map size must be positive, got " ++ toString w ++ "x" ++ toString h ++ "."
  | .agentEntry v => "Invalid agent entry: " ++ v.shown
  | .nameTwice name => "Agent name " ++ name ++ " is defined twice."
  | .tickMarker p line marker =>
    p.text ++ ":" ++ toString line ++ ": bad tick marker " ++ Text.quoted marker
  | .tickBelowOne p line => p.text ++ ":" ++ toString line ++ ": tick must be >= 1"
  | .headerTwice log => "Header already written to " ++ log.text
  | .headerFirst log => "Write a run header to " ++ log.text ++ " before ticks"
  | .logClosed => "ReplayWriter used outside a with block"
  | .noLog folder => "No replay log found in " ++ folder.text ++ "."
  | .noHeader log => "Replay log " ++ log.text ++ " has no run header."
  | .seedSetting s => "ISOLOOT_SEED must be an integer, got " ++ Text.quoted s
  | .levelName s => "Unknown level: " ++ Text.quoted s
  | .noValue s => s.noValueMessage
  | .moment i => i.message
  | .tooDeep c => "maximum recursion depth exceeded while decoding a JSON " ++ c.name ++ " from a unicode string"

def ofJson : Json.Fault → Fault
  | .malformed c line column position => .json c line column position
  | .tooLong n => .longNumeral n
  | .tooDeep c => .tooDeep c

/-- a check as an outcome, for a record of that title -/
def ofReport {α : Type} : Except Schema.Report α → Except Fault α := Except.mapError .record

end Fault

/-! ## Text files -/

/-- the characters of octets, newlines unified -/
def textOfOctets (octets : List UInt8) : Except Fault (List Char) :=
  ((Utf8.decode octets).mapError Fault.octets).map Text.unifyNewlines

def Store.readText (s : Store) (p : Path) : Except Fault (List Char) :=
  match s.read p with
  | .error r => .error (.refused r)
  | .ok octets => textOfOctets octets

end TileCrew
