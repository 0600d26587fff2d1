/-
Reading run logs back. A log is decoded in blocks of 8192 octets; octets that are no text end the reading, and of what
stands before them only the lines that were complete in the blocks before are read. Lines that are no JSON, records of
another kind or version and bodies that are no object are passed over; so are tick bodies that are no snapshot. The
header is the first header body; it has to be a header. `thin` selects every n-th tick and the last.
-/
import TileCrew.Replay.Log

namespace TileCrew

/-- what was read, and the fault that ended the reading -/
structure Reading (α : Type) where
  items : List α
  fault : Option Fault

namespace Reading

/-- the first item; the fault where there is none -/
def first? {α : Type} (r : Reading α) : Except Fault (Option α) :=
  match r.items, r.fault with
  | a :: _, _ => .ok (some a)
  | [], some e => .error e
  | [], none => .ok none

def all {α : Type} (r : Reading α) : Except Fault (List α) :=
  match r.fault with
  | some e => .error e
  | none => .ok r.items

end Reading

namespace RunLog

/-! ## Lines -/

/-- how many octets are decoded at a time -/
def blockSize : Nat := 8192

/-- how many octets of a character under way a decoder holds -/
def heldOctets (s : Utf8.State) : Nat := (s.pending.map fun p => p.seen.length).getD 0

/-- a refusal as the block sees it that it arose in: counted from the octets that the decoder held before -/
def inBlock (before : Utf8.State) (m : Utf8.Malformed) : Utf8.Malformed :=
  let shift := before.position - heldOctets before
  { m with start := m.start - shift, stop := m.stop - shift }

/-- the lead octet behind which further octets might give half of a surrogate pair -/
def surrogateLead : UInt8 := 0xed

/-- the octet refused in a state makes half of a surrogate pair with the lead octet before it, and ends a block: both
    are held, as if a character were under way, and refused when more is asked for -/
def isHeld (s : Utf8.State) (octets : List UInt8) : Bool :=
  match s.pending.map fun p => p.seen, octets.drop s.position with
  | some [lead], b :: rest =>
    lead = surrogateLead && (0xa0 ≤ b && b ≤ 0xbf) && (rest.isEmpty || (s.position + 1) % blockSize = 0)
  | _, _ => false

/-- the characters of all blocks before the first that is refused, and the refusal -/
def decodeBlocks (octets : List UInt8) : List Char × Option Utf8.Malformed :=
  match Utf8.State.empty.run octets with
  | (s, none) => (s.done.reverse, s.cutOff?.map (inBlock s))
  | (s, some m) =>
    if isHeld s octets then (s.done.reverse, some (inBlock s m))
    else
      let before := (Utf8.State.empty.run (octets.take (s.position / blockSize * blockSize))).1
      (before.done.reverse, some (inBlock before m))

/-- characters without a carriage return at their end, which might be the first half of a newline -/
def dropOpenReturn (cs : List Char) : List Char := if cs.getLast? = some '\r' then cs.dropLast else cs

/-- the lines of a log, and the refusal that ended it; the last line need not be complete where there is none -/
def linesOf (octets : List UInt8) : List (List Char) × Option Utf8.Malformed :=
  match decodeBlocks octets with
  | (cs, none) =>
    let pieces := Text.splitFeeds (Text.unifyNewlines cs)
    (if pieces.getLast? = some [] then pieces.dropLast else pieces, none)
  | (cs, some m) => ((Text.splitFeeds (Text.unifyNewlines (dropOpenReturn cs))).dropLast, some m)

/-! ## Bodies -/

def isVersion : Option Json → Bool
  | some (.number n) => n.equals version
  | _ => false

def isKind (kind : RecordKind) : Option Json → Bool
  | some (.text s) => s == kind.name
  | _ => false

/-- the body of a record of that kind and of the current version -/
def bodyOfRecord (kind : RecordKind) : Json → Option Json
  | .object fields =>
    if isKind kind (Json.lookup "type" fields) && isVersion (Json.lookup "schema_version" fields) then
      match Json.lookup "body" fields with
      | some (.object body) => some (.object body)
      | _ => none
    else none
  | _ => none

/-- the body on a line, none where the line holds no such record; what is too long or too deep to be read is a fault -/
def bodyOfLine (kind : RecordKind) (cs : List Char) : Except Fault (Option Json) :=
  match Json.read (String.ofList cs) with
  | .ok v => .ok (bodyOfRecord kind v)
  | .error (.malformed ..) => .ok none
  | .error e => .error (.ofJson e)

/-- the bodies on lines; `fault` is what ended the lines -/
def bodiesOfLines (kind : RecordKind) (fault : Option Fault) : List (List Char) → Reading Json
  | [] => ⟨[], fault⟩
  | cs :: rest =>
    match bodyOfLine kind cs with
    | .error e => ⟨[], some e⟩
    | .ok body? =>
      let r := bodiesOfLines kind fault rest
      { r with items := body?.toList ++ r.items }

def bodiesOf (kind : RecordKind) (octets : List UInt8) : Reading Json :=
  let (lines, m?) := linesOf octets
  bodiesOfLines kind (m?.map .octets) lines

/-- the bodies of one kind in a file -/
def bodies (kind : RecordKind) (log : Path) (s : Store) : Reading Json :=
  match s.read log with
  | .error r => ⟨[], some (.refused r)⟩
  | .ok octets => bodiesOf kind octets

/-! ## Runs -/

/-- the header of the run in a folder -/
def header (folder : Path) (s : Store) : Except Fault RunHeader := do
  let log := pathIn folder
  if !(← (s.isPresent log).mapError .refused) then .error (.noLog folder)
  else
    match ← (bodies .header log s).first? with
    | some body => Fault.ofReport ((RunHeader.check body).report RunHeader.title)
    | none => .error (.noHeader log)

def snapshotOf? (body : Json) : Option Snapshot :=
  match Snapshot.check body with
  | .valid s => some s
  | .invalid _ => none

/-- what was seen in the run of a folder -/
def snapshots (folder : Path) (s : Store) : Reading Snapshot :=
  let r := bodies .tick (pathIn folder) s
  ⟨r.items.filterMap snapshotOf?, r.fault⟩

/-! ## Thinning -/

/-- the tick lies on the stride -/
def onStride (every : Int) (s : Snapshot) : Bool := s.tick % max 1 every == 0

/-- every n-th tick, and the last also where the stride leaves it out -/
def thin (every : Int) (snapshots : List Snapshot) : List Snapshot :=
  snapshots.filter (onStride every) ++ (snapshots.getLast?.filter fun s => !onStride every s).toList

/-- `thin` of a reading; one that a fault ended has no last tick -/
def thinReading (every : Int) (r : Reading Snapshot) : Reading Snapshot :=
  match r.fault with
  | some e => ⟨r.items.filter (onStride every), some e⟩
  | none => ⟨thin every r.items, none⟩

end RunLog

end TileCrew
