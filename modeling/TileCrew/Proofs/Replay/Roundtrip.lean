/-
What is recorded is what is replayed. A header and the snapshots of a run, none with an integer too long to be written
or with a lone half in a text, are recorded in a folder without a log. Then, whether the run ended in a fault or not,
- the log holds one line for the header and one for each snapshot (`record_holds`, of any log `record_appends`);
- `record_replays`: **the header and the snapshots read back are the very ones**, and recording told how many they are or
  what fault ended the run.
-/
import TileCrew.Proofs.Files.Store
import TileCrew.Proofs.Replay.Lines
import TileCrew.Proofs.Schema.Records

namespace TileCrew.RunLog

open Json

/-! ## The records of a run -/

def headerRecord (h : RunHeader) : Record := ⟨.header, h.toJson⟩

def tickRecord (s : Snapshot) : Record := ⟨.tick, s.toJson⟩

/-- the records of a run: its header, then what was seen -/
def recordsOf (h : RunHeader) (snapshots : List Snapshot) : List Record := headerRecord h :: snapshots.map tickRecord

theorem headerRecord_sound {h : RunHeader} (hh : h.toJson.isPrintable = true) : (headerRecord h).Sound := by
  have hlegible : Legible 2 h.toJson := h.regular hh
  exact ⟨⟨_, rfl⟩, 2, by decide, hlegible⟩

theorem tickRecord_sound {s : Snapshot} (hs : s.toJson.isPrintable = true) : (tickRecord s).Sound := by
  have hlegible : Legible 5 s.toJson := s.regular hs
  exact ⟨⟨_, rfl⟩, 5, by decide, hlegible⟩

theorem recordsOf_sound {h : RunHeader} {snapshots : List Snapshot} (hh : h.toJson.isPrintable = true)
    (hs : ∀ s ∈ snapshots, s.toJson.isPrintable = true) : ∀ r ∈ recordsOf h snapshots, r.Sound := by
  refine List.forall_mem_cons.2 ⟨headerRecord_sound hh, fun r hr => ?_⟩
  obtain ⟨s, hmem, rfl⟩ := List.mem_map.1 hr
  exact tickRecord_sound (hs s hmem)

theorem recordsOf_headers (h : RunHeader) (snapshots : List Snapshot) :
    ((recordsOf h snapshots).filter (·.kind = .header)).map Record.body = [h.toJson] := by
  have hticks : (snapshots.map tickRecord).filter (·.kind = .header) = [] := by
    simp [tickRecord]
  rw [recordsOf, List.filter_cons_of_pos (by simp [headerRecord]), hticks]
  rfl

theorem recordsOf_ticks (h : RunHeader) (snapshots : List Snapshot) :
    ((recordsOf h snapshots).filter (·.kind = .tick)).map Record.body = snapshots.map Snapshot.toJson := by
  have hticks : (snapshots.map tickRecord).filter (·.kind = .tick) = snapshots.map tickRecord := by
    simp [tickRecord]
  rw [recordsOf, List.filter_cons_of_neg (by simp [headerRecord]), hticks, List.map_map]
  rfl

/-! ## Recording -/

section

variable {kind : RecordKind} {body : Json}

/-- a record has lone halves where its body has some -/
theorem recordOf_isWhole : (recordOf kind body).isWhole = body.isWhole := by
  rw [Bool.eq_iff_iff, recordOf, isWhole_object]
  simp [isWhole_text, int, isWhole_number]

theorem firstHalves?_record : Utf8.firstHalves? (recordOf kind body).letters = none ↔ body.isWhole = true := by
  rw [← Option.isNone_iff_eq_none, Utf8.firstHalves?_isNone, any_isHalf, Bool.not_not, recordOf_isWhole]

theorem writeLine_ok (h : body.isPrintable = true) : writeLine kind body = .ok (line kind body) := by
  obtain ⟨hshort, hwhole⟩ := Bool.and_eq_true_iff.1 h
  rw [writeLine, hshort, firstHalves?_record.2 hwhole]
  rfl

theorem writeLine_error (kind : RecordKind) (h : body.isPrintable = false) : ∃ e, writeLine kind body = .error e := by
  rw [isPrintable, Bool.and_eq_false_iff] at h
  rw [writeLine]
  rcases h with hlong | hhalf
  · exact ⟨.unwritable, by rw [hlong]; rfl⟩
  · split
    · exact ⟨_, rfl⟩
    · split
      · exact ⟨_, rfl⟩
      · next hnone =>
        rw [firstHalves?_record, hhalf] at hnone
        cases hnone

theorem unprintable_of_writeLine {e : Fault} (h : writeLine kind body = .error e) : body.isPrintable = false := by
  rw [← Bool.not_eq_true]
  intro hbody
  rw [writeLine_ok hbody] at h
  cases h

end

/-- the snapshots that are written: those before the first that cannot be written -/
def written (snapshots : List Snapshot) : List Snapshot := snapshots.takeWhile (·.toJson.isPrintable)

theorem written_printable {snapshots : List Snapshot} : ∀ s ∈ written snapshots, s.toJson.isPrintable = true :=
  List.all_eq_true.1 List.all_takeWhile

theorem written_eq {snapshots : List Snapshot} (h : ∀ s ∈ snapshots, s.toJson.isPrintable = true) :
    written snapshots = snapshots := List.takeWhile_eq_self_iff.2 h

theorem tickLines_written (snapshots : List Snapshot) :
    (tickLines snapshots).1 = (written snapshots).map fun s => (tickRecord s).line := by
  induction snapshots with
  | nil => rfl
  | cons s snapshots ih =>
    cases hs : s.toJson.isPrintable with
    | true =>
      simp only [tickLines, writeLine_ok hs, written, List.takeWhile_cons, hs, if_true, ih, List.map_cons]
      rfl
    | false =>
      obtain ⟨e, he⟩ := writeLine_error .tick hs
      simp only [tickLines, he, written, List.takeWhile_cons, hs, Bool.false_eq_true, if_false, List.map_nil]

theorem tickLines_printable {snapshots : List Snapshot} (h : ∀ s ∈ snapshots, s.toJson.isPrintable = true) :
    (tickLines snapshots).2 = none := by
  induction snapshots with
  | nil => rfl
  | cons s snapshots ih =>
    obtain ⟨hs, hrest⟩ := List.forall_mem_cons.1 h
    simp only [tickLines, writeLine_ok hs, ih hrest]

theorem printable_of_tickLines {snapshots : List Snapshot} (h : (tickLines snapshots).2 = none) :
    ∀ s ∈ snapshots, s.toJson.isPrintable = true := by
  induction snapshots with
  | nil => exact List.forall_mem_nil _
  | cons s snapshots ih =>
    cases hs : s.toJson.isPrintable with
    | true =>
      simp only [tickLines, writeLine_ok hs] at h
      exact List.forall_mem_cons.2 ⟨hs, ih h⟩
    | false =>
      obtain ⟨e, he⟩ := writeLine_error .tick hs
      simp only [tickLines, he] at h
      cases h

theorem octetsOf_recordsOf (h : RunHeader) (snapshots : List Snapshot) :
    octetsOf (recordsOf h snapshots) = (headerRecord h).line ++ (snapshots.map fun s => (tickRecord s).line).flatten := by
  rw [octetsOf, recordsOf, List.map_cons, List.map_map, List.flatten_cons]
  rfl

variable {s : Store} {folder : Path} {h : RunHeader} {r : Run}

/-- a log can be opened in a folder; it holds what it held, and nothing where there was none -/
theorem openLog_held {place : Path} {old : List UInt8} (hfolder : s.isFolder folder = true)
    (hplace : s.locate (pathIn folder) = .ok place)
    (hentry : s.entry? place = some (.file old) ∨ s.entry? place = none ∧ old = []) :
    ∃ s', (LogWriter.ofFolder folder).openLog s = (.ok { LogWriter.ofFolder folder with isOpen := true }, s') ∧
      s'.Holds (pathIn folder) old := by
  have hparent : (LogWriter.ofFolder folder).path.parent = folder := by
    simp [LogWriter.ofFolder, pathIn, Path.child, Path.parent]
  obtain ⟨s', htouch, hholds⟩ :
      ∃ s', s.touch (LogWriter.ofFolder folder).path = .ok s' ∧ s'.Holds (pathIn folder) old := by
    rcases hentry with hold | ⟨hnone, rfl⟩
    · exact ⟨s, Store.touch_file hplace hold, place, hplace, hold⟩
    · exact Store.touch_holds hplace hnone
  refine ⟨s', ?_, hholds⟩
  simp only [LogWriter.openLog, hparent, Store.makeFolders_folder hfolder, htouch]

theorem openLog_holds (hfolder : s.isFolder folder = true) (habsent : s.isPresent (pathIn folder) = .ok false) :
    ∃ s', (LogWriter.ofFolder folder).openLog s = (.ok { LogWriter.ofFolder folder with isOpen := true }, s') ∧
      s'.Holds (pathIn folder) [] := by
  obtain ⟨place, hplace, hentry⟩ := Store.locate_child (by decide) (by decide) (by decide) hfolder habsent
  exact openLog_held hfolder hplace (.inr ⟨hentry, rfl⟩)

/-- the header goes behind what an open log without header holds -/
theorem writeHeader_appends {wr : LogWriter} (hopen : wr.isOpen = true) (hnew : wr.hasHeader = false)
    (hh : h.toJson.isPrintable = true) :
    wr.writeHeader h s = .ok ({ wr with hasHeader := true }, s.append wr.path (headerRecord h).line) := by
  have hline : writeLine .header h.toJson = .ok (headerRecord h).line := writeLine_ok hh
  simp only [LogWriter.writeHeader, LogWriter.write, hopen, hnew, hline, Except.map, if_true, Bool.false_eq_true,
    if_false]

theorem record_error {e : Fault} {s' : Store} (hopen : (LogWriter.ofFolder folder).openLog s = (.error e, s')) :
    record folder h r s = (.error e, s') := by
  unfold record
  simp only [hopen]

section

variable {s' : Store}
  (hopen : (LogWriter.ofFolder folder).openLog s = (.ok { LogWriter.ofFolder folder with isOpen := true }, s'))

include hopen

theorem record_unwritable {e : Fault} (hline : writeLine .header h.toJson = .error e) :
    record folder h r s = (.error e, s') := by
  have hwrite : LogWriter.writeHeader { LogWriter.ofFolder folder with isOpen := true } h s' = .error e := by
    simp only [LogWriter.writeHeader, LogWriter.write, LogWriter.ofFolder, hline, Except.map, if_true,
      Bool.false_eq_true, if_false]
  unfold record
  simp only [hopen, hwrite]

/-- all that is done to an open log is that lines are appended to it -/
theorem record_store (hh : h.toJson.isPrintable = true) :
    (record folder h r s).2 = (s'.append (pathIn folder) (headerRecord h).line).append (pathIn folder)
      ((written r.snapshots).map fun p => (tickRecord p).line).flatten := by
  have hwrite : LogWriter.writeHeader { LogWriter.ofFolder folder with isOpen := true } h s' =
      .ok ({ LogWriter.ofFolder folder with isOpen := true, hasHeader := true },
        s'.append (pathIn folder) (headerRecord h).line) := writeHeader_appends rfl rfl hh
  rw [← tickLines_written]
  unfold record
  simp only [hopen, hwrite]
  split
  · rfl
  · rfl

/-- **A run is recorded line by line behind what the log holds**, up to a snapshot that cannot be written. -/
theorem record_appends {old : List UInt8} (hold : s'.Holds (pathIn folder) old) (hh : h.toJson.isPrintable = true) :
    (record folder h r s).2.Holds (pathIn folder) (old ++ octetsOf (recordsOf h (written r.snapshots))) := by
  rw [record_store hopen hh, octetsOf_recordsOf, ← List.append_assoc]
  exact Store.append_holds (Store.append_holds hold _) _

/-- what comes of a recording whose header is written: its first fault, or that of the run -/
theorem record_result (hh : h.toJson.isPrintable = true) :
    (record folder h r s).1 =
      (match (tickLines r.snapshots).2 <|> r.fault with
        | none => .ok (tickLines r.snapshots).1.length
        | some e => .error e) := by
  have hwrite : LogWriter.writeHeader { LogWriter.ofFolder folder with isOpen := true } h s' =
      .ok ({ LogWriter.ofFolder folder with isOpen := true, hasHeader := true },
        s'.append (pathIn folder) (headerRecord h).line) := writeHeader_appends rfl rfl hh
  unfold record
  simp only [hopen, hwrite]
  cases (tickLines r.snapshots).2 <|> r.fault with
  | none => rfl
  | some e => rfl

/-- the fault of a run comes out when all it saw is written -/
theorem record_outcome (hh : h.toJson.isPrintable = true) (hs : ∀ p ∈ r.snapshots, p.toJson.isPrintable = true) :
    (record folder h r s).1 = (match r.fault with | none => .ok r.snapshots.length | some e => .error e) := by
  have hlength : (tickLines r.snapshots).1.length = r.snapshots.length := by
    rw [tickLines_written, List.length_map, written_eq hs]
  rw [record_result hopen hh, tickLines_printable hs, hlength]
  cases r.fault with
  | none => rfl
  | some e => rfl

end

/-- **A run is recorded line by line, and its fault comes out when all it saw is written.** -/
theorem record_holds (hfolder : s.isFolder folder = true) (habsent : s.isPresent (pathIn folder) = .ok false)
    (hh : h.toJson.isPrintable = true) (hs : ∀ p ∈ r.snapshots, p.toJson.isPrintable = true) :
    (record folder h r s).1 = (match r.fault with | none => .ok r.snapshots.length | some e => .error e) ∧
      (record folder h r s).2.Holds (pathIn folder) (octetsOf (recordsOf h r.snapshots)) := by
  -- the log is empty once it is open, so all it holds in the end has been appended
  obtain ⟨s', hopen, hempty⟩ := openLog_holds hfolder habsent
  have hholds := record_appends (r := r) hopen hempty hh
  rw [List.nil_append, written_eq hs] at hholds
  exact ⟨record_outcome hopen hh hs, hholds⟩

/-! ## Replaying -/

theorem bodies_held {rs : List Record} (hholds : s.Holds (pathIn folder) (octetsOf rs)) (hrs : ∀ r ∈ rs, r.Sound)
    (kind : RecordKind) : bodies kind (pathIn folder) s = ⟨(rs.filter (·.kind = kind)).map Record.body, none⟩ := by
  rw [bodies, hholds.read]
  exact bodiesOf_octets hrs kind

/-- the header of a log is the first that is in it, whatever ended the reading behind it -/
theorem header_first {octets : List UInt8} (hholds : s.Holds (pathIn folder) octets) {rest : List Json}
    (hbodies : (bodies .header (pathIn folder) s).items = h.toJson :: rest) : header folder s = .ok h := by
  have hpresent := hholds.isPresent
  have hchecked : RunHeader.check h.toJson = .valid h := RunHeader.restores h
  have hfirst : (bodies .header (pathIn folder) s).first? = .ok (some h.toJson) := by
    rw [Reading.first?, hbodies]
  unfold header
  simp only [hpresent, hfirst, Except.mapError]
  show Fault.ofReport ((RunHeader.check h.toJson).report RunHeader.title) = .ok h
  rw [hchecked]
  rfl

/-- what was seen is what the bodies of a log were written for -/
theorem snapshots_restored {snapshots : List Snapshot} {fault : Option Fault}
    (hbodies : bodies .tick (pathIn folder) s = ⟨snapshots.map Snapshot.toJson, fault⟩) :
    RunLog.snapshots folder s = ⟨snapshots, fault⟩ := by
  have hchecked (p : Snapshot) : snapshotOf? p.toJson = some p := by
    rw [snapshotOf?, Snapshot.restores p]
  simp only [RunLog.snapshots, hbodies, List.filterMap_map]
  congr
  exact (List.filterMap_congr fun p _ => hchecked p).trans List.filterMap_some

theorem header_recorded (hholds : s.Holds (pathIn folder) (octetsOf (recordsOf h r.snapshots)))
    (hh : h.toJson.isPrintable = true) (hs : ∀ p ∈ r.snapshots, p.toJson.isPrintable = true) :
    header folder s = .ok h := by
  have hbodies := bodies_held hholds (recordsOf_sound hh hs) .header
  rw [recordsOf_headers] at hbodies
  exact header_first hholds (congrArg Reading.items hbodies)

theorem snapshots_recorded (hholds : s.Holds (pathIn folder) (octetsOf (recordsOf h r.snapshots)))
    (hh : h.toJson.isPrintable = true) (hs : ∀ p ∈ r.snapshots, p.toJson.isPrintable = true) :
    snapshots folder s = ⟨r.snapshots, none⟩ := by
  have hbodies := bodies_held hholds (recordsOf_sound hh hs) .tick
  rw [recordsOf_ticks] at hbodies
  exact snapshots_restored hbodies

/-- **What is recorded is what is replayed.** Of a header and a run that can be written, recorded in a folder that has no
log, the header and all that was seen read back as they were, field by field and in order, whether the run
ended in a fault or not; recording tells how many ticks it wrote, or gives the fault of the run. -/
theorem record_replays (hfolder : s.isFolder folder = true) (habsent : s.isPresent (pathIn folder) = .ok false)
    (hh : h.toJson.isPrintable = true) (hs : ∀ p ∈ r.snapshots, p.toJson.isPrintable = true) :
    (record folder h r s).1 = (match r.fault with | none => .ok r.snapshots.length | some e => .error e) ∧
      header folder (record folder h r s).2 = .ok h ∧
      snapshots folder (record folder h r s).2 = ⟨r.snapshots, none⟩ := by
  obtain ⟨houtcome, hholds⟩ := record_holds hfolder habsent hh hs
  exact ⟨houtcome, header_recorded hholds hh hs, snapshots_recorded hholds hh hs⟩

/-- an interrupted run: breaks of lines inside texts, doubles that are no numbers, rows of different lengths -/
theorem record_replays_interrupted :
    let folder : Path := ⟨"", ["runs"]⟩
    let s : Store := ⟨[(folder, .folder)]⟩
    let h : RunHeader :=
      { runId := "a \"b\"\r\n", createdAt := "", dt := -0.0, seed := some (-7), mapWidth := 2, mapHeight := 1 }
    let a : AgentView :=
      { id := 1, name := "Bot\u2028", x := Binary64.nan, y := Binary64.infinity, color := "red", activity := .moving,
        current := some (.move 0.1 (-0.0)) }
    let seen : List Snapshot := [⟨1, { agents := [a], tiles := [[.grass, .water], []] }⟩, ⟨2, {}⟩]
    let r : Run := ⟨seen, some .logClosed, .bare ⟨#[], 0⟩ 0⟩
    (s.isFolder folder = true ∧ s.isPresent (pathIn folder) = .ok false ∧ h.toJson.isPrintable = true ∧
      ∀ p ∈ r.snapshots, p.toJson.isPrintable = true) ∧
    (record folder h r s).1 = .error .logClosed ∧ header folder (record folder h r s).2 = .ok h ∧
      snapshots folder (record folder h r s).2 = ⟨r.snapshots, none⟩ := by
  intro folder s h a seen r
  have hfolder : s.isFolder folder = true := by decide +kernel
  have habsent : s.isPresent (pathIn folder) = .ok false := by decide +kernel
  have hh : h.toJson.isPrintable = true := by decide +kernel
  have hs : ∀ p ∈ r.snapshots, p.toJson.isPrintable = true := by decide +kernel
  exact ⟨⟨hfolder, habsent, hh, hs⟩, record_replays hfolder habsent hh hs⟩

end TileCrew.RunLog
