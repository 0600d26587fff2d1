/-
The protocol of a writer. Its log is opened and closed, and headers and ticks are written, in any order; calls fail or not.
A writer is seen together with the files (`Desk`).
- `perform_inTurn`: what a call does is done step by step (`steps`): what is checked, then the text of a record, its end of
  line, and only then the flag or the count. A step that fails leaves done what was done before it;
- `failed_unchanged`: yet no call that fails has changed a file or the writer;
- `Tallies`: the log is one header record and tick records, as many as the writer has counted; `perform_tallies`,
  `performAll_tallies`: it stays so from call to call;
- `calls_protocol`: **the log is what the calls that succeeded wrote, in their order, and these are the calls that keep to
  the protocol**.
-/
import TileCrew.Proofs.Replay.Opening
import TileCrew.Proofs.Replay.Roundtrip

namespace TileCrew

inductive LogWriter.Request where
  | openLog
  | closeLog
  | header (h : RunHeader)
  | tick (p : Snapshot)

/-- the record that a call is to write -/
def LogWriter.Request.record? : LogWriter.Request → Option RunLog.Record
  | .openLog | .closeLog => none
  | .header h => some (RunLog.headerRecord h)
  | .tick p => some (RunLog.tickRecord p)

/-- a writer and the files among which its log is -/
structure Desk where
  writer : LogWriter
  files : Store

namespace Desk

open LogWriter RunLog

def ofFolder (folder : Path) (s : Store) : Desk := ⟨.ofFolder folder, s⟩

/-! ## Calls -/

/-- what comes of writing a record; writer and files stay as they are where it fails -/
def settle (d : Desk) : Except Fault (LogWriter × Store) → Except Fault Unit × Desk
  | .error e => (.error e, d)
  | .ok (wr, s) => (.ok (), ⟨wr, s⟩)

/-- what comes of a call, and writer and files after it -/
def perform (d : Desk) : Request → Except Fault Unit × Desk
  | .openLog =>
    match d.writer.openLog d.files with
    | (.error e, s) => (.error e, { d with files := s })
    | (.ok wr, s) => (.ok (), ⟨wr, s⟩)
  | .closeLog => (.ok (), { d with writer := d.writer.closeLog })
  | .header h => d.settle (d.writer.writeHeader h d.files)
  | .tick p => d.settle (d.writer.writeTick p d.files)

/-- calls one after the other, whatever comes of each -/
def performAll (d : Desk) (calls : List Request) : Desk := calls.foldl (fun (d : Desk) c => (d.perform c).2) d

/-- the record that a call writes: none if it fails -/
def wrote (d : Desk) (c : Request) : List Record :=
  match (d.perform c).1 with
  | .error _ => []
  | .ok () => c.record?.toList

/-- the records of the calls that succeed, in the order of these -/
def written (d : Desk) : List Request → List Record
  | [] => []
  | c :: calls => d.wrote c ++ written (d.perform c).2 calls

/-! ## Step by step -/

/-- one thing that is done: what comes of it, and writer and files after it -/
abbrev Step := Desk → Except Fault Unit × Desk

/-- things done one after the other, up to the first that fails; what was done before that stays done -/
def inTurn : List Step → Step
  | [], d => (.ok (), d)
  | step :: rest, d =>
    match step d with
    | (.error e, d) => (.error e, d)
    | (.ok (), d) => inTurn rest d

/-- a fault, unless something holds -/
def need (holds : Desk → Bool) (e : Desk → Fault) : Step := fun d => if holds d then (.ok (), d) else (.error (e d), d)

/-- something that does not fail -/
def change (f : Desk → Desk) : Step := fun d => (.ok (), f d)

/-- a piece of text put at the end of the log, nothing of it if it has lone halves -/
def put (ls : List Letter) : Step := fun d =>
  match Utf8.firstHalves? ls with
  | some u => (.error (.unencodable u), d)
  | none => (.ok (), { d with files := d.files.append d.writer.path (Utf8.encode (ls.map Letter.masked)) })

/-- the steps of writing a record: what can be wrong is found before anything is put, and the writer takes note of it
last -/
def recordSteps (holds : LogWriter → Bool) (e : Path → Fault) (kind : RecordKind) (body : Json)
    (note : LogWriter → LogWriter) : List Step :=
  [need (fun d => holds d.writer) fun d => e d.writer.path, need (·.writer.isOpen) fun _ => .logClosed,
    need (fun _ => body.hasShortIntegers) fun _ => .unwritable, put (recordOf kind body).letters, put [.char '\n'],
    change fun d => { d with writer := note d.writer }]

def steps : Request → List Step
  | .openLog =>
    [fun d => ((d.files.makeFolders d.writer.path.parent).1.mapError .refused,
        { d with files := (d.files.makeFolders d.writer.path.parent).2 }),
      fun d =>
        match d.files.touch d.writer.path with
        | .error r => (.error (.refused r), d)
        | .ok s => (.ok (), { d with files := s }),
      change fun d => { d with writer.isOpen := true }]
  | .closeLog => [change fun d => { d with writer.isOpen := false }]
  | .header h => recordSteps (!·.hasHeader) .headerTwice .header h.toJson fun wr => { wr with hasHeader := true }
  | .tick p =>
    recordSteps (·.hasHeader) .headerFirst .tick p.toJson fun wr => { wr with ticksWritten := wr.ticksWritten + 1 }

theorem append_record (s : Store) (p : Path) (kind : RecordKind) (body : Json) :
    (s.append p (Utf8.encode ((recordOf kind body).letters.map Letter.masked))).append p
      (Utf8.encode ([Letter.char '\n'].map Letter.masked)) = s.append p (line kind body) := by
  rw [Store.append_append, ← Utf8.encode_append]
  rfl

theorem recordSteps_inTurn (holds : LogWriter → Bool) (e : Path → Fault) (kind : RecordKind) (body : Json)
    (note : LogWriter → LogWriter) (d : Desk) :
    inTurn (recordSteps holds e kind body note) d =
      if holds d.writer then d.settle ((d.writer.write kind body d.files).map fun s => (note d.writer, s))
      else (.error (e d.writer.path), d) := by
  cases hholds : holds d.writer with
  | false => simp [recordSteps, inTurn, need, hholds]
  | true =>
    cases hopen : d.writer.isOpen with
    | false => simp [recordSteps, inTurn, need, settle, write, hholds, hopen, Except.map]
    | true =>
      cases hshort : body.hasShortIntegers with
      | false => simp [recordSteps, inTurn, need, settle, write, writeLine, hholds, hopen, hshort, Except.map]
      | true =>
        cases hhalves : Utf8.firstHalves? (recordOf kind body).letters with
        | some u =>
          simp [recordSteps, inTurn, need, put, settle, write, writeLine, hholds, hopen, hshort, hhalves, Except.map]
        | none =>
          have hrecord := append_record d.files d.writer.path kind body
          have hend : Utf8.firstHalves? [.char '\n'] = none := rfl
          simp only [recordSteps, inTurn, need, put, change, settle, write, writeLine, hholds, hopen, hshort, hhalves,
            hend, Except.map, hrecord, if_true, Bool.not_true, Bool.false_eq_true, if_false]

/-- **What a call does is done step by step.** -/
theorem perform_inTurn (d : Desk) (c : Request) : inTurn (steps c) d = d.perform c := by
  cases c with
  | openLog =>
    cases hmake : d.files.makeFolders d.writer.path.parent with
    | mk outcome s =>
      cases outcome with
      | error r => simp only [steps, inTurn, perform, openLog, hmake, Except.mapError]
      | ok u =>
        cases htouch : s.touch d.writer.path with
        | error r => simp only [steps, inTurn, perform, openLog, hmake, htouch, Except.mapError]
        | ok t => simp only [steps, inTurn, change, perform, openLog, hmake, htouch, Except.mapError]
  | closeLog => rfl
  | header h =>
    rw [steps, recordSteps_inTurn, perform, writeHeader]
    cases d.writer.hasHeader with
    | true => rfl
    | false => rfl
  | tick p =>
    rw [steps, recordSteps_inTurn, perform, writeTick]
    cases d.writer.hasHeader with
    | true => rfl
    | false => rfl

/-! ## What a call needs, and what it leaves -/

/-- the protocol lets a record be written: the log is open, the writer has its header for a tick and none for a header, and
the record can be written -/
structure Ready (d : Desk) (r : Record) : Prop where
  isOpen : d.writer.isOpen = true
  hasHeader : d.writer.hasHeader = decide (r.kind = .tick)
  printable : r.body.isPrintable = true

/-- what a writer notes of a record -/
def noted (wr : LogWriter) : RecordKind → LogWriter
  | .header => { wr with hasHeader := true }
  | .tick => { wr with ticksWritten := wr.ticksWritten + 1 }

theorem write_cases (wr : LogWriter) (kind : RecordKind) (body : Json) (s : Store) :
    (wr.isOpen = true ∧ body.isPrintable = true) ∧ wr.write kind body s = .ok (s.append wr.path (line kind body)) ∨
      ¬(wr.isOpen = true ∧ body.isPrintable = true) ∧ ∃ e, wr.write kind body s = .error e := by
  cases hopen : wr.isOpen with
  | false => simp [write, hopen]
  | true =>
    cases hbody : body.isPrintable with
    | false =>
      obtain ⟨e, he⟩ := writeLine_error kind hbody
      simp [write, hopen, he, Except.map]
    | true => simp [write, hopen, @writeLine_ok kind _ hbody, Except.map]

/-- a record is only looked at for writing when the writer has come to its kind -/
theorem perform_kind (d : Desk) {c : Request} {r : Record} (hr : c.record? = some r) :
    ∃ e, d.perform c =
      if d.writer.hasHeader = decide (r.kind = .tick) then
        d.settle ((d.writer.write r.kind r.body d.files).map fun s => (noted d.writer r.kind, s))
      else (.error e, d) := by
  cases c with
  | openLog => cases hr
  | closeLog => cases hr
  | header h =>
    cases hr
    refine ⟨.headerTwice d.writer.path, ?_⟩
    rw [perform, writeHeader]
    by_cases hhas : d.writer.hasHeader = true
    · rw [if_pos hhas, if_neg (by simp [hhas, headerRecord])]
      rfl
    · rw [if_neg hhas, if_pos (by simpa [headerRecord] using hhas)]
      rfl
  | tick p =>
    cases hr
    refine ⟨.headerFirst d.writer.path, ?_⟩
    rw [perform, writeTick]
    by_cases hhas : d.writer.hasHeader = true
    · rw [if_neg (by simp [hhas]), if_pos (by simpa [tickRecord] using hhas)]
      rfl
    · rw [if_pos (by simpa using hhas), if_neg (by simp [hhas, tickRecord])]
      rfl

/-- **A record is written and noted where the protocol lets it; else nothing happens.** -/
theorem perform_record (d : Desk) {c : Request} {r : Record} (hr : c.record? = some r) :
    d.Ready r ∧ d.perform c = (.ok (), ⟨noted d.writer r.kind, d.files.append d.writer.path r.line⟩) ∨
      ¬d.Ready r ∧ ∃ e, d.perform c = (.error e, d) := by
  obtain ⟨e, hperform⟩ := d.perform_kind hr
  by_cases hkind : d.writer.hasHeader = decide (r.kind = .tick)
  · rw [if_pos hkind] at hperform
    rcases write_cases d.writer r.kind r.body d.files with ⟨⟨hopen, hbody⟩, hwrite⟩ | ⟨hnot, e, hwrite⟩
    · rw [hwrite] at hperform
      exact .inl ⟨⟨hopen, hkind, hbody⟩, hperform⟩
    · rw [hwrite] at hperform
      exact .inr ⟨fun hready => hnot ⟨hready.isOpen, hready.printable⟩, e, hperform⟩
  · rw [if_neg hkind] at hperform
    exact .inr ⟨fun hready => hkind hready.hasHeader, e, hperform⟩

theorem perform_record_iff (d : Desk) {c : Request} {r : Record} (hr : c.record? = some r) :
    (d.perform c).1 = .ok () ↔ d.Ready r := by
  rcases d.perform_record hr with ⟨hready, hperform⟩ | ⟨hnot, e, hperform⟩
  · simp [hperform, hready]
  · simp [hperform, hnot]

theorem perform_openLog {d : Desk} {folder : Path} (hpath : d.writer.path = pathIn folder) :
    (∃ e t, d.perform .openLog = (.error e, { d with files := t }) ∧ Store.Founds d.files t) ∨
      ∃ u place old, d.perform .openLog = (.ok (), ⟨{ d.writer with isOpen := true }, u⟩) ∧
        Opened d.files u folder place old := by
  rcases openLog_cases hpath d.files with ⟨e, t, hopen, hfounds⟩ | ⟨u, place, old, hopen, ho⟩
  · exact .inl ⟨e, t, by rw [perform, hopen], hfounds⟩
  · exact .inr ⟨u, place, old, by rw [perform, hopen], ho⟩

/-- **A call that fails has changed neither the writer nor a file.** -/
theorem failed_unchanged {d : Desk} {folder : Path} (hpath : d.writer.path = pathIn folder) {c : Request} {e : Fault}
    (h : (d.perform c).1 = .error e) :
    (d.perform c).2.writer = d.writer ∧ ∀ q octets,
      Store.entry? (d.perform c).2.files q = some (.file octets) ↔ d.files.entry? q = some (.file octets) := by
  cases hr : c.record? with
  | some r =>
    rcases d.perform_record hr with ⟨-, hperform⟩ | ⟨-, e', hperform⟩
    · rw [hperform] at h
      cases h
    · rw [hperform]
      exact ⟨rfl, fun _ _ => .rfl⟩
  | none =>
    cases c with
    | openLog =>
      rcases perform_openLog hpath with ⟨e', t, hperform, hfounds⟩ | ⟨u, place, old, hperform, -⟩
      · rw [hperform]
        exact ⟨rfl, hfounds.file_iff⟩
      · rw [hperform] at h
        cases h
    | closeLog => cases h
    | header h => cases hr
    | tick p => cases hr

/-- after a call the log is open if it was before or has been opened, and has not been closed -/
theorem perform_isOpen {d : Desk} {folder : Path} (hpath : d.writer.path = pathIn folder) (c : Request) :
    (d.perform c).2.writer.isOpen = true ↔
      c ≠ .closeLog ∧ (d.writer.isOpen = true ∨ c = .openLog ∧ (d.perform c).1 = .ok ()) := by
  cases hr : c.record? with
  | some r =>
    have hne : c ≠ .closeLog ∧ c ≠ .openLog := by
      constructor
      · rintro rfl
        cases hr
      · rintro rfl
        cases hr
    have hnoted : (noted d.writer r.kind).isOpen = d.writer.isOpen := by
      cases r.kind with
      | header => rfl
      | tick => rfl
    rcases d.perform_record hr with ⟨-, hperform⟩ | ⟨-, e, hperform⟩
    · simp [hperform, hne, hnoted]
    · simp [hperform, hne]
  | none =>
    cases c with
    | openLog =>
      rcases perform_openLog hpath with ⟨e, t, hperform, -⟩ | ⟨u, place, old, hperform, -⟩
      · simp [hperform]
      · simp [hperform]
    | closeLog => simp [perform, closeLog]
    | header h => cases hr
    | tick p => cases hr

/-! ## The log and the tally -/

/-- the log holds these records, or there is none yet; they are a header and ticks, as the writer has noted them -/
structure Tallies (folder : Path) (d : Desk) (rs : List Record) : Prop where
  path : d.writer.path = pathIn folder
  log : d.files.Holds (pathIn folder) (octetsOf rs) ∨
    d.writer.isOpen = false ∧ rs = [] ∧ Unlogged d.files folder
  shape : rs = [] ∧ d.writer.hasHeader = false ∧ d.writer.ticksWritten = 0 ∨
    ∃ h ps, rs = recordsOf h ps ∧ d.writer.hasHeader = true ∧ d.writer.ticksWritten = ps.length

section

variable {folder : Path} {d : Desk} {rs : List Record}

theorem ofFolder_tallies {s : Store} (hnew : Unlogged s folder) : Tallies folder (ofFolder folder s) [] :=
  ⟨rfl, .inr ⟨rfl, rfl, hnew⟩, .inl ⟨rfl, rfl, rfl⟩⟩

/-- a record that is written is the header, or one more tick -/
theorem Ready.shape {c : Request} {r : Record} (hr : c.record? = some r) (hready : d.Ready r) (h : Tallies folder d rs) :
    ∃ h ps, rs ++ [r] = recordsOf h ps ∧ (noted d.writer r.kind).hasHeader = true ∧
      (noted d.writer r.kind).ticksWritten = ps.length := by
  have hheader := hready.hasHeader
  cases c with
  | openLog => cases hr
  | closeLog => cases hr
  | header h₀ =>
    cases hr
    rcases h.shape with ⟨rfl, -, hcount⟩ | ⟨h, ps, -, hhas, -⟩
    · exact ⟨h₀, [], rfl, rfl, hcount⟩
    · rw [hhas] at hheader
      cases hheader
  | tick p =>
    cases hr
    rcases h.shape with ⟨-, hhas, -⟩ | ⟨h₀, ps, rfl, hhas, hcount⟩
    · rw [hhas] at hheader
      cases hheader
    · refine ⟨h₀, ps ++ [p], by simp [recordsOf], hhas, ?_⟩
      rw [List.length_append, List.length_singleton, ← hcount]
      rfl

/-- **The log and the tally stay together from call to call.** -/
theorem perform_tallies (h : Tallies folder d rs) (c : Request) : Tallies folder (d.perform c).2 (rs ++ d.wrote c) := by
  cases hr : c.record? with
  | some r =>
    rcases d.perform_record hr with ⟨hready, hperform⟩ | ⟨-, e, hperform⟩
    · have hwrote : d.wrote c = [r] := by
        rw [wrote, hperform, hr]
        rfl
      rw [hwrote, hperform]
      refine ⟨?_, .inl ?_, .inr (hready.shape hr h)⟩
      · rw [← h.path]
        cases r.kind with
        | header => rfl
        | tick => rfl
      · -- the log is open, so it is there
        rcases h.log with hholds | ⟨hclosed, -, -⟩
        · have hone : octetsOf [r] = r.line := List.append_nil _
          rw [h.path, octetsOf_append, hone]
          exact Store.append_holds hholds r.line
        · rw [hready.isOpen] at hclosed
          cases hclosed
    · have hwrote : d.wrote c = [] := by
        rw [wrote, hperform]
      rw [hwrote, hperform, List.append_nil]
      exact h
  | none =>
    have hwrote : d.wrote c = [] := by
      rw [wrote, hr]
      cases (d.perform c).1 with
      | error e => rfl
      | ok u => rfl
    rw [hwrote, List.append_nil]
    cases c with
    | openLog =>
      rcases perform_openLog h.path with ⟨e, t, hperform, hfounds⟩ | ⟨u, place, old, hperform, ho⟩
      · rw [hperform]
        refine ⟨h.path, ?_, h.shape⟩
        rcases h.log with hholds | ⟨hclosed, hnone, hnew⟩
        · exact .inl (hfounds.keeps.holds hholds)
        · exact .inr ⟨hclosed, hnone, hnew.founds hfounds⟩
      · rw [hperform]
        refine ⟨h.path, .inl ?_, h.shape⟩
        rcases h.log with hholds | ⟨-, rfl, hnew⟩
        · exact ho.keeps.holds hholds
        · obtain ⟨-, rfl⟩ := ho.unlogged hnew
          exact ho.holds
    | closeLog =>
      refine ⟨h.path, ?_, h.shape⟩
      rcases h.log with hholds | ⟨-, hnone, hnew⟩
      · exact .inl hholds
      · exact .inr ⟨rfl, hnone, hnew⟩
    | header h => cases hr
    | tick p => cases hr

theorem performAll_tallies (h : Tallies folder d rs) (calls : List Request) :
    Tallies folder (d.performAll calls) (rs ++ d.written calls) := by
  induction calls generalizing d rs with
  | nil =>
    rw [written, List.append_nil]
    exact h
  | cons c calls ih =>
    rw [written, ← List.append_assoc]
    exact ih (perform_tallies h c)

/-- opening and closing writes nothing, and the writer keeps what it has noted -/
theorem performAll_reopened (hpath : d.writer.path = pathIn folder) {calls : List Request}
    (hcalls : ∀ c ∈ calls, c = .openLog ∨ c = .closeLog) :
    (d.performAll calls).writer.hasHeader = d.writer.hasHeader ∧
      (d.performAll calls).writer.ticksWritten = d.writer.ticksWritten ∧ d.written calls = [] := by
  induction calls generalizing d with
  | nil => exact ⟨rfl, rfl, rfl⟩
  | cons c calls ih =>
    obtain ⟨hc, hcalls⟩ := List.forall_mem_cons.1 hcalls
    have hone : (d.perform c).2.writer.path = pathIn folder ∧ (d.perform c).2.writer.hasHeader = d.writer.hasHeader ∧
        (d.perform c).2.writer.ticksWritten = d.writer.ticksWritten ∧ d.wrote c = [] := by
      rcases hc with rfl | rfl
      · rcases perform_openLog hpath with ⟨e, t, hperform, -⟩ | ⟨u, place, old, hperform, -⟩
        · rw [wrote, hperform]
          exact ⟨hpath, rfl, rfl, rfl⟩
        · rw [wrote, hperform]
          exact ⟨hpath, rfl, rfl, rfl⟩
      · exact ⟨hpath, rfl, rfl, rfl⟩
    obtain ⟨hpath', hheader, hticks, hwrote⟩ := hone
    obtain ⟨hheaders, htickss, hwritten⟩ := ih hpath' hcalls
    exact ⟨hheaders.trans hheader, htickss.trans hticks, by rw [written, hwrote, hwritten]; rfl⟩

end

/-- **The protocol of a writer.** Of a folder without a log a log is opened and closed, and headers and ticks are written,
in any order, whatever fails. Then the log is empty or not there, or it is one header record followed by tick records, in
the order in which they were written; there are as many of these as the writer has counted, and it knows of its header.
A header is written just if the log is open and has none, a tick just if it is open and has one, neither with an integer
that is too long or a text with a lone half. A call that fails, however far its steps have come, leaves the files and the
writer as they were; a log that is closed and opened again keeps its header. -/
theorem calls_protocol {folder : Path} {s : Store} (hnew : Unlogged s folder) (calls : List Request) :
    let d := (ofFolder folder s).performAll calls
    let rs := (ofFolder folder s).written calls
    (d.files.Holds (pathIn folder) (octetsOf rs) ∨ rs = [] ∧ ∀ octets, ¬d.files.Holds (pathIn folder) octets) ∧
    (rs = [] ∧ d.writer.hasHeader = false ∧ d.writer.ticksWritten = 0 ∨
      ∃ h ps, rs = recordsOf h ps ∧ d.writer.hasHeader = true ∧ d.writer.ticksWritten = ps.length) ∧
    (∀ h : RunHeader, (d.perform (.header h)).1 = .ok () ↔
      d.writer.isOpen = true ∧ d.writer.hasHeader = false ∧ h.toJson.isPrintable = true) ∧
    (∀ p : Snapshot, (d.perform (.tick p)).1 = .ok () ↔
      d.writer.isOpen = true ∧ d.writer.hasHeader = true ∧ p.toJson.isPrintable = true) ∧
    (∀ c, inTurn (steps c) d = d.perform c ∧
      ((d.perform c).2.writer.isOpen = true ↔
        c ≠ .closeLog ∧ (d.writer.isOpen = true ∨ c = .openLog ∧ (d.perform c).1 = .ok ())) ∧
      ∀ e, (d.perform c).1 = .error e → (d.perform c).2.writer = d.writer ∧ ∀ q octets,
        Store.entry? (d.perform c).2.files q = some (.file octets) ↔ d.files.entry? q = some (.file octets)) ∧
    ∀ more, (∀ c ∈ more, c = .openLog ∨ c = .closeLog) →
      (d.performAll more).writer.hasHeader = d.writer.hasHeader ∧
        (d.performAll more).writer.ticksWritten = d.writer.ticksWritten ∧ d.written more = [] := by
  intro d rs
  have htallies : Tallies folder d rs := performAll_tallies (ofFolder_tallies hnew) calls
  refine ⟨?_, htallies.shape, fun h => ?_, fun p => ?_, fun c => ?_, fun more => performAll_reopened htallies.path⟩
  · rcases htallies.log with hholds | ⟨-, hnone, hnew⟩
    · exact .inl hholds
    · exact .inr ⟨hnone, hnew d.files (.refl d.files)⟩
  · rw [d.perform_record_iff (r := headerRecord h) rfl]
    exact ⟨fun hready => ⟨hready.isOpen, hready.hasHeader, hready.printable⟩, fun ⟨h₁, h₂, h₃⟩ => ⟨h₁, h₂, h₃⟩⟩
  · rw [d.perform_record_iff (r := tickRecord p) rfl]
    exact ⟨fun hready => ⟨hready.isOpen, hready.hasHeader, hready.printable⟩, fun ⟨h₁, h₂, h₃⟩ => ⟨h₁, h₂, h₃⟩⟩
  · exact ⟨d.perform_inTurn c, perform_isOpen htallies.path c, fun e => failed_unchanged htallies.path⟩

/-- calls that break the protocol between others, and a log that is closed and opened again -/
theorem calls_protocol_reopened :
    let folder : Path := ⟨"", ["runs", "a"]⟩
    let h : RunHeader := { runId := "a", createdAt := "", dt := 0.25, mapWidth := 2, mapHeight := 1 }
    let p : Snapshot := ⟨1, {}⟩
    let calls : List Request :=
      [.header h, .openLog, .tick p, .header h, .header h, .closeLog, .tick p, .openLog, .tick ⟨10 ^ 4300, {}⟩, .tick p]
    let d := (ofFolder folder .empty).performAll calls
    let rs := (ofFolder folder .empty).written calls
    (Unlogged .empty folder ∧ rs.map Record.kind = [.header, .tick]) ∧
    d.files.Holds (pathIn folder) (octetsOf rs) ∧ (∃ h ps, rs = recordsOf h ps ∧ d.writer.ticksWritten = ps.length) ∧
      (d.perform (.header h)).1 ≠ .ok () ∧ (d.perform (.tick p)).1 = .ok () := by
  intro folder h p calls
  have hnew : Unlogged .empty folder := unlogged_of_forth (by decide) rfl
  have hkinds : ((ofFolder folder .empty).written calls).map Record.kind = [.header, .tick] := by decide +kernel
  have hsome : (ofFolder folder .empty).written calls ≠ [] := by
    intro hnone
    rw [hnone] at hkinds
    cases hkinds
  have hopen : ((ofFolder folder .empty).performAll calls).writer.isOpen = true := by decide +kernel
  have hp : p.toJson.isPrintable = true := by decide +kernel
  obtain ⟨hlog, hshape, hheader, htick, -, -⟩ := calls_protocol hnew calls
  obtain ⟨h', ps, hrs, hhas, hcount⟩ := hshape.resolve_left fun ⟨hnone, _⟩ => hsome hnone
  refine ⟨⟨hnew, hkinds⟩, hlog.resolve_right fun ⟨hnone, _⟩ => hsome hnone, ⟨h', ps, hrs, hcount⟩, fun hok => ?_,
    (htick p).2 ⟨hopen, hhas, hp⟩⟩
  have hhasNot := ((hheader h).1 hok).2.1
  rw [hhas] at hhasNot
  cases hhasNot

end Desk

end TileCrew
