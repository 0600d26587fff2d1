/-
Runs that share a log. A run that is given no name is named for the second at which it starts, and a writer appends to the
log that is there. So two runs of one second share their log.
- `perform_turns`, `calls_turns`: what a call and what any calls make of a place (`Becomes`): what they record there stands
  behind what the place held;
- `record_follows`: **after any calls a run recorded in a new folder stands alone in its log just if none of the calls has
  recorded there; else it stands behind their runs, under the header of the first**;
- `runs_mix`: two runs of one second.
-/
import TileCrew.Proofs.Replay.Alone
import TileCrew.Proofs.Replay.RunNames

namespace TileCrew.RunLog

open Json

/-! ## What calls write -/

/-- a header and the snapshots that were written behind it -/
structure Writing where
  header : RunHeader
  snapshots : List Snapshot

def recordsIn (ws : List Writing) : List Record := ws.flatMap fun w => recordsOf w.header w.snapshots

/-- a folder made for a run, or a run recorded in a folder -/
inductive Call where
  | makeFolder (base : Path) (name? : Option String) (clock : Float)
  | record (folder : Path) (header : RunHeader) (run : Run)

namespace Call

def perform (s : Store) : Call → Store
  | .makeFolder base name? clock => (makeRunFolder base name? clock s).2
  | .record folder h r => (RunLog.record folder h r s).2

/-- what a call writes to the file at a place: nothing, unless it opens a log that lies there and can write its header -/
def wrote (place : Path) (s : Store) : Call → List Writing
  | .makeFolder .. => []
  | .record folder h r =>
    match (LogWriter.ofFolder folder).openLog s with
    | (.ok _, s) =>
      if s.locate (pathIn folder) = .ok place ∧ h.toJson.isPrintable = true then [⟨h, written r.snapshots⟩] else []
    | (.error _, _) => []

end Call

def performAll (s : Store) (calls : List Call) : Store := calls.foldl Call.perform s

def writings (place : Path) : Store → List Call → List Writing
  | _, [] => []
  | s, c :: calls => c.wrote place s ++ writings place (c.perform s) calls

theorem recordsIn_append (ws ws' : List Writing) : recordsIn (ws ++ ws') = recordsIn ws ++ recordsIn ws' :=
  List.flatMap_append

/-! ## What becomes of a place -/

/-- what the entry of a place becomes: it stays, a folder or a log is made where nothing was, or records are appended to a
file -/
inductive Becomes (q : Path) : List Writing → Option Entry → Option Entry → Prop where
  | same (e? : Option Entry) : Becomes q [] e? e?
  | folder : Becomes q [] none (some .folder)
  | log (ws : List Writing) : (∃ folder, q = pathIn folder) → Becomes q ws none (some (.file (octetsOf (recordsIn ws))))
  | more (ws : List Writing) (old : List UInt8) :
      Becomes q ws (some (.file old)) (some (.file (old ++ octetsOf (recordsIn ws))))

theorem Becomes.trans {q : Path} {ws ws' : List Writing} {a b c : Option Entry} (h : Becomes q ws a b)
    (h' : Becomes q ws' b c) : Becomes q (ws ++ ws') a c := by
  have hboth (ws ws' : List Writing) :
      octetsOf (recordsIn ws) ++ octetsOf (recordsIn ws') = octetsOf (recordsIn (ws ++ ws')) := by
    rw [recordsIn_append, octetsOf_append]
  cases h with
  | same => exact h'
  | folder =>
    cases h' with
    | same => exact .folder
  | log _ hq =>
    cases h' with
    | same => rw [List.append_nil]; exact .log ws hq
    | more => rw [hboth]; exact .log _ hq
  | more _ old =>
    cases h' with
    | same => rw [List.append_nil]; exact .more ws old
    | more => rw [List.append_assoc, hboth]; exact .more _ old

/-- what the entry of a place becomes from one store to another -/
def Turns (q : Path) (ws : List Writing) (s t : Store) : Prop := Becomes q ws ( s.entry? q) ( t.entry? q)

theorem Turns.trans {q : Path} {ws ws' : List Writing} {s t u : Store} (h : Turns q ws s t) (h' : Turns q ws' t u) :
    Turns q (ws ++ ws') s u := Becomes.trans h h'

theorem Turns.of_new {s t : Store} {q : Path}
    (h : t.entry? q = s.entry? q ∨ s.entry? q = none ∧ t.entry? q = some .folder) : Turns q [] s t := by
  unfold Turns
  rcases h with heq | ⟨hnone, hfolder⟩
  · rw [heq]
    exact .same _
  · rw [hnone, hfolder]
    exact .folder

theorem Turns.of_founds {s t : Store} (h : Store.Founds s t) (q : Path) : Turns q [] s t := .of_new (h q)

/-! ## Opening a log -/

variable {s t u : Store} {folder place : Path} {old : List UInt8} {h : RunHeader} {r : Run}

/-- the path to a log leads to a place of that name -/
theorem locate_pathIn (hplace : s.locate (pathIn folder) = .ok place) : ∃ d, place = pathIn d := by
  obtain ⟨d, -, hd⟩ := Store.locate_child_cases (by decide) hplace
  exact ⟨d, hd⟩

theorem Opened.turns (ho : Opened s u folder place old) (q : Path) : Turns q [] s u := by
  by_cases hq : place = q
  · subst hq
    unfold Turns
    rw [ho.entry]
    rcases ho.before with hold | ⟨hnone, rfl⟩
    · rw [hold]
      exact .same _
    · rw [hnone]
      exact .log [] (locate_pathIn ho.locate)
  · exact .of_new (ho.others q hq)

/-! ## What a call makes of a place -/

theorem record_written
    (hopen : (LogWriter.ofFolder folder).openLog s = (.ok { LogWriter.ofFolder folder with isOpen := true }, u))
    (ho : Opened s u folder place old) (hh : h.toJson.isPrintable = true) (q : Path) :
    Turns q (if place = q then [⟨h, written r.snapshots⟩] else []) u (record folder h r s).2 := by
  obtain ⟨hentry, hothers⟩ := record_entry (r := r) hopen ho hh
  unfold Turns
  by_cases hq : place = q
  · subst hq
    have hrecords : recordsIn [⟨h, written r.snapshots⟩] = recordsOf h (written r.snapshots) := List.flatMap_singleton ..
    rw [if_pos rfl, hentry, ho.entry, ← hrecords]
    exact .more _ old
  · rw [if_neg hq, hothers q hq]
    exact .same _

theorem record_turns (folder : Path) (h : RunHeader) (r : Run) (s : Store) (q : Path) :
    Turns q ((Call.record folder h r).wrote q s) s (record folder h r s).2 := by
  rcases record_cases folder h r s with ⟨e, t, hopen, heq, hfounds⟩ | ⟨u, place, old, hopen, ho, ⟨e, hline, heq⟩ | hh⟩
  · rw [heq, Call.wrote, hopen]
    exact .of_founds hfounds q
  · have hwrote : (Call.record folder h r).wrote q s = [] := by
      simp only [Call.wrote, hopen, unprintable_of_writeLine hline, Bool.false_eq_true, and_false, if_false]
    rw [heq, hwrote]
    exact ho.turns q
  · have hwrote : (Call.record folder h r).wrote q s = if place = q then [⟨h, written r.snapshots⟩] else [] := by
      simp only [Call.wrote, hopen, hh, ho.locate, Except.ok.injEq, and_true]
    rw [hwrote, ← List.nil_append (if place = q then _ else _)]
    exact (ho.turns q).trans (record_written hopen ho hh q)

theorem makeRunFolder_founds (base : Path) (name? : Option String) (clock : Float) (s : Store) :
    Store.Founds s (makeRunFolder base name? clock s).2 := by
  unfold makeRunFolder
  split
  · exact .refl s
  · next name _ => exact makeFolderNamed_founds base name s

/-- **What a call makes of a place**: what it writes there stands behind what the place held. -/
theorem perform_turns (c : Call) (s : Store) (q : Path) : Turns q (c.wrote q s) s (c.perform s) := by
  cases c with
  | makeFolder base name? clock => exact .of_founds (makeRunFolder_founds base name? clock s) q
  | record folder h r => exact record_turns folder h r s q

theorem calls_turns (calls : List Call) (s : Store) (q : Path) : Turns q (writings q s calls) s (performAll s calls) := by
  induction calls generalizing s with
  | nil => exact Becomes.same _
  | cons c calls ih => exact (perform_turns c s q).trans (ih (c.perform s))

theorem calls_extends (calls : List Call) (s : Store) : Store.Extends s (performAll s calls) := by
  intro q hq
  have hbecomes := calls_turns calls s q
  unfold Turns at hbecomes
  rw [hq] at hbecomes
  generalize hafter : Store.entry? (performAll s calls) q = e? at hbecomes
  generalize writings q s calls = ws at hbecomes
  cases hbecomes
  rfl

/-! ## What can be written -/

/-- all of it can be put into a file -/
def Writing.Printable (w : Writing) : Prop :=
  w.header.toJson.isPrintable = true ∧ ∀ p ∈ w.snapshots, p.toJson.isPrintable = true

theorem wrote_printable (c : Call) (s : Store) (q : Path) : ∀ w ∈ c.wrote q s, w.Printable := by
  cases c with
  | makeFolder base name? clock => exact List.forall_mem_nil _
  | record folder h r =>
    rw [Call.wrote]
    split
    · split
      · next hwrites => exact List.forall_mem_singleton.2 ⟨hwrites.2, written_printable⟩
      · exact List.forall_mem_nil _
    · exact List.forall_mem_nil _

theorem writings_printable (calls : List Call) (s : Store) (q : Path) : ∀ w ∈ writings q s calls, w.Printable := by
  induction calls generalizing s with
  | nil => exact List.forall_mem_nil _
  | cons c calls ih => exact List.forall_mem_append.2 ⟨wrote_printable c s q, ih (c.perform s)⟩

/-- recorded in folders that are named without steps back, and not in this one, nothing is written to its log -/
theorem writings_apart {d : Path} {calls : List Call} (s : Store)
    (hapart : ∀ f h r, Call.record f h r ∈ calls → ".." ∉ f.names ∧ f ≠ d) : writings (pathIn d) s calls = [] := by
  induction calls generalizing s with
  | nil => rfl
  | cons c calls ih =>
    have hrest := ih (c.perform s) fun f h r hmem => hapart f h r (List.mem_cons_of_mem c hmem)
    have hhere : c.wrote (pathIn d) s = [] := by
      cases c with
      | makeFolder base name? clock => rfl
      | record f h r =>
        obtain ⟨hdots, hne⟩ := hapart f h r List.mem_cons_self
        rw [Call.wrote]
        split
        · refine if_neg fun ⟨hplace, _⟩ => hne ?_
          obtain ⟨-, -, hwalk⟩ := Store.locate_ok hplace
          have hnames : ".." ∉ (pathIn f).names := by
            show ".." ∉ f.names ++ [fileName]
            simp [hdots, fileName]
          have hplain := Store.walk_forth hnames hwalk
          have hsame : (⟨d.start, d.names ++ [fileName]⟩ : Path) = ⟨f.start, f.names ++ [fileName]⟩ := hplain
          obtain ⟨hstart, hnames⟩ := Path.mk.inj hsame
          have hfolders : d.names = f.names := List.append_cancel_right hnames
          show (⟨f.start, f.names⟩ : Path) = ⟨d.start, d.names⟩
          rw [hstart, hfolders]
        · rfl
    rw [writings, hhere, hrest]
    rfl

/-! ## Reading what calls have written -/

variable {w : Writing} {ws : List Writing}

theorem recordsIn_sound (h : ∀ w ∈ ws, w.Printable) : ∀ r ∈ recordsIn ws, r.Sound := by
  intro r hr
  obtain ⟨w, hw, hmem⟩ := List.mem_flatMap.1 hr
  exact recordsOf_sound (h w hw).1 (h w hw).2 r hmem

theorem recordsIn_headers (ws : List Writing) :
    ((recordsIn ws).filter (·.kind = .header)).map Record.body = ws.map fun w => w.header.toJson := by
  induction ws with
  | nil => rfl
  | cons w ws ih =>
    rw [recordsIn, List.flatMap_cons, List.filter_append, List.map_append, recordsOf_headers]
    exact congrArg (w.header.toJson :: ·) ih

theorem recordsIn_ticks (ws : List Writing) :
    ((recordsIn ws).filter (·.kind = .tick)).map Record.body = (ws.flatMap Writing.snapshots).map Snapshot.toJson := by
  induction ws with
  | nil => rfl
  | cons w ws ih =>
    rw [recordsIn, List.flatMap_cons, List.filter_append, List.map_append, recordsOf_ticks, List.flatMap_cons,
      List.map_append]
    exact congrArg (w.snapshots.map Snapshot.toJson ++ ·) ih

/-- **Of a log with several runs in it the first header is read, and the snapshots of all.** -/
theorem shared_read (hholds : s.Holds (pathIn folder) (octetsOf (recordsIn (ws ++ [w]))))
    (hprint : ∀ v ∈ ws ++ [w], v.Printable) :
    header folder s = .ok ((ws.map Writing.header).headD w.header) ∧
      snapshots folder s = ⟨ws.flatMap Writing.snapshots ++ w.snapshots, none⟩ := by
  have hheaders := bodies_held hholds (recordsIn_sound hprint) .header
  have hticks := bodies_held hholds (recordsIn_sound hprint) .tick
  rw [recordsIn_headers] at hheaders
  rw [recordsIn_ticks, List.flatMap_append, List.flatMap_singleton] at hticks
  obtain ⟨rest, hfirst⟩ : ∃ rest, (ws ++ [w]).map (fun w => w.header.toJson) =
      ((ws.map Writing.header).headD w.header).toJson :: rest := by
    cases ws with
    | nil => exact ⟨[], rfl⟩
    | cons v ws => exact ⟨_, rfl⟩
  rw [hfirst] at hheaders
  exact ⟨header_first hholds (congrArg Reading.items hheaders), snapshots_restored hticks⟩

/-! ## Recording in a new folder -/

/-- a folder in which nothing lies under the name, and a log in it is not too far away -/
structure Fresh (s : Store) (base place : Path) (name : String) : Prop where
  locate : s.locate base = .ok place
  folder : s.entry? place = some .folder
  noFolder : s.entry? (place.child name) = none
  noLog : s.entry? (pathIn (place.child name)) = none
  short : (pathIn (base.child name)).text.utf8ByteSize ≤ Store.pathLimit

variable {s₀ : Store} {base : Path} {clock : Float} {m : Moment} {calls : List Call}

theorem calls_folder (calls : List Call) {name : String} (hname : name ≠ fileName)
    (hnone : s₀.entry? (place.child name) = none) :
    Store.entry? (performAll s₀ calls) (place.child name) = none ∨
      Store.entry? (performAll s₀ calls) (place.child name) = some .folder := by
  have hbecomes := calls_turns calls s₀ (place.child name)
  unfold Turns at hbecomes
  rw [hnone] at hbecomes
  generalize Store.entry? (performAll s₀ calls) (place.child name) = e? at hbecomes ⊢
  generalize writings (place.child name) s₀ calls = ws at hbecomes
  cases hbecomes with
  | same => exact .inl rfl
  | folder => exact .inr rfl
  | log _ hlog =>
    obtain ⟨d, hd⟩ := hlog
    have hnames : place.names ++ [name] = d.names ++ [fileName] := (Path.mk.inj hd).2
    exact absurd (List.append_inj_right' hnames rfl) (by simp [hname])

theorem makeRunFolder_eq (hclock : Moment.ofClock clock = .ok m) (hname : Path.IsEntryName m.runId)
    (hmake : s.makeFolders (base.child m.runId) = (.ok (), t)) :
    makeRunFolder base none clock s = (.ok (base.child m.runId), t) := by
  have hrun : nameOfRun none clock = .ok m.runId := by
    rw [nameOfRun, hclock]
    rfl
  have hjoin : base.join (Path.ofText m.runId) = base.child m.runId := by
    rw [Path.ofText_entryName hname]
    rfl
  rw [makeRunFolder, hrun]
  show makeFolderNamed base m.runId s = _
  rw [makeFolderNamed, hjoin, hmake]
  rfl

/-- **The folder of a run can be made after any calls**, and what they have written to its log stays there. -/
theorem makeRunFolder_fresh (calls : List Call) (hclock : Moment.ofClock clock = .ok m)
    (hfresh : Fresh s₀ base place m.runId) :
    ∃ s₁, makeRunFolder base none clock (performAll s₀ calls) = (.ok (base.child m.runId), s₁) ∧
      s₁.isFolder (base.child m.runId) = true ∧
      s₁.locate (pathIn (base.child m.runId)) = .ok (pathIn (place.child m.runId)) ∧
      s₁.entry? (pathIn (place.child m.runId)) = Store.entry? (performAll s₀ calls) (pathIn (place.child m.runId)) := by
  obtain ⟨hname, hother⟩ := Moment.runId_isEntryName hclock
  have hextends := calls_extends calls s₀
  have hshort : (base.child m.runId).text.utf8ByteSize ≤ Store.pathLimit :=
    (Store.text_child_size (by simp [Path.child]) fileName).trans hfresh.short
  have hdir : (performAll s₀ calls).locate (base.child m.runId) = .ok (place.child m.runId) :=
    Store.locate_entry hname.ne_dots hname.noNul hname.short (Store.locate_extends hextends hfresh.locate)
      (hextends place hfresh.folder) hshort
  -- a log in the folder is found as soon as the folder is there
  have hlog {u : Store} (hu : u.locate (base.child m.runId) = .ok (place.child m.runId))
      (hentry : u.entry? (place.child m.runId) = some .folder) :
      u.isFolder (base.child m.runId) = true ∧
        u.locate (pathIn (base.child m.runId)) = .ok (pathIn (place.child m.runId)) :=
    ⟨Store.isFolder_of hu hentry, Store.locate_entry (by decide) (by decide) (by decide) hu hentry hfresh.short⟩
  rcases calls_folder calls hother hfresh.noFolder with hnone | hthere
  · have hne : Store.entry? (performAll s₀ calls) (place.child m.runId) ≠ some .folder := by simp [hnone]
    have hapart : place.child m.runId ≠ pathIn (place.child m.runId) := by
      intro heq
      have hlength := congrArg (fun p => p.names.length) heq
      simp [pathIn, Path.child] at hlength
    refine ⟨_, makeRunFolder_eq hclock hname (Store.makeFolders_new hdir hnone), ?_⟩
    obtain ⟨hisFolder, hlocate⟩ := hlog (Store.locate_put hne .folder hdir)
      (Store.entry_put_self _ (Store.names_ne_nil hne) .folder)
    exact ⟨hisFolder, hlocate, Store.entry_put_ne _ hapart _⟩
  · obtain ⟨hisFolder, hlocate⟩ := hlog hdir hthere
    exact ⟨_, makeRunFolder_eq hclock hname (Store.makeFolders_folder hisFolder), hisFolder, hlocate, rfl⟩

/-- **A run stands in its log behind all that calls have written there.** -/
theorem record_behind (hclock : Moment.ofClock clock = .ok m) (hfresh : Fresh s₀ base place m.runId)
    (hlog : Store.entry? (performAll s₀ calls) (pathIn (place.child m.runId)) ≠ some .folder)
    (hh : h.toJson.isPrintable = true) (hs : ∀ p ∈ r.snapshots, p.toJson.isPrintable = true) :
    ∃ s₁, makeRunFolder base none clock (performAll s₀ calls) = (.ok (base.child m.runId), s₁) ∧
      (record (base.child m.runId) h r s₁).1 =
        (match r.fault with | none => .ok r.snapshots.length | some e => .error e) ∧
      (record (base.child m.runId) h r s₁).2.Holds (pathIn (base.child m.runId))
        (octetsOf (recordsIn (writings (pathIn (place.child m.runId)) s₀ calls ++ [⟨h, r.snapshots⟩]))) := by
  obtain ⟨s₁, hmake, hfolder, hlocate, hentry⟩ := makeRunFolder_fresh calls hclock hfresh
  have hbecomes := calls_turns calls s₀ (pathIn (place.child m.runId))
  unfold Turns at hbecomes
  rw [hfresh.noLog, ← hentry] at hbecomes
  rw [← hentry] at hlog
  have hbefore : s₁.entry? (pathIn (place.child m.runId)) =
        some (.file (octetsOf (recordsIn (writings (pathIn (place.child m.runId)) s₀ calls)))) ∨
      s₁.entry? (pathIn (place.child m.runId)) = none ∧
        octetsOf (recordsIn (writings (pathIn (place.child m.runId)) s₀ calls)) = [] := by
    generalize s₁.entry? (pathIn (place.child m.runId)) = e? at hbecomes hlog ⊢
    generalize writings (pathIn (place.child m.runId)) s₀ calls = ws at hbecomes ⊢
    cases hbecomes with
    | same => exact .inr ⟨rfl, rfl⟩
    | folder => exact absurd rfl hlog
    | log => exact .inl rfl
  obtain ⟨u, hopen, hholds⟩ := openLog_held hfolder hlocate hbefore
  have hrecorded := record_appends (r := r) hopen hholds hh
  have hone : recordsIn [⟨h, r.snapshots⟩] = recordsOf h r.snapshots := List.flatMap_singleton _ _
  rw [written_eq hs, ← octetsOf_append, ← hone, ← recordsIn_append] at hrecorded
  exact ⟨s₁, hmake, record_outcome hopen hh hs, hrecorded⟩

/-- **Runs do not mix just if no two of them share a folder.** A run is recorded in the folder that is made for it in a
base folder, after any calls that make folders for runs and record runs. It is recorded as a whole; its log holds all that
the calls have written to it and the run behind that. Read from it are the header of the first run that was written there
and the snapshots of all; so where none of the calls has written to it, it holds the run alone, one record for the header
and one for each snapshot, and these are what is read. -/
theorem record_follows (hclock : Moment.ofClock clock = .ok m) (hfresh : Fresh s₀ base place m.runId)
    (hlog : Store.entry? (performAll s₀ calls) (pathIn (place.child m.runId)) ≠ some .folder)
    (hh : h.toJson.isPrintable = true) (hs : ∀ p ∈ r.snapshots, p.toJson.isPrintable = true) :
    let dir := base.child m.runId
    let ws := writings (pathIn (place.child m.runId)) s₀ calls
    ∃ s₁, makeRunFolder base none clock (performAll s₀ calls) = (.ok dir, s₁) ∧
      let s₂ := (record dir h r s₁).2
      (record dir h r s₁).1 = (match r.fault with | none => .ok r.snapshots.length | some e => .error e) ∧
      s₂.Holds (pathIn dir) (octetsOf (recordsIn (ws ++ [⟨h, r.snapshots⟩]))) ∧
      header dir s₂ = .ok ((ws.map Writing.header).headD h) ∧
      snapshots dir s₂ = ⟨ws.flatMap Writing.snapshots ++ r.snapshots, none⟩ ∧
      (ws = [] → s₂.Holds (pathIn dir) (octetsOf (recordsOf h r.snapshots)) ∧ header dir s₂ = .ok h ∧
        snapshots dir s₂ = ⟨r.snapshots, none⟩) := by
  intro dir ws
  obtain ⟨s₁, hmake, houtcome, hholds⟩ := record_behind hclock hfresh hlog hh hs
  have hprint : ∀ w ∈ ws ++ [⟨h, r.snapshots⟩], w.Printable :=
    List.forall_mem_append.2 ⟨writings_printable calls s₀ _, List.forall_mem_singleton.2 ⟨hh, hs⟩⟩
  obtain ⟨hheader, hsnapshots⟩ := shared_read hholds hprint
  refine ⟨s₁, hmake, houtcome, hholds, hheader, hsnapshots, fun hnone => ?_⟩
  have hone : recordsIn (writings (pathIn (place.child m.runId)) s₀ calls ++ [⟨h, r.snapshots⟩]) =
      recordsOf h r.snapshots := by
    show recordsIn (ws ++ _) = _
    rw [hnone]
    exact List.flatMap_singleton _ _
  rw [hone] at hholds
  change header dir _ = .ok ((ws.map Writing.header).headD h) at hheader
  change snapshots dir _ = ⟨ws.flatMap Writing.snapshots ++ r.snapshots, none⟩ at hsnapshots
  rw [hnone] at hheader hsnapshots
  exact ⟨hholds, hheader, hsnapshots⟩

/-- a run that starts one second after another -/
theorem record_follows_later :
    let base : Path := ⟨"", ["runs"]⟩
    let s₀ : Store := ⟨[(base, .folder)]⟩
    let h : RunHeader := { runId := "b", createdAt := "", dt := 0.25, mapWidth := 2, mapHeight := 1 }
    let r : Run := ⟨[⟨1, {}⟩], none, .bare ⟨#[], 0⟩ 0⟩
    let calls : List Call :=
      [.makeFolder base none 0, .record (base.child "1970-01-01T00-00-00Z") { h with runId := "a" } r]
    let m : Moment := ⟨1970, 1, 1, 0, 0, 1⟩
    let dir := base.child m.runId
    let ws := writings (pathIn (base.child m.runId)) s₀ calls
    (Moment.ofClock 1 = .ok m ∧ Fresh s₀ base base m.runId ∧
      Store.entry? (performAll s₀ calls) (pathIn (base.child m.runId)) ≠ some .folder ∧ h.toJson.isPrintable = true ∧
      (∀ p ∈ r.snapshots, p.toJson.isPrintable = true) ∧ ws = []) ∧
    ∃ s₁, makeRunFolder base none 1 (performAll s₀ calls) = (.ok dir, s₁) ∧
      let s₂ := (record dir h r s₁).2
      (record dir h r s₁).1 = (match r.fault with | none => .ok r.snapshots.length | some e => .error e) ∧
      s₂.Holds (pathIn dir) (octetsOf (recordsIn (ws ++ [⟨h, r.snapshots⟩]))) ∧
      header dir s₂ = .ok ((ws.map Writing.header).headD h) ∧
      snapshots dir s₂ = ⟨ws.flatMap Writing.snapshots ++ r.snapshots, none⟩ ∧
      (ws = [] → s₂.Holds (pathIn dir) (octetsOf (recordsOf h r.snapshots)) ∧ header dir s₂ = .ok h ∧
        snapshots dir s₂ = ⟨r.snapshots, none⟩) := by
  intro base s₀ h r calls m dir ws
  have hclock : Moment.ofClock 1 = .ok m := by decide +kernel
  have hfresh : Fresh s₀ base base m.runId :=
    ⟨by decide +kernel, by decide +kernel, by decide +kernel, by decide +kernel, by decide +kernel⟩
  have hlog : Store.entry? (performAll s₀ calls) (pathIn (base.child m.runId)) ≠ some .folder := by decide +kernel
  have hh : h.toJson.isPrintable = true := by decide +kernel
  have hs : ∀ p ∈ r.snapshots, p.toJson.isPrintable = true := by decide +kernel
  have hnone : ws = [] := by
    refine writings_apart s₀ fun f h r hmem => ?_
    simp only [calls, List.mem_cons, List.not_mem_nil, or_false, reduceCtorEq, false_or, Call.record.injEq] at hmem
    rw [hmem.1]
    decide +kernel
  exact ⟨⟨hclock, hfresh, hlog, hh, hs, hnone⟩, record_follows hclock hfresh hlog hh hs⟩

/-- **Two runs of one second are mixed**: of the log of the second, called `b`, the header of the first is read, called `a`,
and the ticks of both. -/
theorem runs_mix :
    let base : Path := ⟨"", ["runs"]⟩
    let s₀ : Store := ⟨[(base, .folder)]⟩
    let dir := base.child "1970-01-01T00-00-00Z"
    let h : RunHeader := { runId := "b", createdAt := "", dt := 0.25, mapWidth := 2, mapHeight := 1 }
    let r : Run := ⟨[⟨2, {}⟩], none, .bare ⟨#[], 0⟩ 0⟩
    let calls : List Call :=
      [.makeFolder base none 0, .record dir { h with runId := "a" } ⟨[⟨1, {}⟩], none, .bare ⟨#[], 0⟩ 0⟩]
    ∃ s₁, makeRunFolder base none 0 (performAll s₀ calls) = (.ok dir, s₁) ∧ (record dir h r s₁).1 = .ok 1 ∧
      (∃ h', header dir (record dir h r s₁).2 = .ok h' ∧ h'.runId = "a") ∧
      (snapshots dir (record dir h r s₁).2).items.map Snapshot.tick = [1, 2] := by
  intro base s₀ dir h r calls
  let m : Moment := ⟨1970, 1, 1, 0, 0, 0⟩
  have hname : m.runId = "1970-01-01T00-00-00Z" := by decide +kernel
  have hfresh : Fresh s₀ base base m.runId :=
    ⟨by decide +kernel, by decide +kernel, by decide +kernel, by decide +kernel, by decide +kernel⟩
  have hs : ∀ p ∈ r.snapshots, p.toJson.isPrintable = true := by decide +kernel
  have hh : h.toJson.isPrintable = true := by decide +kernel
  have hclock : Moment.ofClock 0 = .ok m := by decide +kernel
  have hlog : Store.entry? (performAll s₀ calls) (pathIn (base.child m.runId)) ≠ some .folder := by decide +kernel
  obtain ⟨s₁, hmake, houtcome, hholds⟩ := record_behind hclock hfresh hlog hh hs
  rw [hname] at hmake houtcome hholds
  obtain ⟨hheader, hsnapshots⟩ := shared_read hholds
    (List.forall_mem_append.2 ⟨writings_printable calls s₀ _, List.forall_mem_singleton.2 ⟨hh, hs⟩⟩)
  refine ⟨s₁, hmake, houtcome, ⟨_, hheader, ?_⟩, ?_⟩
  · decide +kernel
  · rw [hsnapshots]
    decide +kernel

end TileCrew.RunLog
