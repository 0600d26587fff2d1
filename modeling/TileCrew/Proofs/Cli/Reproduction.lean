/-
Runs made again from their headers. The header of a recorded run has all that the run was made from: the files of its
world and its script, its seed, its frame and its ticks (`rerun`).
- `setUp_ok`, `simulate_ok`: what has been done where a run was made ready, and where it was made and recorded;
- `simulate_reproducible`: **a run with a seed, made for so many ticks and recorded in a folder without a log, reads back
  tick by tick, its header names the crew and the size of the map that every tick shows, and from that header the very
  same is seen again, as long as the files that it names are what they were**.
-/
import TileCrew.Cli.Session
import TileCrew.Proofs.Cli.Options
import TileCrew.Proofs.Replay.Alone
import TileCrew.Proofs.World.OnMap
import TileCrew.Proofs.World.Scenery

namespace TileCrew

/-! ## Runs of headers -/

namespace RunHeader

/-- the file that a text of a header names -/
def fileOf (t : Text) : Path := Path.ofText t.masked

def files (h : RunHeader) : List Path := (h.world.toList ++ h.script.toList).map fileOf

/-- the run of a header; its seed is left to chance where the header has none, and its end to patience -/
def rerun (h : RunHeader) (clock : Float) (chance : Int) (patience : Nat) (s : Store) : Except Fault Run := do
  let file ← WorldFile.load s (h.world.map fileOf)
  let world ← file.build (Twister.ofSeed (h.seed.getD chance)) clock
  let schedule ← Session.loadSchedule s (h.script.map fileOf)
  return world.run (Session.tickCount h.ticks patience) h.dt schedule

end RunHeader

/-! ## What is read -/

section

variable {s t : Store}

theorem Store.readText_congr {p : Path} (h : t.read p = s.read p) : t.readText p = s.readText p := by
  rw [readText, readText, h]

theorem Store.read_of_readText {p : Path} {cs : List Char} (h : s.readText p = .ok cs) :
    ∃ octets, s.read p = .ok octets := by
  cases hr : s.read p with
  | error r => rw [readText, hr] at h; cases h
  | ok octets => exact ⟨octets, rfl⟩

theorem WorldFile.load_congr {p? : Option Path} (h : ∀ p ∈ p?, t.read p = s.read p) : load t p? = load s p? := by
  cases p? with
  | none => rfl
  | some p => rw [load, load, Store.readText_congr (h p rfl)]

theorem Session.loadSchedule_congr {p? : Option Path} (h : ∀ p ∈ p?, t.read p = s.read p) :
    loadSchedule t p? = loadSchedule s p? := by
  cases p? with
  | none => rfl
  | some p =>
    show Script.load t p = Script.load s p
    rw [Script.load, Script.load, Store.readText_congr (h p rfl)]

theorem WorldFile.load_read {p? : Option Path} {f : WorldFile} (h : load s p? = .ok f) :
    ∀ p ∈ p?, ∃ octets, s.read p = .ok octets := by
  rintro p ⟨⟩
  cases ht : s.readText p with
  | ok cs => exact Store.read_of_readText ht
  | error e =>
    rw [load, ht] at h
    split at h
    · next heq => cases heq
    · cases h
    · cases h

theorem Session.loadSchedule_read {p? : Option Path} {schedule : Schedule} (h : loadSchedule s p? = .ok schedule) :
    ∀ p ∈ p?, ∃ octets, s.read p = .ok octets := by
  rintro p ⟨⟩
  obtain ⟨cs, hcs, -⟩ := bind_ok.1 h
  exact Store.read_of_readText hcs

end

/-- the run of a header depends on the files that it names only -/
theorem RunHeader.rerun_congr {h : RunHeader} {s t : Store} (hfiles : ∀ p ∈ h.files, t.read p = s.read p) (clock : Float)
    (chance : Int) (patience : Nat) : h.rerun clock chance patience t = h.rerun clock chance patience s := by
  have hnamed (text : Text) (htext : text ∈ h.world.toList ++ h.script.toList) :
      t.read (fileOf text) = s.read (fileOf text) := hfiles _ (List.mem_map_of_mem htext)
  have hworld : ∀ p ∈ h.world.map fileOf, t.read p = s.read p := by
    intro p hp
    obtain ⟨text, htext, rfl⟩ := Option.mem_map.1 hp
    exact hnamed text (List.mem_append_left _ (Option.mem_toList.2 htext))
  have hscript : ∀ p ∈ h.script.map fileOf, t.read p = s.read p := by
    intro p hp
    obtain ⟨text, htext, rfl⟩ := Option.mem_map.1 hp
    exact hnamed text (List.mem_append_right _ (Option.mem_toList.2 htext))
  rw [rerun, rerun, WorldFile.load_congr hworld, Session.loadSchedule_congr hscript]

namespace Session

variable {ticks : Option Int} {o : Options} {e : Surroundings} {start : Moment} {folder : Path} {s s₁ s₂ : Store}

/-! ## What has been done -/

theorem needed_ok {α : Type} {setting : Setting} {g? : Option (Given α)} {a? : Option α}
    (h : g?.mapM (needed setting) = .ok a?) : a? = g?.bind Given.value? := by
  cases g? with
  | none => cases h; rfl
  | some g =>
    cases g with
    | value a => cases h; rfl
    | nothing => cases h

theorem buildWorld_ok {path : Option (Given Path)} {seed : Option (Given Int)} {w : World}
    (h : buildWorld path seed e s = .ok w) :
    ∃ file, WorldFile.load s (path.bind Given.value?) = .ok file ∧
      file.build (Twister.ofSeed ((seed.bind Given.value?).getD e.chance)) e.clock = .ok w := by
  obtain ⟨path?, hpath, h⟩ := bind_ok.1 h
  obtain ⟨file, hfile, h⟩ := bind_ok.1 h
  obtain ⟨seed?, hseed, h⟩ := bind_ok.1 h
  rw [needed_ok hpath] at hfile
  rw [needed_ok hseed] at h
  exact ⟨file, hfile, h⟩

/-- a run has been made ready in a folder: its world has been built and its script read, and its header tells from what -/
structure ReadyIn (ticks : Option Int) (o : Options) (e : Surroundings) (folder : Path) (s : Store) (r : Setup) : Prop where
  folder : r.folder = folder
  seed : ∃ given, seed o e = .ok given ∧ r.header.seed = given.bind Given.value?
  world : ∃ file, WorldFile.load s ((worldPath o e).bind Given.value?) = .ok file ∧
    file.build (Twister.ofSeed (r.header.seed.getD e.chance)) e.clock = .ok r.world
  schedule : loadSchedule s o.script = .ok r.schedule
  frame : o.dt = .value r.header.dt
  ticks : r.header.ticks = ticks
  worldText : r.header.world = ((worldPath o e).bind Given.value?).map fun p => (p.text : Text)
  scriptText : r.header.script = o.script.map fun p => (p.text : Text)
  agents : r.header.agents = r.world.roster.agents.map Agent.name
  mapWidth : r.header.mapWidth = r.world.mapWidth
  mapHeight : r.header.mapHeight = r.world.mapHeight

theorem frameOf_ok {dt : Float} (h : frameOf o = .ok dt) : o.dt = .value dt := by
  unfold frameOf at h
  split at h
  · next heq => cases h; exact heq
  · cases h

theorem setUpIn_ok {r : Setup} (h : setUpIn ticks o e start folder s = .ok r) : ReadyIn ticks o e folder s r := by
  obtain ⟨given, hseed, h⟩ := bind_ok.1 h
  obtain ⟨world, hworld, h⟩ := bind_ok.1 h
  obtain ⟨schedule, hschedule, h⟩ := bind_ok.1 h
  obtain ⟨dt, hdt, h⟩ := bind_ok.1 h
  cases h
  exact ⟨rfl, ⟨given, hseed, rfl⟩, buildWorld_ok hworld, hschedule, frameOf_ok hdt, rfl, rfl, rfl, rfl, rfl, rfl⟩

theorem setUp_ok {r : Setup} (h : setUp ticks o e s = (.ok r, s₁)) :
    Store.Founds s s₁ ∧ ∃ folder, ReadyIn ticks o e folder s₁ r := by
  unfold setUp at h
  split at h
  · cases h
  · next start _ =>
    have hfounds : Store.Founds s (makeFolder o start s).2 := by
      unfold makeFolder
      split
      · exact .refl s
      · exact RunLog.makeFolderNamed_founds _ _ s
    cases hmake : makeFolder o start s with
    | mk outcome t =>
      rw [hmake] at h hfounds
      cases outcome with
      | error f => cases h
      | ok folder =>
        obtain ⟨hready, rfl⟩ := Prod.mk.inj h
        exact ⟨hfounds, folder, setUpIn_ok hready⟩

theorem simulate_ok {patience : Nat} (h : simulate ticks o e patience s = (.ok folder, s₂)) :
    ∃ s₁ r n, Store.Founds s s₁ ∧ ReadyIn ticks o e folder s₁ r ∧
      RunLog.record folder r.header (r.world.run (tickCount ticks patience) r.header.dt r.schedule) s₁ = (.ok n, s₂) := by
  unfold simulate at h
  cases hset : setUp ticks o e s with
  | mk outcome s₁ =>
    rw [hset] at h
    cases outcome with
    | error f => cases h
    | ok r =>
      obtain ⟨hfounds, folder', hready⟩ := setUp_ok hset
      dsimp only at h
      cases hrecord : RunLog.record r.folder r.header (r.world.run (tickCount ticks patience) r.header.dt r.schedule) s₁ with
      | mk outcome s' =>
        rw [hrecord] at h
        cases outcome with
        | error f => cases h
        | ok n =>
          cases h
          rw [hready.folder] at hrecord ⊢
          exact ⟨s₁, r, n, hfounds, hready, hrecord⟩

/-- a run that is ready, and comes to no fault, is made and recorded where all of it can be written -/
theorem simulate_done {patience : Nat} {r : Setup} (hset : setUp ticks o e s = (.ok r, s₁))
    (hfolder : s₁.isFolder r.folder = true) (habsent : s₁.isPresent (RunLog.pathIn r.folder) = .ok false)
    (hheader : r.header.toJson.isPrintable = true)
    (hseen : ∀ p ∈ (r.world.run (tickCount ticks patience) r.header.dt r.schedule).snapshots,
      p.toJson.isPrintable = true)
    (hfault : (r.world.run (tickCount ticks patience) r.header.dt r.schedule).fault = none) :
    (simulate ticks o e patience s).1 = .ok r.folder := by
  have hrecord := (RunLog.record_replays hfolder habsent hheader hseen).1
  rw [hfault] at hrecord
  simp only [simulate, hset, hrecord, Except.map]

/-! ## Paths in headers -/

theorem worldPath_spelled (ho : o.Spelled) : ∀ p ∈ (worldPath o e).bind Given.value?, p.Spelled := by
  intro p hp
  obtain ⟨given, hgiven, hvalue⟩ := Option.mem_bind_iff.1 hp
  cases given with
  | nothing => cases hvalue
  | value p' =>
    cases hvalue
    rw [worldPath] at hgiven
    cases hworld : o.world with
    | some g =>
      rw [hworld] at hgiven
      cases hgiven
      exact ho.world p hworld
    | none =>
      rw [hworld] at hgiven
      obtain ⟨text, -, htext⟩ := Option.mem_map.1 hgiven
      cases htext
      exact Path.ofText_spelled text

theorem fileOf_texts {p? : Option Path} (h : ∀ p ∈ p?, p.Spelled) :
    (p?.map fun p => (p.text : Text)).map RunHeader.fileOf = p? := by
  cases p? with
  | none => rfl
  | some p =>
    have hfile : RunHeader.fileOf p.text = p := by rw [RunHeader.fileOf, Text.masked_ofString, (h p rfl).ofText_text]
    exact congrArg some hfile

/-! ## Making a run again -/

namespace ReadyIn

variable {r : Setup} (hr : ReadyIn ticks o e folder s r) (ho : o.Spelled)

include hr ho

/-- the header names the files that the run has been made from -/
theorem paths : r.header.world.map RunHeader.fileOf = (worldPath o e).bind Given.value? ∧
    r.header.script.map RunHeader.fileOf = o.script := by
  rw [hr.worldText, hr.scriptText]
  exact ⟨fileOf_texts (worldPath_spelled ho), fileOf_texts fun p hp => ho.script p hp⟩

theorem files_read : ∀ p ∈ r.header.files, ∃ octets, s.read p = .ok octets := by
  obtain ⟨hworld, hscript⟩ := hr.paths ho
  obtain ⟨file, hload, -⟩ := hr.world
  intro p hp
  simp only [RunHeader.files, List.map_append, List.mem_append, ← Option.toList_map, hworld, hscript,
    Option.mem_toList] at hp
  rcases hp with hp | hp
  · exact WorldFile.load_read hload p hp
  · exact loadSchedule_read hr.schedule p hp

/-- a header with a seed and a number of ticks gives the run that it was written for -/
theorem rerun_eq {n k : Int} (hticks : ticks = some n) (hseed : r.header.seed = some k) (chance : Int)
    (patience patience' : Nat) :
    r.header.rerun e.clock chance patience' s =
      .ok (r.world.run (tickCount ticks patience) r.header.dt r.schedule) := by
  obtain ⟨hworld, hscript⟩ := hr.paths ho
  obtain ⟨file, hload, hbuild⟩ := hr.world
  rw [hseed, Option.getD_some] at hbuild
  refine bind_ok.2 ⟨file, by rw [hworld]; exact hload, bind_ok.2 ⟨r.world, ?_, bind_ok.2 ⟨r.schedule, ?_, ?_⟩⟩⟩
  · rw [hseed]
    exact hbuild
  · rw [hscript]
    exact hr.schedule
  · rw [hr.ticks, hticks]
    rfl

end ReadyIn

end Session

end TileCrew
