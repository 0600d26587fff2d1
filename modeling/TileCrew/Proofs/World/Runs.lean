/-
Runs, tick by tick and call by call.
- `runTick_ok`, `ticks_cons`: what a tick that comes to no fault has done, and what a run with such a first tick is;
- `ticks_ticks`: a run that comes to no fault sees each of its ticks, one after the other;
- `runs_compose`: **a run is the run of its first ticks and, if there was no fault, that of the others**: nothing but the
  world goes from tick to tick;
- `ticksTraced`: a run that keeps account of what it calls on its world. `ticksTraced_run`: the account is all that it
  adds; `ticksTraced_calls`: it is complete; `ticksTraced_agenda`: what is called, if there is no fault.
-/
import TileCrew.Proofs.World.Calls
import TileCrew.World.Run

namespace TileCrew

/-! ## Ticks -/

namespace World

theorem snapshot_tick {w : World} {s : Snapshot} (h : w.snapshot = .ok s) : s.tick = w.tick := by
  rw [snapshot] at h
  cases hm : w.roster.agents.mapM Agent.view with
  | error e => rw [hm] at h; cases h
  | ok views => rw [hm] at h; cases h; rfl

/-- a tick that comes to no fault: its prompts are handled, the frame passes, and the world is seen -/
theorem runTick_ok {w w' : World} {schedule : Schedule} {frame : Float} {s : Snapshot}
    (h : w.runTick schedule frame = (.ok s, w')) :
    ∃ w₁, handleAll (schedule.prompts (w.tick + 1)) w = (.ok (), w₁) ∧ w₁.update frame = (.ok (), w') ∧
      w'.snapshot = .ok s := by
  rw [runTick] at h
  cases hall : handleAll (schedule.prompts (w.tick + 1)) w with
  | mk outcome w₁ =>
    rw [hall] at h
    cases outcome with
    | error e => cases h
    | ok u =>
      dsimp only at h
      cases hupdate : w₁.update frame with
      | mk outcome w₂ =>
        rw [hupdate] at h
        cases outcome with
        | error e => cases h
        | ok u =>
          injection h with hsnap hw'
          subst hw'
          exact ⟨w₁, rfl, hupdate, hsnap⟩

theorem runTick_tick {w w' : World} {schedule : Schedule} {frame : Float} {s : Snapshot}
    (h : w.runTick schedule frame = (.ok s, w')) : w'.tick = w.tick + 1 ∧ s.tick = ↑(w.tick + 1) := by
  obtain ⟨w₁, hall, hupdate, hsnap⟩ := runTick_ok h
  have hstays := handleAll_stays PutClosed.any (schedule.prompts (w.tick + 1)) w
  rw [hall] at hstays
  have htick : w'.tick = w.tick + 1 := by
    rw [← hstays.tick, ← congrArg (·.2.tick) hupdate]
    rfl
  exact ⟨htick, by rw [snapshot_tick hsnap, htick]⟩

end World

namespace Run

variable {schedule : Schedule} {frame : Float}

theorem ticks_cons {n : Nat} {w : World} (h : (ticks schedule frame (n + 1) w).fault = none) :
    ∃ s w', w.runTick schedule frame = (.ok s, w') ∧ (ticks schedule frame n w').fault = none ∧
      (ticks schedule frame (n + 1) w).snapshots = s :: (ticks schedule frame n w').snapshots := by
  rw [ticks] at h ⊢
  cases ht : w.runTick schedule frame with
  | mk outcome w' =>
    rw [ht] at h
    cases outcome with
    | error e => cases h
    | ok s => exact ⟨s, w', rfl, h, rfl⟩

/-- a run that comes to no fault sees every tick once, in order -/
theorem ticks_ticks {n : Nat} {w : World} (h : (ticks schedule frame n w).fault = none) :
    (ticks schedule frame n w).snapshots.map (·.tick) = (List.range' (w.tick + 1) n).map Int.ofNat := by
  induction n generalizing w with
  | zero => rfl
  | succ n ih =>
    obtain ⟨s, w', hrun, hfault, hcons⟩ := ticks_cons h
    obtain ⟨htick, hs⟩ := World.runTick_tick hrun
    rw [hcons, List.map_cons, ih hfault, hs, htick]
    rfl

/-! ## Runs compose -/

theorem andThen_cons (s : Snapshot) (r : Run) (next : World → Run) :
    andThen { r with snapshots := s :: r.snapshots } next =
      { r.andThen next with snapshots := s :: (r.andThen next).snapshots } := by
  obtain ⟨seen, fault, w⟩ := r
  cases fault with
  | none => rfl
  | some e => rfl

theorem ticks_add (a b : Nat) (w : World) :
    ticks schedule frame (a + b) w = (ticks schedule frame a w).andThen (ticks schedule frame b) := by
  induction a generalizing w with
  | zero => rw [Nat.zero_add]; rfl
  | succ a ih =>
    rw [Nat.succ_add, ticks, ticks]
    cases ht : w.runTick schedule frame with
    | mk outcome w' =>
      cases outcome with
      | error e => rfl
      | ok s =>
        dsimp only
        rw [ih, andThen_cons]

end Run

namespace World

/-- **A run is the run of its first ticks and, if there was no fault, that of the others.** -/
theorem runs_compose (w : World) (a b : Nat) (dt : Float) (schedule : Schedule) :
    let whole := w.run (a + b) dt schedule
    let first := w.run a dt schedule
    let second := first.world.run b dt schedule
    whole = first.andThen (·.run b dt schedule) ∧
      (first.fault = none →
        whole.snapshots = first.snapshots ++ second.snapshots ∧ whole.fault = second.fault ∧ whole.world = second.world) ∧
      (first.fault ≠ none → whole = first) := by
  intro whole first second
  have hwhole : whole = first.andThen (·.run b dt schedule) := Run.ticks_add a b w
  refine ⟨hwhole, ?_, ?_⟩
  · intro hfirst
    rw [hwhole, Run.andThen, hfirst]
    exact ⟨rfl, rfl, rfl⟩
  · intro hfirst
    obtain ⟨e, he⟩ := Option.ne_none_iff_exists'.1 hfirst
    rw [hwhole, Run.andThen, he]

/-! ## What a run calls -/

/-- prompts handled as by `handleAll`, and an account of the calls -/
def handleAllTraced : List String → World → (Except Fault Unit × World) × List Call
  | [], w => ((.ok (), w), [])
  | text :: texts, w =>
    match w.handlePrompt text with
    | (.error e, w) => ((.error e, w), [.prompt text])
    | (.ok _, w) =>
      let r := handleAllTraced texts w
      (r.1, .prompt text :: r.2)

/-- one tick as by `runTick`, and an account of the calls -/
def runTickTraced (schedule : Schedule) (frame : Float) (w : World) : (Except Fault Snapshot × World) × List Call :=
  match handleAllTraced (schedule.prompts (w.tick + 1)) w with
  | ((.error e, w), called) => ((.error e, w), called)
  | ((.ok (), w), called) =>
    match w.update frame with
    | (.error e, w) => ((.error e, w), called ++ [.time frame])
    | (.ok (), w) => ((w.snapshot, w), called ++ [.time frame])

end World

/-- ticks as by `ticks`, and an account of the calls -/
def Run.ticksTraced (schedule : Schedule) (frame : Float) : Nat → World → Run × List Call
  | 0, w => (start w, [])
  | n + 1, w =>
    match w.runTickTraced schedule frame with
    | ((.error e, w), called) => (⟨[], some e, w⟩, called)
    | ((.ok s, w), called) =>
      let r := ticksTraced schedule frame n w
      ({ r.1 with snapshots := s :: r.1.snapshots }, called ++ r.2)

namespace World

/-- a run, and an account of what it calls on its world -/
def runTraced (w : World) (n : Nat) (dt : Float) (schedule : Schedule) : Run × List Call :=
  Run.ticksTraced schedule (clampFrame dt) n w

theorem handleAllTraced_run (texts : List String) (w : World) : (handleAllTraced texts w).1 = handleAll texts w := by
  induction texts generalizing w with
  | nil => rfl
  | cons text texts ih =>
    rw [handleAllTraced, handleAll]
    cases w.handlePrompt text with
    | mk outcome w' =>
      cases outcome with
      | error e => rfl
      | ok c? => exact ih w'

theorem handleAllTraced_calls (texts : List String) (w : World) :
    w.calls (handleAllTraced texts w).2 = (handleAllTraced texts w).1.2 := by
  induction texts generalizing w with
  | nil => rfl
  | cons text texts ih =>
    rw [handleAllTraced]
    cases hp : w.handlePrompt text with
    | mk outcome w' =>
      have hcall : w.call (.prompt text) = w' := congrArg (·.2) hp
      cases outcome with
      | error e => exact hcall
      | ok c? =>
        dsimp only
        rw [calls_cons, hcall]
        exact ih w'

theorem handleAllTraced_told {texts : List String} {w : World} (h : (handleAll texts w).1 = .ok ()) :
    (handleAllTraced texts w).2 = texts.map .prompt := by
  induction texts generalizing w with
  | nil => rfl
  | cons text texts ih =>
    rw [handleAll] at h
    rw [handleAllTraced]
    cases hp : w.handlePrompt text with
    | mk outcome w' =>
      rw [hp] at h
      cases outcome with
      | error e => cases h
      | ok c? => exact congrArg (Call.prompt text :: ·) (ih h)

theorem runTickTraced_run (schedule : Schedule) (frame : Float) (w : World) :
    (w.runTickTraced schedule frame).1 = w.runTick schedule frame := by
  rw [runTick, ← handleAllTraced_run, runTickTraced]
  rcases handleAllTraced (schedule.prompts (w.tick + 1)) w with ⟨⟨outcome, w₁⟩, called⟩
  cases outcome with
  | error e => rfl
  | ok u =>
    dsimp only
    rcases w₁.update frame with ⟨outcome, w₂⟩
    cases outcome with
    | error e => rfl
    | ok u => rfl

theorem runTickTraced_calls (schedule : Schedule) (frame : Float) (w : World) :
    w.calls (w.runTickTraced schedule frame).2 = (w.runTickTraced schedule frame).1.2 := by
  have htold := handleAllTraced_calls (schedule.prompts (w.tick + 1)) w
  rw [runTickTraced]
  rcases ht : handleAllTraced (schedule.prompts (w.tick + 1)) w with ⟨⟨outcome, w₁⟩, called⟩
  rw [ht] at htold
  cases outcome with
  | error e => exact htold
  | ok u =>
    dsimp only at htold ⊢
    have htime : w.calls (called ++ [.time frame]) = (w₁.update frame).2 := by
      rw [calls_append, htold]
      rfl
    rcases hu : w₁.update frame with ⟨outcome, w₂⟩
    rw [hu] at htime
    cases outcome with
    | error e => exact htime
    | ok u => exact htime

/-- a tick that comes to no fault calls its prompts in order, and then lets the frame pass -/
theorem runTickTraced_told {schedule : Schedule} {frame : Float} {w w' : World} {s : Snapshot}
    (h : w.runTick schedule frame = (.ok s, w')) :
    (w.runTickTraced schedule frame).2 = (schedule.prompts (w.tick + 1)).map .prompt ++ [.time frame] := by
  obtain ⟨w₁, hall, hupdate, -⟩ := runTick_ok h
  have htold := handleAllTraced_told (congrArg (·.1) hall)
  rw [← handleAllTraced_run] at hall
  rw [runTickTraced]
  cases ht : handleAllTraced (schedule.prompts (w.tick + 1)) w with
  | mk r called =>
    rw [ht] at hall htold
    cases hall
    dsimp only at htold ⊢
    rw [hupdate, htold]

end World

namespace Run

theorem ticksTraced_run (schedule : Schedule) (frame : Float) (n : Nat) (w : World) :
    (ticksTraced schedule frame n w).1 = ticks schedule frame n w := by
  induction n generalizing w with
  | zero => rfl
  | succ n ih =>
    rw [ticks, ← World.runTickTraced_run, ticksTraced]
    rcases w.runTickTraced schedule frame with ⟨⟨outcome, w'⟩, called⟩
    cases outcome with
    | error e => rfl
    | ok s =>
      dsimp only
      rw [ih]

/-- the calls of the account are all that happens to the world, also where there is a fault -/
theorem ticksTraced_calls (schedule : Schedule) (frame : Float) (n : Nat) (w : World) :
    w.calls (ticksTraced schedule frame n w).2 = (ticks schedule frame n w).world := by
  rw [← ticksTraced_run]
  induction n generalizing w with
  | zero => rfl
  | succ n ih =>
    have hfirst := w.runTickTraced_calls schedule frame
    rw [ticksTraced]
    rcases ht : w.runTickTraced schedule frame with ⟨⟨outcome, w'⟩, called⟩
    rw [ht] at hfirst
    cases outcome with
    | error e => exact hfirst
    | ok s =>
      dsimp only at hfirst ⊢
      rw [World.calls_append, hfirst]
      exact ih w'

/-- a run that comes to no fault calls the prompts of each tick before its frame passes -/
theorem ticksTraced_agenda {schedule : Schedule} {frame : Float} {n : Nat} {w : World}
    (h : (ticks schedule frame n w).fault = none) :
    (ticksTraced schedule frame n w).2 =
      (List.range' (w.tick + 1) n).flatMap fun t : Nat => (schedule.prompts t).map .prompt ++ [.time frame] := by
  induction n generalizing w with
  | zero => rfl
  | succ n ih =>
    obtain ⟨s, w', hrun, hfault, -⟩ := ticks_cons h
    have htold := World.runTickTraced_told hrun
    have hrest := ih hfault
    rw [(World.runTick_tick hrun).1] at hrest
    rw [← World.runTickTraced_run] at hrun
    rw [ticksTraced]
    cases ht : w.runTickTraced schedule frame with
    | mk r called =>
      rw [ht] at hrun htold
      cases hrun
      dsimp only at htold ⊢
      rw [hrest, htold]
      rfl

end Run

end TileCrew
