/-
How a play screen keeps time. What a screen remembers of the events that have come to it is when the clock was last read
and whether it is paused (`run_remembers`).
- `handle_screen`: the screen that an event leaves;
- `clampFrame_standing`: no time has passed between a reading of the clock and that same reading;
- `time_kept`: **a frame has the world go on by the time since the clock was last read, once and as far as a frame can,
  if the screen is not paused; no other event has it go on. After a reading of zero the frame passes no time at all**;
- `time_lost`: a frame after such a reading, whose time is lost.
-/
import TileCrew.Proofs.World.Calls
import TileCrew.View.Screen

namespace TileCrew

/-! ## Spans of time -/

namespace Binary64

open Float.Model

/-- a double less itself is zero; a NaN and an infinity give a NaN -/
theorem sub_self_cases (x : Float) : x - x = 0.0 ∨ x - x = nan := by
  have hdifference : UnpackedFloat.sub Format.binary64 x.toModel.unpack x.toModel.unpack = .zero .positive ∨
      UnpackedFloat.sub Format.binary64 x.toModel.unpack x.toModel.unpack = .notANumber := by
    cases x.toModel.unpack with
    | notANumber => exact .inr rfl
    | infinity s => right; cases s <;> rfl
    | zero s => left; cases s <;> rfl
    | finite s m e hm =>
      -- both mantissas are brought to one exponent, and cancel
      left
      show UnpackedFloat.normalize Format.binary64 (s.apply _ - s.apply _) (min e e) .positive = .zero .positive
      rw [Int.sub_self]
      rfl
  rcases hdifference with h | h
  · left
    exact congrArg (fun f => Float.ofModel (pack f)) h
  · right
    exact congrArg (fun f => Float.ofModel (pack f)) h

end Binary64

theorem clampFrame_standing (now : Float) : clampFrame (now - now) = 0.0 := by
  rcases Binary64.sub_self_cases now with h | h
  · rw [h]; rfl
  · rw [h]; rfl

namespace Screen

/-! ## What events do to a screen -/

theorem showAll_screen (s : Screen) (panes : List (Pane × Except Fault View)) : (s.showAll panes).screen = s := by
  induction panes with
  | nil => rfl
  | cons pane panes ih =>
    obtain ⟨pane, view | view⟩ := pane
    · rfl
    · exact ih

theorem showPanes_screen (s : Screen) (seen : Snapshot) : (s.showPanes seen).screen = s := by
  unfold showPanes
  split
  · exact s.showAll_screen _
  · rfl

theorem showMap_screen (s : Screen) (seen : Snapshot) : (s.showMap seen).screen = s := by
  unfold showMap
  split
  · exact s.showAll_screen _
  · rfl

theorem refresh_screen (s : Screen) : s.refresh.screen = s := by
  unfold refresh
  split
  · rfl
  · exact s.showPanes_screen _

/-- the screen that an event leaves, whatever comes of it -/
def after (s : Screen) : Event → Screen
  | .mount now => { s with mounted := true, lastFrame := some now }
  | .frame now =>
    { s with lastFrame := some now, world := if s.paused then s.world else (s.world.update (clampFrame (s.elapsed now))).2 }
  | .submit text =>
    { s with world := if (Text.strip text).isEmpty then s.world else (s.world.handlePrompt (Text.strip text)).2 }
  | .togglePause now => { s with paused := !s.paused, lastFrame := some now }
  | .quit => s

/-- what is shown of a screen, and what fails, changes nothing in it -/
theorem handle_screen (s : Screen) (e : Event) : (s.handle e).screen = s.after e := by
  cases e with
  | mount now => exact refresh_screen _
  | frame now =>
    unfold handle after
    cases hpaused : s.paused with
    | true => rfl
    | false =>
      simp only [Bool.false_eq_true, if_false]
      rcases s.world.update (clampFrame (s.elapsed now)) with ⟨outcome, w⟩
      cases outcome with
      | error e => rfl
      | ok u =>
        dsimp only
        split
        · rfl
        · split
          · exact showPanes_screen _ _
          · exact showMap_screen _ _
  | submit text =>
    unfold handle after
    dsimp only
    split
    · rfl
    · rcases s.world.handlePrompt (Text.strip text) with ⟨outcome, w⟩
      cases outcome with
      | error e => rfl
      | ok c? => exact refresh_screen _
  | togglePause now => rfl
  | quit => rfl

theorem run_append (s : Screen) (es : List Event) (e : Event) : s.run (es ++ [e]) = (s.run es).after e := by
  rw [← handle_screen]
  exact List.foldl_append

/-! ## What is remembered of events -/

/-- what the clock showed at an event, where it was read -/
def Event.reading? : Event → Option Float
  | .mount now | .frame now | .togglePause now => some now
  | .submit _ | .quit => none

def Event.isToggle : Event → Bool
  | .togglePause _ => true
  | _ => false

/-- what the clock showed when it was last read -/
def lastReading (past : List Event) : Option Float := (past.filterMap Event.reading?).getLast?

/-- the pause has been switched an odd number of times -/
def isPaused (past : List Event) : Bool := past.foldl (fun paused e => paused ^^ e.isToggle) false

theorem lastReading_append (past : List Event) (e : Event) :
    lastReading (past ++ [e]) = (e.reading? <|> lastReading past) := by
  cases e <;> simp [lastReading, Event.reading?, List.filterMap_append]

theorem isPaused_append (past : List Event) (e : Event) : isPaused (past ++ [e]) = (isPaused past ^^ e.isToggle) :=
  List.foldl_append

def ofWorld (w : World) : Screen := { world := w }

/-- **A screen remembers of events when the clock was last read, and whether it is paused.** -/
theorem run_remembers (w : World) (past : List Event) :
    ((ofWorld w).run past).lastFrame = lastReading past ∧ ((ofWorld w).run past).paused = isPaused past := by
  induction past using List.reverseRecOn with
  | nil => exact ⟨rfl, rfl⟩
  | append_singleton past e ih =>
    rw [run_append, lastReading_append, isPaused_append, ← ih.1, ← ih.2]
    cases e <;> simp [after, Event.reading?, Event.isToggle]

/-! ## What events have the world do -/

/-- the time that a frame passes after a reading of the clock; after a reading of zero it is none -/
def spanSince (t now : Float) : Float := if t == 0.0 then 0.0 else clampFrame (now - t)

/-- what an event has the world do after others: a frame passes time where the screen is not paused, and a prompt that is
not blank is put in -/
def due (past : List Event) : Event → List Call
  | .frame now => if isPaused past then [] else ((lastReading past).map fun t => Call.time (spanSince t now)).toList
  | .submit text => if (Text.strip text).isEmpty then [] else [.prompt (Text.strip text)]
  | .mount _ | .togglePause _ | .quit => []

/-- what events have the world do, one after the other -/
def agenda (past : List Event) : List Event → List Call
  | [] => []
  | e :: es => due past e ++ agenda (past ++ [e]) es

theorem clampFrame_elapsed {s : Screen} {t : Float} (h : s.lastFrame = some t) (now : Float) :
    clampFrame (s.elapsed now) = spanSince t now := by
  rw [elapsed, h, spanSince]
  dsimp only
  split
  · exact clampFrame_standing now
  · rfl

/-- an event has the world do what is due -/
theorem after_due {w : World} {past : List Event} {t : Float} (ht : lastReading past = some t) (e : Event) :
    (((ofWorld w).run past).after e).world = ((ofWorld w).run past).world.calls (due past e) := by
  obtain ⟨hlast, hpaused⟩ := run_remembers w past
  cases e with
  | mount now => rfl
  | togglePause now => rfl
  | quit => rfl
  | frame now =>
    rw [ht] at hlast
    simp only [after, due, hpaused, clampFrame_elapsed hlast, ht]
    split
    · rfl
    · rfl
  | submit text =>
    simp only [after, due]
    split
    · rfl
    · rfl

theorem run_agenda {w : World} {past : List Event} {t : Float} (ht : lastReading past = some t) (es : List Event) :
    ((ofWorld w).run (past ++ es)).world = ((ofWorld w).run past).world.calls (agenda past es) := by
  induction es generalizing past t with
  | nil => rw [List.append_nil]; rfl
  | cons e es ih =>
    obtain ⟨t', ht'⟩ : ∃ t', lastReading (past ++ [e]) = some t' := by
      rw [lastReading_append, ht]
      cases e.reading? with
      | none => exact ⟨t, rfl⟩
      | some t' => exact ⟨t', rfl⟩
    rw [agenda, World.calls_append, ← after_due ht e, ← run_append, ← ih ht', List.append_assoc]
    rfl

theorem lastReading_mount (t₀ : Float) (events : List Event) : ∃ t, lastReading (.mount t₀ :: events) = some t := by
  induction events using List.reverseRecOn with
  | nil => exact ⟨t₀, rfl⟩
  | append_singleton events e ih =>
    obtain ⟨t, ht⟩ := ih
    rw [← List.cons_append, lastReading_append, ht]
    cases e.reading? with
    | none => exact ⟨t, rfl⟩
    | some t' => exact ⟨t', rfl⟩

/-- **A screen keeps time.** Whatever events have come since it was mounted, the screen has had its world do what was due,
event by event. A frame then has the world go on once, by the time since the clock was last read as far as a frame can, or
by no time where that reading was zero; where the screen is paused it leaves the world as it is. A prompt that is not blank
is put in, and all other events leave the world as it is. -/
theorem time_kept (w : World) (t₀ : Float) (events : List Event) :
    let past := .mount t₀ :: events
    let s := (ofWorld w).run past
    (s.world = w.calls (agenda [.mount t₀] events) ∧ s.paused = isPaused past) ∧
      (∃ t, lastReading past = some t ∧ ∀ now, (s.handle (.frame now)).screen.world =
        if isPaused past then s.world
        else (s.world.update (if t == 0.0 then 0.0 else clampFrame (now - t))).2) ∧
      (∀ text, (s.handle (.submit text)).screen.world =
        if (Text.strip text).isEmpty then s.world else (s.world.handlePrompt (Text.strip text)).2) ∧
      (∀ now, (s.handle (.mount now)).screen.world = s.world ∧ (s.handle (.togglePause now)).screen.world = s.world) ∧
      (s.handle .quit).screen.world = s.world := by
  intro past s
  obtain ⟨t, ht⟩ := lastReading_mount t₀ events
  obtain ⟨hlast, hpaused⟩ := run_remembers w past
  have hworld : s.world = w.calls (agenda [.mount t₀] events) := by
    have hmount : ((ofWorld w).run [.mount t₀]).world = w := congrArg Screen.world ((ofWorld w).run_append [] (.mount t₀))
    have hrun := run_agenda (w := w) (show lastReading [.mount t₀] = some t₀ from rfl) events
    rwa [hmount] at hrun
  refine ⟨⟨hworld, hpaused⟩, ⟨t, ht, fun now => ?_⟩, fun text => ?_, fun now => ?_, rfl⟩
  · have hspan : clampFrame (s.elapsed now) = if t == 0.0 then 0.0 else clampFrame (now - t) :=
      clampFrame_elapsed (hlast.trans ht) now
    rw [handle_screen, after, hspan, ← hpaused]
  · rw [handle_screen, after]
  · rw [handle_screen, handle_screen]
    exact ⟨rfl, rfl⟩

/-- **The time of a frame after a reading of zero is lost**: an agent that gathers goes on for no time where a twentieth of
a second has passed. -/
theorem time_lost :
    let w : World := { World.bare ⟨#[], 0⟩ 0.0 with roster := ⟨[("bot", { id := 1, name := "Bot" })]⟩ }
    let past : List Event := [.mount 0.0, .submit "Bot gather wood", .frame 0.0]
    let s := (ofWorld w).run past
    lastReading past = some 0.0 ∧ isPaused past = false ∧
      (s.handle (.frame 0.05)).screen.world.roster.agents.map Agent.timer = [0.0] ∧
      (s.world.update (clampFrame (0.05 - 0.0))).2.roster.agents.map Agent.timer = [0.05] := by
  decide +kernel

end Screen

end TileCrew
