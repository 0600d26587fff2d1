/-
What the map of a play screen shows. Events that come to no fault either show the world that they leave, in all views or
in the map alone, or they leave world and views as they are (`handle_shows`).
- `map_shown`: **the map always shows the world as it is, with the mark of a pause just as the pause was when the map was
  last shown**; so it is as it should be if and only if the pause has not been switched since, or an even number of times;
- `mark_missing`: a screen that is paused, and a map without the mark.
-/
import TileCrew.Proofs.Outcomes
import TileCrew.Proofs.View.Timekeeping

namespace TileCrew.Screen

/-! ## Effects -/

def Effect.view? (pane : Pane) : Effect → Option View
  | .update p view => if p = pane then some view else none
  | .focusPrompt | .everySeconds _ | .exit => none

/-- what a pane shows after effects -/
def lastShown (pane : Pane) (effects : List Effect) : Option View := (effects.filterMap (Effect.view? pane)).getLast?

/-- all that a screen does at events, one after the other -/
def effects (s : Screen) : List Event → List Effect
  | [] => []
  | e :: es => (s.handle e).effects ++ effects (s.handle e).screen es

def Faultless (s : Screen) : List Event → Prop
  | [] => True
  | e :: es => (s.handle e).fault = none ∧ Faultless (s.handle e).screen es

instance decidableFaultless : (s : Screen) → (es : List Event) → Decidable (s.Faultless es)
  | _, [] => .isTrue trivial
  | s, e :: es =>
    have := decidableFaultless (s.handle e).screen es
    inferInstanceAs (Decidable ((s.handle e).fault = none ∧ Faultless (s.handle e).screen es))

theorem lastShown_append (pane : Pane) (before more : List Effect) :
    lastShown pane (before ++ more) = (lastShown pane more).or (lastShown pane before) := by
  rw [lastShown, List.filterMap_append, List.getLast?_append]
  rfl

theorem effects_append (s : Screen) (es : List Event) (e : Event) :
    s.effects (es ++ [e]) = s.effects es ++ ((s.run es).handle e).effects := by
  induction es generalizing s with
  | nil => exact List.append_nil _
  | cons e' es ih =>
    rw [List.cons_append, effects, effects, ih, List.append_assoc]
    rfl

theorem faultless_append (s : Screen) (es : List Event) (e : Event) :
    s.Faultless (es ++ [e]) ↔ s.Faultless es ∧ ((s.run es).handle e).fault = none := by
  induction es generalizing s with
  | nil => exact and_comm
  | cons e' es ih =>
    rw [List.cons_append, Faultless, Faultless, ih, and_assoc]
    rfl

/-! ## What an event shows -/

/-- the views of a snapshot that are put up: all of them, or the map alone -/
inductive Puts (paused : Bool) (seen : Snapshot) : List Effect → Prop where
  | all {map cards : View} (hmap : View.worldPanel seen paused = .ok map) (hcards : View.agentCards seen = .ok cards) :
    Puts paused seen [.update .map map, .update .agents cards, .update .messages (View.messagePanel seen)]
  | mapOnly {map : View} (hmap : View.worldPanel seen paused = .ok map) : Puts paused seen [.update .map map]

theorem Puts.map {paused : Bool} {seen : Snapshot} {shown : List Effect} (h : Puts paused seen shown) :
    ∃ map, View.worldPanel seen paused = .ok map ∧ lastShown .map shown = some map := by
  cases h with
  | all hmap _ => exact ⟨_, hmap, rfl⟩
  | mapOnly hmap => exact ⟨_, hmap, rfl⟩

/-- the event shows what it leaves, on a screen that is paused or not -/
def Event.shows (paused : Bool) : Event → Bool
  | .mount _ => true
  | .frame _ => !paused
  | .submit text => !(Text.strip text).isEmpty
  | .togglePause _ | .quit => false

variable {s : Screen} {seen : Snapshot}

theorem showAll_cons {pane : Pane} {view? : Except Fault View} {rest : List (Pane × Except Fault View)}
    (h : (s.showAll ((pane, view?) :: rest)).fault = none) :
    ∃ view, view? = .ok view ∧ (s.showAll rest).fault = none ∧
      (s.showAll ((pane, view?) :: rest)).effects = .update pane view :: (s.showAll rest).effects := by
  cases view? with
  | error e => cases h
  | ok view => exact ⟨view, rfl, h, rfl⟩

theorem showPanes_puts (hmounted : s.mounted = true) (h : (s.showPanes seen).fault = none) :
    Puts s.paused seen (s.showPanes seen).effects := by
  rw [showPanes, if_pos hmounted] at h ⊢
  obtain ⟨map, hmap, h, heffects⟩ := showAll_cons h
  obtain ⟨cards, hcards, h, heffects'⟩ := showAll_cons h
  rw [heffects, heffects']
  exact .all hmap hcards

theorem showMap_puts (hmounted : s.mounted = true) (hpaused : s.paused = false) (h : (s.showMap seen).fault = none) :
    Puts s.paused seen (s.showMap seen).effects := by
  rw [showMap, if_pos hmounted] at h ⊢
  obtain ⟨map, hmap, h, heffects⟩ := showAll_cons h
  rw [heffects, hpaused]
  exact .mapOnly hmap

theorem refresh_puts (hmounted : s.mounted = true) (h : s.refresh.fault = none) :
    ∃ seen, s.world.snapshot = .ok seen ∧ Puts s.paused seen s.refresh.effects := by
  unfold refresh at h ⊢
  cases hsnap : s.world.snapshot with
  | error e => rw [hsnap] at h; cases h
  | ok seen =>
    rw [hsnap] at h
    exact ⟨seen, rfl, showPanes_puts hmounted h⟩

/-- a frame that comes to no fault, on a screen that is not paused: the world goes on and is seen -/
theorem frame_ok {now : Float} (hpaused : s.paused = false) (h : (s.handle (.frame now)).fault = none) :
    ∃ seen, (s.after (.frame now)).world.snapshot = .ok seen ∧ s.handle (.frame now) =
      if seen.tick % refreshTicks = 0 then (s.after (.frame now)).showPanes seen
      else (s.after (.frame now)).showMap seen := by
  obtain ⟨⟨outcome, w⟩, hupdate⟩ : ∃ r, s.world.update (clampFrame (s.elapsed now)) = r := ⟨_, rfl⟩
  have hafter : s.after (.frame now) = { s with lastFrame := some now, world := w } := by
    simp only [after, hpaused, hupdate, Bool.false_eq_true, if_false]
  rw [hafter]
  simp only [handle, hpaused, hupdate, Bool.false_eq_true, if_false] at h ⊢
  cases outcome with
  | error e => cases h
  | ok u =>
    dsimp only at h ⊢
    cases hsnap : w.snapshot with
    | error e => rw [hsnap] at h; cases h
    | ok seen => exact ⟨seen, rfl, rfl⟩

/-- a prompt that comes to no fault, and is not blank: it is put in, and all views are shown -/
theorem submit_ok {text : String} (hblank : (Text.strip text).isEmpty = false)
    (h : (s.handle (.submit text)).fault = none) : s.handle (.submit text) = (s.after (.submit text)).refresh := by
  obtain ⟨⟨outcome, w⟩, hprompt⟩ : ∃ r, s.world.handlePrompt (Text.strip text) = r := ⟨_, rfl⟩
  simp only [handle, after, hblank, hprompt, Bool.false_eq_true, if_false] at h ⊢
  cases outcome with
  | error e => cases h
  | ok c? => rfl

/-- **An event that comes to no fault shows what it leaves, or leaves the world and all views as they are.** -/
theorem handle_shows {e : Event} (hmounted : (s.after e).mounted = true) (h : (s.handle e).fault = none) :
    (e.shows s.paused = true ∧ (s.after e).paused = s.paused ∧ ∃ before seen shown,
      (s.handle e).effects = before ++ shown ∧ (s.after e).world.snapshot = .ok seen ∧ Puts s.paused seen shown) ∨
    (e.shows s.paused = false ∧ (s.after e).world = s.world ∧ ∀ pane, lastShown pane (s.handle e).effects = none) := by
  cases e with
  | mount now =>
    left
    obtain ⟨seen, hsnap, hputs⟩ := refresh_puts hmounted h
    exact ⟨rfl, rfl, [.focusPrompt, .everySeconds frameInterval], seen, _, rfl, hsnap, hputs⟩
  | frame now =>
    cases hpaused : s.paused with
    | true =>
      right
      simp only [handle, after, hpaused, if_true]
      exact ⟨rfl, trivial, fun _ => rfl⟩
    | false =>
      left
      obtain ⟨seen, hsnap, hhandle⟩ := frame_ok hpaused h
      rw [hhandle] at h ⊢
      refine ⟨rfl, hpaused, [], seen, _, rfl, hsnap, ?_⟩
      split at h
      · next htick =>
        rw [if_pos htick, ← hpaused]
        exact showPanes_puts hmounted h
      · next htick =>
        rw [if_neg htick, ← hpaused]
        exact showMap_puts hmounted hpaused h
  | submit text =>
    cases hblank : (Text.strip text).isEmpty with
    | true =>
      right
      simp only [handle, after, hblank, Event.shows, if_true]
      exact ⟨rfl, trivial, fun _ => rfl⟩
    | false =>
      left
      have hhandle := submit_ok hblank h
      have hpaused : (s.after (.submit text)).paused = s.paused := by rw [after]
      rw [hhandle] at h
      obtain ⟨seen, hsnap, hputs⟩ := refresh_puts hmounted h
      rw [← hhandle, hpaused] at hputs
      exact ⟨by rw [Event.shows, hblank, Bool.not_false], hpaused, [], seen, (s.handle (.submit text)).effects,
        (List.nil_append _).symm, hsnap, hputs⟩
  | togglePause now => exact .inr ⟨rfl, rfl, fun _ => rfl⟩
  | quit => exact .inr ⟨rfl, rfl, fun _ => rfl⟩

/-! ## Events since the map was last shown -/

/-- the events since the last that showed what it left; `past` came before all of these, `since` after that last one -/
def unshown (past since : List Event) : List Event → List Event
  | [] => since
  | e :: es => unshown (past ++ [e]) (if e.shows (isPaused past) then [] else since ++ [e]) es

theorem unshown_append (past since es : List Event) (e : Event) :
    unshown past since (es ++ [e]) = if e.shows (isPaused (past ++ es)) then [] else unshown past since es ++ [e] := by
  induction es generalizing past since with
  | nil => rw [List.nil_append, List.append_nil]; rfl
  | cons e' es ih =>
    rw [List.cons_append, unshown, unshown, ih, List.append_assoc]
    rfl

theorem after_mounted (s : Screen) (e : Event) (h : s.mounted = true) : (s.after e).mounted = true := by
  cases e <;> simp only [after, h]

theorem run_mounted (s : Screen) (t₀ : Float) (events : List Event) : (s.run (.mount t₀ :: events)).mounted = true := by
  induction events using List.reverseRecOn with
  | nil => exact congrArg Screen.mounted (s.run_append [] (.mount t₀))
  | append_singleton events e ih =>
    rw [← List.cons_append, run_append]
    exact after_mounted _ e ih

/-- the map shows the world as it is, with or without the mark of a pause -/
def MapShows (s : Screen) (mark : Bool) (shown : Option View) : Prop :=
  ∃ seen map, s.world.snapshot = .ok seen ∧ View.worldPanel seen mark = .ok map ∧ shown = some map

/-- an event that shows what it leaves shows it with the mark that belongs there -/
theorem mapShows_shown {e : Event} (hmounted : (s.after e).mounted = true) (h : (s.handle e).fault = none)
    (hshows : e.shows s.paused = true) (before : List Effect) :
    (s.after e).MapShows (s.after e).paused (lastShown .map (before ++ (s.handle e).effects)) := by
  rcases handle_shows hmounted h with ⟨-, hpaused, first, seen, shown, heffects, hsnap, hputs⟩ | ⟨hnot, -⟩
  · obtain ⟨map, hmap, hlast⟩ := hputs.map
    refine ⟨seen, map, hsnap, by rw [hpaused, hmap], ?_⟩
    rw [heffects, ← List.append_assoc, lastShown_append, hlast, Option.some_or]
  · rw [hshows] at hnot
    cases hnot

/-- any other event leaves the map showing what it shows, and that is the world as it is -/
theorem mapShows_kept {e : Event} (hmounted : (s.after e).mounted = true) (h : (s.handle e).fault = none)
    (hshows : e.shows s.paused = false) {mark : Bool} {before : List Effect} (hbefore : s.MapShows mark (lastShown .map before)) :
    (s.after e).MapShows mark (lastShown .map (before ++ (s.handle e).effects)) := by
  rcases handle_shows hmounted h with ⟨hdoes, -⟩ | ⟨-, hworld, hnone⟩
  · rw [hshows] at hdoes
    cases hdoes
  · rw [lastShown_append, hnone, Option.none_or, MapShows, hworld]
    exact hbefore

/-- the map of a mounted screen has the mark that the pause had when the map was last shown -/
theorem run_mapShows (w : World) (t₀ : Float) (events : List Event) (h : (ofWorld w).Faultless (.mount t₀ :: events)) :
    let past := .mount t₀ :: events
    let s := (ofWorld w).run past
    s.MapShows (s.paused ^^ isPaused (unshown [] [] past)) (lastShown .map ((ofWorld w).effects past)) := by
  induction events using List.reverseRecOn with
  | nil =>
    intro past s
    have hs : s = (ofWorld w).after (.mount t₀) := (ofWorld w).run_append [] (.mount t₀)
    have hmark : (s.paused ^^ isPaused (unshown [] [] past)) = s.paused := Bool.xor_false _
    rw [hmark, hs, show (ofWorld w).effects past = [] ++ ((ofWorld w).handle (.mount t₀)).effects from List.append_nil _]
    exact mapShows_shown rfl h.1 rfl []
  | append_singleton events e ih =>
    intro past s
    have hpast : past = (.mount t₀ :: events) ++ [e] := rfl
    rw [← List.cons_append, faultless_append] at h
    obtain ⟨hbefore, hfault⟩ := h
    have hs : s = ((ofWorld w).run (.mount t₀ :: events)).after e := (ofWorld w).run_append (.mount t₀ :: events) e
    have hmounted := run_mounted (ofWorld w) t₀ (events ++ [e])
    rw [← List.cons_append, run_append] at hmounted
    have hpausedBefore := (run_remembers w (.mount t₀ :: events)).2
    have hpaused : s.paused = (isPaused (.mount t₀ :: events) ^^ e.isToggle) := by
      rw [(run_remembers w past).2, hpast, isPaused_append]
    rw [hpast, effects_append, unshown_append, List.nil_append, ← hpausedBefore]
    cases hshows : e.shows ((ofWorld w).run (.mount t₀ :: events)).paused with
    | true =>
      rw [if_pos rfl, show isPaused [] = false from rfl, Bool.xor_false, hs]
      exact mapShows_shown hmounted hfault hshows _
    | false =>
      have hmark : (s.paused ^^ isPaused (unshown [] [] (.mount t₀ :: events) ++ [e])) =
          (((ofWorld w).run (.mount t₀ :: events)).paused ^^ isPaused (unshown [] [] (.mount t₀ :: events))) := by
        rw [hpaused, isPaused_append, hpausedBefore]
        cases isPaused (.mount t₀ :: events) <;> cases e.isToggle <;> simp
      rw [if_neg Bool.false_ne_true, hmark, hs]
      exact mapShows_kept hmounted hfault hshows (ih hbefore)

/-! ## Marks -/

theorem mapPanel_title {title : String} {scene : Scene} {view : View} (h : View.mapPanel title scene = .ok view) :
    ∃ body, view = .panel title body := by
  unfold View.mapPanel at h
  split at h
  · cases h
    exact ⟨_, rfl⟩
  · obtain ⟨lines, -, rfl⟩ := map_ok.1 h
    exact ⟨_, rfl⟩

theorem worldTitle_mark {tick : Int} {mark mark' : Bool} (h : View.worldTitle tick mark = View.worldTitle tick mark') :
    mark = mark' := by
  have hlength := congrArg String.length h
  simp only [View.worldTitle, String.length_append] at hlength
  cases mark <;> cases mark' <;> simp at hlength ⊢

theorem MapShows.mark_eq {mark mark' : Bool} {shown : Option View} (h : s.MapShows mark shown) (h' : s.MapShows mark' shown) :
    mark = mark' := by
  obtain ⟨seen, map, hsnap, hmap, rfl⟩ := h
  obtain ⟨seen', map', hsnap', hmap', hshown⟩ := h'
  cases hsnap.symm.trans hsnap'
  cases hshown
  obtain ⟨body, hbody⟩ := mapPanel_title hmap
  obtain ⟨body', hbody'⟩ := mapPanel_title hmap'
  exact worldTitle_mark (View.panel.inj (hbody.symm.trans hbody')).1

/-- **The map is as it should be just if the pause has not been switched since the map was last shown**, or an even number
of times. It always shows the tick, the agents and the tiles of the world as it is; the mark of a pause is the one that it
was last shown with. -/
theorem map_shown (w : World) (t₀ : Float) (events : List Event) (h : (ofWorld w).Faultless (.mount t₀ :: events)) :
    let past := .mount t₀ :: events
    let s := (ofWorld w).run past
    let shown := lastShown .map ((ofWorld w).effects past)
    let switched := isPaused (unshown [] [] past)
    s.MapShows (s.paused ^^ switched) shown ∧ (s.MapShows s.paused shown ↔ switched = false) := by
  intro past s shown switched
  have hshows : s.MapShows (s.paused ^^ switched) shown := run_mapShows w t₀ events h
  refine ⟨hshows, fun hmark => ?_, fun hswitched => ?_⟩
  · have heq := hshows.mark_eq hmark
    revert heq
    cases s.paused <;> cases switched <;> simp
  · rw [hswitched, Bool.xor_false] at hshows
    exact hshows

/-- a prompt while the screen is paused, and what the map shows of the pause -/
theorem map_shown_paused :
    let w := World.bare ⟨#[], 0⟩ 0.0
    let past : List Event := [.mount 1.0, .togglePause 2.0, .submit "what?", .frame 3.0]
    let s := (ofWorld w).run past
    (ofWorld w).Faultless past ∧ s.paused = true ∧ isPaused (unshown [] [] past) = false ∧
      s.MapShows s.paused (lastShown .map ((ofWorld w).effects past)) := by
  intro w past s
  have hfaultless : (ofWorld w).Faultless past := by decide +kernel
  have hpaused : s.paused = true := by decide +kernel
  have hswitched : isPaused (unshown [] [] past) = false := by decide +kernel
  have hshown := map_shown w 1.0 [.togglePause 2.0, .submit "what?", .frame 3.0] hfaultless
  exact ⟨hfaultless, hpaused, hswitched, hshown.2.2 hswitched⟩

/-- **A screen is paused, and its map does not say so**: nothing shows the map when the pause is switched. -/
theorem mark_missing :
    let w := World.bare ⟨#[], 0⟩ 0.0
    let past : List Event := [.mount 1.0, .togglePause 2.0]
    let s := (ofWorld w).run past
    let shown := lastShown .map ((ofWorld w).effects past)
    (ofWorld w).Faultless past ∧ s.paused = true ∧
      shown = some (.panel "World (tick 0)" (View.note "No map generated.")) ∧ ¬s.MapShows s.paused shown := by
  intro w past s shown
  have htitle : View.worldTitle 0 false = "World (tick 0)" := by decide +kernel
  have hshown : shown = some (.panel (View.worldTitle 0 false) (View.note "No map generated.")) := rfl
  refine ⟨⟨rfl, rfl, trivial⟩, rfl, by rw [hshown, htitle], ?_⟩
  rintro ⟨seen, map, hsnap, hmap, hlast⟩
  cases hsnap
  cases hmap
  rw [hshown] at hlast
  have hmark := worldTitle_mark (View.panel.inj (Option.some.inj hlast)).1
  cases hmark

end TileCrew.Screen
