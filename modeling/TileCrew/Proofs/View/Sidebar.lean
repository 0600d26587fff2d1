/-
What stands beside the map of a play screen: the cards of the agents and the log. Only a prompt adds to the log, and it has
both made anew; a frame has them made anew at every fifteenth tick, and passes one tick (`handle_beside`).
- `sidebar_fresh`: **the log always shows the world as it is; the cards show it as it was after one of the events, not
  before the last multiple of fifteen ticks, and right after a prompt they show it as it is**.
-/
import TileCrew.Proofs.View.MapPane
import TileCrew.Proofs.World.Giving
import TileCrew.Proofs.World.Runs

namespace TileCrew

namespace World

theorem snapshot_messages {w : World} {s : Snapshot} (h : w.snapshot = .ok s) : s.scene.messages = w.log.entries := by
  obtain ⟨views, -, rfl⟩ := map_ok.1 h
  rfl

end World

namespace Screen

/-! ## Panes beside the map -/

/-- the cards show a world as it is -/
def CardsShow (w : World) (shown : Option View) : Prop :=
  ∃ seen cards, w.snapshot = .ok seen ∧ View.agentCards seen = .ok cards ∧ shown = some cards

def LogShows (w : World) (shown : Option View) : Prop :=
  ∃ seen, w.snapshot = .ok seen ∧ shown = some (View.messagePanel seen)

/-- effects put up the cards and the log of a world -/
structure Renews (w : World) (effects : List Effect) : Prop where
  cards : CardsShow w (lastShown .agents effects)
  log : LogShows w (lastShown .messages effects)

/-- effects leave the cards and the log as they stand -/
def Spares (effects : List Effect) : Prop := ∀ pane, pane ≠ .map → lastShown pane effects = none

theorem LogShows.same {w w' : World} {shown : Option View} {seen' : Snapshot} (h : LogShows w shown)
    (hlog : w'.log = w.log) (hsnap' : w'.snapshot = .ok seen') : LogShows w' shown := by
  obtain ⟨seen, hsnap, rfl⟩ := h
  refine ⟨seen', hsnap', ?_⟩
  have hmessages : seen'.scene.messages = seen.scene.messages := by
    rw [World.snapshot_messages hsnap', World.snapshot_messages hsnap, hlog]
  rw [View.messagePanel, View.messagePanel, hmessages]

theorem Renews.behind {w : World} {effects : List Effect} (h : Renews w effects) (before : List Effect) :
    Renews w (before ++ effects) := by
  obtain ⟨⟨seen, cards, hsnap, hcards, hagents⟩, ⟨seen', hsnap', hmessages⟩⟩ := h
  constructor
  · refine ⟨seen, cards, hsnap, hcards, ?_⟩
    rw [lastShown_append, hagents, Option.some_or]
  · refine ⟨seen', hsnap', ?_⟩
    rw [lastShown_append, hmessages, Option.some_or]

theorem Spares.behind {effects : List Effect} (h : Spares effects) (before : List Effect) {pane : Pane}
    (hpane : pane ≠ .map) : lastShown pane (before ++ effects) = lastShown pane before := by
  rw [lastShown_append, h pane hpane, Option.none_or]

theorem spares_nil : Spares [] := fun _ _ => rfl

/-! ## What an event does beside the map -/

variable {s : Screen} {seen : Snapshot}

theorem showPanes_renews (hmounted : s.mounted = true) (hsnap : s.world.snapshot = .ok seen)
    (h : (s.showPanes seen).fault = none) : Renews s.world (s.showPanes seen).effects := by
  rw [showPanes, if_pos hmounted] at h ⊢
  obtain ⟨map, -, h, heffects⟩ := showAll_cons h
  obtain ⟨cards, hcards, -, heffects'⟩ := showAll_cons h
  rw [heffects, heffects']
  exact ⟨⟨seen, cards, hsnap, hcards, rfl⟩, ⟨seen, hsnap, rfl⟩⟩

theorem showMap_spares (s : Screen) (seen : Snapshot) : Spares (s.showMap seen).effects := by
  intro pane hpane
  unfold showMap
  split
  · cases View.worldPanel seen with
    | error e => rfl
    | ok map => simp [showAll, lastShown, Effect.view?, done, hpane.symm]
  · rfl

theorem refresh_renews (hmounted : s.mounted = true) (h : s.refresh.fault = none) : Renews s.world s.refresh.effects := by
  unfold refresh at h ⊢
  cases hsnap : s.world.snapshot with
  | error e => rw [hsnap] at h; cases h
  | ok seen =>
    rw [hsnap] at h
    exact showPanes_renews hmounted hsnap h

theorem submit_renews {text : String} (hmounted : s.mounted = true) (hblank : (Text.strip text).isEmpty = false)
    (h : (s.handle (.submit text)).fault = none) :
    Renews (s.after (.submit text)).world (s.handle (.submit text)).effects := by
  have hhandle := submit_ok hblank h
  rw [hhandle] at h ⊢
  exact refresh_renews (after_mounted s (.submit text) hmounted) h

/-- what an event does beside the map -/
inductive Beside (s : Screen) (e : Event) : Prop where
  /-- cards and log are made anew, of the world that the event leaves -/
  | renewed (h : Renews (s.after e).world (s.handle e).effects)
  /-- a tick is passed, up to one at which cards and log are not made anew; the messages are left as they are -/
  | passed {seen : Snapshot} (hsnap : (s.after e).world.snapshot = .ok seen) (hlog : (s.after e).world.log = s.world.log)
      (htick : (s.after e).world.tick = s.world.tick + 1) (hbetween : ((s.after e).world.tick : Int) % 15 ≠ 0)
      (h : Spares (s.handle e).effects)
  /-- the world is left as it is -/
  | kept (hworld : (s.after e).world = s.world) (h : Spares (s.handle e).effects)

/-- a frame renews cards and log, or passes a tick at which it does not, or is none to a screen that is paused -/
theorem frame_beside {now : Float} (hmounted : s.mounted = true) (h : (s.handle (.frame now)).fault = none) :
    Beside s (.frame now) := by
  cases hpaused : s.paused with
  | true =>
    refine .kept ?_ ?_
    · simp only [after, hpaused, if_true]
    · simp only [handle, hpaused, if_true]
      exact spares_nil
  | false =>
    obtain ⟨seen, hsnap, hhandle⟩ := frame_ok hpaused h
    have hworld : (s.after (.frame now)).world = (s.world.update (clampFrame (s.elapsed now))).2 := by
      simp only [after, hpaused, Bool.false_eq_true, if_false]
    rw [hhandle] at h
    by_cases htick : seen.tick % refreshTicks = 0
    · rw [if_pos htick] at h hhandle
      refine .renewed ?_
      rw [hhandle]
      exact showPanes_renews hmounted hsnap h
    · rw [if_neg htick] at hhandle
      refine .passed hsnap ?_ ?_ ?_ ?_
      · rw [hworld]; rfl
      · rw [hworld]; rfl
      · rwa [← World.snapshot_tick hsnap]
      · rw [hhandle]
        exact showMap_spares _ seen

/-- **An event that comes to no fault has cards and log made anew, or passes a tick at which it does not, or leaves the
world as it is.** -/
theorem handle_beside {e : Event} (hmounted : (s.after e).mounted = true) (h : (s.handle e).fault = none) : Beside s e := by
  cases e with
  | mount now => exact .renewed ((refresh_renews hmounted h).behind [.focusPrompt, .everySeconds frameInterval])
  | frame now => exact frame_beside hmounted h
  | submit text =>
    cases hblank : (Text.strip text).isEmpty with
    | true =>
      refine .kept ?_ ?_
      · simp only [after, hblank, if_true]
      · simp only [handle, hblank, if_true]
        exact spares_nil
    | false => exact .renewed (submit_renews hmounted hblank h)
  | togglePause now => exact .kept rfl spares_nil
  | quit => exact .kept rfl fun _ _ => rfl

/-! ## Ticks go on -/

theorem after_tick (s : Screen) (e : Event) : s.world.tick ≤ (s.after e).world.tick := by
  cases e with
  | mount now => exact le_rfl
  | frame now =>
    rw [after]
    dsimp only
    split
    · exact le_rfl
    · exact Nat.le_succ _
  | submit text =>
    rw [after]
    dsimp only
    split
    · exact le_rfl
    · exact (World.handlePrompt_stays World.PutClosed.any s.world (Text.strip text)).tick.ge
  | togglePause now => exact le_rfl
  | quit => exact le_rfl

theorem run_tick (s : Screen) (past more : List Event) : (s.run past).world.tick ≤ (s.run (past ++ more)).world.tick := by
  induction more using List.reverseRecOn with
  | nil => rw [List.append_nil]
  | append_singleton more e ih =>
    rw [← List.append_assoc, run_append]
    exact ih.trans (after_tick _ e)

/-! ## Since the cards were made -/

/-- the cards show the world that the mount and the first events after it have left; no multiple of fifteen ticks has come
since -/
structure Recent (s : Screen) (t₀ : Float) (events first : List Event) : Prop where
  part : first <+: events
  cards : CardsShow (s.run (.mount t₀ :: first)).world (lastShown .agents (s.effects (.mount t₀ :: events)))
  notOlder : 15 * ((s.run (.mount t₀ :: events)).world.tick / 15) ≤ (s.run (.mount t₀ :: first)).world.tick

variable {t₀ : Float} {events first : List Event} {e : Event}

theorem Recent.renewed
    (h : CardsShow (s.run (.mount t₀ :: events)).world (lastShown .agents (s.effects (.mount t₀ :: events)))) :
    s.Recent t₀ events events where
  part := List.prefix_refl _
  cards := h
  notOlder := Nat.mul_div_le _ _

/-- one more event, which leaves the cards as they stand and comes to no later multiple -/
theorem Recent.spared (h : s.Recent t₀ events first) (hspares : Spares ((s.run (.mount t₀ :: events)).handle e).effects)
    (htick : ((s.run (.mount t₀ :: events)).after e).world.tick / 15 = (s.run (.mount t₀ :: events)).world.tick / 15) :
    s.Recent t₀ (events ++ [e]) first := by
  refine ⟨h.part.trans (List.prefix_append _ _), ?_, ?_⟩
  · rw [← List.cons_append, effects_append, hspares.behind _ (by decide)]
    exact h.cards
  · rw [← List.cons_append, run_append, htick]
    exact h.notOlder

/-- the log of a mounted screen shows the world as it is, and its cards are recent -/
theorem run_beside (s : Screen) (t₀ : Float) (events : List Event) (h : s.Faultless (.mount t₀ :: events)) :
    LogShows (s.run (.mount t₀ :: events)).world (lastShown .messages (s.effects (.mount t₀ :: events))) ∧
      ∃ first, s.Recent t₀ events first := by
  induction events using List.reverseRecOn with
  | nil =>
    have hrenews : Renews (s.run [.mount t₀]).world (s.effects [.mount t₀]) := by
      rw [show s.run [.mount t₀] = s.after (.mount t₀) from s.run_append [] (.mount t₀),
        show s.effects [.mount t₀] = (s.handle (.mount t₀)).effects from List.append_nil _]
      exact (refresh_renews rfl h.1).behind [.focusPrompt, .everySeconds frameInterval]
    exact ⟨hrenews.log, [], .renewed hrenews.cards⟩
  | append_singleton events e ih =>
    have hmounted := run_mounted s t₀ (events ++ [e])
    rw [← List.cons_append, run_append] at hmounted
    rw [← List.cons_append, faultless_append] at h
    obtain ⟨hbefore, hfault⟩ := h
    obtain ⟨hlog, first, hrecent⟩ := ih hbefore
    cases handle_beside hmounted hfault with
    | renewed h =>
      have hrenews := h.behind (s.effects (.mount t₀ :: events))
      rw [← run_append, ← effects_append] at hrenews
      exact ⟨hrenews.log, events ++ [e], .renewed hrenews.cards⟩
    | passed hsnap hsame htick hbetween h =>
      rw [htick, Int.natCast_succ] at hbetween
      refine ⟨?_, first, hrecent.spared h ?_⟩
      · rw [← List.cons_append, run_append, effects_append, h.behind _ (by decide)]
        exact hlog.same hsame hsnap
      · -- no multiple lies between a tick and the next, if that is none itself
        rw [htick]
        omega
    | kept hworld h =>
      refine ⟨?_, first, hrecent.spared h (by rw [hworld])⟩
      rw [← List.cons_append, run_append, effects_append, h.behind _ (by decide), hworld]
      exact hlog

/-- **The log always shows the world as it is. The cards show it as it was after some of the events, fewer than
fifteen ticks ago and no earlier than the last multiple of fifteen, or as it is if a prompt has just been put in.** -/
theorem sidebar_fresh (s : Screen) (t₀ : Float) (events : List Event) (h : s.Faultless (.mount t₀ :: events)) :
    let now := (s.run (.mount t₀ :: events)).world
    let shown := s.effects (.mount t₀ :: events)
    LogShows now (lastShown .messages shown) ∧
      (∃ first, s.Recent t₀ events first ∧
        let seen := (s.run (.mount t₀ :: first)).world.tick
        s.world.tick ≤ seen ∧ seen ≤ now.tick ∧ now.tick < seen + 15) ∧
      ∀ before text, events = before ++ [.submit text] → (Text.strip text).isEmpty = false →
        CardsShow now (lastShown .agents shown) := by
  intro now shown
  obtain ⟨hlog, first, hrecent⟩ := run_beside s t₀ events h
  refine ⟨hlog, ⟨first, hrecent, ?_⟩, ?_⟩
  · obtain ⟨since, hsince⟩ := hrecent.part
    have hstart := s.run_tick [] (.mount t₀ :: first)
    have hend := s.run_tick (.mount t₀ :: first) since
    rw [List.cons_append, hsince] at hend
    have hlate : now.tick < 15 * (now.tick / 15) + 15 := by omega
    exact ⟨hstart, hend, hlate.trans_le (Nat.add_le_add_right hrecent.notOlder _)⟩
  · rintro before text rfl hblank
    rw [← List.cons_append, faultless_append] at h
    have hrenews := (submit_renews (run_mounted s t₀ before) hblank h.2).behind (s.effects (.mount t₀ :: before))
    rw [← run_append, ← effects_append] at hrenews
    exact hrenews.cards

/-- a frame and a prompt, and what stands beside the map then -/
theorem sidebar_fresh_prompt :
    let s := ofWorld { World.bare ⟨#[], 0⟩ 0.0 with roster := ⟨[("bot", { id := 1, name := "Bot" })]⟩ }
    let past : List Event := [.mount 1.0, .frame 2.0, .submit "Bot gather wood"]
    s.Faultless past ∧ (s.run past).world.tick = 1 ∧ LogShows (s.run past).world (lastShown .messages (s.effects past)) ∧
      CardsShow (s.run past).world (lastShown .agents (s.effects past)) := by
  intro s past
  have hfaultless : s.Faultless past := by decide +kernel
  have hfresh := sidebar_fresh s 1.0 [.frame 2.0, .submit "Bot gather wood"] hfaultless
  have htick : (s.run past).world.tick = 1 := by decide +kernel
  exact ⟨hfaultless, htick, hfresh.1, hfresh.2.2 [.frame 2.0] "Bot gather wood" rfl (by decide)⟩

end Screen

end TileCrew
