/-
State and action fit at every time. `Settled` is the invariant: the agent's activity is that of its action, an idle agent
has none, and the timer runs for tasks only. `Coherent` spells it out activity by activity.
- `after_settled`: no event breaks it, whether it fails or not;
- `Coherent.described`: what the agent is said to do is one of five texts, each with the data of its action;
- `state_coherent`: **a new agent is coherent whatever happens to it**, so it is never stuck in a task without an action,
  never on its way to nowhere, and never described in general terms.
-/
import TileCrew.Proofs.Crew.Machine

namespace TileCrew

theorem Action.activity_moving {m : Action} : m.activity = .moving ↔ ∃ x y, m = .move x y := by
  cases m <;> simp [Action.activity]

theorem Action.activity_exploring {m : Action} : m.activity = .exploring ↔ ∃ x y, m = .explore x y := by
  cases m <;> simp [Action.activity]

theorem Action.activity_gathering {m : Action} : m.activity = .gathering ↔ ∃ resource, m = .gather resource := by
  cases m <;> simp [Action.activity]

theorem Action.activity_building {m : Action} : m.activity = .building ↔ ∃ building, m = .build building := by
  cases m <;> simp [Action.activity]

/-- what a value leaves an agent at is never speech -/
theorem Queued.held_activity {q : Queued} {m : Action} (h : q.held = some m) : m.activity ≠ .idle := by
  cases q with
  | unknown v => cases h
  | action m' => cases m' <;> cases h <;> simp [Action.activity]

namespace Agent

/-! ## The invariant -/

/-- the activity is that of the action, an idle agent has no action, the timer stands but in tasks -/
structure Settled (a : Agent) : Prop where
  agrees : a.Agrees
  idle : a.activity = .idle → a.current = none
  timer : a.activity = .idle ∨ a.activity = .moving ∨ a.activity = .exploring → a.timer = 0.0

theorem finish_settled (a : Agent) : a.finish.Settled := ⟨finish_agrees a, fun _ => rfl, fun _ => rfl⟩

theorem start_settled (a : Agent) (q : Queued) : (a.start q).Settled := by
  refine ⟨start_agrees a q, ?_, fun _ => by rw [start_eq]⟩
  rw [start_eq]
  cases hq : q.held with
  | none => exact fun _ => rfl
  | some m => exact fun hi => absurd hi (Queued.held_activity hq)

theorem passage_settled {dt : Float} {a b : Agent} (h : Passage dt a b) (ha : a.Settled) : b.Settled := by
  cases h with
  | rest => exact ha
  | takeUp q rest => exact start_settled _ q
  | approach x y =>
    rcases a.approach_eq dt x y with hb | ⟨x', y', hb⟩
    · rw [hb]; exact finish_settled _
    · rw [hb]; exact ⟨ha.agrees, ha.idle, ha.timer⟩
  | astray => exact finish_settled a
  | work m hact =>
    rcases a.work_eq dt m with ⟨-, hb⟩ | ⟨-, hb⟩
    · rw [hb]
      refine ⟨ha.agrees, ha.idle, fun ht => ?_⟩
      rcases hact with h | h <;> rw [h] at ht <;> simp at ht
    · rw [hb]; exact finish_settled _
  | stuck => exact ha

theorem after_settled {a : Agent} (e : Event) (ha : a.Settled) : (a.after e).Settled := by
  cases e with
  | put p =>
    rcases a.after_put p with ⟨hb, -⟩ | ⟨q, -, hb⟩
    · rw [hb]; exact ha
    · rw [hb]; exact ⟨ha.agrees, ha.idle, ha.timer⟩
  | time dt =>
    rcases a.after_time dt with hb | hb
    · rw [hb]; exact ha
    · exact passage_settled hb ha

theorem happen_settled {a : Agent} (es : List Event) (ha : a.Settled) : (a.happen es).Settled := by
  induction es generalizing a with
  | nil => exact ha
  | cons e es ih => exact ih (after_settled e ha)

/-! ## Activity by activity -/

/-- each activity has its own kind of action, and idleness none -/
structure Coherent (a : Agent) : Prop where
  idle : a.activity = .idle ↔ a.current = none
  moving : a.activity = .moving ↔ ∃ x y, a.current = some (.move x y)
  exploring : a.activity = .exploring ↔ ∃ x y, a.current = some (.explore x y)
  gathering : a.activity = .gathering ↔ ∃ resource, a.current = some (.gather resource)
  building : a.activity = .building ↔ ∃ building, a.current = some (.build building)
  silent : ∀ message, a.current ≠ some (.say message)
  timer : a.activity = .idle ∨ a.activity = .moving ∨ a.activity = .exploring → a.timer = 0.0

theorem current_activity {a : Agent} (h : a.Settled) {m : Action} (hc : a.current = some m) :
    m.activity = a.activity ∧ a.activity ≠ .idle := by
  have hn : a.activity ≠ .idle := fun hi => by rw [h.idle hi] at hc; cases hc
  rcases h.agrees with hi | ⟨m', hc', hm⟩
  · exact absurd hi hn
  · rw [hc] at hc'; cases hc'; exact ⟨hm, hn⟩

theorem activity_iff {a : Agent} (h : a.Settled) {d : Activity} (hd : d ≠ .idle) :
    a.activity = d ↔ ∃ m, a.current = some m ∧ m.activity = d := by
  constructor
  · rintro rfl
    rcases h.agrees with hi | hm
    · exact absurd hi hd
    · exact hm
  · rintro ⟨m, hc, rfl⟩
    exact (current_activity h hc).1.symm

theorem Settled.coherent {a : Agent} (h : a.Settled) : a.Coherent where
  idle := by
    refine ⟨h.idle, fun hc => ?_⟩
    rcases h.agrees with hi | ⟨m, hm, -⟩
    · exact hi
    · rw [hc] at hm; cases hm
  moving := by
    rw [activity_iff h (by decide)]
    simp only [Action.activity_moving]
    exact ⟨fun ⟨_, hc, x, y, hm⟩ => ⟨x, y, hm ▸ hc⟩, fun ⟨x, y, hc⟩ => ⟨_, hc, x, y, rfl⟩⟩
  exploring := by
    rw [activity_iff h (by decide)]
    simp only [Action.activity_exploring]
    exact ⟨fun ⟨_, hc, x, y, hm⟩ => ⟨x, y, hm ▸ hc⟩, fun ⟨x, y, hc⟩ => ⟨_, hc, x, y, rfl⟩⟩
  gathering := by
    rw [activity_iff h (by decide)]
    simp only [Action.activity_gathering]
    exact ⟨fun ⟨_, hc, r, hm⟩ => ⟨r, hm ▸ hc⟩, fun ⟨r, hc⟩ => ⟨_, hc, r, rfl⟩⟩
  building := by
    rw [activity_iff h (by decide)]
    simp only [Action.activity_building]
    exact ⟨fun ⟨_, hc, r, hm⟩ => ⟨r, hm ▸ hc⟩, fun ⟨r, hc⟩ => ⟨_, hc, r, rfl⟩⟩
  silent := fun message hc => by
    obtain ⟨hm, hn⟩ := current_activity h hc
    exact hn hm.symm
  timer := h.timer

/-! ## Branches that are never taken -/

/-- a journey leads to a point, or fails to for want of doubles -/
theorem destination_journey {m : Action} (h : m.activity = .moving ∨ m.activity = .exploring) :
    destination (some m) ≠ .ok none := by
  rcases h with h | h
  · obtain ⟨x, y, rfl⟩ := Action.activity_moving.1 h
    simp [destination]
  · obtain ⟨x, y, rfl⟩ := Action.activity_exploring.1 h
    simp only [destination]
    cases wholeCoordinate x with
    | error e => exact fun h => by cases h
    | ok x =>
      cases wholeCoordinate y with
      | error e => exact fun h => by cases h
      | ok y => exact fun h => by cases h

theorem destination_coherent {a : Agent} (h : a.Coherent) (hact : a.activity = .moving ∨ a.activity = .exploring) :
    destination a.current ≠ .ok none := by
  rcases hact with hact | hact
  · obtain ⟨x, y, hc⟩ := h.moving.1 hact
    rw [hc]
    exact destination_journey (.inl rfl)
  · obtain ⟨x, y, hc⟩ := h.exploring.1 hact
    rw [hc]
    exact destination_journey (.inr rfl)

/-- what the agent is said to do is one of five texts, with the data of its action -/
def Described (a : Agent) : Prop :=
  (a.current = none ∧
    a.status = a.tile.map fun t => a.name ++ " is idle at (" ++ toString t.1 ++ ", " ++ toString t.2 ++ ")") ∨
  (∃ x y, a.current = some (.move x y) ∧
    a.status = .ok (a.name ++ " is moving to (" ++ coordinateText x ++ ", " ++ coordinateText y ++ ")")) ∨
  (∃ x y, a.current = some (.explore x y) ∧ a.status = .ok (a.name ++ " is exploring")) ∨
  (∃ resource, a.current = some (.gather resource) ∧ a.status = .ok (a.name ++ " is gathering " ++ resource)) ∨
  (∃ building, a.current = some (.build building) ∧ a.status = .ok (a.name ++ " is building " ++ building))

theorem Coherent.described {a : Agent} (h : a.Coherent) : a.Described := by
  cases hact : a.activity with
  | idle => exact .inl ⟨h.idle.1 hact, by simp only [status, hact]⟩
  | moving =>
    obtain ⟨x, y, hc⟩ := h.moving.1 hact
    exact .inr (.inl ⟨x, y, hc, by simp only [status, hact, hc]⟩)
  | exploring =>
    obtain ⟨x, y, hc⟩ := h.exploring.1 hact
    exact .inr (.inr (.inl ⟨x, y, hc, by simp only [status, hact, hc]⟩))
  | gathering =>
    obtain ⟨r, hc⟩ := h.gathering.1 hact
    exact .inr (.inr (.inr (.inl ⟨r, hc, by simp only [status, hact, hc]⟩)))
  | building =>
    obtain ⟨r, hc⟩ := h.building.1 hact
    exact .inr (.inr (.inr (.inr ⟨r, hc, by simp only [status, hact, hc]⟩)))

/-- **State and action fit, whatever happens to a new agent.** -/
theorem state_coherent (a : Agent) (hi : a.activity = .idle) (hc : a.current = none) (ht : a.timer = 0.0)
    (es : List Event) :
    let b := a.happen es
    b.Coherent ∧ b.Described ∧ (b.activity = .gathering ∨ b.activity = .building → b.current ≠ none) ∧
      (b.activity = .moving ∨ b.activity = .exploring → destination b.current ≠ .ok none) := by
  intro b
  have hb : b.Coherent := (happen_settled es ⟨.inl hi, fun _ => hc, fun _ => ht⟩).coherent
  refine ⟨hb, hb.described, fun hact hn => ?_, destination_coherent hb⟩
  have hidle := hb.idle.2 hn
  rcases hact with h | h <;> rw [h] at hidle <;> cases hidle

/-- gathering under way when time that is not a number passes -/
theorem state_coherent_gathering :
    let a : Agent := { id := 1, name := "Bot" }
    let b := a.happen [.put (.unknown .null), .put (.gather "wood"), .time 1.0, .time 1.0, .time (0.0 / 0.0)]
    (a.activity = .idle ∧ a.current = none ∧ a.timer = 0.0) ∧ b.Coherent ∧ b.activity = .idle ∧
      b.inventory = [("wood" : Text)] :=
  ⟨⟨rfl, rfl, rfl⟩, (state_coherent _ rfl rfl rfl _).1, by decide +kernel, by decide +kernel⟩

end Agent

end TileCrew
