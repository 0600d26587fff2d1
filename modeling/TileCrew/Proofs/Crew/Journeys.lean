/-
Where agents stand. A trail runs an agent and enters each journey, a move or an exploration, when an event ends it
(`arrivals`). The trail's agent is the plain one (`run_agent`).
- `Action.LeadsTo`: the point that a journey leads to, the coordinates of a tile as doubles;
- `after_still`: an agent that is not on its way is not moved, nor is anyone by what is put into the queue;
- `after_travel`: an agent on its way stays so, at the same action, or is put on its very destination from close by;
- `rests_on_target`: **an agent that began idle and is not on its way stands exactly on the destination of the last
  journey that ended**, or where it began.
-/
import TileCrew.Proofs.Crew.Coherence

namespace TileCrew

/-- the point that an action leads to: of a move its coordinates, of an exploration those of the tile as doubles -/
inductive Action.LeadsTo : Action → Float → Float → Prop where
  | move (x y : Float) : LeadsTo (.move x y) x y
  | explore {column row : Int} {x y : Float} : Binary64.ofInt? column = some x → Binary64.ofInt? row = some y →
      LeadsTo (.explore column row) x y

namespace Agent

/-- on its way to somewhere -/
def Travels (a : Agent) : Prop := a.activity = .moving ∨ a.activity = .exploring

instance (a : Agent) : Decidable a.Travels := inferInstanceAs (Decidable (_ ∨ _))

def SamePlace (a b : Agent) : Prop := b.x = a.x ∧ b.y = a.y

/-! ## One event -/

theorem wholeCoordinate_ok {n : Int} {x : Float} (h : wholeCoordinate n = .ok x) : Binary64.ofInt? n = some x := by
  unfold wholeCoordinate at h
  split at h
  · next heq => cases h; exact heq
  · cases h

theorem destination_leads {c : Option Action} {x y : Float} (h : destination c = .ok (some (x, y))) :
    ∃ m, c = some m ∧ m.LeadsTo x y := by
  unfold destination at h
  split at h
  · cases h; exact ⟨_, rfl, .move x y⟩
  · next column row =>
    cases hx : wholeCoordinate column with
    | error e => rw [hx] at h; cases h
    | ok x' =>
      cases hy : wholeCoordinate row with
      | error e => rw [hx, hy] at h; cases h
      | ok y' =>
        rw [hx, hy] at h
        cases h
        exact ⟨_, rfl, .explore (wholeCoordinate_ok hx) (wholeCoordinate_ok hy)⟩
  · cases h

/-- close by, a step ends on the point; from farther away it leaves the agent at its action -/
theorem approach_cases (a : Agent) (dt x y : Float) :
    (Binary64.hypot (x - a.x) (y - a.y) < arrivalDistance ∧ a.approach dt x y = { a with x := x, y := y }.finish) ∨
      ∃ x' y', a.approach dt x y = { a with x := x', y := y' } := by
  unfold approach
  dsimp only
  by_cases hd : Binary64.hypot (x - a.x) (y - a.y) < arrivalDistance
  · left; exact ⟨hd, if_pos hd⟩
  · right; rw [if_neg hd]; exact ⟨_, _, rfl⟩

theorem start_place (a : Agent) (q : Queued) : a.SamePlace (a.start q) := by
  rw [start_eq]
  exact ⟨rfl, rfl⟩

/-- nothing that is put into the queue moves an agent, and it is at what it was at -/
theorem put_still (a : Agent) (p : Put) :
    let b := a.after (.put p)
    a.SamePlace b ∧ b.activity = a.activity ∧ b.current = a.current := by
  rcases a.after_put p with ⟨hb, -⟩ | ⟨q, -, hb⟩
  · rw [hb]; exact ⟨⟨rfl, rfl⟩, rfl, rfl⟩
  · rw [hb]; exact ⟨⟨rfl, rfl⟩, rfl, rfl⟩

/-- time does not move an agent that is not on its way -/
theorem passage_still {a b : Agent} {dt : Float} (h : Passage dt a b) (ha : ¬a.Travels) : a.SamePlace b := by
  cases h with
  | rest => exact ⟨rfl, rfl⟩
  | takeUp q rest => exact start_place { a with queue := rest } q
  | approach x y hact => exact absurd hact ha
  | astray hact => exact absurd hact ha
  | work m =>
    rcases a.work_eq dt m with ⟨-, hb⟩ | ⟨-, hb⟩
    · rw [hb]; exact ⟨rfl, rfl⟩
    · rw [hb]; exact ⟨rfl, rfl⟩
  | stuck => exact ⟨rfl, rfl⟩

/-- the agent is still on its way, at the same action, or it is idle on the destination of that action, which was near -/
def Proceeds (a : Agent) (m : Action) (b : Agent) : Prop :=
  b.Travels ∧ b.current = some m ∨
    b.activity = .idle ∧ m.LeadsTo b.x b.y ∧ Binary64.hypot (b.x - a.x) (b.y - a.y) < arrivalDistance

theorem travels_journey {a : Agent} (ha : a.Agrees) (ht : a.Travels) :
    ∃ m, a.current = some m ∧ (m.activity = .moving ∨ m.activity = .exploring) := by
  rcases ha with hi | ⟨m, hc, hm⟩
  · rcases ht with h | h <;> rw [hi] at h <;> cases h
  · exact ⟨m, hc, by rw [hm]; exact ht⟩

/-- time brings an agent that is on its way closer, or there -/
theorem passage_travel {a b : Agent} {dt : Float} (h : Passage dt a b) (ha : a.Agrees) (ht : a.Travels) {m : Action}
    (hm : a.current = some m) : a.Proceeds m b := by
  cases h with
  | rest hi => rcases ht with h | h <;> rw [hi] at h <;> cases h
  | takeUp q rest hi => rcases ht with h | h <;> rw [hi] at h <;> cases h
  | approach x y hact hd =>
    rcases a.approach_cases dt x y with ⟨hnear, hb⟩ | ⟨x', y', hb⟩
    · obtain ⟨m', hc, hl⟩ := destination_leads hd
      rw [hm] at hc
      cases hc
      rw [hb]
      exact .inr ⟨rfl, hl, hnear⟩
    · rw [hb]
      exact .inl ⟨ht, hm⟩
  | astray hact hd =>
    obtain ⟨m', hc, hj⟩ := travels_journey ha ht
    rw [hc] at hd
    exact absurd hd (destination_journey hj)
  | work m' hact => rcases ht with h | h <;> rw [h] at hact <;> simp at hact
  | stuck hact => rcases ht with h | h <;> rw [h] at hact <;> simp at hact

theorem time_still {a : Agent} (ht : ¬a.Travels) (dt : Float) : a.SamePlace (a.after (.time dt)) := by
  rcases a.after_time dt with hb | hb
  · rw [hb]; exact ⟨rfl, rfl⟩
  · exact passage_still hb ht

theorem time_travel {a : Agent} (ha : a.Agrees) (ht : a.Travels) {m : Action} (hm : a.current = some m) (dt : Float) :
    a.Proceeds m (a.after (.time dt)) := by
  rcases a.after_time dt with hb | hb
  · rw [hb]; exact .inl ⟨ht, hm⟩
  · exact passage_travel hb ha ht hm

end Agent

/-! ## Trails -/

/-- an agent with the journeys it has ended, in their order -/
structure Trail where
  agent : Agent
  arrivals : List Action

namespace Trail

open Agent

def ofAgent (a : Agent) : Trail := ⟨a, []⟩

/-- the journey that ends between two states of an agent: it is under way in the first, and the second is on no way -/
def arrival (a b : Agent) : Option Action := if a.Travels ∧ ¬b.Travels then a.current else none

def step (t : Trail) (e : Event) : Trail :=
  ⟨t.agent.after e, t.arrivals ++ (arrival t.agent (t.agent.after e)).toList⟩

def run (t : Trail) (es : List Event) : Trail := es.foldl step t

theorem run_agent (t : Trail) (es : List Event) : (t.run es).agent = t.agent.happen es := by
  induction es generalizing t with
  | nil => rfl
  | cons e es ih => exact ih (t.step e)

/-- the agent stands where its last journey led, or at home where it has ended none -/
def StandsOn (t : Trail) (home : Float × Float) : Prop :=
  match t.arrivals.getLast? with
  | none => t.agent.x = home.1 ∧ t.agent.y = home.2
  | some m => m.LeadsTo t.agent.x t.agent.y

/-- state and action agree, and who is not on the way stands where the last journey led -/
structure Rests (home : Float × Float) (t : Trail) : Prop where
  agrees : t.agent.Agrees
  stands : ¬t.agent.Travels → t.StandsOn home

/-- an agent that was not on its way and has not moved stands where it stood -/
theorem step_still {home : Float × Float} {t : Trail} {e : Event} (h : t.Rests home) (ht : ¬t.agent.Travels)
    (hp : t.agent.SamePlace (t.agent.after e)) : (t.step e).StandsOn home := by
  have hnone : arrival t.agent (t.agent.after e) = none := if_neg fun hc => ht hc.1
  have hstands := h.stands ht
  unfold StandsOn at hstands ⊢
  simp only [step, hnone, Option.toList_none, List.append_nil, hp.1, hp.2]
  exact hstands

/-- an agent that was on its way and is no longer stands on the destination of its journey -/
theorem step_arrived {home : Float × Float} {t : Trail} {e : Event} {m : Action} (ht : t.agent.Travels)
    (hm : t.agent.current = some m) (hb : ¬(t.agent.after e).Travels)
    (hl : m.LeadsTo (t.agent.after e).x (t.agent.after e).y) : (t.step e).StandsOn home := by
  have hsome : arrival t.agent (t.agent.after e) = some m := by rw [arrival, if_pos ⟨ht, hb⟩, hm]
  unfold StandsOn
  simp only [step, hsome, Option.toList_some, List.getLast?_concat]
  exact hl

theorem step_rests {home : Float × Float} {t : Trail} (e : Event) (h : t.Rests home) : (t.step e).Rests home := by
  refine ⟨after_agrees e h.agrees, fun hb => ?_⟩
  cases e with
  | put p =>
    -- what is put in changes neither the place nor the way
    obtain ⟨hp, hact, -⟩ := put_still t.agent p
    have ht : ¬t.agent.Travels := by
      intro ht
      apply hb
      show (t.agent.after (.put p)).activity = .moving ∨ (t.agent.after (.put p)).activity = .exploring
      rw [hact]
      exact ht
    exact step_still h ht hp
  | time dt =>
    by_cases ht : t.agent.Travels
    · obtain ⟨m, hm, -⟩ := travels_journey h.agrees ht
      rcases time_travel h.agrees ht hm dt with ⟨hb', -⟩ | ⟨-, hl, -⟩
      · exact absurd hb' hb
      · exact step_arrived ht hm hb hl
    · exact step_still h ht (time_still ht dt)

theorem run_rests {home : Float × Float} {t : Trail} (es : List Event) (h : t.Rests home) : (t.run es).Rests home := by
  induction es generalizing t with
  | nil => exact h
  | cons e es ih => exact ih (step_rests e h)

/-- **Agents only ever rest exactly on a target.** Whatever happens to an agent that was idle where it began: when it is
not on its way, it stands on the destination of the last journey that ended, or where it began if none has. What is put
in moves nobody, time moves no one who is not on the way, and who is on the way stays so, at the same action, until time
puts it on the very destination of that action. -/
theorem rests_on_target (a : Agent) (hi : a.activity = .idle) (es : List Event) :
    let t := (ofAgent a).run es
    t.agent = a.happen es ∧ (¬t.agent.Travels → t.StandsOn (a.x, a.y)) ∧
    (∀ p, t.agent.SamePlace (t.agent.after (.put p))) ∧
    (¬t.agent.Travels → ∀ dt, t.agent.SamePlace (t.agent.after (.time dt))) ∧
    (t.agent.Travels → ∃ m, t.agent.current = some m ∧ ∀ dt, t.agent.Proceeds m (t.agent.after (.time dt))) := by
  intro t
  have hbegin : (ofAgent a).Rests (a.x, a.y) := ⟨.inl hi, fun _ => ⟨rfl, rfl⟩⟩
  have h : t.Rests (a.x, a.y) := run_rests es hbegin
  refine ⟨run_agent _ es, h.stands, fun p => (put_still t.agent p).1, fun ht dt => time_still ht dt, fun ht => ?_⟩
  obtain ⟨m, hm, -⟩ := travels_journey h.agrees ht
  exact ⟨m, hm, fun dt => time_travel h.agrees ht hm dt⟩

/-- a walk to the next tile, with a step back, in which other things are put in -/
theorem rests_on_target_walk :
    let a : Agent := { id := 1, name := "Bot", x := 0.25, y := -0.0 }
    let es : List Event := [.put (.move (.whole 1) (.whole 0)), .put (.say "hi"), .time 0.0, .time 1.0,
      .put (.unknown .null), .time (-1.0), .time 1.0, .time 1.0, .time 1.0]
    let t := (ofAgent a).run es
    a.activity = .idle ∧ ¬t.agent.Travels ∧ t.arrivals.length = 1 ∧ (t.agent.x == 1.0) = true ∧
      t.StandsOn (a.x, a.y) := by
  intro a es t
  have hrest : ¬t.agent.Travels := by decide +kernel
  have hone : t.arrivals.length = 1 := by decide +kernel
  have hplace : (t.agent.x == 1.0) = true := by decide +kernel
  exact ⟨rfl, hrest, hone, hplace, (rests_on_target a rfl es).2.1 hrest⟩

end Trail

end TileCrew
