/-
How long a task takes. Gathering and building are tasks; the spans of time that pass from the taking up of a task on are
added up in order (`elapsed`), and a task goes on while every sum so far is below the duration of the agent (`Within`).
A sum that is not a number is below nothing, so it ends the task.
- `taken_up`: a task that is taken up is under way with nothing elapsed, whatever the timer showed before;
- `update_task`: one span of time counts the timer on and changes nothing else, or ends the task and pays it;
- `happen_pursues`: a task stays under way while its time is within the duration, whatever is put in;
- `tasks_timed`: **a task ends in the very span of time in which what has elapsed is no longer below the duration**.
-/
import Mathlib.Data.List.Induction
import TileCrew.Proofs.Crew.Fifo

namespace TileCrew

/-- to gather and to build take time -/
def Action.IsTask (m : Action) : Prop := m.activity = .gathering ∨ m.activity = .building

/-! ## Elapsed time -/

/-- the spans of time among events -/
def spans (es : List Event) : List Float :=
  es.filterMap fun
    | .time dt => some dt
    | .put _ => none

/-- the time that events take: the sum of the spans from the first on, each sum rounded -/
def elapsed (es : List Event) : Float := (spans es).foldl (· + ·) 0.0

/-- the time elapsed is below the limit after every span -/
def Within (limit : Float) (es : List Event) : Prop :=
  ∀ before dt, before ++ [.time dt] <+: es → elapsed (before ++ [.time dt]) < limit

theorem elapsed_time (es : List Event) (dt : Float) : elapsed (es ++ [.time dt]) = elapsed es + dt := by
  simp [elapsed, spans]

theorem elapsed_put (es : List Event) (p : Put) : elapsed (es ++ [.put p]) = elapsed es := by
  simp [elapsed, spans]

theorem within_nil (limit : Float) : Within limit [] := by
  intro before dt h
  simp at h

theorem within_put {limit : Float} {es : List Event} {p : Put} : Within limit (es ++ [.put p]) ↔ Within limit es := by
  constructor
  · intro h before dt hb
    exact h before dt (hb.trans (List.prefix_append es _))
  · intro h before dt hb
    rcases List.prefix_concat_iff.1 hb with heq | hb
    · simp at heq
    · exact h before dt hb

theorem within_time {limit : Float} {es : List Event} {dt : Float} :
    Within limit (es ++ [.time dt]) ↔ Within limit es ∧ elapsed (es ++ [.time dt]) < limit := by
  constructor
  · intro h
    refine ⟨?_, h es dt (List.prefix_refl _)⟩
    intro before d hb
    exact h before d (hb.trans (List.prefix_append es _))
  · rintro ⟨h, hlast⟩ before d hb
    rcases List.prefix_concat_iff.1 hb with heq | hb
    · rw [heq]
      exact hlast
    · exact h before d hb

namespace Agent

/-! ## One event -/

/-- `c` is at the task that `b` took up, the events `es` ago -/
structure Pursues (b : Agent) (m : Action) (es : List Event) (c : Agent) : Prop where
  activity : c.activity = m.activity
  current : c.current = some m
  timer : c.timer = elapsed es
  inventory : c.inventory = b.inventory
  duration : c.taskDuration = b.taskDuration

/-- the agent when its task is done: idle, with what the task brings -/
def paid (a : Agent) (m : Action) : Agent := { a with inventory := a.inventory ++ gathered [.action m] }.finish

theorem task_held {m : Action} (hm : m.IsTask) : Queued.held (.action m) = some m := by
  cases m with
  | say message => simp [Action.IsTask, Action.activity] at hm
  | _ => rfl

theorem task_busy {m : Action} (hm : m.IsTask) : m.activity ≠ .idle := by
  intro hi
  simp [Action.IsTask, hi] at hm

/-- a task that is taken up begins with nothing elapsed -/
theorem taken_up {a : Agent} {d : Float} {m : Action} (hm : m.IsTask)
    (h : departed a (a.after (.time d)) = [.action m]) :
    a.activity = .idle ∧ (a.after (.time d)).Pursues m [] (a.after (.time d)) ∧
      (a.after (.time d)).inventory = a.inventory ∧ (a.after (.time d)).taskDuration = a.taskDuration := by
  rcases a.time_departs d with ⟨hnone, -⟩ | ⟨q, hidle, hd, -, hb⟩
  · rw [h] at hnone
    cases hnone
  · rw [h] at hd
    cases hd
    rw [start_eq, task_held hm] at hb
    rw [hb]
    exact ⟨hidle, ⟨rfl, rfl, rfl, rfl, rfl⟩, rfl, rfl⟩

/-- a span of time at a task counts the timer on and changes nothing else, or the task is done -/
theorem update_task {b c : Agent} {m : Action} {es : List Event} (hm : m.IsTask) (h : b.Pursues m es c) (dt : Float) :
    (elapsed (es ++ [.time dt]) < b.taskDuration →
      c.update dt = .ok { c with timer := elapsed (es ++ [.time dt]) }) ∧
    (¬elapsed (es ++ [.time dt]) < b.taskDuration → c.update dt = .ok (c.paid m)) := by
  have hwork : c.update dt = .ok (c.work dt m) := by
    rcases hm with hm | hm <;> simp only [update, h.activity, hm, h.current]
  rw [hwork, elapsed_time, ← h.timer, ← h.duration]
  rcases c.work_eq dt m with ⟨ht, hc⟩ | ⟨ht, hc⟩
  · rw [hc]
    exact ⟨fun _ => rfl, fun hn => absurd ht hn⟩
  · rw [hc, h.activity, gain_activity]
    exact ⟨fun hn => absurd hn ht, fun _ => rfl⟩

theorem put_pursues {b c : Agent} {m : Action} {es : List Event} (h : b.Pursues m es c) (p : Put) :
    b.Pursues m (es ++ [.put p]) (c.after (.put p)) := by
  have htimer : c.timer = elapsed (es ++ [.put p]) := by rw [elapsed_put, h.timer]
  rcases c.after_put p with ⟨hc, -⟩ | ⟨q, -, hc⟩
  · rw [hc]
    exact ⟨h.activity, h.current, htimer, h.inventory, h.duration⟩
  · rw [hc]
    exact ⟨h.activity, h.current, htimer, h.inventory, h.duration⟩

theorem time_pursues {b c : Agent} {m : Action} {es : List Event} (hm : m.IsTask) (h : b.Pursues m es c) {dt : Float}
    (ht : elapsed (es ++ [.time dt]) < b.taskDuration) : b.Pursues m (es ++ [.time dt]) (c.after (.time dt)) := by
  have hc : c.after (.time dt) = { c with timer := elapsed (es ++ [.time dt]) } := by
    simp only [after, (update_task hm h dt).1 ht]
  rw [hc]
  exact ⟨h.activity, h.current, rfl, h.inventory, h.duration⟩

theorem time_pays {b c : Agent} {m : Action} {es : List Event} (hm : m.IsTask) (h : b.Pursues m es c) {dt : Float}
    (ht : ¬elapsed (es ++ [.time dt]) < b.taskDuration) : c.after (.time dt) = c.paid m := by
  simp only [after, (update_task hm h dt).2 ht]

/-! ## Many events -/

/-- a task is under way while its time is within the duration -/
theorem happen_pursues {b : Agent} {m : Action} (hm : m.IsTask) (h : b.Pursues m [] b) {es : List Event}
    (hes : Within b.taskDuration es) : b.Pursues m es (b.happen es) := by
  induction es using List.reverseRecOn with
  | nil => exact h
  | append_singleton es e ih =>
    rw [happen_concat]
    cases e with
    | put p => exact put_pursues (ih (within_put.1 hes)) p
    | time dt =>
      obtain ⟨hes, ht⟩ := within_time.1 hes
      exact time_pursues hm (ih hes) ht

/-- an agent that was never idle since it took up a task is within its duration -/
theorem within_of_busy {b : Agent} {m : Action} (hm : m.IsTask) (h : b.Pursues m [] b) {es : List Event}
    (hbusy : ∀ before, before <+: es → (b.happen before).activity ≠ .idle) : Within b.taskDuration es := by
  induction es using List.reverseRecOn with
  | nil => exact within_nil _
  | append_singleton es e ih =>
    have hes : Within b.taskDuration es := by
      apply ih
      intro before hb
      exact hbusy before (hb.trans (List.prefix_append es _))
    cases e with
    | put p => exact within_put.2 hes
    | time dt =>
      refine within_time.2 ⟨hes, ?_⟩
      by_contra ht
      -- the task would have ended in this very span
      apply hbusy _ (List.prefix_refl _)
      rw [happen_concat, time_pays hm (happen_pursues hm h hes) ht]
      rfl

/-- **A task ends in the very span of time in which what has elapsed is no longer below the duration.** Until then a span
of time changes nothing but the timer; in that span a gatherer gets its resource, once, and the agent is idle with an
empty timer and takes nothing up. What the timer showed before, and the span in which the task was taken up, do not
count. -/
theorem tasks_timed (a : Agent) (d : Float) (m : Action) (hm : m.IsTask)
    (hstart : departed a (a.after (.time d)) = [.action m]) (es : List Event) :
    let b := a.after (.time d)
    let c := b.happen es
    (a.activity = .idle ∧ b.Pursues m [] b ∧ b.inventory = a.inventory) ∧
    (Within a.taskDuration es → b.Pursues m es c ∧ ∀ dt,
      (elapsed (es ++ [.time dt]) < a.taskDuration →
        c.update dt = .ok { c with timer := elapsed (es ++ [.time dt]) }) ∧
      (¬elapsed (es ++ [.time dt]) < a.taskDuration →
        c.update dt = .ok { c with
          activity := .idle, current := none, timer := 0.0, inventory := a.inventory ++ gathered [.action m] })) ∧
    (Within a.taskDuration es ↔ ∀ before, before <+: es → (b.happen before).activity ≠ .idle) := by
  intro b c
  obtain ⟨hidle, hb, hinventory, hduration⟩ := taken_up hm hstart
  rw [← hduration]
  refine ⟨⟨hidle, hb, hinventory⟩, ?_, ?_, within_of_busy hm hb⟩
  · intro hes
    have hc := happen_pursues hm hb hes
    refine ⟨hc, ?_⟩
    intro dt
    obtain ⟨hbelow, hpaid⟩ := update_task hm hc dt
    refine ⟨hbelow, ?_⟩
    intro ht
    rw [hpaid ht, paid, hc.inventory, hinventory]
    rfl
  · intro hes before hbefore
    have hwithin : Within b.taskDuration before := fun e dt he => hes e dt (he.trans hbefore)
    rw [(happen_pursues hm hb hwithin).activity]
    exact task_busy hm

/-- an old timer, a long span before the task, an order that fails, and a sum that just reaches the duration -/
theorem tasks_timed_reached :
    let a : Agent := { id := 1, name := "Bot", timer := 9.0, queue := [.action (.gather "wood"), .action (.build "hut")] }
    let es : List Event := [.time 1.5, .put (.say "hi"), .time (-0.5), .put (.move (.whole (10 ^ 400)) (.whole 0))]
    let c := (a.after (.time 100.0)).happen es
    (departed a (a.after (.time 100.0)) = [.action (.gather "wood")] ∧ Within 2.0 es) ∧
      (c.timer = elapsed es ∧ c.inventory = [] ∧ c.queue.length = 2) ∧
      c.update 1.0 = .ok { c with activity := .idle, current := none, timer := 0.0, inventory := ["wood"] } := by
  intro a es c
  have hstart : departed a (a.after (.time 100.0)) = [.action (.gather "wood")] := rfl
  have hone : Within 2.0 ([] ++ [.time 1.5]) := within_time.2 ⟨within_nil _, by decide +kernel⟩
  have htwo : Within 2.0 ([.time 1.5] ++ [.put (.say "hi")] ++ [.time (-0.5)]) :=
    within_time.2 ⟨within_put.2 hone, by decide +kernel⟩
  have hes : Within 2.0 es := within_put.2 htwo
  obtain ⟨-, hcourse, -⟩ := tasks_timed a 100.0 (.gather "wood") (.inl rfl) hstart es
  obtain ⟨hc, hnext⟩ := hcourse hes
  exact ⟨⟨hstart, hes⟩, ⟨hc.timer, hc.inventory, by decide +kernel⟩, (hnext 1.0).2 (by decide +kernel)⟩

end Agent

end TileCrew
