/-
An agent as a machine: things are put into its queue (`Put`) and time passes (`Event`). A call that fails leaves the
agent as it was (`after`), so every list of events has an end (`happen`). What one event can do is said once:
- `put_eq`: a put adds one value at the back of the queue, speech is heard, nothing else changes;
- `update_passage`: the six things that a span of time can come to (`Passage`);
- `start_eq`, `approach_eq`, `work_eq`: the fields that these touch;
- `passage_frame`: what a span of time leaves alone.
What an agent does and the action it is at agree, and no event changes that (`after_agrees`): this carries the results on
its queue, its inventory and its state.
-/
import TileCrew.Crew.Agent

namespace TileCrew

/-! ## Events -/

/-- what is put into a queue: one of the five orders, or a value that is no action. To explore takes the generator, in
whatever state the agents who share it have left it. -/
inductive Put where
  | move (x y : Number)
  | explore (g : Twister)
  | gather (resource : Text)
  | build (building : Text)
  | say (message : Text)
  | unknown (v : Json)

inductive Event where
  | put (p : Put)
  | time (dt : Float)

/-- the activity in which an action is carried out; speech takes none -/
def Action.activity : Action → Activity
  | .move _ _ => .moving
  | .explore _ _ => .exploring
  | .gather _ => .gathering
  | .build _ => .building
  | .say _ => .idle

/-- the action that stays with an agent who takes a value up; speech and what is no action do not stay -/
def Queued.held : Queued → Option Action
  | .action (.say _) => none
  | .action m => some m
  | .unknown _ => none

/-- what is heard when a value is put in or taken up: a message, or still what was heard before -/
def Queued.heard (before : Text) : Queued → Text
  | .action (.say message) => message
  | _ => before

namespace Agent

/-- the agent after a put, and the value that then stands in its queue -/
def put (a : Agent) : Put → Except Fault (Agent × Queued)
  | .move x y => (a.enqueueMove x y).map fun r => (r.1, .action r.2)
  | .explore g => (a.enqueueExplore g).1.map fun r => (r.1, .action r.2)
  | .gather resource => .ok (a.enqueueGather resource, .action (.gather resource))
  | .build building => .ok (a.enqueueBuild building, .action (.build building))
  | .say message => .ok (a.enqueueSay message, .action (.say message))
  | .unknown v => .ok (a.enqueue (.unknown v), .unknown v)

/-- the agent after an event; one that fails changes nothing -/
def after (a : Agent) : Event → Agent
  | .put p =>
    match a.put p with
    | .ok (b, _) => b
    | .error _ => a
  | .time dt =>
    match a.update dt with
    | .ok b => b
    | .error _ => a

/-- the values put in by an event: one by a put that does not fail, else none -/
def added (a : Agent) : Event → List Queued
  | .put p =>
    match a.put p with
    | .ok (_, q) => [q]
    | .error _ => []
  | .time _ => []

/-- the agent after events, one after the other -/
def happen (a : Agent) (es : List Event) : Agent := es.foldl after a

theorem happen_concat (a : Agent) (es : List Event) (e : Event) : a.happen (es ++ [e]) = (a.happen es).after e := by
  rw [happen, List.foldl_append]
  rfl

/-! ## Puts -/

theorem enqueueMove_eq {a b : Agent} {x y : Number} {m : Action} (h : a.enqueueMove x y = .ok (b, m)) :
    b = a.enqueue (.action m) ∧ ∃ x y, m = .move x y := by
  simp only [enqueueMove, Schema.realOfNumber, Schema.Checked.fail] at h
  cases hx : x.toFloat? <;> cases hy : y.toFloat? <;> rw [hx, hy] at h <;> simp only at h <;> cases h
  exact ⟨rfl, _, _, rfl⟩

theorem enqueueExplore_eq {a b : Agent} {g : Twister} {m : Action} (h : (a.enqueueExplore g).1 = .ok (b, m)) :
    b = a.enqueue (.action m) ∧ ∃ x y, m = .explore x y := by
  simp only [enqueueExplore] at h
  cases hx : nearestTile a.x with
  | error e => rw [hx] at h; cases h
  | ok x =>
    cases hy : nearestTile a.y with
    | error e => rw [hx, hy] at h; cases h
    | ok y => rw [hx, hy] at h; cases h; exact ⟨rfl, _, _, rfl⟩

/-- a put adds one value at the back of the queue; a message is heard at once -/
theorem put_eq {a b : Agent} {p : Put} {q : Queued} (h : a.put p = .ok (b, q)) :
    b = { a with queue := a.queue ++ [q], lastMessage := q.heard a.lastMessage } := by
  cases p with
  | move x y =>
    cases hm : a.enqueueMove x y with
    | error e => simp only [put, hm] at h; cases h
    | ok r =>
      simp only [put, hm] at h; cases h
      obtain ⟨hb, x, y, hr⟩ := enqueueMove_eq hm
      rw [hb, hr]; rfl
  | explore g =>
    cases hm : (a.enqueueExplore g).1 with
    | error e => simp only [put, hm] at h; cases h
    | ok r =>
      simp only [put, hm] at h; cases h
      obtain ⟨hb, x, y, hr⟩ := enqueueExplore_eq hm
      rw [hb, hr]; rfl
  | gather resource => cases h; rfl
  | build building => cases h; rfl
  | say message => cases h; rfl
  | unknown v => cases h; rfl

theorem after_put (a : Agent) (p : Put) :
    (a.after (.put p) = a ∧ a.added (.put p) = []) ∨
      ∃ q, a.added (.put p) = [q] ∧
        a.after (.put p) = { a with queue := a.queue ++ [q], lastMessage := q.heard a.lastMessage } := by
  simp only [after, added]
  cases h : a.put p with
  | error e => exact .inl ⟨rfl, rfl⟩
  | ok r => exact .inr ⟨r.2, rfl, put_eq h⟩

/-! ## Time -/

/-- what a span of time can come to -/
inductive Passage (dt : Float) (a : Agent) : Agent → Prop where
  | rest : a.activity = .idle → a.queue = [] → Passage dt a a
  | takeUp (q : Queued) (rest : List Queued) : a.activity = .idle → a.queue = q :: rest →
      Passage dt a ({ a with queue := rest }.start q)
  | approach (x y : Float) : a.activity = .moving ∨ a.activity = .exploring →
      destination a.current = .ok (some (x, y)) → Passage dt a (a.approach dt x y)
  | astray : a.activity = .moving ∨ a.activity = .exploring → destination a.current = .ok none → Passage dt a a.finish
  | work (action : Action) : a.activity = .gathering ∨ a.activity = .building → a.current = some action →
      Passage dt a (a.work dt action)
  | stuck : a.activity = .gathering ∨ a.activity = .building → a.current = none → Passage dt a a

theorem advance_passage {a b : Agent} {dt : Float} (ha : a.activity = .moving ∨ a.activity = .exploring)
    (h : a.advance dt = .ok b) : Passage dt a b := by
  simp only [advance] at h
  cases hd : destination a.current with
  | error e => rw [hd] at h; cases h
  | ok point? =>
    rw [hd] at h
    cases point? with
    | none => cases h; exact .astray ha hd
    | some point => cases h; exact .approach point.1 point.2 ha hd

/-- a span of time that does not fail is one of the six passages -/
theorem update_passage {a b : Agent} {dt : Float} (h : a.update dt = .ok b) : Passage dt a b := by
  unfold update at h
  split at h
  · rename_i ha; exact advance_passage (.inl ha) h
  · rename_i ha; exact advance_passage (.inr ha) h
  · rename_i ha
    split at h
    · rename_i action hc; cases h; exact .work action (.inl ha) hc
    · rename_i hc; cases h; exact .stuck (.inl ha) hc
  · rename_i ha
    split at h
    · rename_i action hc; cases h; exact .work action (.inr ha) hc
    · rename_i hc; cases h; exact .stuck (.inr ha) hc
  · rename_i ha
    split at h
    · rename_i q rest hq; cases h; exact .takeUp q rest ha hq
    · rename_i hq; cases h; exact .rest ha hq

theorem after_time (a : Agent) (dt : Float) : a.after (.time dt) = a ∨ Passage dt a (a.after (.time dt)) := by
  simp only [after]
  cases h : a.update dt with
  | error e => exact .inl rfl
  | ok b => exact .inr (update_passage h)

theorem start_eq (a : Agent) (q : Queued) :
    a.start q = { a with
      activity := (q.held.map Action.activity).getD .idle, current := q.held, timer := 0.0,
      lastMessage := q.heard a.lastMessage } := by
  cases q with
  | action m => cases m <;> rfl
  | unknown v => rfl

/-- a step towards a point moves the agent, or puts it there and ends its action -/
theorem approach_eq (a : Agent) (dt x y : Float) :
    a.approach dt x y = { a with x := x, y := y }.finish ∨ ∃ x' y', a.approach dt x y = { a with x := x', y := y' } := by
  unfold approach
  dsimp only
  by_cases hd : Binary64.hypot (x - a.x) (y - a.y) < arrivalDistance
  · left; rw [if_pos hd]
  · right; rw [if_neg hd]; exact ⟨_, _, rfl⟩

/-- what an agent gains by the end of a task: what it gathers while it is gathering -/
def gain : Activity → Action → List Text
  | .gathering, .gather resource => [resource]
  | _, _ => []

theorem gain_eq_nil {d : Activity} {m : Action} (h : ∀ r, d = .gathering → m = .gather r → False) : gain d m = [] := by
  unfold gain
  split
  · rename_i r; exact (h r rfl rfl).elim
  · rfl

/-- time at work counts the timer on, or ends the action and brings its gain -/
theorem work_eq (a : Agent) (dt : Float) (action : Action) :
    a.timer + dt < a.taskDuration ∧ a.work dt action = { a with timer := a.timer + dt } ∨
      ¬a.timer + dt < a.taskDuration ∧
        a.work dt action = { a with inventory := a.inventory ++ gain a.activity action }.finish := by
  unfold work
  dsimp only
  by_cases ht : a.timer + dt < a.taskDuration
  · left; exact ⟨ht, if_pos ht⟩
  · right
    rw [if_neg ht]
    refine ⟨ht, ?_⟩
    split
    · rename_i ha; rw [ha]; rfl
    · rename_i hn; rw [gain_eq_nil hn, List.append_nil]; rfl

/-- a span of time takes up the front of an idle agent's queue, or it touches no more than the place, the state and the
inventory, and leaves the agent at its action or at none -/
theorem passage_frame {dt : Float} {a b : Agent} (h : Passage dt a b) :
    (∃ q rest, a.activity = .idle ∧ a.queue = q :: rest ∧ b = { a with queue := rest }.start q) ∨
      ∃ x y activity current timer inventory, (current = a.current ∨ current = none) ∧
        b = { a with
          x := x, y := y, activity := activity, current := current, timer := timer, inventory := inventory } := by
  cases h with
  | rest => exact .inr ⟨_, _, _, _, _, _, .inl rfl, rfl⟩
  | takeUp q rest hi hq => exact .inl ⟨q, rest, hi, hq, rfl⟩
  | approach x y =>
    rcases a.approach_eq dt x y with hb | ⟨x', y', hb⟩
    · rw [hb]; exact .inr ⟨_, _, _, _, _, _, .inr rfl, rfl⟩
    · rw [hb]; exact .inr ⟨_, _, _, _, _, _, .inl rfl, rfl⟩
  | astray => exact .inr ⟨_, _, _, _, _, _, .inr rfl, rfl⟩
  | work m =>
    rcases a.work_eq dt m with ⟨-, hb⟩ | ⟨-, hb⟩
    · rw [hb]; exact .inr ⟨_, _, _, _, _, _, .inl rfl, rfl⟩
    · rw [hb]; exact .inr ⟨_, _, _, _, _, _, .inr rfl, rfl⟩
  | stuck => exact .inr ⟨_, _, _, _, _, _, .inl rfl, rfl⟩

/-! ## State and action -/

/-- an agent that is not idle is at an action, and in the activity of that action -/
def Agrees (a : Agent) : Prop := a.activity = .idle ∨ ∃ action, a.current = some action ∧ action.activity = a.activity

theorem finish_agrees (a : Agent) : a.finish.Agrees := .inl rfl

theorem start_agrees (a : Agent) (q : Queued) : (a.start q).Agrees := by
  rw [start_eq]
  cases hq : q.held with
  | none => exact .inl rfl
  | some action => exact .inr ⟨action, rfl, rfl⟩

theorem passage_agrees {dt : Float} {a b : Agent} (h : Passage dt a b) (ha : a.Agrees) : b.Agrees := by
  cases h with
  | rest => exact ha
  | takeUp q rest => exact start_agrees _ q
  | approach x y =>
    rcases a.approach_eq dt x y with hb | ⟨x', y', hb⟩
    · rw [hb]; exact finish_agrees _
    · rw [hb]; exact ha
  | astray => exact finish_agrees a
  | work action =>
    rcases a.work_eq dt action with ⟨-, hb⟩ | ⟨-, hb⟩
    · rw [hb]; exact ha
    · rw [hb]; exact finish_agrees _
  | stuck => exact ha

theorem after_agrees {a : Agent} (e : Event) (ha : a.Agrees) : (a.after e).Agrees := by
  cases e with
  | put p =>
    rcases a.after_put p with ⟨hb, -⟩ | ⟨q, -, hb⟩
    · rw [hb]; exact ha
    · rw [hb]; exact ha
  | time dt =>
    rcases a.after_time dt with hb | hb
    · rw [hb]; exact ha
    · exact passage_agrees hb ha

end Agent

end TileCrew
