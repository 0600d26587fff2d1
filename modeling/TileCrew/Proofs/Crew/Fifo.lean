/-
No action is lost. A ledger runs the agent and keeps two lists beside it: the values put in (`enqueued`) and the values
that have left the front of the queue (`started`). The ledger's agent is the plain one (`run_agent`).
- `passage_account`: what a span of time does to queue, inventory and the action under way;
- `Balanced`: what was put in is what was started and then what waits, and the inventory holds what the ended actions
  brought;
- `actions_conserved`: **every ledger that starts with an idle agent without queue and inventory stays balanced**, an
  update starts at most the front of the queue and only for an idle agent, and a put changes nothing under way.
-/
import TileCrew.Proofs.Crew.Machine

namespace TileCrew

/-- the resources of the gathering actions among values -/
def gathered (qs : List Queued) : List Text :=
  qs.filterMap fun
    | .action (.gather resource) => some resource
    | _ => none

theorem gathered_append (ps qs : List Queued) : gathered (ps ++ qs) = gathered ps ++ gathered qs :=
  List.filterMap_append

namespace Agent

/-- the values by which the front of a queue is shorter than before -/
def departed (a b : Agent) : List Queued := a.queue.take (a.queue.length - b.queue.length)

def engaged (a : Agent) : List Queued := if a.activity = .idle then [] else (a.current.map .action).toList

/-! ## One event -/

theorem departed_eq {a b : Agent} {out : List Queued} (h : a.queue = out ++ b.queue) : departed a b = out := by
  unfold departed
  rw [h, List.length_append, Nat.add_sub_cancel, List.take_left]

theorem engaged_idle {a : Agent} (h : a.activity = .idle) : a.engaged = [] := if_pos h

theorem engaged_some {a : Agent} {m : Action} (h : a.activity ≠ .idle) (hc : a.current = some m) :
    a.engaged = [.action m] := by
  rw [engaged, if_neg h, hc]; rfl

/-- what an action brings in its own activity is what counts as gathered -/
theorem gain_activity (m : Action) : gain m.activity m = gathered [.action m] := by
  cases m <;> rfl

theorem engaged_travel {a : Agent} (ha : a.Agrees) (h : a.activity = .moving ∨ a.activity = .exploring) :
    gathered a.engaged = [] := by
  rcases ha with hi | ⟨m, hc, hm⟩
  · rw [engaged_idle hi]; rfl
  · have hn : a.activity ≠ .idle := by rcases h with h | h <;> rw [h] <;> decide
    rw [engaged_some hn hc, ← gain_activity, hm]
    rcases h with h | h <;> rw [h] <;> rfl

theorem start_engaged (a : Agent) (q : Queued) :
    (a.start q).engaged = [q] ∨ (a.start q).engaged = [] ∧ gathered [q] = [] := by
  cases q with
  | unknown v => exact .inr ⟨rfl, rfl⟩
  | action m =>
    cases m with
    | say message => exact .inr ⟨rfl, rfl⟩
    | move x y => exact .inl rfl
    | explore x y => exact .inl rfl
    | gather resource => exact .inl rfl
    | build building => exact .inl rfl

/-- a span of time takes `out` off the front of the queue and ends `fin`; what `fin` gathered is in the inventory -/
theorem passage_account {dt : Float} {a b : Agent} (h : Passage dt a b) (ha : a.Agrees) :
    ∃ out fin, a.queue = out ++ b.queue ∧ a.engaged ++ out = fin ++ b.engaged ∧
      b.inventory = a.inventory ++ gathered fin := by
  cases h with
  | rest => exact ⟨[], [], rfl, by simp, by simp [gathered]⟩
  | takeUp q rest hi hq =>
    have hb : ({ a with queue := rest }.start q).queue = rest := by rw [start_eq]
    have hinv : ({ a with queue := rest }.start q).inventory = a.inventory := by rw [start_eq]
    rcases start_engaged { a with queue := rest } q with he | ⟨he, hg⟩
    · exact ⟨[q], [], by rw [hb]; exact hq, by rw [engaged_idle hi, he], by rw [hinv]; simp [gathered]⟩
    · exact ⟨[q], [q], by rw [hb]; exact hq, by rw [engaged_idle hi, he]; rfl, by rw [hinv, hg, List.append_nil]⟩
  | approach x y hact =>
    rcases a.approach_eq dt x y with hb | ⟨x', y', hb⟩
    · rw [hb]
      exact ⟨[], a.engaged, rfl, rfl, by rw [engaged_travel ha hact, List.append_nil]; rfl⟩
    · rw [hb]
      exact ⟨[], [], rfl, List.append_nil _, (List.append_nil _).symm⟩
  | astray hact => exact ⟨[], a.engaged, rfl, rfl, by rw [engaged_travel ha hact, List.append_nil]; rfl⟩
  | work m hact hc =>
    rcases a.work_eq dt m with ⟨-, hb⟩ | ⟨-, hb⟩
    · rw [hb]
      exact ⟨[], [], rfl, List.append_nil _, (List.append_nil _).symm⟩
    · have hn : a.activity ≠ .idle := by rcases hact with h | h <;> rw [h] <;> decide
      have hm : m.activity = a.activity := by
        rcases ha with hi | ⟨m', hc', hm'⟩
        · exact absurd hi hn
        · rw [hc] at hc'; cases hc'; exact hm'
      rw [hb]
      refine ⟨[], a.engaged, rfl, rfl, ?_⟩
      rw [engaged_some hn hc, ← gain_activity, hm]; rfl
  | stuck => exact ⟨[], [], rfl, by simp, by simp [gathered]⟩

/-- a span of time starts nothing and leaves or ends the action under way, or starts the front of an idle agent's queue -/
theorem time_departs (a : Agent) (dt : Float) :
    let b := a.after (.time dt)
    (departed a b = [] ∧ b.queue = a.queue ∧ (b.current = a.current ∨ b.current = none)) ∨
      ∃ q, a.activity = .idle ∧ departed a b = [q] ∧ a.queue = q :: b.queue ∧ b = { a with queue := b.queue }.start q := by
  have same {b : Agent} (h : b.queue = a.queue) (hc : b.current = a.current ∨ b.current = none) :
      departed a b = [] ∧ b.queue = a.queue ∧ (b.current = a.current ∨ b.current = none) :=
    ⟨departed_eq (by rw [h]; rfl), h, hc⟩
  rcases a.after_time dt with hb | hb
  · rw [hb]; exact .inl (same rfl (.inl rfl))
  · generalize a.after (.time dt) = b at hb
    rcases passage_frame hb with ⟨q, rest, hi, hq, rfl⟩ | ⟨x, y, activity, current, timer, inventory, hc, rfl⟩
    · have hr : ({ a with queue := rest }.start q).queue = rest := by rw [start_eq]
      exact .inr ⟨q, hi, departed_eq (by rw [hr, hq]; rfl), by rw [hr, hq], by rw [hr]⟩
    · exact .inl (same rfl hc)

/-- a put starts nothing and changes nothing under way -/
theorem put_departs (a : Agent) (p : Put) :
    let b := a.after (.put p)
    departed a b = [] ∧ b.queue = a.queue ++ a.added (.put p) ∧ b.activity = a.activity ∧ b.current = a.current ∧
      b.timer = a.timer ∧ b.inventory = a.inventory := by
  rcases a.after_put p with ⟨hb, hq⟩ | ⟨q, hq, hb⟩
  · rw [hb, hq]
    exact ⟨departed_eq rfl, (List.append_nil _).symm, rfl, rfl, rfl, rfl⟩
  · rw [hb, hq]
    refine ⟨?_, rfl, rfl, rfl, rfl, rfl⟩
    simp [departed]

end Agent

/-! ## Ledgers -/

/-- an agent with the values ever put into its queue and those that have left it -/
structure Ledger where
  agent : Agent
  enqueued : List Queued
  started : List Queued

namespace Ledger

open Agent

def ofAgent (a : Agent) : Ledger := ⟨a, [], []⟩

def step (l : Ledger) (e : Event) : Ledger :=
  ⟨l.agent.after e, l.enqueued ++ l.agent.added e, l.started ++ departed l.agent (l.agent.after e)⟩

def run (l : Ledger) (es : List Event) : Ledger := es.foldl step l

theorem run_agent (l : Ledger) (es : List Event) : (l.run es).agent = l.agent.happen es := by
  induction es generalizing l with
  | nil => rfl
  | cons e es ih => exact ih (l.step e)

/-- queue and inventory add up with what was put in, started and ended -/
structure Balanced (l : Ledger) : Prop where
  agrees : l.agent.Agrees
  fifo : l.enqueued = l.started ++ l.agent.queue
  credit : ∃ ended, l.started = ended ++ l.agent.engaged ∧ l.agent.inventory = gathered ended

theorem ofAgent_balanced {a : Agent} (hi : a.activity = .idle) (hq : a.queue = []) (hv : a.inventory = []) :
    (ofAgent a).Balanced :=
  ⟨.inl hi, by simp [ofAgent, hq], [], by simp [ofAgent, engaged_idle hi], by simp [ofAgent, hv, gathered]⟩

theorem step_balanced {l : Ledger} (e : Event) (h : l.Balanced) : (l.step e).Balanced := by
  refine ⟨after_agrees e h.agrees, ?_, ?_⟩
  · cases e with
    | put p =>
      obtain ⟨hd, hq, -⟩ := put_departs l.agent p
      simp only [step, hd, hq, h.fifo, List.append_nil, List.append_assoc]
    | time dt =>
      simp only [step, added, List.append_nil]
      rcases time_departs l.agent dt with ⟨hd, hq, -⟩ | ⟨q, -, hd, hq, -⟩
      · rw [hd, hq, List.append_nil, h.fifo]
      · rw [hd, h.fifo, hq, List.append_assoc]; rfl
  · -- what ends in this event is moved from the engaged to the ended, and paid
    obtain ⟨ended, hs, hv⟩ := h.credit
    cases e with
    | put p =>
      obtain ⟨hd, -, ha, hc, -, hinv⟩ := put_departs l.agent p
      refine ⟨ended, ?_, by simp only [step, hinv, hv]⟩
      simp only [step, hd, List.append_nil, engaged, ha, hc]; exact hs
    | time dt =>
      simp only [step]
      rcases l.agent.after_time dt with hb | hb
      · have hd : departed l.agent l.agent = [] := departed_eq rfl
        rw [hb, hd, List.append_nil]
        exact ⟨ended, hs, hv⟩
      · obtain ⟨out, fin, hq, he, hb⟩ := passage_account hb h.agrees
        refine ⟨ended ++ fin, ?_, by rw [hb, hv, gathered_append]⟩
        rw [departed_eq hq, hs, List.append_assoc, he, List.append_assoc]

theorem run_balanced {l : Ledger} (es : List Event) (h : l.Balanced) : (l.run es).Balanced := by
  induction es generalizing l with
  | nil => exact h
  | cons e es ih => exact ih (step_balanced e h)

/-- **No action is lost, doubled, reordered or cut short, and none is paid twice or early.** -/
theorem actions_conserved (a : Agent) (hi : a.activity = .idle) (hq : a.queue = []) (hv : a.inventory = [])
    (es : List Event) :
    let l := (ofAgent a).run es
    l.agent = a.happen es ∧ l.enqueued = l.started ++ l.agent.queue ∧
    (∃ ended, l.started = ended ++ l.agent.engaged ∧ l.agent.inventory = gathered ended) ∧
    (∀ dt, let b := l.agent.after (.time dt)
      (departed l.agent b = [] ∧ b.queue = l.agent.queue ∧ (b.current = l.agent.current ∨ b.current = none)) ∨
        ∃ q, l.agent.activity = .idle ∧ departed l.agent b = [q] ∧ b = { l.agent with queue := b.queue }.start q) ∧
    (∀ p, let b := l.agent.after (.put p)
      departed l.agent b = [] ∧ b.activity = l.agent.activity ∧ b.current = l.agent.current ∧
        b.timer = l.agent.timer) := by
  intro l
  have h : l.Balanced := run_balanced es (ofAgent_balanced hi hq hv)
  refine ⟨run_agent _ es, h.fifo, h.credit, fun dt => ?_, fun p => ?_⟩
  · rcases time_departs l.agent dt with h | ⟨q, hi, hd, -, hb⟩
    · exact .inl h
    · exact .inr ⟨q, hi, hd, hb⟩
  · obtain ⟨hd, -, ha, hc, ht, -⟩ := put_departs l.agent p
    exact ⟨hd, ha, hc, ht⟩

/-- an order that fails, a task done and a message spoken: one value is left in the queue -/
theorem actions_conserved_busy :
    let a : Agent := { id := 1, name := "Bot" }
    let l := (ofAgent a).run [.put (.gather "wood"), .put (.move (.whole (10 ^ 400)) (.whole 0)), .put (.say "hi"),
      .time (-1.0), .put (.build "hut"), .time 2.0, .time 0.0]
    (a.activity = .idle ∧ a.queue = [] ∧ a.inventory = []) ∧ l.enqueued = l.started ++ l.agent.queue ∧
      l.enqueued.length = 3 ∧ l.started.length = 2 ∧ l.agent.inventory = [("wood" : Text)] :=
  ⟨⟨rfl, rfl, rfl⟩, (actions_conserved _ rfl rfl rfl _).2.1, by decide +kernel, by decide +kernel, by decide +kernel⟩

end Ledger

end TileCrew
