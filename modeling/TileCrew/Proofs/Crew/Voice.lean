/-
What an agent is heard saying. A message is heard twice, when it is put in and when its turn comes (`utterances`), so
what is heard last may be an older message than the one put in last, while messages wait in the queue. What will have
been heard when the queue is worked off (`closing`) is the invariant: only a new message changes it.
- `foldl_heard`: after values are heard in turn, the message of the last that has one is heard;
- `after_heard`, `after_closing`: what one event does to the message that is heard, and to the one that will be;
- `happen_heard`, `happen_closing`: the same for many events;
- `latest_heard`: **an agent is heard saying its latest utterance, and once no message waits, the one put in last**.
-/
import TileCrew.Proofs.Crew.Fifo

namespace TileCrew

/-- the message that a value says -/
def Queued.message? : Queued → Option Text
  | .action (.say message) => some message
  | _ => none

/-- the message that an event puts in -/
def Event.message? : Event → Option Text
  | .put (.say message) => some message
  | _ => none

theorem Queued.heard_eq (q : Queued) (before : Text) : q.heard before = q.message?.getD before := by
  cases q with
  | unknown v => rfl
  | action m => cases m <;> rfl

theorem Queued.message?_eq_some {q : Queued} {message : Text} :
    q.message? = some message ↔ q = .action (.say message) := by
  cases q with
  | unknown v => simp [message?]
  | action m => cases m <;> simp [message?]

/-- after values are heard in turn, the last message among them is heard -/
theorem foldl_heard (qs : List Queued) (before : Text) :
    qs.foldl Queued.heard before = (qs.filterMap Queued.message?).getLast?.getD before := by
  induction qs generalizing before with
  | nil => rfl
  | cons q qs ih =>
    rw [List.foldl_cons, ih, Queued.heard_eq]
    cases hq : q.message? with
    | none => rw [List.filterMap_cons_none hq, Option.getD_none]
    | some message => rw [List.filterMap_cons_some hq, List.getLast?_cons, Option.getD_some, Option.getD_some]

theorem foldl_heard_silent {qs : List Queued} (h : ∀ message, .action (.say message) ∉ qs) (before : Text) :
    qs.foldl Queued.heard before = before := by
  have hnone : qs.filterMap Queued.message? = [] := by
    rw [List.filterMap_eq_nil_iff]
    intro q hq
    cases hm : q.message? with
    | none => rfl
    | some message =>
      rw [Queued.message?_eq_some.1 hm] at hq
      exact absurd hq (h message)
  rw [foldl_heard, hnone]
  rfl

namespace Agent

/-! ## One event -/

/-- the messages heard in an event: one that is put in, and one whose turn comes -/
def uttered (a : Agent) (e : Event) : List Text :=
  e.message?.toList ++ (departed a (a.after e)).filterMap Queued.message?

/-- what will be heard last when the queue is worked off -/
def closing (a : Agent) : Text := a.queue.foldl Queued.heard a.lastMessage

theorem put_message (a : Agent) (p : Put) :
    (a.added (.put p)).filterMap Queued.message? = (Event.put p).message?.toList := by
  simp only [added]
  cases p with
  | move x y =>
    cases hm : a.enqueueMove x y with
    | error e => simp [put, hm, Except.map, Event.message?]
    | ok r =>
      obtain ⟨-, x', y', hr⟩ := enqueueMove_eq hm
      simp [put, hm, hr, Except.map, Event.message?, Queued.message?]
  | explore g =>
    cases hm : (a.enqueueExplore g).1 with
    | error e => simp [put, hm, Except.map, Event.message?]
    | ok r =>
      obtain ⟨-, x', y', hr⟩ := enqueueExplore_eq hm
      simp [put, hm, hr, Except.map, Event.message?, Queued.message?]
  | gather resource => simp [put, Event.message?, Queued.message?]
  | build building => simp [put, Event.message?, Queued.message?]
  | say message => simp [put, Event.message?, Queued.message?]
  | unknown v => simp [put, Event.message?, Queued.message?]

theorem added_message (a : Agent) (e : Event) : (a.added e).filterMap Queued.message? = e.message?.toList := by
  cases e with
  | put p => exact a.put_message p
  | time dt => rfl

/-- a span of time is heard through the values that it takes off the front of the queue -/
theorem passage_heard {dt : Float} {a b : Agent} (h : Passage dt a b) :
    ∃ out, a.queue = out ++ b.queue ∧ b.lastMessage = out.foldl Queued.heard a.lastMessage := by
  rcases passage_frame h with ⟨q, rest, -, hq, rfl⟩ | ⟨x, y, activity, current, timer, inventory, -, rfl⟩
  · rw [start_eq]
    exact ⟨[q], hq, rfl⟩
  · exact ⟨[], rfl, rfl⟩

/-- what an event adds goes behind the queue, what departs goes from its front, and both are heard in this order -/
theorem after_account (a : Agent) (e : Event) :
    a.queue ++ a.added e = departed a (a.after e) ++ (a.after e).queue ∧
      (a.after e).lastMessage = (a.added e ++ departed a (a.after e)).foldl Queued.heard a.lastMessage := by
  cases e with
  | put p =>
    obtain ⟨hd, hq, -⟩ := a.put_departs p
    rw [hd, hq, List.append_nil]
    refine ⟨rfl, ?_⟩
    rcases a.after_put p with ⟨hb, hp⟩ | ⟨q, hp, hb⟩
    · rw [hb, hp]; rfl
    · rw [hb, hp]; rfl
  | time dt =>
    have hadded : a.added (.time dt) = [] := rfl
    rw [hadded, List.append_nil, List.nil_append]
    rcases a.after_time dt with hb | hb
    · have hd : departed a a = [] := departed_eq rfl
      rw [hb, hd]
      exact ⟨rfl, rfl⟩
    · obtain ⟨out, hq, hm⟩ := passage_heard hb
      rw [departed_eq hq]
      exact ⟨hq, hm⟩

/-- after an event the latest message uttered in it is heard -/
theorem after_heard (a : Agent) (e : Event) :
    (a.after e).lastMessage = (a.uttered e).getLast?.getD a.lastMessage := by
  rw [(a.after_account e).2, foldl_heard, List.filterMap_append, added_message]
  rfl

/-- only a new message changes what will be heard last -/
theorem after_closing (a : Agent) (e : Event) : (a.after e).closing = e.message?.getD a.closing := by
  obtain ⟨hqueue, hheard⟩ := a.after_account e
  calc (a.after e).closing
      = (departed a (a.after e) ++ (a.after e).queue).foldl Queued.heard
          ((a.added e).foldl Queued.heard a.lastMessage) := by
        rw [closing, hheard, List.foldl_append, List.foldl_append]
    _ = (a.added e).foldl Queued.heard (a.queue.foldl Queued.heard ((a.added e).foldl Queued.heard a.lastMessage)) := by
        rw [← hqueue, List.foldl_append]
    _ = e.message?.getD a.closing := by
        have hadded := a.added_message e
        rw [closing, foldl_heard (a.added e), foldl_heard (a.added e), hadded]
        cases e.message? with
        | none => rfl
        | some message => rfl

/-! ## Many events -/

def utterances (a : Agent) : List Event → List Text
  | [] => []
  | e :: es => a.uttered e ++ (a.after e).utterances es

theorem happen_heard (a : Agent) (es : List Event) :
    (a.happen es).lastMessage = (a.utterances es).getLast?.getD a.lastMessage := by
  induction es generalizing a with
  | nil => rfl
  | cons e es ih =>
    have hrest : (a.happen (e :: es)).lastMessage =
        ((a.after e).utterances es).getLast?.getD (a.after e).lastMessage := ih (a.after e)
    rw [hrest, after_heard, utterances, List.getLast?_append]
    cases ((a.after e).utterances es).getLast? with
    | none => rfl
    | some message => rfl

theorem happen_closing (a : Agent) (es : List Event) :
    (a.happen es).closing = (es.filterMap Event.message?).getLast?.getD a.closing := by
  induction es generalizing a with
  | nil => rfl
  | cons e es ih =>
    have hrest : (a.happen (e :: es)).closing =
        (es.filterMap Event.message?).getLast?.getD (a.after e).closing := ih (a.after e)
    rw [hrest, after_closing]
    cases he : e.message? with
    | none => rw [List.filterMap_cons_none he, Option.getD_none]
    | some message => rw [List.filterMap_cons_some he, List.getLast?_cons, Option.getD_some, Option.getD_some]

/-- **An agent is heard saying its latest utterance, and once no message waits in its queue, the one put in last.** What
waited in the queue from the beginning counts as put in before all that happens. -/
theorem latest_heard (a : Agent) (h : a.lastMessage = "") (es : List Event) :
    let b := a.happen es
    b.lastMessage = (a.utterances es).getLast?.getD "" ∧
    ((∀ message, .action (.say message) ∉ b.queue) →
      b.lastMessage = (a.queue.filterMap Queued.message? ++ es.filterMap Event.message?).getLast?.getD "") := by
  intro b
  refine ⟨?_, ?_⟩
  · rw [← h]
    exact a.happen_heard es
  · intro hsilent
    have hnow : b.lastMessage = b.closing := (foldl_heard_silent hsilent b.lastMessage).symm
    have hbefore : a.closing = (a.queue.filterMap Queued.message?).getLast?.getD "" := by
      rw [closing, foldl_heard, h]
    rw [hnow, a.happen_closing es, hbefore, List.getLast?_append]
    cases (es.filterMap Event.message?).getLast? with
    | none => rfl
    | some message => rfl

/-- two messages are put in, the second is drowned by the first when its turn comes, and comes back with its own -/
theorem latest_heard_again :
    let a : Agent := { id := 1, name := "Bot" }
    let es : List Event := [.put (.say "first"), .put (.gather "wood"), .put (.say "second"), .time 0.1]
    let b := a.happen es
    let c := a.happen (es ++ [.time 0.1, .time 2.0, .time 0.1])
    a.lastMessage = "" ∧ (a.utterances es = [("first" : Text), "second", "first"] ∧ b.lastMessage = "first") ∧
      (∀ message, .action (.say message) ∉ c.queue) ∧ c.lastMessage = "second" := by
  intro a es b c
  have hsilent : ∀ message, .action (.say message) ∉ c.queue := by
    intro message
    have hqueue : c.queue.isEmpty = true := by decide +kernel
    rw [List.isEmpty_iff.1 hqueue]
    exact List.not_mem_nil
  exact ⟨rfl, ⟨rfl, (latest_heard a rfl es).1⟩, hsilent, (latest_heard a rfl _).2 hsilent⟩

end Agent

end TileCrew
