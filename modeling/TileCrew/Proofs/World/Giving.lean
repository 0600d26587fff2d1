/-
What commands and prompts do to a world. An order given to an agent is a put (`Order.toPut`), and what it takes from the
generator it takes from it whoever the agent is (`Order.spent`).
- `give_cases`, `dispatch_cases`, `handlePrompt_cases`: what comes of an order for a slot, of a command and of a prompt;
- `Stays`: a world after another that differs in its clock, its generator, its log and, slot by slot, in its agents;
- `handlePrompt_stays`: nothing that agents are told, by prompts or commands that fail or not, does more to the world than
  the puts do to agents. `PutClosed` are the relations for which this holds.
-/
import TileCrew.Proofs.Crew.Hops
import TileCrew.Proofs.Crew.Roster
import TileCrew.Proofs.Prompt.Shapes
import TileCrew.World.Dispatch

namespace TileCrew

/-! ## Orders as puts -/

/-- what an order puts into a queue; to explore takes the generator -/
def Order.toPut (g : Twister) : Order → Put
  | .move x y => .move (.whole x) (.whole y)
  | .explore => .explore g
  | .gather resource => .gather resource
  | .build building => .build building
  | .say message => .say message

/-- the generator after an order: to explore takes two offsets -/
def Order.spent (g : Twister) : Order → Twister
  | .explore => g.nextOffset.2.nextOffset.2
  | _ => g

theorem map_fst_map {ε α β γ : Type} (o : Except ε (α × β)) (f : β → γ) :
    (o.map fun r => (r.1, f r.2)).map (·.1) = o.map (·.1) := by
  cases o with
  | error e => rfl
  | ok r => rfl

/-- to explore takes its offsets from the generator whether it succeeds or not -/
theorem Agent.enqueueExplore_rng (a : Agent) (g : Twister) : (a.enqueueExplore g).2 = g.nextOffset.2.nextOffset.2 := by
  obtain ⟨⟨dx, g₁⟩, h₁⟩ : ∃ draw, g.nextOffset = draw := ⟨_, rfl⟩
  obtain ⟨⟨dy, g₂⟩, h₂⟩ : ∃ draw, g₁.nextOffset = draw := ⟨_, rfl⟩
  simp only [enqueueExplore, h₁, h₂]

theorem Agent.accept_eq (a : Agent) (g : Twister) (order : Order) :
    a.accept g order = ((a.put (order.toPut g)).map (·.1), order.spent g) := by
  cases order with
  | move x y => simp only [accept, put, Order.toPut, Order.spent, map_fst_map]
  | explore =>
    have hrng := a.enqueueExplore_rng g
    simp only [accept, put, Order.toPut, Order.spent, map_fst_map]
    cases h : a.enqueueExplore g with
    | mk outcome g' => rw [h] at hrng; rw [← hrng]
  | gather resource => rfl
  | build building => rfl
  | say message => rfl

namespace World

/-! ## Who is addressed -/

/-- who is addressed depends on the keys only -/
theorem addressed_congr {w w' : World} (h : w'.roster.keys = w.roster.keys) (target : Text) :
    w'.addressed target = w.addressed target := by
  have hfound : (w'.agent? target).isSome = (w.agent? target).isSome := by
    rw [Bool.eq_iff_iff, agent?, agent?, Roster.find?_isSome, Roster.find?_isSome, h]
  rw [addressed, addressed, hfound, h]

theorem addressed_keys {w : World} {target key : Text} (h : key ∈ w.addressed target) : key ∈ w.roster.keys := by
  unfold addressed at h
  split at h
  · exact h
  · split at h
    · rename_i hfound
      rw [List.mem_singleton.1 h]
      exact Roster.find?_isSome.1 hfound
    · cases h

theorem addressed_other {w : World} {target key : Text} (hb : TileCrew.isBroadcast target = false)
    (hk : Roster.keyOf target ≠ key) : key ∉ w.addressed target := by
  rw [addressed, if_neg (by rw [hb]; decide)]
  split
  · exact fun h => hk (List.mem_singleton.1 h).symm
  · simp

/-! ## One slot -/

/-- an order for a slot: nobody is there, the agent there does not take it, or it does and the log says so -/
theorem give_cases (w : World) (order : Order) (key : Text) :
    (w.roster.find? key = none ∧ w.give order key = (.ok (), w)) ∨
    (∃ a e, w.roster.find? key = some a ∧ a.put (order.toPut w.rng) = .error e ∧
      w.give order key = (.error e, { w with rng := order.spent w.rng })) ∨
    ∃ a b q, w.roster.find? key = some a ∧ a.put (order.toPut w.rng) = .ok (b, q) ∧
      w.give order key =
        (.ok (), { w with rng := order.spent w.rng, roster := w.roster.put key b }.addMessage (order.report a.name)) := by
  cases hf : w.roster.find? key with
  | none => left; exact ⟨rfl, by simp only [give, hf]⟩
  | some a =>
    right
    cases hp : a.put (order.toPut w.rng) with
    | error e => left; exact ⟨a, e, rfl, hp, by simp only [give, hf, Agent.accept_eq, hp]; rfl⟩
    | ok r => right; exact ⟨a, r.1, r.2, rfl, hp, by simp only [give, hf, Agent.accept_eq, hp]; rfl⟩

/-! ## Commands and prompts -/

/-- a command addresses nobody and is complained about, or its order is given to all whom it addresses -/
theorem dispatch_cases (w : World) (c : Command) :
    (w.addressed c.target = [] ∧ w.dispatch c = (.ok [], w.addMessage (notFound c.target))) ∨
      w.addressed c.target ≠ [] ∧ ∃ names : List Text,
        w.dispatch c = ((giveAll c.order (w.addressed c.target) w).1.map fun _ => names,
          (giveAll c.order (w.addressed c.target) w).2) := by
  rw [dispatch, dispatchTo]
  cases hto : w.addressed c.target with
  | nil => left; exact ⟨rfl, rfl⟩
  | cons key keys => right; exact ⟨by simp, _, rfl⟩

def echo (text : String) : Text := "> " ++ Text.strip text

/-- a prompt is blank and nothing comes of it, or it is echoed; then it cannot be read, or is no command, or is
dispatched -/
theorem handlePrompt_cases (w : World) (text : String) :
    (Text.strip text = "" ∧ Prompt.parse text = .ok none ∧ w.handlePrompt text = (.ok none, w)) ∨
      Text.strip text ≠ "" ∧
        ((∃ e, Prompt.parse text = .error e ∧ w.handlePrompt text = (.error e, w.addMessage (echo text))) ∨
          (Prompt.parse text = .ok none ∧
            w.handlePrompt text = (.ok none, (w.addMessage (echo text)).addMessage notUnderstood)) ∨
          ∃ c, Prompt.parse text = .ok (some c) ∧
            w.handlePrompt text = (((w.addMessage (echo text)).dispatch c).1.map fun _ => some c,
              ((w.addMessage (echo text)).dispatch c).2)) := by
  rw [← Prompt.parse_strip]
  by_cases hblank : Text.strip text = ""
  · left
    exact ⟨hblank, by rw [hblank]; rfl, by simp only [handlePrompt, hblank]; rfl⟩
  · right
    refine ⟨hblank, ?_⟩
    simp only [handlePrompt, String.isEmpty_iff, hblank, if_false]
    cases hp : Prompt.parse (Text.strip text) with
    | error e => left; exact ⟨e, rfl, rfl⟩
    | ok c? =>
      right
      cases c? with
      | none => left; exact ⟨rfl, rfl⟩
      | some c => right; exact ⟨c, rfl, rfl⟩

/-! ## What stays -/

/-- a relation between agents that is kept up by puts -/
structure PutClosed (R : Agent → Agent → Prop) : Prop where
  refl : ∀ a, R a a
  trans : ∀ a b c, R a b → R b c → R a c
  put : ∀ {a b p q}, a.put p = .ok (b, q) → R a b

theorem PutClosed.any : PutClosed fun _ _ => True := ⟨fun _ => trivial, fun _ _ _ _ _ => trivial, fun _ => trivial⟩

theorem PutClosed.same : PutClosed Agent.Same := ⟨Agent.Same.refl, fun _ _ _ => Agent.Same.trans, Agent.put_same⟩

/-- the world after differs in clock, generator and log, and slot by slot in agents that stand in the relation -/
structure Stays (R : Agent → Agent → Prop) (w w' : World) : Prop where
  roster : Roster.Kept R w.roster w'.roster
  tiles : w'.tiles = w.tiles
  mapWidth : w'.mapWidth = w.mapWidth
  mapHeight : w'.mapHeight = w.mapHeight
  tick : w'.tick = w.tick
  nextId : w'.nextId = w.nextId

section

variable {R : Agent → Agent → Prop} (hR : PutClosed R)

include hR

theorem Stays.refl (w : World) : Stays R w w := ⟨Roster.kept_refl hR.refl _, rfl, rfl, rfl, rfl, rfl⟩

theorem addMessage_stays (w : World) (text : Text) : Stays R w (w.addMessage text) :=
  ⟨Roster.kept_refl hR.refl _, rfl, rfl, rfl, rfl, rfl⟩

theorem Stays.trans {w w' w'' : World} (h : Stays R w w') (h' : Stays R w' w'') : Stays R w w'' :=
  ⟨h.roster.trans hR.trans h'.roster, h'.tiles.trans h.tiles, h'.mapWidth.trans h.mapWidth,
    h'.mapHeight.trans h.mapHeight, h'.tick.trans h.tick, h'.nextId.trans h.nextId⟩

theorem give_stays (w : World) (order : Order) (key : Text) : Stays R w (w.give order key).2 := by
  rcases w.give_cases order key with ⟨-, h⟩ | ⟨a, e, -, -, h⟩ | ⟨a, b, q, ha, hp, h⟩
  · rw [h]; exact Stays.refl hR w
  · rw [h]; exact ⟨Roster.kept_refl hR.refl _, rfl, rfl, rfl, rfl, rfl⟩
  · rw [h]; exact ⟨Roster.put_kept hR.refl ha (hR.put hp), rfl, rfl, rfl, rfl, rfl⟩

theorem giveAll_stays (order : Order) (keys : List Text) (w : World) : Stays R w (giveAll order keys w).2 := by
  induction keys generalizing w with
  | nil => exact Stays.refl hR w
  | cons key keys ih =>
    have h := give_stays hR w order key
    rw [giveAll]
    cases hg : w.give order key with
    | mk outcome w' =>
      rw [hg] at h
      cases outcome with
      | error e => exact h
      | ok u => exact h.trans hR (ih w')

theorem dispatch_stays (w : World) (c : Command) : Stays R w (w.dispatch c).2 := by
  rcases w.dispatch_cases c with ⟨-, h⟩ | ⟨-, names, h⟩
  · rw [h]; exact addMessage_stays hR w _
  · rw [h]; exact giveAll_stays hR c.order _ w

/-- nothing but generator, log and what puts do to agents differs after a prompt -/
theorem handlePrompt_stays (w : World) (text : String) : Stays R w (w.handlePrompt text).2 := by
  have h := addMessage_stays hR w (echo text)
  rcases w.handlePrompt_cases text with ⟨-, -, hp⟩ | ⟨-, ⟨e, -, hp⟩ | ⟨-, hp⟩ | ⟨c, -, hp⟩⟩
  · rw [hp]; exact Stays.refl hR w
  · rw [hp]; exact h
  · rw [hp]; exact h.trans hR (addMessage_stays hR _ _)
  · rw [hp]; exact h.trans hR (dispatch_stays hR _ c)

theorem handleAll_stays (texts : List String) (w : World) : Stays R w (handleAll texts w).2 := by
  induction texts generalizing w with
  | nil => exact Stays.refl hR w
  | cons text texts ih =>
    have h := handlePrompt_stays hR w text
    rw [handleAll]
    cases hp : w.handlePrompt text with
    | mk outcome w' =>
      rw [hp] at h
      cases outcome with
      | error e => exact h
      | ok c? => exact h.trans hR (ih w')

end

end World

end TileCrew
