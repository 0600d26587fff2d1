/-
What a prompt does, and what it leaves alone. The generator is followed by counting the offsets that are taken from it.
- `Means`: the action that an order comes to for one agent, `put_means`: agents put no other into their queues;
- `meant`: the slots whose agents a target means, `addressed_eq`: they are the ones addressed;
- `Served`, `giveAll_served`: an order given to many puts one action at the back of the queue of each, in the order of
  their slots, and touches nobody else;
- `prompt_effect`: **a prompt serves those whom it means, and changes nothing else but the log**.
-/
import Mathlib.Data.List.Count
import Mathlib.Logic.Function.Iterate
import TileCrew.Proofs.Crew.Hops
import TileCrew.Proofs.World.Giving

namespace TileCrew

/-! ## Offsets -/

namespace Twister

/-- the generator after n offsets -/
def skip (g : Twister) (n : Nat) : Twister := (fun g => g.nextOffset.2)^[n] g

/-- the offset to come after n others -/
def offset (g : Twister) (n : Nat) : Int := (g.skip n).nextOffset.1

theorem skip_skip (g : Twister) (m n : Nat) : (g.skip m).skip n = g.skip (m + n) := by
  rw [Nat.add_comm]
  exact (Function.iterate_add_apply _ n m g).symm

end Twister

namespace Order

/-- how many offsets an order takes from the generator -/
def draws : Order → Nat
  | .explore => 2
  | _ => 0

theorem spent_eq (order : Order) (g : Twister) : order.spent g = g.skip order.draws := by
  cases order <;> rfl

/-- what an order means to an agent: its action, for a destination to explore with the next two offsets, the columns
first -/
inductive Means (a : Agent) (g : Twister) : Order → Action → Prop
  | move {x y : Int} {x' y' : Float} : Binary64.ofInt? x = some x' → Binary64.ofInt? y = some y' →
      Means a g (.move x y) (.move x' y')
  | explore {column row : Int} : a.tile = .ok (column, row) →
      Means a g .explore (.explore (Agent.clamp (column + g.offset 0) 0 (a.mapWidth - 1))
        (Agent.clamp (row + g.offset 1) 0 (a.mapHeight - 1)))
  | gather (resource : Text) : Means a g (.gather resource) (.gather resource)
  | build (building : Text) : Means a g (.build building) (.build building)
  | say (message : Text) : Means a g (.say message) (.say message)

end Order

namespace Agent

/-- the agent with one more action to do; a message is heard at once -/
def serve (a : Agent) (m : Action) : Agent :=
  { a with queue := a.queue ++ [.action m], lastMessage := (Queued.action m).heard a.lastMessage }

theorem enqueueMove_point {a b : Agent} {x y : Int} {m : Action} (h : a.enqueueMove (.whole x) (.whole y) = .ok (b, m)) :
    ∃ x' y', Binary64.ofInt? x = some x' ∧ Binary64.ofInt? y = some y' ∧ m = .move x' y' := by
  simp only [enqueueMove, Schema.realOfNumber, Schema.Checked.fail, Number.toFloat?] at h
  cases hx : Binary64.ofInt? x <;> cases hy : Binary64.ofInt? y <;> rw [hx, hy] at h <;> simp only at h <;> cases h
  exact ⟨_, _, rfl, rfl, rfl⟩

theorem put_means {a b : Agent} {order : Order} {g : Twister} {q : Queued} (h : a.put (order.toPut g) = .ok (b, q)) :
    ∃ m, order.Means a g m ∧ b = a.serve m := by
  have hb := put_eq h
  cases order with
  | move x y =>
    cases hm : a.enqueueMove (.whole x) (.whole y) with
    | error e => simp only [Order.toPut, put, hm] at h; cases h
    | ok r =>
      simp only [Order.toPut, put, hm] at h
      cases h
      obtain ⟨x', y', hx, hy, hr⟩ := enqueueMove_point hm
      exact ⟨r.2, hr ▸ .move hx hy, hb⟩
  | explore =>
    cases hm : (a.enqueueExplore g).1 with
    | error e => simp only [Order.toPut, put, hm] at h; cases h
    | ok r =>
      simp only [Order.toPut, put, hm] at h
      cases h
      obtain ⟨column, row, htile, hr⟩ := enqueueExplore_hop hm
      exact ⟨r.2, hr ▸ .explore htile, hb⟩
  | gather resource => cases h; exact ⟨_, .gather resource, hb⟩
  | build building => cases h; exact ⟨_, .build building, hb⟩
  | say message => cases h; exact ⟨_, .say message, hb⟩

end Agent

namespace World

/-! ## Who is meant -/

/-- the slots of those whom a target means: of all, or of the one whose key is its folding -/
def meant (w : World) (target : Text) : List (Text × Agent) :=
  w.roster.slots.filter fun s => Text.fold target = "all" ∨ s.1 = Text.fold target

theorem meant_found {w : World} (hw : w.roster.keys.Nodup) {target : Text} {s : Text × Agent}
    (hs : s ∈ w.meant target) : w.roster.find? s.1 = some s.2 :=
  Roster.find?_of_mem_slots hw (List.mem_filter.1 hs).1

theorem meant_nodup {w : World} (hw : w.roster.keys.Nodup) (target : Text) :
    ((w.meant target).map (·.1)).Nodup :=
  hw.sublist (List.filter_sublist.map _)

theorem addressed_eq {w : World} (hw : w.roster.keys.Nodup) (target : Text) :
    w.addressed target = (w.meant target).map (·.1) := by
  have hmeant : (w.meant target).map (·.1) =
      w.roster.keys.filter fun key => Text.fold target = "all" ∨ key = Text.fold target := by
    rw [Roster.keys, List.filter_map]
    rfl
  rw [hmeant, addressed, TileCrew.isBroadcast]
  by_cases hall : Text.fold target = "all"
  · simp [hall]
  · have hone : (w.roster.keys.filter fun key => Text.fold target = "all" ∨ key = Text.fold target) =
        w.roster.keys.filter (· = Text.fold target) := by
      simp [hall]
    rw [hone, List.filter_eq, hw.count]
    simp only [hall, beq_iff_eq, if_false, agent?, Roster.find?_isSome, Roster.keyOf]
    split <;> rfl

/-! ## An order for many -/

/-- the order has been given to those in these slots, and to nobody else -/
structure Served (order : Order) (told : List (Text × Agent)) (w w' : World) : Prop where
  each : ∀ i key a, told[i]? = some (key, a) →
    ∃ m, order.Means a (w.rng.skip (order.draws * i)) m ∧ w'.roster.find? key = some (a.serve m)
  others : ∀ key, key ∉ told.map (·.1) → w'.roster.find? key = w.roster.find? key
  rng : w'.rng = w.rng.skip (order.draws * told.length)

theorem give_served {w w' : World} {order : Order} {key : Text} {a : Agent} (ha : w.roster.find? key = some a)
    (h : w.give order key = (.ok (), w')) :
    ∃ m, order.Means a w.rng m ∧ w'.roster = w.roster.put key (a.serve m) ∧ w'.rng = w.rng.skip order.draws := by
  rcases w.give_cases order key with ⟨hnone, -⟩ | ⟨b, e, -, -, hg⟩ | ⟨b, b', q, hb, hp, hg⟩
  · rw [ha] at hnone; cases hnone
  · rw [hg] at h; cases h
  · rw [hg] at h
    cases h
    cases ha.symm.trans hb
    obtain ⟨m, hm, rfl⟩ := Agent.put_means hp
    exact ⟨m, hm, rfl, order.spent_eq _⟩

theorem giveAll_served {order : Order} {told : List (Text × Agent)} {w w' : World}
    (hkeys : (told.map (·.1)).Nodup) (hfound : ∀ s ∈ told, w.roster.find? s.1 = some s.2)
    (h : giveAll order (told.map (·.1)) w = (.ok (), w')) : Served order told w w' := by
  induction told generalizing w with
  | nil => cases h; exact ⟨by simp, fun _ _ => rfl, rfl⟩
  | cons s told ih =>
    obtain ⟨key, a⟩ := s
    rw [List.forall_mem_cons] at hfound
    obtain ⟨ha, hrest⟩ := hfound
    rw [List.map_cons, List.nodup_cons] at hkeys
    obtain ⟨hkey, hkeys⟩ := hkeys
    rw [List.map_cons, giveAll] at h
    cases hg : w.give order key with
    | mk outcome w₁ =>
      rw [hg] at h
      cases outcome with
      | error e => cases h
      | ok u =>
        obtain ⟨m, hm, hroster, hrng⟩ := give_served ha hg
        -- who comes later is still as before
        have hlater : ∀ t ∈ told, w₁.roster.find? t.1 = some t.2 := by
          intro t ht
          have hne : t.1 ≠ key := fun heq => hkey (List.mem_map.2 ⟨t, ht, heq⟩)
          rw [hroster, Roster.find?_put_ne _ _ hne]
          exact hrest t ht
        have hserved := ih hkeys hlater h
        refine ⟨?_, ?_, ?_⟩
        · intro i k b hi
          cases i with
          | zero =>
            cases hi
            exact ⟨m, hm, by rw [hserved.others key hkey, hroster]; exact Roster.find?_put_self _ _ _⟩
          | succ i =>
            obtain ⟨m', hm', hb⟩ := hserved.each i k b hi
            rw [hrng, Twister.skip_skip, Nat.add_comm, ← Nat.mul_succ] at hm'
            exact ⟨m', hm', hb⟩
        · intro k hk
          rw [List.map_cons, List.mem_cons, not_or] at hk
          rw [hserved.others k hk.2, hroster, Roster.find?_put_ne _ _ hk.1]
        · rw [hserved.rng, hrng, Twister.skip_skip, List.length_cons, Nat.mul_succ, Nat.add_comm]

/-! ## Commands and prompts -/

theorem dispatch_served {w w' : World} (hw : w.roster.keys.Nodup) {c : Command} {names : List Text}
    (h : w.dispatch c = (.ok names, w')) :
    Served c.order (w.meant c.target) w w' ∧ (w.meant c.target = [] → w'.roster = w.roster ∧ w'.rng = w.rng) := by
  have hto := addressed_eq hw c.target
  rcases w.dispatch_cases c with ⟨hnobody, hd⟩ | ⟨hsomebody, names', hd⟩
  · have hnone : w.meant c.target = [] := List.map_eq_nil_iff.1 (hto.symm.trans hnobody)
    rw [hd] at h
    cases h
    rw [hnone]
    exact ⟨⟨by simp, fun _ _ => rfl, rfl⟩, fun _ => ⟨rfl, rfl⟩⟩
  · rw [hd, hto] at h
    have hsome : w.meant c.target ≠ [] := by
      intro hnone
      rw [hto, hnone] at hsomebody
      exact hsomebody rfl
    cases hg : giveAll c.order ((w.meant c.target).map (·.1)) w with
    | mk outcome w₁ =>
      rw [hg] at h
      cases outcome with
      | error e => cases h
      | ok u =>
        cases h
        exact ⟨giveAll_served (meant_nodup hw _) (fun s hs => meant_found hw hs) hg, fun hnone => absurd hnone hsome⟩

/-- **A prompt serves those whom it means, and changes nothing else but the log.** -/
theorem prompt_effect {w w' : World} (hw : w.roster.keys.Nodup) {text : String} {c? : Option Command}
    (h : w.handlePrompt text = (.ok c?, w')) :
    Prompt.parse text = .ok c? ∧
    (w'.roster.keys = w.roster.keys ∧ w'.tiles = w.tiles ∧ w'.mapWidth = w.mapWidth ∧ w'.mapHeight = w.mapHeight ∧
      w'.tick = w.tick ∧ w'.nextId = w.nextId) ∧
    (c? = none → w'.roster = w.roster ∧ w'.rng = w.rng) ∧
    ∀ c, c? = some c →
      Served c.order (w.meant c.target) w w' ∧ (w.meant c.target = [] → w'.roster = w.roster ∧ w'.rng = w.rng) := by
  have hstays : Stays (fun _ _ => True) w w' := by
    have hs := handlePrompt_stays PutClosed.any w text
    rw [h] at hs
    exact hs
  have hframe : w'.roster.keys = w.roster.keys ∧ w'.tiles = w.tiles ∧ w'.mapWidth = w.mapWidth ∧
      w'.mapHeight = w.mapHeight ∧ w'.tick = w.tick ∧ w'.nextId = w.nextId :=
    ⟨hstays.roster.keys_eq, hstays.tiles, hstays.mapWidth, hstays.mapHeight, hstays.tick, hstays.nextId⟩
  rcases w.handlePrompt_cases text with ⟨-, hp, hh⟩ | ⟨-, ⟨e, -, hh⟩ | ⟨hp, hh⟩ | ⟨c, hp, hh⟩⟩
  · rw [hh] at h
    cases h
    exact ⟨hp, hframe, fun _ => ⟨rfl, rfl⟩, by simp⟩
  · rw [hh] at h
    cases h
  · rw [hh] at h
    cases h
    exact ⟨hp, hframe, fun _ => ⟨rfl, rfl⟩, by simp⟩
  · rw [hh] at h
    cases hd : (w.addMessage (echo text)).dispatch c with
    | mk outcome w₁ =>
      rw [hd] at h
      cases outcome with
      | error e => cases h
      | ok names =>
        cases h
        -- the echo is a matter of the log alone
        obtain ⟨hserved, hnobody⟩ := dispatch_served (w := w.addMessage (echo text)) hw hd
        refine ⟨hp, hframe, by simp, ?_⟩
        rintro c' ⟨⟩
        exact ⟨⟨hserved.each, hserved.others, hserved.rng⟩, hnobody⟩

/-- two agents, both sent exploring by one prompt: the second draws after the first -/
theorem prompt_effect_pair :
    let bot : Agent := { id := 1, name := "Bot", x := 4.0, y := 4.0 }
    let nova : Agent := { id := 2, name := "Nova", activity := .gathering, current := some (.gather "wood") }
    let w : World := { bare ⟨#[], 0⟩ 0.0 with roster := ⟨[(("bot" : Text), bot), ("nova", nova)]⟩ }
    w.roster.keys.Nodup ∧ ∃ w', w.handlePrompt " ALL  Explore" = (.ok (some ⟨"ALL", .explore⟩), w') ∧
      (∃ m, Order.explore.Means nova (w.rng.skip 2) m ∧ w'.agent? "NOVA" = some (nova.serve m)) ∧
      w'.rng = w.rng.skip 4 := by
  intro bot nova w
  have hw : w.roster.keys.Nodup := by decide
  have hok : (w.handlePrompt " ALL  Explore").1.toOption = some (some ⟨"ALL", .explore⟩) := by decide +kernel
  have hmeant : w.meant "ALL" = [(("bot" : Text), bot), ("nova", nova)] := by
    have hall : Text.fold "ALL" = "all" := by decide +kernel
    simp [meant, hall, w]
  cases h : w.handlePrompt " ALL  Explore" with
  | mk outcome w' =>
    rw [h] at hok
    cases outcome with
    | error e => cases hok
    | ok c? =>
      cases hok
      obtain ⟨-, -, -, heffect⟩ := prompt_effect hw h
      obtain ⟨hserved, -⟩ := heffect _ rfl
      rw [hmeant] at hserved
      have hkey : Roster.keyOf "NOVA" = "nova" := by decide +kernel
      have hnova := hserved.each 1 "nova" nova rfl
      rw [← hkey] at hnova
      exact ⟨hw, w', rfl, hnova, hserved.rng⟩

end World

end TileCrew
