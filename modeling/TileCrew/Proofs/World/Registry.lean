/-
Who is registered. Agents are added and removed (`Change`); an addition that fails changes nothing.
- `change_cases`: the three things that a change can come to;
- `find?_changes`: an agent is found under a key exactly where the last change of that key that took effect added it;
- `keys_arrived`: the keys stand in the order in which they last came, and a replacement is no arrival;
- `created_ids`: ids grow with every agent created, whatever becomes of it;
- `registry_law`: **the registry of a fresh world is a map where the last addition counts, with slots that stay in place
  and ids that are never used twice**.
-/
import Mathlib.Data.List.Induction
import TileCrew.Proofs.Crew.Roster
import TileCrew.World.State

namespace TileCrew

/-! ## Changes -/

/-- an agent is added or a name is removed -/
inductive Change where
  | add (name : Text) (x y : Number) (color : Text)
  | remove (name : Text)

namespace World

/-- the world after a change; an addition that fails leaves it as it was -/
def change (w : World) : Change → World
  | .add name x y color =>
    match w.addAgent name x y color with
    | .ok (_, w') => w'
    | .error _ => w
  | .remove name => w.removeAgent name

def changes (w : World) (cs : List Change) : World := cs.foldl change w

/-- the agents that a change creates: one, or none -/
def created (w : World) : Change → List Agent
  | .add name x y color =>
    match w.addAgent name x y color with
    | .ok (a, _) => [a]
    | .error _ => []
  | .remove _ => []

/-- the agents that changes create, in order -/
def creations (w : World) : List Change → List Agent
  | [] => []
  | c :: cs => w.created c ++ creations (w.change c) cs

end World

namespace Change

/-- the change, if it takes effect, is one of the key: an addition with coordinates that have doubles, or a removal -/
def Touches (key : Text) : Change → Prop
  | add name x y _ => Text.fold name = key ∧ x.toFloat?.isSome ∧ y.toFloat?.isSome
  | remove name => Text.fold name = key

end Change

namespace World

/-- the agent that a world makes of a name, a point and a colour -/
def newAgent (w : World) (name : Text) (x y : Float) (color : Text) : Agent :=
  { id := w.nextId, name, x, y, color, mapWidth := w.mapWidth, mapHeight := w.mapHeight }

def enrol (w : World) (a : Agent) : World :=
  { w with nextId := w.nextId + 1, roster := w.roster.put (Roster.keyOf a.name) a }

/-- an addition takes place exactly where both coordinates have doubles -/
theorem addAgent_cases (w : World) (name : Text) (x y : Number) (color : Text) :
    (w.addAgent name x y color = .error .tooLargeForReal ∧ ¬(x.toFloat?.isSome ∧ y.toFloat?.isSome)) ∨
      ∃ x' y', x.toFloat? = some x' ∧ y.toFloat? = some y' ∧
        w.addAgent name x y color = .ok (w.newAgent name x' y' color, w.enrol (w.newAgent name x' y' color)) := by
  cases hx : x.toFloat? with
  | none => left; simp [addAgent, hx]
  | some x' =>
    cases hy : y.toFloat? with
    | none => left; simp [addAgent, hx, hy]
    | some y' => right; exact ⟨x', y', rfl, rfl, by simp only [addAgent, hx, hy]; rfl⟩

/-- the change enrols this new agent, which has nothing to do yet -/
structure Enrols (w : World) (c : Change) (a : Agent) : Prop where
  world : w.change c = w.enrol a
  created : w.created c = [a]
  id : a.id = w.nextId
  mapWidth : a.mapWidth = w.mapWidth
  mapHeight : a.mapHeight = w.mapHeight
  queue : a.queue = []
  current : a.current = none
  touches : ∀ key, c.Touches key ↔ Roster.keyOf a.name = key
  added : ∃ name x y color, c = .add name x y color ∧ w.addAgent name x y color = .ok (a, w.enrol a) ∧ a.name = name

/-- a change has no effect and touches no key, or enrols a new agent, or removes a name -/
theorem change_cases (w : World) (c : Change) :
    (w.change c = w ∧ w.created c = [] ∧ ∀ key, ¬c.Touches key) ∨
      (∃ a, w.Enrols c a) ∨
      ∃ name, c = .remove name ∧ w.change c = w.removeAgent name ∧ w.created c = [] := by
  cases c with
  | remove name => exact .inr (.inr ⟨name, rfl, rfl, rfl⟩)
  | add name x y color =>
    rcases w.addAgent_cases name x y color with ⟨h, hn⟩ | ⟨x', y', hx, hy, h⟩
    · left
      refine ⟨by simp only [change, h], by simp only [created, h], ?_⟩
      intro key ht
      exact hn ht.2
    · right; left
      refine ⟨w.newAgent name x' y' color, by simp only [change, h], by simp only [created, h], rfl, rfl, rfl, rfl, rfl,
        ?_, name, x, y, color, rfl, h, rfl⟩
      intro key
      simp only [Change.Touches, hx, hy, Option.isSome_some, and_self, and_true]
      rfl

theorem changes_append (w : World) (cs : List Change) (c : Change) :
    w.changes (cs ++ [c]) = (w.changes cs).change c := by
  simp [changes, List.foldl_append]

/-! ## The agent under a key -/

theorem change_sound {w : World} (c : Change) (h : w.roster.Sound) : (w.change c).roster.Sound := by
  rcases w.change_cases c with ⟨hc, -⟩ | ⟨a, ha⟩ | ⟨name, -, hc, -⟩
  · rw [hc]; exact h
  · rw [ha.world]; exact h.put a
  · rw [hc]; exact h.remove _

theorem changes_sound {w : World} (cs : List Change) (h : w.roster.Sound) : (w.changes cs).roster.Sound := by
  induction cs generalizing w with
  | nil => exact h
  | cons c cs ih => exact ih (change_sound c h)

theorem change_untouched {w : World} {c : Change} {key : Text} (h : ¬c.Touches key) :
    (w.change c).roster.find? key = w.roster.find? key := by
  rcases w.change_cases c with ⟨hc, -⟩ | ⟨a, ha⟩ | ⟨name, rfl, hc, -⟩
  · rw [hc]
  · rw [ha.world]
    apply Roster.find?_put_ne
    intro hk
    exact h ((ha.touches key).2 hk.symm)
  · rw [hc]
    apply Roster.find?_remove_ne
    intro hk
    exact h hk.symm

/-- where a change of the key puts an agent, it is the one that the addition returns -/
theorem change_touched {w : World} {c : Change} {key : Text} (h : c.Touches key) {a : Agent} :
    (w.change c).roster.find? key = some a ↔
      ∃ name x y color w', c = .add name x y color ∧ w.addAgent name x y color = .ok (a, w') ∧ Text.fold name = key := by
  rcases w.change_cases c with ⟨-, -, hn⟩ | ⟨b, hnew⟩ | ⟨name, rfl, hc, -⟩
  · exact absurd h (hn key)
  · obtain ⟨name, x, y, color, rfl, hb, hname⟩ := hnew.added
    have hk : Roster.keyOf b.name = key := (hnew.touches key).1 h
    have hf : (w.change (.add name x y color)).roster.find? key = some b := by
      rw [hnew.world, ← hk]; exact Roster.find?_put_self _ _ b
    rw [hf]
    constructor
    · rintro ⟨⟩
      exact ⟨name, x, y, color, _, rfl, hb, hname ▸ hk⟩
    · rintro ⟨_, _, _, _, _, ⟨⟩, hadd, -⟩
      rw [hb] at hadd
      cases hadd
      rfl
  · have hf : (w.change (.remove name)).roster.find? key = none := by
      rw [hc, ← show Roster.keyOf name = key from h]; exact Roster.find?_remove_self _ _
    rw [hf]
    constructor
    · rintro ⟨⟩
    · rintro ⟨_, _, _, _, _, ⟨⟩, -⟩

/-- the last change of the key that took effect was an addition, and returned this agent -/
def LastAdded (w : World) (cs : List Change) (key : Text) (a : Agent) : Prop :=
  ∃ before name x y color after w', cs = before ++ .add name x y color :: after ∧
    (w.changes before).addAgent name x y color = .ok (a, w') ∧ Text.fold name = key ∧ ∀ c ∈ after, ¬c.Touches key

theorem lastAdded_untouched {w : World} {cs : List Change} {c : Change} {key : Text} {a : Agent} (h : ¬c.Touches key) :
    w.LastAdded (cs ++ [c]) key a ↔ w.LastAdded cs key a := by
  constructor
  · rintro ⟨before, name, x, y, color, after, w', hcs, hadd, hkey, hafter⟩
    rcases List.eq_nil_or_concat after with rfl | ⟨after', d, rfl⟩
    · obtain ⟨-, hc⟩ := List.append_inj' hcs rfl
      rw [List.singleton_inj.1 hc] at h
      rcases (w.changes before).addAgent_cases name x y color with ⟨he, -⟩ | ⟨x', y', hx, hy, -⟩
      · rw [he] at hadd; cases hadd
      · exact absurd ⟨hkey, by rw [hx]; rfl, by rw [hy]; rfl⟩ h
    · rw [List.concat_eq_append, ← List.cons_append, ← List.append_assoc] at hcs
      obtain ⟨rfl, -⟩ := List.append_inj' hcs rfl
      exact ⟨before, name, x, y, color, after', w', rfl, hadd, hkey, fun d hd => hafter d (by simp [hd])⟩
  · rintro ⟨before, name, x, y, color, after, w', rfl, hadd, hkey, hafter⟩
    refine ⟨before, name, x, y, color, after ++ [c], w', by simp, hadd, hkey, ?_⟩
    intro d hd
    rcases List.mem_append.1 hd with hd | hd
    · exact hafter d hd
    · rw [List.mem_singleton.1 hd]; exact h

theorem lastAdded_touched {w : World} {cs : List Change} {c : Change} {key : Text} {a : Agent} (h : c.Touches key) :
    w.LastAdded (cs ++ [c]) key a ↔
      ∃ name x y color w', c = .add name x y color ∧ (w.changes cs).addAgent name x y color = .ok (a, w') ∧
        Text.fold name = key := by
  constructor
  · rintro ⟨before, name, x, y, color, after, w', hcs, hadd, hkey, hafter⟩
    rcases List.eq_nil_or_concat after with rfl | ⟨after', d, rfl⟩
    · obtain ⟨rfl, hc⟩ := List.append_inj' hcs rfl
      exact ⟨name, x, y, color, w', List.singleton_inj.1 hc, hadd, hkey⟩
    · rw [List.concat_eq_append, ← List.cons_append, ← List.append_assoc] at hcs
      obtain ⟨-, hc⟩ := List.append_inj' hcs rfl
      rw [List.singleton_inj.1 hc] at h
      exact absurd h (hafter d (by simp))
  · rintro ⟨name, x, y, color, w', rfl, hadd, hkey⟩
    exact ⟨cs, name, x, y, color, [], w', rfl, hadd, hkey, by simp⟩

/-- an agent is found exactly where the last change of its key that took effect added it -/
theorem find?_changes {w : World} (hw : w.roster = {}) (cs : List Change) (key : Text) (a : Agent) :
    (w.changes cs).roster.find? key = some a ↔ w.LastAdded cs key a := by
  induction cs using List.reverseRecOn with
  | nil =>
    have hf : (w.changes []).roster.find? key = none := by rw [show w.changes [] = w from rfl, hw]; rfl
    rw [hf]
    constructor
    · rintro ⟨⟩
    · rintro ⟨before, _, _, _, _, _, _, hcs, -⟩
      exact absurd hcs (by simp)
  | append_singleton cs c ih =>
    rw [changes_append]
    by_cases ht : c.Touches key
    · rw [change_touched ht, lastAdded_touched ht]
    · rw [change_untouched ht, lastAdded_untouched ht, ih]

/-! ## The order of the slots -/

/-- the key came with change i for the last time: it was absent before and has been present since -/
def Arrived (w : World) (cs : List Change) (key : Text) (i : Nat) : Prop :=
  i < cs.length ∧ key ∉ (w.changes (cs.take i)).roster.keys ∧
    ∀ j, i < j → j ≤ cs.length → key ∈ (w.changes (cs.take j)).roster.keys

section

variable {w : World} {cs : List Change} {c : Change} {key : Text} {i : Nat}

theorem arrived_present (hold : key ∈ (w.changes cs).roster.keys) (hnew : key ∈ (w.changes (cs ++ [c])).roster.keys) :
    w.Arrived (cs ++ [c]) key i ↔ w.Arrived cs key i := by
  have hlen : (cs ++ [c]).length = cs.length + 1 := by simp
  constructor
  · rintro ⟨hi, habs, hsince⟩
    have hic : i < cs.length := by
      by_contra hn
      obtain rfl : i = cs.length := by omega
      rw [List.take_left] at habs
      exact habs hold
    rw [List.take_append_of_le_length (Nat.le_of_lt hic)] at habs
    refine ⟨hic, habs, ?_⟩
    intro j hj hjc
    have h := hsince j hj (by omega)
    rwa [List.take_append_of_le_length hjc] at h
  · rintro ⟨hi, habs, hsince⟩
    refine ⟨by omega, by rwa [List.take_append_of_le_length (Nat.le_of_lt hi)], ?_⟩
    intro j hj hjc
    rcases Nat.lt_or_ge cs.length j with hlast | hjc'
    · obtain rfl : j = (cs ++ [c]).length := by omega
      rwa [List.take_length]
    · rw [List.take_append_of_le_length hjc']
      exact hsince j hj hjc'

theorem arrived_absent (hold : key ∉ (w.changes cs).roster.keys) (hnew : key ∈ (w.changes (cs ++ [c])).roster.keys) :
    w.Arrived (cs ++ [c]) key i ↔ i = cs.length := by
  have hlen : (cs ++ [c]).length = cs.length + 1 := by simp
  constructor
  · rintro ⟨hi, -, hsince⟩
    by_contra hn
    have h := hsince cs.length (by omega) (by omega)
    rw [List.take_left] at h
    exact hold h
  · rintro rfl
    refine ⟨by omega, by rwa [List.take_left], ?_⟩
    intro j hj hjc
    obtain rfl : j = (cs ++ [c]).length := by omega
    rwa [List.take_length]

end

/-- every key has arrived, and the keys stand in the order in which they did -/
structure InOrder (w : World) (cs : List Change) : Prop where
  arrived : ∀ key ∈ (w.changes cs).roster.keys, ∃ i, w.Arrived cs key i
  order : (w.changes cs).roster.keys.Pairwise fun k l => ∀ i j, w.Arrived cs k i → w.Arrived cs l j → i < j

theorem inOrder_sublist {w : World} {cs : List Change} {c : Change} (h : w.InOrder cs)
    (hs : (w.changes (cs ++ [c])).roster.keys.Sublist (w.changes cs).roster.keys) : w.InOrder (cs ++ [c]) := by
  have same {key : Text} (hk : key ∈ (w.changes (cs ++ [c])).roster.keys) (i : Nat) :
      w.Arrived (cs ++ [c]) key i ↔ w.Arrived cs key i := arrived_present (hs.subset hk) hk
  constructor
  · intro key hk
    obtain ⟨i, hi⟩ := h.arrived key (hs.subset hk)
    exact ⟨i, (same hk i).2 hi⟩
  · apply (h.order.sublist hs).imp_of_mem
    intro k l hk hl hkl i j hi hj
    exact hkl i j ((same hk i).1 hi) ((same hl j).1 hj)

theorem inOrder_new {w : World} {cs : List Change} {c : Change} {key : Text} (h : w.InOrder cs)
    (hnew : key ∉ (w.changes cs).roster.keys)
    (hkeys : (w.changes (cs ++ [c])).roster.keys = (w.changes cs).roster.keys ++ [key]) : w.InOrder (cs ++ [c]) := by
  have old {k : Text} (hk : k ∈ (w.changes cs).roster.keys) (i : Nat) :
      w.Arrived (cs ++ [c]) k i ↔ w.Arrived cs k i := arrived_present hk (by rw [hkeys]; simp [hk])
  have last (i : Nat) : w.Arrived (cs ++ [c]) key i ↔ i = cs.length := arrived_absent hnew (by rw [hkeys]; simp)
  constructor
  · intro k hk
    rw [hkeys] at hk
    rcases List.mem_append.1 hk with hk | hk
    · obtain ⟨i, hi⟩ := h.arrived k hk
      exact ⟨i, (old hk i).2 hi⟩
    · rw [List.mem_singleton.1 hk]
      exact ⟨cs.length, (last _).2 rfl⟩
  · rw [hkeys, List.pairwise_append]
    refine ⟨?_, List.pairwise_singleton _ _, ?_⟩
    · apply h.order.imp_of_mem
      intro k l hk hl hkl i j hi hj
      exact hkl i j ((old hk i).1 hi) ((old hl j).1 hj)
    · intro k hk l hl i j hi hj
      rw [List.mem_singleton.1 hl] at hj
      rw [(last j).1 hj]
      exact ((old hk i).1 hi).1

/-- **Keys stand in the order in which they last came.** -/
theorem keys_arrived {w : World} (hw : w.roster = {}) (cs : List Change) : w.InOrder cs := by
  induction cs using List.reverseRecOn with
  | nil =>
    have hk : (w.changes []).roster.keys = [] := by rw [show w.changes [] = w from rfl, hw]; rfl
    exact ⟨by simp [hk], by rw [hk]; exact .nil⟩
  | append_singleton cs c ih =>
    have hstep := changes_append w cs c
    rcases (w.changes cs).change_cases c with ⟨hc, -⟩ | ⟨a, ha⟩ | ⟨name, -, hc, -⟩
    · exact inOrder_sublist ih (by rw [hstep, hc])
    · by_cases hk : Roster.keyOf a.name ∈ (w.changes cs).roster.keys
      · exact inOrder_sublist ih (by rw [hstep, ha.world]; exact (Roster.keys_put_old a hk) ▸ .refl _)
      · exact inOrder_new ih hk (by rw [hstep, ha.world]; exact Roster.keys_put_new a hk)
    · refine inOrder_sublist ih ?_
      rw [hstep, hc]
      exact (Roster.keys_remove _ _) ▸ List.filter_sublist

/-! ## Creations -/

theorem change_agents {w : World} {c : Change} {a : Agent} (ha : a ∈ (w.change c).roster.agents) :
    a ∈ w.roster.agents ∨ a ∈ w.created c := by
  rcases w.change_cases c with ⟨hc, -⟩ | ⟨b, hb⟩ | ⟨name, -, hc, -⟩
  · rw [hc] at ha; exact .inl ha
  · rw [hb.world] at ha
    obtain ⟨s, hs, rfl⟩ := List.mem_map.1 ha
    rcases Roster.mem_put hs with rfl | hs
    · right; rw [hb.created]; exact List.mem_singleton_self b
    · exact .inl (List.mem_map_of_mem hs)
  · rw [hc] at ha
    obtain ⟨s, hs, rfl⟩ := List.mem_map.1 ha
    exact .inl (List.mem_map_of_mem (List.mem_filter.1 hs).1)

theorem changes_agents {w : World} {cs : List Change} {a : Agent} (ha : a ∈ (w.changes cs).roster.agents) :
    a ∈ w.roster.agents ∨ a ∈ w.creations cs := by
  induction cs generalizing w with
  | nil => exact .inl ha
  | cons c cs ih =>
    rcases ih ha with h | h
    · exact (change_agents h).imp_right (List.mem_append_left _)
    · exact .inr (List.mem_append_right _ h)

/-- a change that creates an agent gives it the next id and counts on; another keeps the count -/
theorem change_nextId (w : World) (c : Change) :
    (w.created c = [] ∧ (w.change c).nextId = w.nextId) ∨
      ∃ a, w.created c = [a] ∧ a.id = w.nextId ∧ (w.change c).nextId = w.nextId + 1 := by
  rcases w.change_cases c with ⟨hc, hb, -⟩ | ⟨a, ha⟩ | ⟨name, -, hc, hb⟩
  · exact .inl ⟨hb, by rw [hc]⟩
  · exact .inr ⟨a, ha.created, ha.id, by rw [ha.world]; rfl⟩
  · exact .inl ⟨hb, by rw [hc]; rfl⟩

/-- the ids of the agents created grow, from the count before to that after -/
theorem created_ids (w : World) (cs : List Change) :
    (w.creations cs).Pairwise (·.id < ·.id) ∧ w.nextId ≤ (w.changes cs).nextId ∧
      ∀ a ∈ w.creations cs, w.nextId ≤ a.id ∧ a.id < (w.changes cs).nextId := by
  induction cs generalizing w with
  | nil => exact ⟨.nil, Nat.le_refl _, by simp [creations]⟩
  | cons c cs ih =>
    obtain ⟨hpair, hle, hids⟩ := ih (w.change c)
    have hnext : w.changes (c :: cs) = (w.change c).changes cs := rfl
    rw [creations, hnext]
    rcases w.change_nextId c with ⟨hb, hn⟩ | ⟨a, hb, hid, hn⟩
    · rw [hb, List.nil_append]
      rw [hn] at hle hids
      exact ⟨hpair, hle, hids⟩
    · rw [hb, List.singleton_append]
      refine ⟨List.pairwise_cons.2 ⟨?_, hpair⟩, by omega, ?_⟩
      · intro b hm
        have h := (hids b hm).1
        omega
      · intro b hm
        rcases List.mem_cons.1 hm with rfl | hm
        · omega
        · have h := hids b hm
          omega

/-! ## The registry of a fresh world -/

/-- **The registry is a map in which the last addition counts, its slots stay in place, and ids are never used twice.** An
addition succeeds just if its coordinates have doubles, and then returns the agent that is there from then on. -/
theorem registry_law (rng : Twister) (clock : Float) (cs : List Change) :
    let w₀ := bare rng clock
    let w := w₀.changes cs
    (∀ name, (∀ a, w.agent? name = some a ↔ w₀.LastAdded cs (Text.fold name) a) ∧
      (w.agent? name = none ↔ ∀ a, ¬w₀.LastAdded cs (Text.fold name) a)) ∧
    ((∀ a, a ∈ w.roster.agents ↔ w.agent? a.name = some a) ∧ (w.roster.agents.map fun a => Text.fold a.name).Nodup) ∧
    ((∀ a ∈ w.roster.agents, ∃ i, w₀.Arrived cs (Text.fold a.name) i) ∧
      w.roster.agents.Pairwise fun a b =>
        ∀ i j, w₀.Arrived cs (Text.fold a.name) i → w₀.Arrived cs (Text.fold b.name) j → i < j) ∧
    ((w₀.creations cs).Pairwise (·.id < ·.id) ∧ (∀ a ∈ w₀.creations cs, a.id < w.nextId) ∧
      ∀ a ∈ w.roster.agents, a ∈ w₀.creations cs) ∧
    ∀ name x y color,
      (∀ x' y', x.toFloat? = some x' → y.toFloat? = some y' → ∃ a w', w.addAgent name x y color = .ok (a, w') ∧
        w.change (.add name x y color) = w' ∧ w'.agent? name = some a ∧ a.id = w.nextId ∧
        a.name = name ∧ a.x = x' ∧ a.y = y' ∧ a.color = color) ∧
      (¬(x.toFloat?.isSome ∧ y.toFloat?.isSome) →
        w.addAgent name x y color = .error .tooLargeForReal ∧ w.change (.add name x y color) = w) := by
  intro w₀ w
  have hsound : w.roster.Sound := changes_sound cs Roster.sound_empty
  have hfound (name : Text) (a : Agent) : w.agent? name = some a ↔ w₀.LastAdded cs (Text.fold name) a :=
    find?_changes rfl cs _ a
  have horder := keys_arrived (w := w₀) rfl cs
  obtain ⟨hpair, -, hids⟩ := w₀.created_ids cs
  refine ⟨?_, ⟨fun a => hsound.mem_agents, ?_⟩, ⟨?_, ?_⟩, ⟨hpair, fun a ha => (hids a ha).2, ?_⟩, ?_⟩
  · intro name
    refine ⟨hfound name, ?_⟩
    simp only [← hfound name, Option.eq_none_iff_forall_ne_some, ne_eq]
  · have h := hsound.nodup
    rwa [hsound.keys_eq] at h
  · intro a ha
    apply horder.arrived
    rw [hsound.keys_eq]
    exact List.mem_map_of_mem ha
  · have h := horder.order
    rwa [hsound.keys_eq, List.pairwise_map] at h
  · intro a ha
    exact (changes_agents ha).resolve_left (by simp [w₀, bare, Roster.agents])
  · intro name x y color
    rcases w.addAgent_cases name x y color with ⟨he, hn⟩ | ⟨x', y', hx, hy, hadd⟩
    · refine ⟨fun x' y' hx hy => absurd ⟨by rw [hx]; rfl, by rw [hy]; rfl⟩ hn, fun _ => ⟨he, ?_⟩⟩
      simp only [change, he]
    · refine ⟨?_, fun hn => absurd ⟨by rw [hx]; rfl, by rw [hy]; rfl⟩ hn⟩
      intro x'' y'' hx' hy'
      cases hx.symm.trans hx'
      cases hy.symm.trans hy'
      refine ⟨_, _, hadd, by simp only [change, hadd], ?_, rfl, rfl, rfl, rfl, rfl⟩
      exact Roster.find?_put_self _ _ _

/-- a replacement takes the slot over, what is removed and added again comes last -/
example :
    let w := (bare ⟨#[], 0⟩ 0.0).changes
      [.add "Bot" (.whole 0) (.whole 0) "red", .add "Nova" (.whole 1) (.whole 1) "blue",
        .add "Echo" (.whole 2) (.whole 2) "red", .remove "NOVA", .add "BOT" (.whole 3) (.whole 3) "red",
        .add "Nova" (.whole 4) (.whole 4) "blue"]
    w.roster.agents.map (fun a => (a.name, a.id)) = [(("BOT" : Text), 4), ("Echo", 3), ("Nova", 5)] := by
  decide +kernel

end World

end TileCrew
