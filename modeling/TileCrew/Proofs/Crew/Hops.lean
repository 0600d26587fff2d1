/-
Where agents are sent to explore. A destination is drawn around the tile that the agent stands on and then brought onto
the map the agent was made for.
- `offset_bounds`: a draw moves by at most two columns or rows;
- `clamp_bounds`, `clamp_near`: what is brought onto a map lies on it, and for who stands on the map no further off;
- `put_reach`: every destination put into a queue is within reach (`Reach`);
- `Same`: who an agent is stays as it was made, whatever happens to it;
- `passage_aged`: time puts nothing into a queue, and what an agent comes to hold by it, it held before (`Aged.holds`).
-/
import Mathlib.Algebra.Order.Group.Int
import Mathlib.Algebra.Order.Group.Abs
import TileCrew.Proofs.Crew.Machine

namespace TileCrew

/-! ## Draws -/

theorem Twister.nextBelowFive_lt (fuel : Nat) (g : Twister) : (g.nextBelowFive fuel).1 < 5 := by
  induction fuel generalizing g with
  | zero => simp [nextBelowFive]
  | succ fuel ih =>
    rw [nextBelowFive]
    dsimp only
    split
    · assumption
    · exact ih _

theorem Twister.offset_bounds (g : Twister) : -2 ≤ g.nextOffset.1 ∧ g.nextOffset.1 ≤ 2 := by
  have h := nextBelowFive_lt 100000 g
  obtain ⟨⟨k, g'⟩, hk⟩ : ∃ draw, g.nextBelowFive 100000 = draw := ⟨_, rfl⟩
  rw [hk] at h
  simp only [nextOffset, hk]
  dsimp only at h
  omega

/-! ## Actions to explore -/

/-- the action is to explore that tile -/
def Action.isHop (x y : Int) : Action → Bool
  | .explore x' y' => x' == x && y' == y
  | _ => false

theorem Action.isHop_iff {m : Action} {x y : Int} : m.isHop x y = true ↔ m = .explore x y := by
  cases m <;> simp [isHop]

instance (a : Agent) (x y : Int) : Decidable (a.current = some (.explore x y)) :=
  decidable_of_iff (a.current.any (·.isHop x y) = true) (by simp [Option.any_eq_true, Action.isHop_iff])

namespace Agent

/-! ## Reach -/

/-- a tile of the map that the agent was made for -/
def Knows (a : Agent) (x y : Int) : Prop := 0 ≤ x ∧ x < a.mapWidth ∧ 0 ≤ y ∧ y < a.mapHeight

/-- a tile that the agent may be sent to: on its map, if that has tiles, and if it stands on the map no more than two
columns and rows off -/
structure Reach (a : Agent) (x y : Int) : Prop where
  known : 0 < a.mapWidth → 0 < a.mapHeight → a.Knows x y
  near : ∀ column row, a.tile = .ok (column, row) → a.Knows column row → |x - column| ≤ 2 ∧ |y - row| ≤ 2

theorem clamp_bounds (v : Int) {n : Int} (hn : 0 < n) : 0 ≤ clamp v 0 (n - 1) ∧ clamp v 0 (n - 1) < n := by
  unfold clamp
  omega

theorem clamp_near {place offset n : Int} (hlow : -2 ≤ offset) (hhigh : offset ≤ 2) (h₀ : 0 ≤ place) (hn : place < n) :
    |clamp (place + offset) 0 (n - 1) - place| ≤ 2 := by
  rw [abs_le]
  unfold clamp
  omega

/-- a destination is drawn around the tile that the agent stands on -/
theorem enqueueExplore_hop {a b : Agent} {g : Twister} {m : Action} (h : (a.enqueueExplore g).1 = .ok (b, m)) :
    ∃ column row, a.tile = .ok (column, row) ∧
      m = .explore (clamp (column + g.nextOffset.1) 0 (a.mapWidth - 1))
        (clamp (row + g.nextOffset.2.nextOffset.1) 0 (a.mapHeight - 1)) := by
  obtain ⟨⟨dx, g₁⟩, h₁⟩ : ∃ draw, g.nextOffset = draw := ⟨_, rfl⟩
  obtain ⟨⟨dy, g₂⟩, h₂⟩ : ∃ draw, g₁.nextOffset = draw := ⟨_, rfl⟩
  simp only [enqueueExplore, h₁, h₂] at h
  simp only [h₁, h₂, tile]
  cases hx : nearestTile a.x with
  | error e => rw [hx] at h; cases h
  | ok column =>
    cases hy : nearestTile a.y with
    | error e => rw [hx, hy] at h; cases h
    | ok row => rw [hx, hy] at h; cases h; exact ⟨column, row, rfl, rfl⟩

/-- every destination put into a queue is within the agent's reach -/
theorem put_reach {a b : Agent} {p : Put} {x y : Int} (h : a.put p = .ok (b, .action (.explore x y))) : a.Reach x y := by
  cases p with
  | move x' y' =>
    cases hm : a.enqueueMove x' y' with
    | error e => simp only [put, hm] at h; cases h
    | ok r =>
      simp only [put, hm] at h
      obtain ⟨-, x', y', hr⟩ := enqueueMove_eq hm
      injection h with h
      injection h with _ h
      injection h with h
      rw [h] at hr
      cases hr
  | explore g =>
    cases hm : (a.enqueueExplore g).1 with
    | error e => simp only [put, hm] at h; cases h
    | ok r =>
      simp only [put, hm] at h
      obtain ⟨column, row, ht, hr⟩ := enqueueExplore_hop hm
      injection h with h
      injection h with _ h
      injection h with h
      rw [h] at hr
      injection hr with hx hy
      obtain ⟨hdx, hdx'⟩ := g.offset_bounds
      obtain ⟨hdy, hdy'⟩ := g.nextOffset.2.offset_bounds
      rw [hx, hy]
      constructor
      · intro hw hh
        obtain ⟨h₁, h₂⟩ := clamp_bounds (column + g.nextOffset.1) hw
        obtain ⟨h₃, h₄⟩ := clamp_bounds (row + g.nextOffset.2.nextOffset.1) hh
        exact ⟨h₁, h₂, h₃, h₄⟩
      · intro column' row' ht' hk
        rw [ht] at ht'
        cases ht'
        exact ⟨clamp_near hdx hdx' hk.1 hk.2.1, clamp_near hdy hdy' hk.2.2.1 hk.2.2.2⟩
  | gather resource => cases h
  | build building => cases h
  | say message => cases h
  | unknown v => cases h

/-! ## What an agent holds -/

/-- the agent has a destination to explore, in its queue or before it -/
def Holds (a : Agent) (x y : Int) : Prop := .action (.explore x y) ∈ a.queue ∨ a.current = some (.explore x y)

theorem held_action {q : Queued} {m : Action} (h : q.held = some m) : q = .action m := by
  cases q with
  | unknown v => cases h
  | action m' => cases m' <;> cases h <;> rfl

/-! ## Who an agent is -/

/-- the same agent: what it was made with and keeps -/
structure Same (a b : Agent) : Prop where
  id : b.id = a.id
  name : b.name = a.name
  color : b.color = a.color
  mapWidth : b.mapWidth = a.mapWidth
  mapHeight : b.mapHeight = a.mapHeight

theorem Same.refl (a : Agent) : a.Same a := ⟨rfl, rfl, rfl, rfl, rfl⟩

theorem Same.trans {a b c : Agent} (h : a.Same b) (h' : b.Same c) : a.Same c :=
  ⟨h'.id.trans h.id, h'.name.trans h.name, h'.color.trans h.color, h'.mapWidth.trans h.mapWidth,
    h'.mapHeight.trans h.mapHeight⟩

theorem put_same {a b : Agent} {p : Put} {q : Queued} (h : a.put p = .ok (b, q)) : a.Same b := by
  rw [put_eq h]
  exact ⟨rfl, rfl, rfl, rfl, rfl⟩

/-- what time does to an agent, its place and its task apart: values go from the front of its queue, and it is at nothing,
at the same action, or at one of these values -/
structure Aged (a b : Agent) (out : List Queued) : Prop where
  same : a.Same b
  queue : a.queue = out ++ b.queue
  current : b.current = none ∨ b.current = a.current ∨ ∃ m, b.current = some m ∧ .action m ∈ out

theorem start_aged {a : Agent} {q : Queued} {rest : List Queued} (hq : a.queue = q :: rest) :
    a.Aged ({ a with queue := rest }.start q) [q] := by
  rw [start_eq]
  refine ⟨⟨rfl, rfl, rfl, rfl, rfl⟩, hq, ?_⟩
  cases hm : q.held with
  | none => exact .inl rfl
  | some m =>
    right; right
    exact ⟨m, rfl, by rw [held_action hm]; exact List.mem_cons_self⟩

theorem passage_aged {dt : Float} {a b : Agent} (h : Passage dt a b) : ∃ out, a.Aged b out := by
  rcases passage_frame h with ⟨q, rest, -, hq, rfl⟩ | ⟨x, y, activity, current, timer, inventory, hc, rfl⟩
  · exact ⟨[q], start_aged hq⟩
  · refine ⟨[], ⟨rfl, rfl, rfl, rfl, rfl⟩, rfl, ?_⟩
    rcases hc with hc | hc
    · exact .inr (.inl hc)
    · exact .inl hc

/-- time makes no destinations -/
theorem Aged.holds {a b : Agent} {out : List Queued} (h : a.Aged b out) {x y : Int} (hb : b.Holds x y) : a.Holds x y := by
  rcases hb with hb | hb
  · left
    rw [h.queue]
    exact List.mem_append_right out hb
  · rcases h.current with hc | hc | ⟨m, hc, hm⟩
    · rw [hc] at hb
      cases hb
    · right
      rw [← hc]
      exact hb
    · rw [hc] at hb
      cases hb
      left
      rw [h.queue]
      exact List.mem_append_left b.queue hm

end Agent

end TileCrew
