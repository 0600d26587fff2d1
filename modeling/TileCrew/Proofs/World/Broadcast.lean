/-
Commands for many. A command reaches its agents one after the other, and what the first were told is not taken back; still
none of them is told what another is not. Agents that stand somewhere take every order that is no move too far, and such
a move fails at the first of them, before anything is changed.
- `fits_of_near`: an order that does not go too far is one that every agent takes;
- `dispatch_near`, `dispatch_far`: a command that goes too far for nobody does not fail, and one that goes too far for
  somebody leaves the world as it was;
- `dispatch_names`: a command that does not fail gives the names of those whom it means;
- `dispatch_whole`: **a command is carried out for all whom it means, or it fails and the world is as it was; it fails
  exactly where it sends somebody further than doubles go**.
-/
import TileCrew.Proofs.Arithmetic.Overflow
import TileCrew.Proofs.World.Effect
import TileCrew.Proofs.World.Refusals

namespace TileCrew

/-- the order is a move to a column or a row too large for a double -/
def Order.Far (order : Order) : Prop :=
  ∃ x y, order = .move x y ∧ (Binary64.beyond ≤ x.natAbs ∨ Binary64.beyond ≤ y.natAbs)

/-- an order that does not go too far is one that fits -/
theorem Order.fits_of_near {order : Order} (h : ¬order.Far) : order.Fits := by
  intro x y hxy
  simp only [Option.isSome_iff_ne_none, ne_eq, Binary64.ofInt?_eq_none]
  exact ⟨fun hx => h ⟨x, y, hxy, .inl hx⟩, fun hy => h ⟨x, y, hxy, .inr hy⟩⟩

namespace World

/-- somebody is meant by the command, and it goes too far -/
def Overreaches (w : World) (c : Command) : Prop := w.meant c.target ≠ [] ∧ c.order.Far

theorem dispatch_names {w w' : World} (hw : w.roster.keys.Nodup) {c : Command} {names : List Text}
    (h : w.dispatch c = (.ok names, w')) : names = (w.meant c.target).map fun s => s.2.name := by
  have hto := addressed_eq hw c.target
  have hfound : ((w.meant c.target).map (·.1)).filterMap (fun key => (w.roster.find? key).map Agent.name) =
      (w.meant c.target).map fun s => s.2.name := by
    rw [List.filterMap_map, ← List.filterMap_eq_map]
    apply List.filterMap_congr
    intro s hs
    simp only [Function.comp_apply, meant_found hw hs, Option.map_some]
  rw [dispatch, dispatchTo] at h
  cases hkeys : w.addressed c.target with
  | nil =>
    rw [hkeys] at h
    cases h
    rw [← hfound, ← hto, hkeys]
    rfl
  | cons key keys =>
    rw [hkeys] at h
    dsimp only at h
    cases hg : giveAll c.order (key :: keys) w with
    | mk outcome w₁ =>
      rw [hg] at h
      cases outcome with
      | error e => cases h
      | ok u =>
        cases h
        rw [← hfound, ← hto, hkeys]

/-- a command that goes too far for somebody fails, and the world is as it was -/
theorem dispatch_far {w : World} (hw : w.roster.keys.Nodup) {c : Command} (h : w.Overreaches c) :
    ∃ e, w.dispatch c = (.error e, w) := by
  obtain ⟨hmeant, x, y, hxy, hfar⟩ := h
  rw [← Binary64.ofInt?_eq_none, ← Binary64.ofInt?_eq_none] at hfar
  have hmeans := addressed_eq hw c.target
  cases hkeys : w.addressed c.target with
  | nil =>
    rw [hkeys] at hmeans
    exact absurd (List.map_eq_nil_iff.1 hmeans.symm) hmeant
  | cons key keys =>
    have hto : key ∈ w.addressed c.target := by rw [hkeys]; exact List.mem_cons_self
    have hkey : key ∈ w.roster.keys := addressed_keys hto
    obtain ⟨e, he⟩ := giveAll_fails hfar hkey keys
    refine ⟨e, ?_⟩
    rw [dispatch, dispatchTo, hkeys, hxy]
    simp only [he]
    rfl

/-- a command that goes too far for nobody does not fail -/
theorem dispatch_near {w : World} (hw : w.roster.keys.Nodup) (hplaced : ∀ a ∈ w.roster.agents, a.Placed) {c : Command}
    (h : ¬w.Overreaches c) : ∃ names, (w.dispatch c).1 = .ok names := by
  have hmeans := addressed_eq hw c.target
  rw [dispatch, dispatchTo]
  cases hkeys : w.addressed c.target with
  | nil => exact ⟨[], rfl⟩
  | cons key keys =>
    have hmeant : w.meant c.target ≠ [] := by
      intro hnone
      rw [hkeys, hnone] at hmeans
      cases hmeans
    have hfits : c.order.Fits := Order.fits_of_near fun hfar => h ⟨hmeant, hfar⟩
    have hok := giveAll_ok hfits (key :: keys) (placed_of_agents hplaced)
    dsimp only
    cases hg : giveAll c.order (key :: keys) w with
    | mk outcome w' =>
      rw [hg] at hok
      cases hok
      exact ⟨_, rfl⟩

/-- **A command is carried out for all whom it means, or the world is as it was.** -/
theorem dispatch_whole {w : World} (hw : w.roster.keys.Nodup) (hplaced : ∀ a ∈ w.roster.agents, a.Placed) (c : Command) :
    (¬w.Overreaches c → ∃ w', w.dispatch c = (.ok ((w.meant c.target).map fun s => s.2.name), w') ∧
      Served c.order (w.meant c.target) w w') ∧
    (w.Overreaches c → ∃ e, w.dispatch c = (.error e, w)) := by
  refine ⟨?_, dispatch_far hw⟩
  intro hnear
  obtain ⟨names, hok⟩ := dispatch_near hw hplaced hnear
  cases hd : w.dispatch c with
  | mk outcome w' =>
    rw [hd] at hok
    cases hok
    obtain rfl := dispatch_names hw hd
    exact ⟨w', rfl, (dispatch_served hw hd).1⟩

/-- two agents, of whom one works: both are sent exploring, and neither is sent beyond all doubles -/
theorem dispatch_whole_pair :
    let bot : Agent := { id := 1, name := "Bot", x := 1e300, y := -0.5 }
    let nova : Agent := { id := 2, name := "Nova", activity := .gathering, current := some (.gather "wood") }
    let w : World := { bare ⟨#[], 0⟩ 0.0 with roster := ⟨[(("bot" : Text), bot), ("nova", nova)]⟩ }
    let far : Command := ⟨"all", .move 0 (-10 ^ 309)⟩
    (w.roster.keys.Nodup ∧ (∀ a ∈ w.roster.agents, a.Placed) ∧ ¬w.Overreaches ⟨"all", .explore⟩ ∧ w.Overreaches far) ∧
      (∃ w', w.dispatch ⟨"all", .explore⟩ = (.ok ["Bot", "Nova"], w') ∧
        ∃ m, Order.explore.Means nova (w.rng.skip 2) m ∧ w'.roster.find? "nova" = some (nova.serve m)) ∧
      ∃ e, w.dispatch far = (.error e, w) := by
  intro bot nova w far
  have hw : w.roster.keys.Nodup := by decide
  have hplaced : ∀ a ∈ w.roster.agents, a.Placed := by
    simp only [w, Roster.agents, Agent.Placed]
    decide +kernel
  have hmeant : w.meant "all" = [(("bot" : Text), bot), ("nova", nova)] := by
    have hall : Text.fold "all" = "all" := by decide +kernel
    simp [meant, hall, w]
  have hnear : ¬w.Overreaches ⟨"all", .explore⟩ := by
    rintro ⟨-, x, y, hxy, -⟩
    cases hxy
  have hfar : w.Overreaches far := by
    refine ⟨by rw [hmeant]; simp, 0, -10 ^ 309, rfl, .inr ?_⟩
    decide +kernel
  obtain ⟨w', hd, hserved⟩ := (dispatch_whole hw hplaced ⟨"all", .explore⟩).1 hnear
  rw [hmeant] at hd hserved
  exact ⟨⟨hw, hplaced, hnear, hfar⟩, ⟨w', hd, hserved.each 1 "nova" nova rfl⟩, (dispatch_whole hw hplaced far).2 hfar⟩

end World

end TileCrew
