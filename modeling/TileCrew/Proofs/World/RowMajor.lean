/-
Which tile comes from which draw. A map takes one real from the generator of its world for each of its tiles, row by row
from the top and each row from the left. The generator is followed by counting the reals that are taken from it.
- `advance`, `roll`: the generator once n reals are taken, and the real that comes next;
- `drawRow_getElem?`, `drawRow_advance`: a row of n tiles is made of the next n reals, in their order;
- `drawRows_getElem?`, `drawRows_advance`: row y of a grid is the row that is drawn once all rows above it are, and h rows
  of w tiles take w · h reals;
- `map_row_major`: **the tile in column x of row y comes from real y · width + x, the generator goes on behind the last
  of them, and there are tiles just within the size of the map.**
-/
import Mathlib.Logic.Function.Iterate
import TileCrew.Proofs.Grid.Tile
import TileCrew.World.State

namespace TileCrew

/-! ## Reals in turn -/

namespace Twister

/-- the generator after n reals -/
def advance (g : Twister) (n : Nat) : Twister := (fun g => g.nextReal.2)^[n] g

/-- the real to come after n others -/
def roll (g : Twister) (n : Nat) : Float := (g.advance n).nextReal.1

theorem advance_succ (g : Twister) (n : Nat) : g.advance (n + 1) = g.nextReal.2.advance n := rfl

theorem advance_advance (g : Twister) (m n : Nat) : (g.advance m).advance n = g.advance (m + n) := by
  rw [Nat.add_comm]
  exact (Function.iterate_add_apply _ n m g).symm

theorem roll_advance (g : Twister) (m n : Nat) : (g.advance m).roll n = g.roll (m + n) := by
  rw [roll, roll, advance_advance]

end Twister

namespace TileGrid

/-! ## Rows -/

theorem drawRow_advance (n : Nat) (g : Twister) : (drawRow n g).2 = g.advance n := by
  induction n generalizing g with
  | zero => rfl
  | succ n ih =>
    rw [Twister.advance_succ]
    exact ih g.nextReal.2

/-- the tile in column x of a row comes from real x -/
theorem drawRow_getElem? {n x : Nat} (hx : x < n) (g : Twister) :
    (drawRow n g).1[x]? = some (Tile.ofRoll (g.roll x)) := by
  induction n generalizing x g with
  | zero => omega
  | succ n ih =>
    cases x with
    | zero => rfl
    | succ x =>
      simp only [drawRow, List.getElem?_cons_succ]
      exact ih (by omega) g.nextReal.2

/-! ## Grids -/

theorem drawRows_advance (w h : Nat) (g : Twister) : (drawRows w h g).2 = g.advance (w * h) := by
  induction h generalizing g with
  | zero => rfl
  | succ h ih =>
    calc (drawRows w (h + 1) g).2
      _ = (drawRow w g).2.advance (w * h) := ih _
      _ = (g.advance w).advance (w * h) := by rw [drawRow_advance]
      _ = g.advance (w * (h + 1)) := by rw [Twister.advance_advance, Nat.mul_succ, Nat.add_comm]

/-- row y is drawn once the y rows above it are -/
theorem drawRows_getElem? {w h y : Nat} (hy : y < h) (g : Twister) :
    (drawRows w h g).1[y]? = some (drawRow w (g.advance (w * y))).1 := by
  induction h generalizing y g with
  | zero => omega
  | succ h ih =>
    cases y with
    | zero => rfl
    | succ y =>
      have hbehind : (drawRow w g).2.advance (w * y) = g.advance (w * (y + 1)) := by
        rw [drawRow_advance, Twister.advance_advance, Nat.mul_succ, Nat.add_comm]
      simp only [drawRows, List.getElem?_cons_succ]
      rw [ih (by omega), hbehind]

/-- the tile in column x of row y comes from real w · y + x -/
theorem drawRows_tileAt {w h x y : Nat} (hx : x < w) (hy : y < h) (g : Twister) :
    (drawRows w h g).1.tileAt x y = some (Tile.ofRoll (g.roll (w * y + x))) := by
  rw [tileAt_cast, drawRows_getElem? hy, Option.bind_some, drawRow_getElem? hx, Twister.roll_advance]

end TileGrid

namespace World

/-! ## Maps -/

/-- **A map is drawn row by row, with one real for each tile, and has tiles just within its size.** -/
theorem map_row_major (w : World) (width height : Nat) :
    let tiles := (w.drawMap width height).1
    let w' := (w.drawMap width height).2
    (w'.tiles = tiles ∧ tiles.Extent width height) ∧
    (∀ x y : Nat, x < width → y < height → tiles.tileAt x y = some (Tile.ofRoll (w.rng.roll (y * width + x)))) ∧
    w' = { w with tiles, rng := w.rng.advance (width * height), mapWidth := width, mapHeight := height } ∧
    ∀ x y : Int, (tiles.tileAt x y).isSome ↔ 0 ≤ x ∧ x < w'.mapWidth ∧ 0 ≤ y ∧ y < w'.mapHeight := by
  intro tiles w'
  have hextent : tiles.Extent width height := TileGrid.drawRows_extent width height w.rng
  have hrng : w'.rng = w.rng.advance (width * height) := TileGrid.drawRows_advance width height w.rng
  refine ⟨⟨rfl, hextent⟩, ?_, ?_, ?_⟩
  · intro x y hx hy
    rw [Nat.mul_comm y]
    exact TileGrid.drawRows_tileAt hx hy w.rng
  · rw [← hrng]
    rfl
  · intro x y
    exact hextent.tileAt_isSome x y

/-- two rows of three: the lower one begins with the fourth of six reals -/
theorem map_row_major_lower :
    let g : Twister := ⟨#[0, 0, 0x3000000, 0, 0x5000000, 0, 0x7000000], 0⟩
    let drawn := (bare g 0.0).drawMap 3 2
    drawn.1 = [[.grass, .sand, .stone], [.water, .grass, .grass]] ∧
      (0 < 3 ∧ 1 < 2 ∧ drawn.1.tileAt 0 1 = some (Tile.ofRoll (g.roll 3))) ∧ drawn.2.rng = g.advance 6 ∧
      (g.advance 6).index = 12 := by
  intro g drawn
  obtain ⟨-, hrolls, hworld, -⟩ := map_row_major (bare g 0.0) 3 2
  refine ⟨by decide +kernel, ⟨by decide, by decide, hrolls 0 1 (by decide) (by decide)⟩, ?_, by decide +kernel⟩
  exact congrArg World.rng hworld

end World

end TileCrew
