/-
The size of a map that is drawn. A grid of h rows with w tiles each has a tile exactly where column and row are below
these (`tileAt_isSome`), and a map is drawn as such a grid (`draw_extent`).
-/
import TileCrew.Grid.Tile

namespace TileCrew.TileGrid

theorem tileAt_cast (tiles : TileGrid) (x y : Nat) : tiles.tileAt x y = (tiles[y]?).bind (·[x]?) := by
  rw [tileAt, if_neg (by omega)]
  rfl

/-- the grid has h rows, and w tiles in each -/
structure Extent (tiles : TileGrid) (w h : Nat) : Prop where
  rows : tiles.length = h
  columns : ∀ row ∈ tiles, row.length = w

theorem drawRow_length (n : Nat) (g : Twister) : (drawRow n g).1.length = n := by
  induction n generalizing g with
  | zero => rfl
  | succ n ih => simp only [drawRow, List.length_cons, ih]

theorem drawRows_extent (w h : Nat) (g : Twister) : (drawRows w h g).1.Extent w h := by
  induction h generalizing g with
  | zero => exact ⟨rfl, by simp [drawRows]⟩
  | succ h ih =>
    obtain ⟨hrows, hcolumns⟩ := ih (drawRow w g).2
    refine ⟨by simp only [drawRows, List.length_cons, hrows], ?_⟩
    simp only [drawRows]
    exact List.forall_mem_cons.2 ⟨drawRow_length w g, hcolumns⟩

theorem draw_extent (width height : Int) (g : Twister) : (draw width height g).1.Extent width.toNat height.toNat :=
  drawRows_extent _ _ g

/-- there is a tile exactly at the columns and rows within the extent -/
theorem Extent.tileAt_isSome {tiles : TileGrid} {w h : Nat} (ht : tiles.Extent w h) (x y : Int) :
    (tiles.tileAt x y).isSome ↔ 0 ≤ x ∧ x < w ∧ 0 ≤ y ∧ y < h := by
  obtain ⟨hrows, hcolumns⟩ := ht
  unfold tileAt
  split
  · simp only [Option.isSome_none, Bool.false_eq_true, false_iff]; omega
  · cases hrow : tiles[y.toNat]? with
    | none =>
      have hy : h ≤ y.toNat := by rw [← hrows]; exact List.getElem?_eq_none_iff.1 hrow
      simp only [Option.bind_none, Option.isSome_none, Bool.false_eq_true, false_iff]
      omega
    | some row =>
      have hy : y.toNat < h := by rw [← hrows]; exact (List.getElem?_eq_some_iff.1 hrow).1
      have hw : row.length = w := hcolumns row (List.mem_of_getElem? hrow)
      simp only [Option.bind_some, isSome_getElem?, hw]
      omega

end TileCrew.TileGrid
