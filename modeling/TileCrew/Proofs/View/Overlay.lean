/-
Agents over the map. Agents are put over the tiles one after the other; what is seen in a place in the end is the last
agent that stands there, or the tile (`Sees`).
- `overlay_off`, `overlay_on`: an agent off the map changes nothing, whatever its colour; one on a tile covers that tile,
  if its colour has a style;
- `grid_covers`: the grid has the shape of the tiles, and in every place what is to be seen there;
- `agents_overlaid`: **the lines of the map show just that, and off the map nobody counts. There are lines just if the
  colour of everybody on the map has a style**, else the fault is that of the first whose colour has none;
- `overlay_fails`: a map without lines, for a colour that is no colour.
-/
import TileCrew.Proofs.Outcomes
import TileCrew.Proofs.Arithmetic.HalfUp
import TileCrew.Proofs.Grid.Tile
import TileCrew.Proofs.View.Glyphs

namespace TileCrew.MapLines

/-! ## What is to be seen -/

def standsAt (x y : Nat) (a : AgentView) : Bool :=
  match cellOf a with
  | .ok p => p = ((x : Int), (y : Int))
  | .error _ => false

def topAt (agents : List AgentView) (x y : Nat) : Option AgentView := (agents.filter (standsAt x y)).getLast?

/-- what is seen in a place with a tile: the last agent that stands there, or the tile -/
inductive Sees (agents : List AgentView) (x y : Nat) (t : Tile) : Cell → Prop where
  | tile (h : topAt agents x y = none) : Sees agents x y t (ofTile t)
  | agent {a : AgentView} {style : Text} (h : topAt agents x y = some a)
      (hstyle : Style.agentStyle a.color = .ok style) :
    Sees agents x y t ⟨initial a.name, style⟩

def isOnTile (tiles : TileGrid) (a : AgentView) : Bool :=
  match tileUnder tiles a with
  | .ok t? => t?.isSome
  | .error _ => false

/-- both coordinates are finite -/
def Placed (a : AgentView) : Prop := Binary64.isFinite a.x = true ∧ Binary64.isFinite a.y = true

theorem cellOf_ok {a : AgentView} (h : Placed a) : ∃ x y, cellOf a = .ok (x, y) := by
  obtain ⟨x, hx⟩ := nearestTile_ok h.1
  obtain ⟨y, hy⟩ := nearestTile_ok h.2
  refine ⟨x, y, ?_⟩
  rw [cellOf, hx, hy]
  rfl

theorem standsAt_iff {x y : Nat} {a : AgentView} : standsAt x y a = true ↔ cellOf a = .ok ((x : Int), (y : Int)) := by
  unfold standsAt
  cases cellOf a with
  | ok p => simp
  | error e => simp

theorem topAt_append (agents : List AgentView) (a : AgentView) (x y : Nat) :
    topAt (agents ++ [a]) x y = if standsAt x y a then some a else topAt agents x y := by
  rw [topAt, List.filter_append, List.getLast?_append]
  split
  · next h => simp [h]
  · next h => simp [h, topAt]

theorem topAt_mem {agents : List AgentView} {x y : Nat} {a : AgentView} (h : topAt agents x y = some a) : a ∈ agents :=
  List.mem_of_mem_filter (List.mem_of_getLast? h)

/-! ## Grids -/

def Grid.cell? (g : Grid) (x y : Nat) : Option Cell := (g[y]?).bind (·[x]?)

/-- the grid has a row of as many cells for every row of tiles -/
def Grid.Fits (g : Grid) (tiles : TileGrid) : Prop := g.map List.length = tiles.map List.length

theorem Grid.Fits.row {g : Grid} {tiles : TileGrid} (h : g.Fits tiles) (y : Nat) :
    g[y]?.map List.length = tiles[y]?.map List.length := by
  rw [← List.getElem?_map, ← List.getElem?_map]
  exact congrArg (·[y]?) h

theorem Grid.Fits.cell?_isSome {g : Grid} {tiles : TileGrid} (h : g.Fits tiles) (x y : Nat) :
    (g.cell? x y).isSome = (tiles.tileAt x y).isSome := by
  have hrow := h.row y
  rw [Grid.cell?, TileGrid.tileAt_cast]
  cases hg : g[y]? with
  | none =>
    rw [hg, Option.map_none, eq_comm, Option.map_eq_none_iff] at hrow
    rw [hrow]
    rfl
  | some cells =>
    rw [hg, Option.map_some, eq_comm, Option.map_eq_some_iff] at hrow
    obtain ⟨row, hrow, hlength⟩ := hrow
    rw [hrow, Option.bind_some, Option.bind_some, Bool.eq_iff_iff, isSome_getElem?, isSome_getElem?, hlength]

theorem Grid.Fits.holds_eq {g : Grid} {tiles : TileGrid} (h : g.Fits tiles) (x y : Int) :
    g.holds x y = (tiles.tileAt x y).isSome := by
  by_cases hneg : x < 0 ∨ y < 0
  · have hout : g.holds x y = false := by
      rw [Grid.holds]
      rcases hneg with hx | hy
      · simp [Int.not_le.2 hx]
      · simp [Int.not_le.2 hy]
    rw [hout, TileGrid.tileAt, if_pos hneg]
    rfl
  · obtain ⟨i, rfl⟩ := Int.eq_ofNat_of_zero_le (a := x) (by omega)
    obtain ⟨j, rfl⟩ := Int.eq_ofNat_of_zero_le (a := y) (by omega)
    rw [← h.cell?_isSome]
    simp [Grid.holds, Grid.cell?]

theorem put_fits {g : Grid} {tiles : TileGrid} (h : g.Fits tiles) (x y : Nat) (c : Cell) : (g.put x y c).Fits tiles := by
  rw [Grid.Fits, ← h]
  apply List.ext_getElem?
  intro j
  rw [Grid.put, List.getElem?_map, List.getElem?_map, List.getElem?_modify]
  cases g[j]? with
  | none => rfl
  | some row => by_cases hj : y = j <;> simp [hj]

/-- a cell that is put in a place is there, and all other places are as they were -/
theorem put_cell? (g : Grid) (x y : Nat) (c : Cell) (i j : Nat) :
    (g.put x y c).cell? i j = if x = i ∧ y = j then (g.cell? i j).map fun _ => c else g.cell? i j := by
  rw [Grid.cell?, Grid.cell?, Grid.put, List.getElem?_modify]
  cases g[j]? with
  | none => simp
  | some row => by_cases hj : y = j <;> by_cases hi : x = i <;> simp [hj, hi, List.getElem?_set', Function.const_def]

/-! ## One agent -/

variable {tiles : TileGrid} {agents : List AgentView} {a : AgentView} {g : Grid}

/-- an agent stands on no tile, or on that of a column and a row -/
theorem tileUnder_cases (tiles : TileGrid) (ha : Placed a) :
    (tileUnder tiles a = .ok none ∧ ∃ x y, cellOf a = .ok (x, y) ∧ tiles.tileAt x y = none) ∨
      ∃ (x y : Nat) (t : Tile), tileUnder tiles a = .ok (some t) ∧ cellOf a = .ok ((x : Int), (y : Int)) ∧
        tiles.tileAt x y = some t := by
  obtain ⟨x, y, hcell⟩ := cellOf_ok ha
  have hunder : tileUnder tiles a = .ok (tiles.tileAt x y) := by
    rw [tileUnder, hcell]
    rfl
  cases htile : tiles.tileAt x y with
  | none => exact .inl ⟨hunder.trans (congrArg _ htile), x, y, hcell, htile⟩
  | some t =>
    have hpos : ¬(x < 0 ∨ y < 0) := by
      intro hneg
      rw [TileGrid.tileAt, if_pos hneg] at htile
      cases htile
    obtain ⟨i, rfl⟩ := Int.eq_ofNat_of_zero_le (a := x) (by omega)
    obtain ⟨j, rfl⟩ := Int.eq_ofNat_of_zero_le (a := y) (by omega)
    exact .inr ⟨i, j, t, hunder.trans (congrArg _ htile), hcell, htile⟩

/-- an agent stands on a tile just if there is a column and a row where it stands, and a tile there -/
theorem isOnTile_iff (tiles : TileGrid) (ha : Placed a) :
    isOnTile tiles a = true ↔ ∃ (x y : Nat) (t : Tile), tiles.tileAt x y = some t ∧ standsAt x y a = true := by
  unfold isOnTile
  rcases tileUnder_cases tiles ha with ⟨hunder, x, y, hcell, hnone⟩ | ⟨x, y, t, hunder, hcell, htile⟩
  · rw [hunder]
    constructor
    · rintro ⟨⟩
    · rintro ⟨i, j, t, htile, hstands⟩
      rw [standsAt_iff.1 hstands] at hcell
      cases hcell
      rw [htile] at hnone
      cases hnone
  · rw [hunder]
    exact ⟨fun _ => ⟨x, y, t, htile, standsAt_iff.2 hcell⟩, fun _ => rfl⟩

/-- an agent off the map changes nothing, whatever its colour -/
theorem overlay_off (ha : Placed a) (hg : g.Fits tiles) (hoff : isOnTile tiles a = false) : overlay g a = .ok g := by
  rcases tileUnder_cases tiles ha with ⟨-, x, y, hcell, hnone⟩ | ⟨x, y, t, hunder, -⟩
  · have hholds : g.holds x y = false := by rw [hg.holds_eq, hnone]; rfl
    simp only [overlay, hcell, bind, Except.bind, hholds, Bool.false_eq_true, if_false]
    rfl
  · rw [isOnTile, hunder] at hoff
    cases hoff

/-- an agent on a tile is put over it, in the style of its colour -/
theorem overlay_on (ha : Placed a) (hg : g.Fits tiles) (hon : isOnTile tiles a = true) :
    ∃ x y : Nat, cellOf a = .ok ((x : Int), (y : Int)) ∧
      overlay g a = (Style.agentStyle a.color).map fun style => g.put x y ⟨initial a.name, style⟩ := by
  rcases tileUnder_cases tiles ha with ⟨hunder, -⟩ | ⟨x, y, t, -, hcell, htile⟩
  · rw [isOnTile, hunder] at hon
    cases hon
  · refine ⟨x, y, hcell, ?_⟩
    have hholds : g.holds x y = true := by rw [hg.holds_eq, htile]; rfl
    simp only [overlay, hcell, bind, Except.bind, hholds, if_true]
    cases Style.agentStyle a.color <;> rfl

theorem overlay_fits (ha : Placed a) (hg : g.Fits tiles) {g' : Grid} (h : overlay g a = .ok g') : g'.Fits tiles := by
  cases hon : isOnTile tiles a with
  | false =>
    rw [overlay_off ha hg hon] at h
    cases h
    exact hg
  | true =>
    obtain ⟨x, y, -, hoverlay⟩ := overlay_on ha hg hon
    obtain ⟨style, -, rfl⟩ := map_ok.1 (hoverlay.symm.trans h)
    exact put_fits hg x y _

/-! ## All agents -/

/-- agents off the map may be left out -/
theorem foldlM_onTile (hplaced : ∀ a ∈ agents, Placed a) (hg : g.Fits tiles) :
    agents.foldlM overlay g = (agents.filter (isOnTile tiles)).foldlM overlay g := by
  induction agents generalizing g with
  | nil => rfl
  | cons a agents ih =>
    obtain ⟨ha, hplaced⟩ := List.forall_mem_cons.1 hplaced
    cases hon : isOnTile tiles a with
    | false =>
      rw [List.filter_cons_of_neg (by simp [hon]), List.foldlM_cons, overlay_off ha hg hon]
      exact ih hplaced hg
    | true =>
      rw [List.filter_cons_of_pos hon, List.foldlM_cons, List.foldlM_cons]
      cases hstep : overlay g a with
      | error e => rfl
      | ok g' => exact ih hplaced (overlay_fits ha hg hstep)

/-- agents on the map come to what the styles of their colours come to, in their order -/
theorem foldlM_outcome (hplaced : ∀ a ∈ agents, Placed a) (hg : g.Fits tiles)
    (hon : ∀ a ∈ agents, isOnTile tiles a = true) :
    (agents.foldlM overlay g).map (fun _ => ()) = (agents.mapM fun a => Style.agentStyle a.color).map fun _ => () := by
  induction agents generalizing g with
  | nil => rfl
  | cons a agents ih =>
    obtain ⟨ha, hplaced⟩ := List.forall_mem_cons.1 hplaced
    obtain ⟨honA, hon⟩ := List.forall_mem_cons.1 hon
    obtain ⟨x, y, -, hoverlay⟩ := overlay_on ha hg honA
    rw [List.foldlM_cons, List.mapM_cons, hoverlay]
    cases Style.agentStyle a.color with
    | error e => rfl
    | ok style =>
      have hrest := ih (g := g.put x y ⟨initial a.name, style⟩) hplaced (put_fits hg x y _) hon
      refine hrest.trans ?_
      cases agents.mapM fun a => Style.agentStyle a.color <;> rfl

/-- in every place with a tile the grid has what is to be seen there -/
structure Covers (tiles : TileGrid) (agents : List AgentView) (g : Grid) : Prop where
  fits : g.Fits tiles
  sees : ∀ (x y : Nat) (t : Tile), tiles.tileAt x y = some t → ∃ c, g.cell? x y = some c ∧ Sees agents x y t c

theorem Sees.elsewhere {x y : Nat} {t : Tile} {c : Cell} (h : Sees agents x y t c) (ha : standsAt x y a = false) :
    Sees (agents ++ [a]) x y t c := by
  have htop : topAt (agents ++ [a]) x y = topAt agents x y := by rw [topAt_append, ha]; rfl
  cases h with
  | tile h => exact .tile (htop.trans h)
  | agent h hstyle => exact .agent (htop.trans h) hstyle

theorem covers_bare (tiles : TileGrid) : Covers tiles [] (tiles.map fun (row : List Tile) => row.map ofTile) := by
  constructor
  · simp [Grid.Fits, Function.comp_def]
  · intro x y t ht
    rw [TileGrid.tileAt_cast] at ht
    obtain ⟨row, hrow, hx⟩ := Option.bind_eq_some_iff.1 ht
    exact ⟨ofTile t, by simp [Grid.cell?, hrow, hx], .tile rfl⟩

theorem overlay_covers (ha : Placed a) (h : Covers tiles agents g) {g' : Grid} (hstep : overlay g a = .ok g') :
    Covers tiles (agents ++ [a]) g' := by
  refine ⟨overlay_fits ha h.fits hstep, ?_⟩
  intro x y t ht
  obtain ⟨c, hc, hsees⟩ := h.sees x y t ht
  cases hon : isOnTile tiles a with
  | false =>
    rw [overlay_off ha h.fits hon] at hstep
    cases hstep
    have haway : standsAt x y a = false := by
      rw [← Bool.not_eq_true]
      intro hstands
      rw [(isOnTile_iff tiles ha).2 ⟨x, y, t, ht, hstands⟩] at hon
      cases hon
    exact ⟨c, hc, hsees.elsewhere haway⟩
  | true =>
    obtain ⟨i, j, hcell, hoverlay⟩ := overlay_on ha h.fits hon
    obtain ⟨style, hstyle, rfl⟩ := map_ok.1 (hoverlay.symm.trans hstep)
    rw [put_cell?]
    by_cases hplace : i = x ∧ j = y
    · obtain ⟨rfl, rfl⟩ := hplace
      refine ⟨⟨initial a.name, style⟩, by simp [hc], .agent ?_ hstyle⟩
      rw [topAt_append, if_pos (standsAt_iff.2 hcell)]
    · rw [if_neg hplace]
      have haway : standsAt x y a = false := by
        rw [← Bool.not_eq_true, standsAt_iff, hcell]
        intro hsame
        simp only [Except.ok.injEq, Prod.mk.injEq] at hsame
        exact hplace (by omega)
      exact ⟨c, hc, hsees.elsewhere haway⟩

/-- **The grid has in every place what is to be seen there.** -/
theorem grid_covers (hplaced : ∀ a ∈ agents, Placed a) (h : grid tiles agents = .ok g) : Covers tiles agents g := by
  induction agents using List.reverseRecOn generalizing g with
  | nil =>
    cases h
    exact covers_bare tiles
  | append_singleton agents a ih =>
    rw [List.forall_mem_append] at hplaced
    rw [grid, List.foldlM_append] at h
    obtain ⟨before, hbefore, hstep⟩ := bind_ok.1 h
    rw [List.foldlM_cons] at hstep
    obtain ⟨g', hstep, hlast⟩ := bind_ok.1 hstep
    cases hlast
    exact overlay_covers (hplaced.2 a (by simp)) (ih hplaced.1 hbefore) hstep

/-! ## Lines -/

/-- the cells of a row of tiles: in every column what is seen there -/
structure RowSeen (agents : List AgentView) (y : Nat) (row : List Tile) (cells : List Cell) : Prop where
  length : cells.length = row.length
  sees : ∀ (x : Nat) (t : Tile), row[x]? = some t → ∃ c, cells[x]? = some c ∧ Sees agents x y t c

theorem Covers.row (h : Covers tiles agents g) {y : Nat} {row : List Tile} (hrow : tiles[y]? = some row) :
    ∃ cells, g[y]? = some cells ∧ RowSeen agents y row cells := by
  have hlength := h.fits.row y
  rw [hrow, Option.map_some, Option.map_eq_some_iff] at hlength
  obtain ⟨cells, hcells, hlength⟩ := hlength
  refine ⟨cells, hcells, hlength, fun x t ht => ?_⟩
  obtain ⟨c, hc, hsees⟩ := h.sees x y t (by rw [TileGrid.tileAt_cast, hrow]; exact ht)
  rw [Grid.cell?, hcells] at hc
  exact ⟨c, hc, hsees⟩

/-- what is seen of tiles and of agents with a name that is shown is visible -/
theorem RowSeen.visible {y : Nat} {row : List Tile} {cells : List Cell} (h : RowSeen agents y row cells)
    (hnamed : ∀ a ∈ agents, Named a.name) : ∀ c ∈ cells, Visible c.glyph := by
  intro c hc
  obtain ⟨x, hx⟩ := List.getElem?_of_mem hc
  have hlt : x < row.length := by
    rw [← h.length]
    exact (List.getElem?_eq_some_iff.1 hx).1
  obtain ⟨c', hc', hsees⟩ := h.sees x row[x] (List.getElem?_eq_getElem hlt)
  cases hx.symm.trans hc'
  cases hsees with
  | tile _ => exact ofTile_visible _
  | agent htop _ => exact initial_visible (hnamed _ (topAt_mem htop))

/-- **The lines of the map show row by row what is seen there.** -/
theorem render_rows (hplaced : ∀ a ∈ agents, Placed a) (hnamed : ∀ a ∈ agents, Named a.name) {lines : List StyledText}
    (h : render tiles agents = .ok lines) : lines.length = tiles.length ∧ ∀ (y : Nat) (row : List Tile),
      tiles[y]? = some row → ∃ cells, lines[y]? = some (textOf cells) ∧ RowSeen agents y row cells := by
  obtain ⟨g, hgrid, rfl⟩ := map_ok.1 h
  have hcovers := grid_covers hplaced hgrid
  constructor
  · have hlength := congrArg List.length hcovers.fits
    rw [List.length_map, List.length_map] at hlength
    rw [List.length_map, hlength]
  · intro y row hrow
    obtain ⟨cells, hcells, hseen⟩ := hcovers.row hrow
    refine ⟨cells, ?_, hseen⟩
    rw [List.getElem?_map, hcells, Option.map_some, lineOf_eq (hseen.visible hnamed)]

theorem render_outcome (tiles : TileGrid) (hplaced : ∀ a ∈ agents, Placed a) : (render tiles agents).map (fun _ => ()) =
    ((agents.filter (isOnTile tiles)).mapM fun a => Style.agentStyle a.color).map fun _ => () := by
  have hfits := (covers_bare tiles).fits
  have hon : ∀ a ∈ agents.filter (isOnTile tiles), isOnTile tiles a = true := fun a ha => List.of_mem_filter ha
  rw [← foldlM_outcome (fun a ha => hplaced a (List.mem_of_mem_filter ha)) hfits hon, ← foldlM_onTile hplaced hfits,
    render, grid]
  cases agents.foldlM overlay (tiles.map fun (row : List Tile) => row.map ofTile) <;> rfl

/-- **Agents over the map.** An agent counts just if it stands on a tile; all others may be left out, whatever their
colour. There are lines just if the colour of everybody on the map has a style, and else the fault is that of the first
whose colour has none. The lines are as many as the rows; each shows, column by column, the last agent that stands there or
the tile. -/
theorem agents_overlaid (tiles : TileGrid) (agents : List AgentView) (hplaced : ∀ a ∈ agents, Placed a)
    (hnamed : ∀ a ∈ agents, Named a.name) :
    (∀ a ∈ agents, ∃ t?, tileUnder tiles a = .ok t? ∧
      (t?.isSome = true ↔ ∃ (x y : Nat) (t : Tile), tiles.tileAt x y = some t ∧ standsAt x y a = true)) ∧
    render tiles agents = render tiles (agents.filter (isOnTile tiles)) ∧
    ((∃ lines, render tiles agents = .ok lines) ↔
      ∀ a ∈ agents, isOnTile tiles a = true → ∃ style, Style.agentStyle a.color = .ok style) ∧
    (∀ e, render tiles agents = .error e ↔ ∃ before a after, agents.filter (isOnTile tiles) = before ++ a :: after ∧
      (∀ b ∈ before, ∃ style, Style.agentStyle b.color = .ok style) ∧ Style.agentStyle a.color = .error e) ∧
    ∀ lines, render tiles agents = .ok lines → lines.length = tiles.length ∧ ∀ (y : Nat) (row : List Tile),
      tiles[y]? = some row → ∃ cells, lines[y]? = some (textOf cells) ∧ cells.length = row.length ∧
        ∀ (x : Nat) (t : Tile), row[x]? = some t → ∃ c, cells[x]? = some c ∧ Sees agents x y t c := by
  have houtcome := render_outcome tiles hplaced
  refine ⟨fun a ha => ?_, ?_, ?_, fun e => ?_, fun lines hlines => ?_⟩
  · have hiff := isOnTile_iff tiles (hplaced a ha)
    unfold isOnTile at hiff
    rcases tileUnder_cases tiles (hplaced a ha) with ⟨hunder, -⟩ | ⟨x, y, t, hunder, -⟩
    · rw [hunder] at hiff
      exact ⟨none, hunder, hiff⟩
    · rw [hunder] at hiff
      exact ⟨some t, hunder, hiff⟩
  · rw [render, grid, foldlM_onTile hplaced (covers_bare tiles).fits, ← grid, ← render]
  · rw [ok_iff_of_map houtcome, mapM_any]
    simp only [List.mem_filter, and_imp]
  · rw [error_iff_of_map houtcome, mapM_error]
  · obtain ⟨hlength, hrows⟩ := render_rows hplaced hnamed hlines
    refine ⟨hlength, fun y row hrow => ?_⟩
    obtain ⟨cells, hcells, hseen⟩ := hrows y row hrow
    exact ⟨cells, hcells, hseen.length, hseen.sees⟩

/-- two agents on one tile, one west of the map and one beyond a short row, none of whose colours matters -/
theorem agents_overlaid_ragged :
    let tiles : TileGrid := [[.grass, .water, .sand], [], [.stone]]
    let agents : List AgentView := [
      { id := 1, name := "Bot", x := 0.6, y := 0.0, color := "red", activity := .idle },
      { id := 2, name := "West", x := -1.0, y := 0.0, color := "rgb(,,)", activity := .idle },
      { id := 3, name := "eve", x := 1.2, y := 0.4, color := "", activity := .idle },
      { id := 4, name := "", x := 2.0, y := 2.0, color := "rgb(1,,2)", activity := .idle }]
    (∀ a ∈ agents, Placed a) ∧ (∀ a ∈ agents, Named a.name) ∧
      (agents.filter (isOnTile tiles)).map AgentView.name = ["Bot", "eve"] ∧
      ∃ lines, render tiles agents = .ok lines ∧ lines.length = 3 ∧ ∃ cells, lines[0]? = some (textOf cells) ∧
        ∃ c, cells[1]? = some c ∧ Sees agents 1 0 .water c := by
  intro tiles agents
  have hplaced : ∀ a ∈ agents, Placed a := by unfold Placed; decide +kernel
  have hnamed : ∀ a ∈ agents, Named a.name := by unfold Named; decide +kernel
  have hon : (agents.filter (isOnTile tiles)).map AgentView.name = ["Bot", "eve"] := by decide +kernel
  obtain ⟨-, -, hok, -, hshown⟩ := agents_overlaid tiles agents hplaced hnamed
  have hstyled : ∀ a ∈ agents, isOnTile tiles a = true → (Style.agentStyle a.color).toOption.isSome = true := by
    decide +kernel
  obtain ⟨lines, hlines⟩ := hok.2 fun a ha hona => by
    obtain ⟨style, hstyle⟩ := Option.isSome_iff_exists.1 (hstyled a ha hona)
    exact ⟨style, ok_of_toOption hstyle⟩
  obtain ⟨hlength, hrows⟩ := hshown lines hlines
  obtain ⟨cells, hcells, -, hsees⟩ := hrows 0 [.grass, .water, .sand] rfl
  exact ⟨hplaced, hnamed, hon, lines, hlines, hlength, cells, hcells, hsees 1 .water rfl⟩

/-- **A map without lines**: somebody stands on it whose colour has three components, and none of these is a numeral. -/
theorem overlay_fails :
    let bot : AgentView := { id := 1, name := "Bot", x := 0.0, y := 0.0, color := "rgb(,,)", activity := .idle }
    Placed bot ∧ Named bot.name ∧ render [[.grass]] [bot] = .error (.integerText "") := by
  intro bot
  have hplaced : Placed bot := by unfold Placed; decide +kernel
  have hon : isOnTile [[.grass]] bot = true := by decide +kernel
  have hstyle : Style.agentStyle "rgb(,,)" = .error (.integerText "") := by rfl
  refine ⟨hplaced, by unfold Named; decide +kernel, ?_⟩
  rw [error_iff_of_map (render_outcome [[.grass]] (List.forall_mem_singleton.2 hplaced)), List.filter_cons_of_pos hon]
  exact mapM_error.2 ⟨[], bot, [], rfl, by simp, hstyle⟩

end TileCrew.MapLines
