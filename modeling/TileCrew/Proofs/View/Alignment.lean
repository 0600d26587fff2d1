/-
Columns of the map as it is shown. A tile is shown in its own column as long as everything before it in its row has one
character. Tiles have; an agent has where the first character of its name is one character in upper case.
- `line_columns`: **no line is shorter than its row, and none begins a tile before its column; a line is as long as its row
  just if everybody seen in it has one character, and a tile stands in its own column just if everybody before it has**;
- `columns_shift`: a row of three tiles shown by four characters, in which an agent stands in a column that is not its own.
-/
import TileCrew.Proofs.View.Overlay

namespace TileCrew.MapLines

/-- whoever is seen in a place is seen by one character -/
def IsNarrow (agents : List AgentView) (x y : Nat) : Prop :=
  ∀ a, topAt agents x y = some a → (initial a.name).letters.length = 1

variable {agents : List AgentView} {y : Nat} {row : List Tile} {cells : List Cell}

theorem Sees.length_eq {x : Nat} {t : Tile} {c : Cell} (h : Sees agents x y t c) :
    c.glyph.letters.length = 1 ↔ IsNarrow agents x y := by
  cases h with
  | tile htop =>
    refine ⟨fun _ a ha => ?_, fun _ => ofTile_length t⟩
    rw [htop] at ha
    cases ha
  | agent htop hstyle =>
    refine ⟨fun hlength a ha => ?_, fun hnarrow => hnarrow _ htop⟩
    rw [htop] at ha
    cases ha
    exact hlength

/-- what is seen of a row begins in a column just if all that is seen before it has one character -/
theorem RowSeen.startOf_eq (h : RowSeen agents y row cells) (hnamed : ∀ a ∈ agents, Named a.name) {x : Nat}
    (hx : x ≤ row.length) : x ≤ startOf cells x ∧ (startOf cells x = x ↔ ∀ i < x, IsNarrow agents i y) := by
  obtain ⟨hle, heq⟩ := MapLines.startOf_eq (h.visible hnamed) (x := x) (by rw [h.length]; exact hx)
  refine ⟨hle, heq.trans ⟨fun hall i hi => ?_, fun hall i hi c hc => ?_⟩⟩
  · obtain ⟨c, hc, hsees⟩ := h.sees i row[i] (List.getElem?_eq_getElem (by omega))
    exact hsees.length_eq.1 (hall i hi c hc)
  · obtain ⟨c', hc', hsees⟩ := h.sees i row[i] (List.getElem?_eq_getElem (by omega))
    cases hc.symm.trans hc'
    exact hsees.length_eq.2 (hall i hi)

/-- **Columns of the map.** A line is as long as its row just if everybody that is seen in it is seen by one character,
and else longer. What is seen of a tile begins in the tile's own column just if everybody before it is seen by one
character, and else behind that column. -/
theorem line_columns {tiles : TileGrid} {lines : List StyledText} (hplaced : ∀ a ∈ agents, Placed a)
    (hnamed : ∀ a ∈ agents, Named a.name) (h : render tiles agents = .ok lines) (hrow : tiles[y]? = some row) :
    ∃ line, lines[y]? = some line ∧ row.length ≤ line.plain.letters.length ∧
      (line.plain.letters.length = row.length ↔ ∀ x < row.length, IsNarrow agents x y) ∧
      ∀ (x : Nat) (t : Tile), row[x]? = some t → ∃ c start, Sees agents x y t c ∧
        line.spans[x]? = some ⟨start, start + c.glyph.letters.length, c.style⟩ ∧
        (line.plain.letters.drop start).take c.glyph.letters.length = c.glyph.letters ∧
        x ≤ start ∧ (start = x ↔ ∀ i < x, IsNarrow agents i y) := by
  obtain ⟨cells, hcells, hseen⟩ := (render_rows hplaced hnamed h).2 y row hrow
  obtain ⟨hle, heq⟩ := hseen.startOf_eq hnamed (Nat.le_refl _)
  have hlength : (textOf cells).plain.letters.length = startOf cells row.length := by rw [textOf_length, hseen.length]
  refine ⟨textOf cells, hcells, by rw [hlength]; exact hle, by rw [hlength]; exact heq, fun x t ht => ?_⟩
  obtain ⟨c, hc, hsees⟩ := hseen.sees x t ht
  have hx : x < row.length := (List.getElem?_eq_some_iff.1 ht).1
  refine ⟨c, startOf cells x, hsees, ?_, glyph_at hc, hseen.startOf_eq hnamed (Nat.le_of_lt hx)⟩
  rw [← startOf_succ hc, textOf, List.getElem?_mapIdx, hc, Option.map_some]

/-- somebody who would be seen by two characters stands behind somebody who is seen by one -/
theorem line_columns_behind :
    let tiles : TileGrid := [[.grass, .water, .sand]]
    let agents : List AgentView := [
      { id := 1, name := "ßeta", x := 1.0, y := 0.0, color := "red", activity := .idle },
      { id := 2, name := "Bot", x := 0.8, y := 0.1, color := "red", activity := .idle }]
    (∀ a ∈ agents, Placed a) ∧ (∀ a ∈ agents, Named a.name) ∧ ∃ lines line, render tiles agents = .ok lines ∧
      lines[0]? = some line ∧ line.plain.letters.length = 3 := by
  intro tiles agents
  have hplaced : ∀ a ∈ agents, Placed a := by unfold Placed; decide +kernel
  have hnamed : ∀ a ∈ agents, Named a.name := by unfold Named; decide +kernel
  have hsome : (render tiles agents).toOption.isSome = true := by decide +kernel
  obtain ⟨lines, hlines⟩ := Option.isSome_iff_exists.1 hsome
  have hrender := ok_of_toOption hlines
  have hnarrow : ∀ x < 3, (topAt agents x 0).all (fun a => (initial a.name).letters.length == 1) = true := by
    decide +kernel
  obtain ⟨line, hline, -, hiff, -⟩ := line_columns hplaced hnamed hrender (y := 0) rfl
  refine ⟨hplaced, hnamed, lines, line, hrender, hline, hiff.2 fun x hx a ha => ?_⟩
  have hone := hnarrow x hx
  rw [ha] at hone
  simpa using hone

/-- **A row of three tiles is shown by four characters**: the first letter of a name is two letters in upper case. The agent
in the last column is shown one column farther on. -/
theorem columns_shift :
    let tiles : TileGrid := [[.grass, .water, .sand]]
    let agents : List AgentView := [
      { id := 1, name := "ßeta", x := 0.0, y := 0.0, color := "red", activity := .idle },
      { id := 2, name := "Bot", x := 2.0, y := 0.0, color := "red", activity := .idle }]
    (∀ a ∈ agents, Placed a) ∧ (∀ a ∈ agents, Named a.name) ∧
      ∃ line, render tiles agents = .ok [line] ∧ line.plain = "SS~B" ∧ line.plain.letters.length ≠ 3 := by
  intro tiles agents
  have hplain : (render tiles agents).toOption.map (List.map StyledText.plain) = some [("SS~B" : Text)] := by
    decide +kernel
  obtain ⟨lines, hlines, hmap⟩ := Option.map_eq_some_iff.1 hplain
  obtain ⟨line, rfl, hline⟩ := List.map_eq_singleton_iff.1 hmap
  refine ⟨by unfold Placed; decide +kernel, by unfold Named; decide +kernel, line, ok_of_toOption hlines, hline, ?_⟩
  rw [hline]
  decide

end TileCrew.MapLines
