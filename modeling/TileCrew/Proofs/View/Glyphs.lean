/-
Cells of the map as text. The cell of a tile has one letter; that of an agent has the first letter of its name in upper
case, which may be several.
- `upperChar_shown`: what is shown is shown in upper case too, by at least one character (`upperChar_ne_nil`);
- `lineOf_eq`: **a row of cells that are shown is the text of their glyphs one behind the other, each with a span of its
  own** (`textOf`);
- `glyph_at`: the letters from where a cell begins are those of its glyph;
- `startOf_eq`: a cell begins in its own column just if every cell before it has one letter.
-/
import TileCrew.View.MapLines
import Mathlib.Data.List.Induction

namespace TileCrew

/-! ## Upper case -/

namespace Text

open StyledText

theorem isShown_ofNat {n : Nat} (h : 14 ≤ n) : isShown (.char (Char.ofNat n)) = true := by
  by_cases hn : n.isValidChar
  · have hcode : (Letter.char (Char.ofNat n)).code = n := by
      rw [Letter.code, Char.ofNat, dif_pos hn]
      rfl
    simp [isShown, hcode]
    omega
  · rw [Char.ofNat, dif_neg hn]
    rfl

/-- no run leads to a code point below the printable ones -/
theorem upperRuns_high : ∀ r ∈ CaseTable.upperRuns, 14 ≤ (r.1 : Int) + r.2.2.2 := by decide +kernel

theorem upperExpansions_high : ∀ e ∈ CaseTable.upperExpansions, 1 < e.2.length ∧ ∀ n ∈ e.2, 14 ≤ n := by decide +kernel

/-- a character in upper case is several of a table, one of a run, or itself -/
theorem upperChar_cases (c : Char) :
    (∃ e ∈ CaseTable.upperExpansions, upperChar c = e.2.map Char.ofNat) ∨
      (∃ r ∈ CaseTable.upperRuns, r.1 ≤ c.toNat ∧ upperChar c = [Char.ofNat ((c.toNat : Int) + r.2.2.2).toNat]) ∨
      upperChar c = [c] := by
  unfold upperChar mapChar
  split
  · next e he => exact .inl ⟨e, List.mem_of_find?_eq_some he, rfl⟩
  · split
    · next r hr =>
      have hin := List.find?_some hr
      simp only [inRun, Bool.and_eq_true, decide_eq_true_eq] at hin
      exact .inr (.inl ⟨r, List.mem_of_find?_eq_some hr, hin.1.1, rfl⟩)
    · exact .inr (.inr rfl)

theorem upperChar_ne_nil (c : Char) : upperChar c ≠ [] := by
  rcases upperChar_cases c with ⟨e, he, h⟩ | ⟨r, -, -, h⟩ | h
  · have hlength := (upperExpansions_high e he).1
    intro hnil
    rw [hnil] at h
    rw [List.map_eq_nil_iff.1 h.symm] at hlength
    cases hlength
  · simp [h]
  · simp [h]

/-- what is shown is shown in upper case too -/
theorem upperChar_shown {c : Char} (hc : isShown (.char c) = true) : ∀ d ∈ upperChar c, isShown (.char d) = true := by
  intro d hd
  rcases upperChar_cases c with ⟨e, he, h⟩ | ⟨r, hr, hlow, h⟩ | h
  · rw [h] at hd
    obtain ⟨n, hn, rfl⟩ := List.mem_map.1 hd
    exact isShown_ofNat ((upperExpansions_high e he).2 n hn)
  · rw [h, List.mem_singleton] at hd
    have hhigh := upperRuns_high r hr
    rw [hd]
    exact isShown_ofNat (by omega)
  · rw [h, List.mem_singleton] at hd
    rw [hd]
    exact hc

end Text

/-! ## Glyphs -/

namespace MapLines

/-- a glyph of at least one letter, all of which are shown -/
structure Visible (glyph : Text) : Prop where
  wide : 1 ≤ glyph.letters.length
  shown : ∀ l ∈ glyph.letters, StyledText.isShown l = true

/-- the name does not begin with a letter that is left out where it is shown -/
def Named (name : Text) : Prop := name.letters.head?.all StyledText.isShown = true

theorem image_upper_visible {l : Letter} (h : StyledText.isShown l = true) : Visible ⟨l.image Text.upperChar⟩ := by
  cases l with
  | half n => exact ⟨Nat.le_refl 1, List.forall_mem_singleton.2 h⟩
  | char c =>
    constructor
    · simp only [Letter.image, List.length_map]
      exact List.length_pos_iff.2 (Text.upperChar_ne_nil c)
    · simp only [Letter.image, List.forall_mem_map]
      exact Text.upperChar_shown h

theorem initial_visible {name : Text} (h : Named name) : Visible (initial name) := by
  cases hname : name.letters with
  | nil =>
    have hinitial : initial name = "@" := by rw [initial, hname]
    rw [hinitial]
    exact ⟨by decide, List.all_eq_true.1 (by decide)⟩
  | cons l ls =>
    have hl : StyledText.isShown l = true := by rw [Named, hname] at h; exact h
    have hinitial : initial name = ⟨l.image Text.upperChar⟩ := by rw [initial, hname]
    rw [hinitial]
    exact image_upper_visible hl

theorem ofTile_length (t : Tile) : (ofTile t).glyph.letters.length = 1 := by
  cases t <;> decide

theorem ofTile_visible (t : Tile) : Visible (ofTile t).glyph := by
  refine ⟨Nat.le_of_eq (ofTile_length t).symm, List.all_eq_true.1 ?_⟩
  cases t <;> decide

/-! ## Rows of cells -/

/-- the letters of a row of cells, glyph behind glyph -/
def glyphs (cells : List Cell) : List Letter := cells.flatMap fun c => c.glyph.letters

/-- the column at which a cell of a row begins; that of the cell behind the last is where the row ends -/
def startOf (cells : List Cell) (x : Nat) : Nat := (glyphs (cells.take x)).length

/-- the text of a row of cells, each glyph in its own style -/
def textOf (cells : List Cell) : StyledText :=
  { plain := ⟨glyphs cells⟩
    spans := cells.mapIdx fun x c => ⟨startOf cells x, startOf cells (x + 1), c.style⟩ }

theorem glyphs_append (cells more : List Cell) : glyphs (cells ++ more) = glyphs cells ++ glyphs more :=
  List.flatMap_append

theorem startOf_succ {cells : List Cell} {x : Nat} {c : Cell} (h : cells[x]? = some c) :
    startOf cells (x + 1) = startOf cells x + c.glyph.letters.length := by
  rw [startOf, startOf, List.take_add_one, h, Option.toList_some, glyphs_append, List.length_append]
  simp [glyphs]

theorem startOf_append {cells : List Cell} {x : Nat} (h : x ≤ cells.length) (more : List Cell) :
    startOf (cells ++ more) x = startOf cells x := by
  rw [startOf, List.take_append_of_le_length h, startOf]

theorem textOf_length (cells : List Cell) : (textOf cells).plain.letters.length = startOf cells cells.length := by
  rw [textOf, startOf, List.take_length]

theorem textOf_append (cells : List Cell) {c : Cell} (h : Visible c.glyph) :
    textOf (cells ++ [c]) = (textOf cells).append c.glyph c.style := by
  have hshown : StyledText.shownPart c.glyph = c.glyph := by
    rw [StyledText.shownPart, List.filter_eq_self.2 h.shown]
  have hspans : (cells.mapIdx fun x b => (⟨startOf (cells ++ [c]) x, startOf (cells ++ [c]) (x + 1), b.style⟩ : Span)) =
      cells.mapIdx fun x b => ⟨startOf cells x, startOf cells (x + 1), b.style⟩ := by
    apply List.ext_getElem?
    intro x
    rw [List.getElem?_mapIdx, List.getElem?_mapIdx]
    cases hx : cells[x]? with
    | none => rfl
    | some b =>
      have hlt : x < cells.length := (List.getElem?_eq_some_iff.1 hx).1
      rw [startOf_append (Nat.le_of_lt hlt), startOf_append hlt]
  have hlast : startOf (cells ++ [c]) (cells.length + 1) = startOf cells cells.length + c.glyph.letters.length := by
    rw [startOf_succ (c := c) (by simp), startOf_append (Nat.le_refl _)]
  simp only [StyledText.append, hshown, textOf_length]
  simp only [textOf, glyphs_append, List.mapIdx_concat, hspans, hlast, startOf_append (Nat.le_refl _)]
  simp [glyphs]
  rfl

/-- **A row of cells that are shown is the text of their glyphs**, one behind the other. -/
theorem lineOf_eq {cells : List Cell} (h : ∀ c ∈ cells, Visible c.glyph) : lineOf cells = textOf cells := by
  induction cells using List.reverseRecOn with
  | nil => rfl
  | append_singleton cells c ih =>
    rw [List.forall_mem_append] at h
    rw [textOf_append cells (h.2 c (by simp)), ← ih h.1]
    simp [lineOf]

/-- from where a cell begins the text goes on with its glyph -/
theorem glyph_at {cells : List Cell} {x : Nat} {c : Cell} (h : cells[x]? = some c) :
    ((textOf cells).plain.letters.drop (startOf cells x)).take c.glyph.letters.length = c.glyph.letters := by
  obtain ⟨hx, hc⟩ := List.getElem?_eq_some_iff.1 h
  have hsplit : (textOf cells).plain.letters =
      (cells.take x).flatMap (fun b => b.glyph.letters) ++ (c.glyph.letters ++
        (cells.drop (x + 1)).flatMap fun b => b.glyph.letters) := by
    have hcells : cells = cells.take x ++ c :: cells.drop (x + 1) := by
      rw [← hc, ← List.drop_eq_getElem_cons hx, List.take_append_drop]
    calc (textOf cells).plain.letters = (cells.take x ++ c :: cells.drop (x + 1)).flatMap fun b => b.glyph.letters := by
          rw [← hcells]
          rfl
      _ = _ := by rw [List.flatMap_append, List.flatMap_cons]
  have hbefore : startOf cells x = ((cells.take x).flatMap fun b => b.glyph.letters).length := rfl
  rw [hsplit, hbefore, List.drop_left, List.take_left]

/-- no cell begins before its own column; it begins there just if every cell before it has one letter -/
theorem startOf_eq {cells : List Cell} (h : ∀ c ∈ cells, Visible c.glyph) {x : Nat} (hx : x ≤ cells.length) :
    x ≤ startOf cells x ∧ (startOf cells x = x ↔ ∀ i < x, ∀ c, cells[i]? = some c → c.glyph.letters.length = 1) := by
  induction x with
  | zero => exact ⟨Nat.le_refl 0, ⟨fun _ i hi => by omega, fun _ => rfl⟩⟩
  | succ x ih =>
    obtain ⟨hle, heq⟩ := ih (by omega)
    obtain ⟨c, hc⟩ : ∃ c, cells[x]? = some c := ⟨_, List.getElem?_eq_getElem hx⟩
    have hwide := (h c (List.mem_of_getElem? hc)).wide
    rw [startOf_succ hc]
    refine ⟨by omega, fun hstart => ?_, fun hall => ?_⟩
    · intro i hi b hb
      rcases Nat.lt_succ_iff_lt_or_eq.1 hi with hi | rfl
      · exact heq.1 (by omega) i hi b hb
      · rw [hc] at hb
        cases hb
        omega
    · have hbefore := heq.2 fun i hi b hb => hall i (by omega) b hb
      have hlast := hall x (by omega) c hc
      omega

end MapLines

end TileCrew
