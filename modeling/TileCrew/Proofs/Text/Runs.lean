/-
Maximal runs. A text that begins with characters of a class and goes on with one outside it (`Stops`) is cut there by
`takeWhile` and `dropWhile`; stripping leaves a part of the text that stops at both ends.
-/
import TileCrew.Text.Character

namespace TileCrew.Text

/-- the text is empty or begins with a character outside the class -/
def Stops (p : Char → Bool) (cs : List Char) : Prop := ∀ c ∈ cs.head?, p c = false

theorem stops_nil (p : Char → Bool) : Stops p [] := by
  intro c h; cases h

theorem stops_cons {p : Char → Bool} {c : Char} {cs : List Char} : Stops p (c :: cs) ↔ p c = false := by
  simp [Stops]

theorem takeWhile_run {p : Char → Bool} {run rest : List Char} (hrun : ∀ c ∈ run, p c = true) (hrest : Stops p rest) :
    (run ++ rest).takeWhile p = run := by
  rw [List.takeWhile_append_of_pos hrun]
  cases rest with
  | nil => simp
  | cons c rest => rw [List.takeWhile_cons_of_neg (by rw [stops_cons.1 hrest]; decide), List.append_nil]

theorem dropWhile_run {p : Char → Bool} {run rest : List Char} (hrun : ∀ c ∈ run, p c = true) (hrest : Stops p rest) :
    (run ++ rest).dropWhile p = rest := by
  rw [List.dropWhile_append_of_pos hrun]
  cases rest with
  | nil => rfl
  | cons c rest => exact List.dropWhile_cons_of_neg (by rw [stops_cons.1 hrest]; decide)

theorem stops_dropWhile (p : Char → Bool) (cs : List Char) : Stops p (cs.dropWhile p) := by
  intro c hc
  have h := List.head?_dropWhile_not p cs
  rw [Option.mem_def.1 hc] at h
  exact h

theorem all_takeWhile (p : Char → Bool) (cs : List Char) : ∀ c ∈ cs.takeWhile p, p c = true :=
  List.all_eq_true.1 List.all_takeWhile

/-! ## Stripping -/

theorem stripBy_head (p : Char → Bool) (cs : List Char) : stripBy p cs <+: cs.dropWhile p := by
  have h := List.dropWhile_suffix (l := (cs.dropWhile p).reverse) p
  rwa [← List.reverse_prefix, List.reverse_reverse] at h

theorem stripBy_part (p : Char → Bool) (cs : List Char) : stripBy p cs <:+: cs :=
  (stripBy_head p cs).isInfix.trans (List.dropWhile_suffix p).isInfix

theorem stripBy_stops (p : Char → Bool) (cs : List Char) : Stops p (stripBy p cs) := by
  obtain ⟨rest, h⟩ := stripBy_head p cs
  have hs := stops_dropWhile p cs
  cases hl : stripBy p cs with
  | nil => exact stops_nil p
  | cons c line => rw [← h, hl] at hs; exact stops_cons.2 (stops_cons.1 hs)

theorem stripBy_ends (p : Char → Bool) (cs : List Char) : Stops p (stripBy p cs).reverse := by
  rw [stripBy, List.reverse_reverse]
  exact stops_dropWhile p _

theorem stripBy_eq {p : Char → Bool} {cs : List Char} (hs : Stops p cs) (he : Stops p cs.reverse) : stripBy p cs = cs := by
  have keeps {ds : List Char} (h : Stops p ds) : ds.dropWhile p = ds := by
    show ([] ++ ds).dropWhile p = ds
    exact dropWhile_run (by simp) h
  rw [stripBy, keeps hs, keeps he, List.reverse_reverse]

theorem stripBy_stripBy (p : Char → Bool) (cs : List Char) : stripBy p (stripBy p cs) = stripBy p cs :=
  stripBy_eq (stripBy_stops p cs) (stripBy_ends p cs)

end TileCrew.Text
