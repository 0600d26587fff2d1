/-
Lines, their feeds and their breaks. Lines that hold no line feed come back from the text in which each of them but the
last is ended by one (`splitFeeds_open`); a text without returns stays as it is when newlines are unified
(`unifyNewlines_eq`). A return and a line feed behind it are one break (`StartsPair`); away from such a pair both ways to
read a text go character by character (`unifyNewlines_cons`, `splitLines_go_cons`).
- `splitLines_unifyNewlines`: **a text has the same lines whether its newlines are unified or not**;
- `splitLines_append_feed`: **two texts with a line feed between them have the lines of the one and of the other**.
-/
import TileCrew.Text.Character

namespace TileCrew.Text

/-! ## Feeds -/

theorem unifyNewlines_eq {cs : List Char} (h : '\r' ∉ cs) : unifyNewlines cs = cs := by
  induction cs with
  | nil => rfl
  | cons c cs ih =>
    have hc : c ≠ '\r' := fun hc => h (by rw [hc]; exact List.mem_cons_self)
    have hcs : unifyNewlines cs = cs := ih fun hm => h (List.mem_cons_of_mem c hm)
    rw [unifyNewlines, if_neg hc, hcs]
    intro rest hr
    exact absurd hr hc

theorem splitFeeds_go_append {piece l : List Char} (rest : List Char) (h : '\n' ∉ l) :
    splitFeeds.go piece (l ++ rest) = splitFeeds.go (l.reverse ++ piece) rest := by
  induction l generalizing piece with
  | nil => rfl
  | cons c l ih =>
    have hc : c ≠ '\n' := fun hc => h (by rw [hc]; exact List.mem_cons_self)
    rw [List.cons_append, splitFeeds.go, if_neg hc, ih fun hm => h (List.mem_cons_of_mem c hm), List.reverse_cons,
      List.append_assoc]
    rfl

/-- **Lines, each ended by a line feed, and one that is not are the pieces of their text.** -/
theorem splitFeeds_open {ls : List (List Char)} (h : ∀ l ∈ ls, '\n' ∉ l) {last : List Char} (hlast : '\n' ∉ last) :
    splitFeeds (ls.flatMap (· ++ ['\n']) ++ last) = ls ++ [last] := by
  induction ls with
  | nil =>
    have hgo : splitFeeds.go [] (last ++ []) = splitFeeds.go (last.reverse ++ []) [] := splitFeeds_go_append [] hlast
    rw [List.append_nil, List.append_nil] at hgo
    show splitFeeds.go [] last = [last]
    rw [hgo, splitFeeds.go, List.reverse_reverse]
  | cons l ls ih =>
    obtain ⟨hl, hls⟩ := List.forall_mem_cons.1 h
    have hfeed : splitFeeds.go l.reverse ('\n' :: (ls.flatMap (· ++ ['\n']) ++ last)) = l :: (ls ++ [last]) := by
      rw [splitFeeds.go, if_pos rfl, List.reverse_reverse]
      exact congrArg (l :: ·) (ih hls)
    rw [List.flatMap_cons, splitFeeds, List.append_assoc, List.append_assoc, splitFeeds_go_append _ hl, List.append_nil]
    exact hfeed

/-! ## Breaks -/

/-- a return stands here, and a line feed behind it -/
def StartsPair (c : Char) (cs : List Char) : Prop := c = '\r' ∧ ∃ rest, cs = '\n' :: rest

theorem unifyNewlines_cons {c : Char} {cs : List Char} (h : ¬StartsPair c cs) :
    unifyNewlines (c :: cs) = (if c = '\r' then '\n' else c) :: unifyNewlines cs := by
  rw [unifyNewlines]
  intro rest hc hcs
  exact h ⟨hc, rest, hcs⟩

theorem splitLines_go_cons {c : Char} {cs : List Char} (h : ¬StartsPair c cs) (line : List Char) :
    splitLines.go line (c :: cs) =
      if isLineBreak c then line.reverse :: splitLines cs else splitLines.go (c :: line) cs := by
  rw [splitLines.go, splitLines]
  intro rest hc hcs
  exact h ⟨hc, rest, hcs⟩

theorem splitLines_go_feed (line cs : List Char) :
    splitLines.go line ('\n' :: cs) = line.reverse :: splitLines cs := by
  rw [splitLines_go_cons, if_pos (by decide)]
  rintro ⟨hc, -⟩
  exact absurd hc (by decide)

theorem splitLines_go_unifyNewlines (line cs : List Char) :
    splitLines.go line (unifyNewlines cs) = splitLines.go line cs := by
  fun_induction splitLines.go line cs with
  | case1 line hline => simp [unifyNewlines, splitLines.go, hline]
  | case2 line hline => simp [unifyNewlines, splitLines.go, hline]
  | case3 line cs ih => rw [unifyNewlines, splitLines_go_feed, splitLines, ih]
  | case4 line c cs hpair hbreak ih =>
    rw [unifyNewlines_cons fun ⟨hc, rest, hcs⟩ => hpair rest hc hcs]
    by_cases hc : c = '\r'
    · rw [if_pos hc, splitLines_go_feed, splitLines, ih]
    · rw [if_neg hc, splitLines_go_cons fun h => hc h.1, if_pos hbreak, splitLines, ih]
  | case5 line c cs hpair hbreak ih =>
    have hc : c ≠ '\r' := by
      intro hc
      rw [hc] at hbreak
      exact hbreak (by decide)
    rw [unifyNewlines_cons fun h => hc h.1, if_neg hc, splitLines_go_cons fun h => hc h.1, if_neg hbreak, ih]

/-- every newline is a line break, so to unify them makes no difference to the lines -/
theorem splitLines_unifyNewlines (cs : List Char) : splitLines (unifyNewlines cs) = splitLines cs :=
  splitLines_go_unifyNewlines [] cs

theorem splitLines_go_append (line cs ds : List Char) :
    ∃ gap, (∀ l ∈ gap, l = []) ∧
      splitLines.go line (cs ++ '\n' :: ds) = splitLines.go line cs ++ gap ++ splitLines ds := by
  fun_induction splitLines.go line cs with
  | case1 line hline =>
    refine ⟨[[]], by simp, ?_⟩
    rw [List.nil_append, splitLines_go_feed, List.isEmpty_iff.1 hline]
    rfl
  | case2 line hline => exact ⟨[], by simp, by rw [List.nil_append, splitLines_go_feed]; rfl⟩
  | case3 line cs ih =>
    obtain ⟨gap, hgap, hlines⟩ := ih
    refine ⟨gap, hgap, ?_⟩
    rw [List.cons_append, List.cons_append, splitLines.go, hlines]
    rfl
  | case4 line c cs hpair hbreak ih =>
    obtain ⟨gap, hgap, hlines⟩ := ih
    by_cases hlast : StartsPair c (cs ++ '\n' :: ds)
    · -- a return at the end of the first text makes one newline with the feed
      obtain ⟨rfl, rest, hrest⟩ := hlast
      cases cs with
      | nil => exact ⟨[], by simp, by rw [List.cons_append, List.nil_append, splitLines.go]; rfl⟩
      | cons d cs =>
        cases hrest
        exact absurd rfl (hpair _ rfl)
    · refine ⟨gap, hgap, ?_⟩
      rw [List.cons_append, splitLines_go_cons hlast, if_pos hbreak, splitLines, hlines]
      rfl
  | case5 line c cs hpair hbreak ih =>
    obtain ⟨gap, hgap, hlines⟩ := ih
    refine ⟨gap, hgap, ?_⟩
    rw [List.cons_append, splitLines_go_cons, if_neg hbreak, hlines]
    rintro ⟨rfl, -⟩
    exact hbreak (by decide)

/-- the lines of two texts with a line feed between them are those of the first and those of the second, but that the feed
may end an empty line of its own -/
theorem splitLines_append_feed (cs ds : List Char) :
    ∃ gap, (∀ l ∈ gap, l = []) ∧ splitLines (cs ++ '\n' :: ds) = splitLines cs ++ gap ++ splitLines ds :=
  splitLines_go_append [] cs ds

end TileCrew.Text
