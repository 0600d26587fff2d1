/-
What a script schedules.
- `prompts_add_self`, `prompts_add_ne`: a prompt that is added at a tick comes last at this tick, and counts at no other;
- `said`: what a script says, line by line: prompts, each for its tick;
- `spoken_sound`: ticks count from 1, and a prompt has no blanks around it and is not empty;
- `read_prompts`: **the schedule of a script has for every tick just what the script says for it, in the order of the
  lines**.
-/
import TileCrew.Proofs.Text.Runs
import TileCrew.Setup.Script

namespace TileCrew

/-! ## Schedules -/

namespace Schedule

theorem prompts_add_self (s : Schedule) (tick : Int) (text : String) :
    (s.add tick text).prompts tick = s.prompts tick ++ [text] := by
  obtain ⟨entries⟩ := s
  induction entries with
  | nil => simp [add, addTo, prompts]
  | cons e es ih =>
    by_cases he : e.1 = tick
    · simp [add, addTo, prompts, he]
    · simpa [add, addTo, prompts, he] using ih

theorem prompts_add_ne (s : Schedule) {tick t : Int} (text : String) (h : t ≠ tick) :
    (s.add tick text).prompts t = s.prompts t := by
  obtain ⟨entries⟩ := s
  induction entries with
  | nil => simp [add, addTo, prompts, Ne.symm h]
  | cons e es ih =>
    by_cases he : e.1 = tick
    · simp [add, addTo, prompts, he, Ne.symm h]
    · by_cases ht : e.1 = t
      · simp [add, addTo, prompts, ht, h]
      · simpa [add, addTo, prompts, he, ht] using ih

end Schedule

/-! ## Lines -/

namespace Script

open Text

/-- the prompt that a line says, and the tick that it is for -/
def spoken (line : List Char) : Option (Int × String) :=
  match readLine line with
  | .ok (.prompt tick text) => some (tick, text)
  | _ => none

/-- the prompts that a script says, in the order of its lines -/
def said (cs : List Char) : List (Int × String) := (splitLines cs).filterMap spoken

theorem readMarker_pos {marker : List Char} {tick : Int} (h : readMarker marker = .ok tick) : 1 ≤ tick := by
  rw [readMarker] at h
  cases hn : readInteger (String.ofList (marker.drop 1)) with
  | error e => rw [hn] at h; cases h
  | ok n =>
    rw [hn] at h
    dsimp only at h
    split at h
    · cases h
    · cases h; omega

theorem strip_ofList {cs : List Char} (h : stripBy isBlank cs = cs) : strip (String.ofList cs) = String.ofList cs := by
  rw [strip, String.toList_ofList, h]

theorem spoken_sound {line : List Char} {tick : Int} {text : String} (h : spoken line = some (tick, text)) :
    1 ≤ tick ∧ strip text = text ∧ text ≠ "" := by
  have hline : readLine line = .ok (.prompt tick text) := by
    unfold spoken at h
    split at h
    · rename_i hr; cases h; exact hr
    · cases h
  have hstripped := stripBy_stripBy isBlank line
  unfold readLine at hline
  split at hline
  · cases hline
  · cases hline
  · -- a marker, and the prompt after it
    rename_i cs _
    cases hm : readMarker (('@' :: cs).takeWhile (· ≠ ' ')) with
    | error e => simp only [hm] at hline; cases hline
    | ok n =>
      simp only [hm, Except.map] at hline
      split at hline
      · cases hline
      · rename_i hrest
        cases hline
        refine ⟨readMarker_pos hm, strip_ofList (stripBy_stripBy _ _), ?_⟩
        intro hempty
        rw [String.ofList_eq_empty_iff] at hempty
        exact hrest (List.isEmpty_iff.2 hempty)
  · -- no marker
    rename_i hnil _ _
    cases hline
    refine ⟨Int.le_refl 1, strip_ofList hstripped, ?_⟩
    intro hempty
    rw [String.ofList_eq_empty_iff] at hempty
    exact hnil hempty

theorem said_sound {cs : List Char} {e : Int × String} (h : e ∈ said cs) : 1 ≤ e.1 ∧ strip e.2 = e.2 ∧ e.2 ≠ "" := by
  obtain ⟨line, -, hline⟩ := List.mem_filterMap.1 h
  exact spoken_sound hline

/-! ## Scripts -/

theorem readLines_prompts {p : Path} {n : Nat} {s schedule : Schedule} {lines : List (List Char)}
    (h : readLines p n s lines = .ok schedule) (t : Int) :
    schedule.prompts t = s.prompts t ++ ((lines.filterMap spoken).filter (·.1 = t)).map (·.2) := by
  induction lines generalizing n s with
  | nil => cases h; simp
  | cons line lines ih =>
    rw [readLines] at h
    cases hline : readLine line with
    | error e => rw [hline] at h; cases e <;> cases h
    | ok l =>
      rw [hline] at h
      cases l with
      | silent =>
        have hsilent : spoken line = none := by rw [spoken, hline]
        rw [ih h, List.filterMap_cons_none hsilent]
      | prompt tick text =>
        have hspoken : spoken line = some (tick, text) := by rw [spoken, hline]
        rw [ih h, List.filterMap_cons_some hspoken]
        by_cases ht : tick = t
        · rw [List.filter_cons_of_pos (by simpa using ht), ← ht, Schedule.prompts_add_self, List.append_assoc]
          rfl
        · rw [List.filter_cons_of_neg (by simpa using ht), Schedule.prompts_add_ne s text (Ne.symm ht)]

/-- **The schedule of a script has for every tick just what the script says for it.** -/
theorem read_prompts {p : Path} {cs : List Char} {schedule : Schedule} (h : read p cs = .ok schedule) (t : Int) :
    schedule.prompts t = ((said cs).filter (·.1 = t)).map (·.2) :=
  readLines_prompts h t

end Script

end TileCrew
