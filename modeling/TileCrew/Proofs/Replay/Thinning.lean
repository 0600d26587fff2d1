/-
Which snapshots thinning keeps. The last snapshot is kept whatever its tick, each other one just if its tick lies on the
stride: this is said once, from the front (`thin_one`, `thin_cons`), and carries what follows by induction.
- `thin_getLast?`: the last snapshot stays the last;
- `thin_positions`: what is kept are the snapshots at certain positions (`kept`), in their order;
- `thin_thin`: thinning by a stride and then by a multiple of it is thinning by the multiple;
- `thinning_stable`: **thinning takes just the positions on the stride and the last one, each once and in order, and a
  finer thinning before it makes no difference**.
-/
import Mathlib.Data.List.FinRange
import TileCrew.Replay.Reader

namespace TileCrew.RunLog

theorem onStride_iff {every : Int} {s : Snapshot} : onStride every s = true ↔ max 1 every ∣ s.tick := by
  rw [onStride, beq_iff_eq, Int.dvd_iff_emod_eq_zero]

theorem onStride_of_dvd {a b : Int} (h : max 1 a ∣ max 1 b) {s : Snapshot} (hs : onStride b s = true) :
    onStride a s = true :=
  onStride_iff.2 (Int.dvd_trans h (onStride_iff.1 hs))

/-! ## From the front -/

theorem thin_one (every : Int) (s : Snapshot) : thin every [s] = [s] := by
  cases hs : onStride every s with
  | true => simp [thin, hs]
  | false => simp [thin, hs]

theorem thin_cons (every : Int) (s : Snapshot) {rest : List Snapshot} (h : rest ≠ []) :
    thin every (s :: rest) = [s].filter (onStride every) ++ thin every rest := by
  obtain ⟨t, rest, rfl⟩ := List.exists_cons_of_ne_nil h
  have hlast : (s :: t :: rest).getLast? = (t :: rest).getLast? := List.getLast?_cons_cons
  rw [thin, hlast, thin, ← List.append_assoc, ← List.filter_append]
  rfl

theorem thin_ne_nil (every : Int) {snapshots : List Snapshot} (h : snapshots ≠ []) : thin every snapshots ≠ [] := by
  induction snapshots with
  | nil => exact absurd rfl h
  | cons s rest ih =>
    by_cases hrest : rest = []
    · rw [hrest, thin_one]
      exact List.cons_ne_nil s []
    · rw [thin_cons every s hrest]
      exact List.append_ne_nil_of_right_ne_nil _ (ih hrest)

/-- the last snapshot stays the last -/
theorem thin_getLast? (every : Int) (snapshots : List Snapshot) :
    (thin every snapshots).getLast? = snapshots.getLast? := by
  induction snapshots with
  | nil => rfl
  | cons s rest ih =>
    by_cases hrest : rest = []
    · rw [hrest, thin_one]
    · obtain ⟨t, more, rfl⟩ := List.exists_cons_of_ne_nil hrest
      rw [thin_cons every s hrest, List.getLast?_append, ih, List.getLast?_cons_cons, List.getLast?_cons]
      rfl

/-- thinning by a stride and then by a multiple of it is thinning by the multiple -/
theorem thin_thin {a b : Int} (h : max 1 a ∣ max 1 b) (snapshots : List Snapshot) :
    thin b (thin a snapshots) = thin b snapshots := by
  induction snapshots with
  | nil => rfl
  | cons s rest ih =>
    by_cases hrest : rest = []
    · rw [hrest, thin_one]
    · rw [thin_cons a s hrest, thin_cons b s hrest]
      cases ha : onStride a s with
      | true =>
        have hkept : [s].filter (onStride a) = [s] := by simp [ha]
        rw [hkept, List.singleton_append, thin_cons b s (thin_ne_nil a hrest), ih]
      | false =>
        -- off the finer stride is off the coarser one
        have hb : onStride b s ≠ true := by
          intro hb
          rw [onStride_of_dvd h hb] at ha
          cases ha
        have hnone : [s].filter (onStride a) = [] := by simp [ha]
        have hnone' : [s].filter (onStride b) = [] := by simp [hb]
        rw [hnone, hnone', List.nil_append, List.nil_append, ih]

/-! ## Positions -/

/-- the positions that are kept: those with a tick on the stride, and the last -/
def kept (every : Int) (snapshots : List Snapshot) : List (Fin snapshots.length) :=
  (List.finRange snapshots.length).filter fun i => max 1 every ∣ snapshots[i].tick ∨ i.val + 1 = snapshots.length

theorem mem_kept {every : Int} {snapshots : List Snapshot} {i : Fin snapshots.length} :
    i ∈ kept every snapshots ↔ max 1 every ∣ snapshots[i].tick ∨ i.val + 1 = snapshots.length := by
  simp [kept]

/-- they come in order, none twice -/
theorem kept_increasing (every : Int) (snapshots : List Snapshot) : (kept every snapshots).Pairwise (· < ·) := by
  have hall : (List.finRange snapshots.length).Pairwise (· < ·) := List.pairwise_lt_finRange _
  exact hall.filter _

theorem kept_cons (every : Int) (s : Snapshot) {rest : List Snapshot} (h : rest ≠ []) :
    (kept every (s :: rest)).map (s :: rest).get = [s].filter (onStride every) ++ (kept every rest).map rest.get := by
  have hlength : rest.length ≠ 0 := by rwa [ne_eq, List.length_eq_zero_iff]
  have hrest : ((List.finRange rest.length).map Fin.succ).filter
      (fun i : Fin (s :: rest).length => max 1 every ∣ (s :: rest)[i].tick ∨ i.val + 1 = (s :: rest).length) =
        (kept every rest).map Fin.succ := by
    rw [List.filter_map, kept]
    congr 2
    funext i
    simp
  have hall : List.finRange (s :: rest).length = (0 : Fin (rest.length + 1)) :: (List.finRange rest.length).map Fin.succ :=
    List.finRange_succ
  have hback : ((kept every rest).map Fin.succ).map (s :: rest).get = (kept every rest).map rest.get := by
    rw [List.map_map]
    rfl
  rw [kept, hall, List.filter_cons, hrest]
  cases hs : onStride every s with
  | true =>
    have hdvd : max 1 every ∣ s.tick := onStride_iff.1 hs
    simp [hdvd, hs, hback]
  | false =>
    have hdvd : ¬max 1 every ∣ s.tick := by rw [← onStride_iff, hs]; exact Bool.false_ne_true
    simp [hdvd, hs, hback, hlength]

/-- what is kept are the snapshots at these positions -/
theorem thin_positions (every : Int) (snapshots : List Snapshot) :
    thin every snapshots = (kept every snapshots).map snapshots.get := by
  induction snapshots with
  | nil => rfl
  | cons s rest ih =>
    by_cases hrest : rest = []
    · subst hrest
      rw [thin_one]
      simp [kept, List.finRange_succ]
    · rw [thin_cons every s hrest, kept_cons every s hrest, ih]

/-- **Thinning is stable under coarsening, and takes just the positions on the stride and the last one.** The ticks may be
any integers, in any order and any number of times; a stride below one counts as one. -/
theorem thinning_stable (a b : Int) (snapshots : List Snapshot) :
    (max 1 a ∣ max 1 b → thin b (thin a snapshots) = thin b snapshots) ∧
    (∃ positions : List (Fin snapshots.length), positions.Pairwise (· < ·) ∧
      (∀ i, i ∈ positions ↔ max 1 a ∣ snapshots[i].tick ∨ i.val + 1 = snapshots.length) ∧
      thin a snapshots = positions.map snapshots.get) ∧
    (thin a snapshots).getLast? = snapshots.getLast? := by
  refine ⟨?_, ?_, thin_getLast? a snapshots⟩
  · intro h
    exact thin_thin h snapshots
  · exact ⟨kept a snapshots, kept_increasing a snapshots, fun i => mem_kept, thin_positions a snapshots⟩

/-- by two and then by four, the ticks being out of order and the last of them odd -/
theorem thinning_stable_odd :
    let snapshots : List Snapshot := [3, -4, 6, 6, 5].map fun tick => ⟨tick, ⟨[], [], []⟩⟩
    max 1 2 ∣ max 1 (4 : Int) ∧ thin 4 (thin 2 snapshots) = thin 4 snapshots ∧
      (thin 2 snapshots).map (·.tick) = [-4, 6, 6, 5] ∧ (thin 4 snapshots).map (·.tick) = [-4, 5] := by
  intro snapshots
  have h : max 1 2 ∣ max 1 (4 : Int) := by decide
  exact ⟨h, (thinning_stable 2 4 snapshots).1 h, by decide, by decide⟩

end TileCrew.RunLog
