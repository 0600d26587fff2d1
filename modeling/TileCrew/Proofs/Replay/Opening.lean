/-
Logs that are opened. A writer makes the folders that lead to its log, and an empty log where there is none.
- `openLog_cases`: either nothing but folders has been made, or the log has been opened (`Opened`): it holds what it held,
  nothing where it is new, and all else that is new are folders;
- `Unlogged`: a folder in which there is no log, nor would be if only folders were made; `Opened.unlogged`: a log that is
  opened in it is new.
-/
import TileCrew.Proofs.Files.Growth
import TileCrew.Replay.Log

namespace TileCrew.RunLog

variable {s t u : Store} {folder place : Path} {old : List UInt8}

/-- the log of the folder has been opened: it lies at the place, where it held these octets before or nothing was -/
structure Opened (s u : Store) (folder place : Path) (old : List UInt8) : Prop where
  locate : u.locate (pathIn folder) = .ok place
  entry : u.entry? place = some (.file old)
  before : s.entry? place = some (.file old) ∨ s.entry? place = none ∧ old = []
  others : ∀ q, place ≠ q → u.entry? q = s.entry? q ∨ s.entry? q = none ∧ u.entry? q = some .folder

theorem makeFolderNamed_founds (base : Path) (name : String) (s : Store) :
    Store.Founds s (makeFolderNamed base name s).2 := by
  have hfounds := Store.makeFolders_founds s (base.join (Path.ofText name))
  unfold makeFolderNamed
  dsimp only
  cases hmake : s.makeFolders (base.join (Path.ofText name)) with
  | mk outcome t =>
    rw [hmake] at hfounds
    exact hfounds

theorem openLog_cases {wr : LogWriter} (hpath : wr.path = pathIn folder) (s : Store) :
    (∃ e t, wr.openLog s = (.error e, t) ∧ Store.Founds s t) ∨
      ∃ u place old, wr.openLog s = (.ok { wr with isOpen := true }, u) ∧ Opened s u folder place old := by
  have hfounds := Store.makeFolders_founds s wr.path.parent
  unfold LogWriter.openLog
  split
  · next e t heq =>
    rw [heq] at hfounds
    exact .inl ⟨_, t, rfl, hfounds⟩
  · next t heq =>
    rw [heq] at hfounds
    split
    · next e htouch => exact .inl ⟨_, t, rfl, hfounds⟩
    · next u htouch =>
      rw [hpath] at htouch
      obtain ⟨place, hplace, ⟨⟨old, hold⟩, rfl⟩ | ⟨hnone, rfl⟩⟩ := Store.touch_cases htouch
      · exact .inr ⟨u, place, old, rfl, hplace, hold, .inl ((hfounds.file_iff place old).1 hold), fun q _ => hfounds q⟩
      · have hne : t.entry? place ≠ some .folder := by simp [hnone]
        refine .inr ⟨_, place, [], rfl, Store.locate_put hne _ hplace,
          Store.entry_put_self t (Store.names_ne_nil hne) _, .inr ⟨?_, rfl⟩, fun q hq => ?_⟩
        · rcases hfounds place with hsame | ⟨hnone', -⟩
          · exact hsame.symm.trans hnone
          · exact hnone'
        · rw [Store.entry_put_ne t hq]
          exact hfounds q

theorem Opened.keeps (ho : Opened s u folder place old) : Store.Keeps s u := by
  intro q e hq
  by_cases hplace : place = q
  · subst hplace
    rcases ho.before with hold | ⟨hnone, -⟩
    · rw [ho.entry, ← hold, hq]
    · rw [hnone] at hq
      cases hq
  · rcases ho.others q hplace with hsame | ⟨hnone, -⟩
    · rw [hsame, hq]
    · rw [hnone] at hq
      cases hq

theorem Opened.holds (ho : Opened s u folder place old) : u.Holds (pathIn folder) old := ⟨place, ho.locate, ho.entry⟩

/-! ## Folders without a log -/

/-- no log lies in the folder, and none would if there were more folders -/
def Unlogged (s : Store) (folder : Path) : Prop :=
  ∀ t, Store.Founds s t → ∀ octets, ¬Store.Holds t (pathIn folder) octets

theorem Unlogged.founds (h : Unlogged s folder) (hst : Store.Founds s t) : Unlogged t folder :=
  fun u htu => h u (hst.trans htu)

/-- a folder named without steps back, there or not, and no file of the name of its log -/
theorem unlogged_of_forth (hdots : ".." ∉ folder.names) (hnone : s.entry? (pathIn folder) = none) :
    Unlogged s folder := by
  rintro t hst octets ⟨q, hq, hentry⟩
  obtain ⟨-, -, hwalk⟩ := Store.locate_ok hq
  have hnames : ".." ∉ (pathIn folder).names := by
    show ".." ∉ folder.names ++ [fileName]
    simp [hdots, fileName]
  have hplain := Store.walk_forth hnames hwalk
  rw [List.nil_append] at hplain
  subst hplain
  rw [hst.file_iff] at hentry
  have hfile : s.entry? (pathIn folder) = some (.file octets) := hentry
  rw [hnone] at hfile
  cases hfile

theorem Opened.unlogged (ho : Opened s u folder place old) (h : Unlogged s folder) :
    s.entry? place = none ∧ old = [] := by
  rcases ho.before with hold | hnew
  · have hfounds : Store.Founds s u := by
      intro q
      by_cases hq : place = q
      · subst hq
        exact .inl (ho.entry.trans hold.symm)
      · exact ho.others q hq
    exact absurd ho.holds (h u hfounds old)
  · exact hnew

end TileCrew.RunLog
