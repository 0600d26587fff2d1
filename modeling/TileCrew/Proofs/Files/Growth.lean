/-
How stores grow. Nothing is ever taken away: making folders turns places without an entry into folders (`Founds`), and
making a file turns one into an empty file (`touch_cases`). As long as every entry is kept (`Keeps`), files stay where
they are found and hold what they held; octets appended to a file twice are appended at once (`append_append`).
-/
import TileCrew.Proofs.Files.Store

namespace TileCrew.Store

open Files

/-! ## What is kept -/

/-- every entry of the first store is one of the second -/
def Keeps (s t : Store) : Prop := ∀ q e, s.entry? q = some e → t.entry? q = some e

theorem Keeps.refl (s : Store) : Keeps s s := fun _ _ h => h

theorem Keeps.trans {s t u : Store} (h : Keeps s t) (h' : Keeps t u) : Keeps s u := fun q e hq => h' q e (h q e hq)

theorem Keeps.extends {s t : Store} (h : Keeps s t) : Extends s t := fun q hq => h q .folder hq

theorem Keeps.holds {s t : Store} (h : Keeps s t) {p : Path} {octets : List UInt8} (hp : s.Holds p octets) :
    t.Holds p octets := by
  obtain ⟨place, hplace, hentry⟩ := hp
  exact ⟨place, locate_extends h.extends hplace, h place _ hentry⟩

theorem holds_of_read {s : Store} {p : Path} {octets : List UInt8} (h : s.read p = .ok octets) : s.Holds p octets := by
  unfold read find at h
  cases hp : s.locate p with
  | error c =>
    rw [hp] at h
    cases h
  | ok place =>
    rw [hp] at h
    simp only [Except.map] at h
    split at h
    · cases h
    · cases h
    · cases h
    · next heq =>
      obtain ⟨rfl, hentry⟩ := Prod.mk.inj (Except.ok.inj heq)
      cases h
      exact ⟨place, hp, hentry⟩

/-! ## Folders -/

/-- all that is new in the second store are folders -/
def Founds (s t : Store) : Prop := ∀ q, t.entry? q = s.entry? q ∨ s.entry? q = none ∧ t.entry? q = some .folder

theorem Founds.refl (s : Store) : Founds s s := fun _ => .inl rfl

theorem Founds.trans {s t u : Store} (h : Founds s t) (h' : Founds t u) : Founds s u := by
  intro q
  rcases h q with hst | ⟨hs, ht⟩
  · rw [← hst]
    exact h' q
  · rcases h' q with htu | ⟨ht', -⟩
    · exact .inr ⟨hs, htu.trans ht⟩
    · rw [ht] at ht'
      cases ht'

/-- files are neither made nor lost -/
theorem Founds.file_iff {s t : Store} (h : Founds s t) (q : Path) (octets : List UInt8) :
    t.entry? q = some (.file octets) ↔ s.entry? q = some (.file octets) := by
  rcases h q with heq | ⟨hs, ht⟩
  · rw [heq]
  · rw [hs, ht]
    simp

theorem Founds.keeps {s t : Store} (h : Founds s t) : Keeps s t := by
  intro q e hq
  rcases h q with heq | ⟨hs, -⟩
  · rw [heq, hq]
  · rw [hs] at hq
    cases hq

theorem makeFolder_cases {s t : Store} {p : Path} (h : s.makeFolder p = .ok t) :
    ∃ place, s.locate p = .ok place ∧ s.entry? place = none ∧ t = s.put place .folder := by
  unfold makeFolder find at h
  cases hp : s.locate p with
  | error c =>
    rw [hp] at h
    cases h
  | ok place =>
    rw [hp] at h
    simp only [Except.map] at h
    split at h
    · cases h
    · cases h
    · next heq =>
      obtain ⟨rfl, hentry⟩ := Prod.mk.inj (Except.ok.inj heq)
      exact ⟨place, rfl, hentry, (Except.ok.inj h).symm⟩

theorem makeFolder_founds {s t : Store} {p : Path} (h : s.makeFolder p = .ok t) : Founds s t := by
  obtain ⟨place, -, hnone, rfl⟩ := makeFolder_cases h
  intro q
  by_cases hq : place = q
  · subst hq
    have hne : s.entry? place ≠ some .folder := by simp [hnone]
    exact .inr ⟨hnone, entry_put_self s (names_ne_nil hne) _⟩
  · exact .inl (entry_put_ne s hq _)

theorem makeFoldersTo_founds (p : Path) (depth : Nat) (s : Store) : Founds s (makeFoldersTo p depth s).2 := by
  induction depth generalizing p s with
  | zero =>
    unfold makeFoldersTo
    split
    · next heq => exact makeFolder_founds heq
    · exact .refl s
    · split
      · exact .refl s
      · exact .refl s
  | succ depth ih =>
    unfold makeFoldersTo
    split
    · next heq => exact makeFolder_founds heq
    · have hparent := ih p.parent s
      dsimp only
      split
      · next t heq =>
        rw [heq] at hparent
        exact hparent
      · next t heq =>
        rw [heq] at hparent
        split
        · next heq' => exact hparent.trans (makeFolder_founds heq')
        · split
          · exact hparent
          · exact hparent
    · split
      · exact .refl s
      · exact .refl s

/-- **Making folders changes nothing that is there.** -/
theorem makeFolders_founds (s : Store) (p : Path) : Founds s (s.makeFolders p).2 := makeFoldersTo_founds p _ s

theorem isFolder_of {s : Store} {p place : Path} (hp : s.locate p = .ok place) (h : s.entry? place = some .folder) :
    s.isFolder p = true := by
  simp only [isFolder, find, hp, Except.map, h]

theorem makeFolders_new {s : Store} {p place : Path} (hp : s.locate p = .ok place) (h : s.entry? place = none) :
    s.makeFolders p = (.ok (), s.put place .folder) := by
  have hmake : s.makeFolder p = .ok (s.put place .folder) := by
    simp only [makeFolder, find, hp, Except.map, h]
  unfold makeFolders makeFoldersTo
  simp only [hmake]

/-! ## Files -/

/-- a file that can be appended to is there already, or is made empty where nothing is -/
theorem touch_cases {s t : Store} {p : Path} (h : s.touch p = .ok t) :
    ∃ place, s.locate p = .ok place ∧
      ((∃ old, s.entry? place = some (.file old)) ∧ t = s ∨ s.entry? place = none ∧ t = s.put place (.file [])) := by
  unfold touch find at h
  cases hp : s.locate p with
  | error c =>
    rw [hp] at h
    cases h
  | ok place =>
    rw [hp] at h
    simp only [Except.map] at h
    split at h
    · cases h
    · next heq =>
      obtain ⟨rfl, hentry⟩ := Prod.mk.inj (Except.ok.inj heq)
      exact ⟨place, rfl, .inr ⟨hentry, (Except.ok.inj h).symm⟩⟩
    · cases h
    · next old heq =>
      obtain ⟨rfl, hentry⟩ := Prod.mk.inj (Except.ok.inj heq)
      exact ⟨place, rfl, .inl ⟨⟨old, hentry⟩, (Except.ok.inj h).symm⟩⟩

theorem put_put (s : Store) (place : Path) (e e' : Entry) : (s.put place e).put place e' = s.put place e' := by
  have hentries (entries : List (Path × Entry)) :
      putEntry place e' (putEntry place e entries) = putEntry place e' entries := by
    induction entries with
    | nil => simp [putEntry]
    | cons f fs ih =>
      by_cases hf : f.1 = place
      · simp [putEntry, hf]
      · simp [putEntry, hf, ih]
  exact congrArg Store.mk (hentries s.entries)

theorem append_none {s : Store} {p : Path} (h : ∀ octets, ¬s.Holds p octets) (octets : List UInt8) :
    s.append p octets = s := by
  unfold append find
  cases hp : s.locate p with
  | error c => rfl
  | ok place =>
    simp only [Except.map]
    split
    · next old heq =>
      obtain ⟨rfl, hentry⟩ := Prod.mk.inj (Except.ok.inj heq)
      exact absurd ⟨place, hp, hentry⟩ (h old)
    · rfl

theorem append_append (s : Store) (p : Path) (octets octets' : List UInt8) :
    (s.append p octets).append p octets' = s.append p (octets ++ octets') := by
  by_cases hfile : ∃ old, s.Holds p old
  · obtain ⟨old, place, hp, hentry⟩ := hfile
    obtain ⟨happended, -, hplace⟩ := append_entry hp hentry octets
    have hput (t : Store) {old : List UInt8} (hp : t.locate p = .ok place) (h : t.entry? place = some (.file old))
        (octets : List UInt8) : t.append p octets = t.put place (.file (old ++ octets)) := by
      simp only [append, find, hp, Except.map, h]
    rw [hput _ hplace happended, hput s hp hentry, hput s hp hentry, put_put, List.append_assoc]
  · have hnone : ∀ old, ¬s.Holds p old := not_exists.1 hfile
    rw [append_none hnone, append_none hnone, append_none hnone]

end TileCrew.Store
