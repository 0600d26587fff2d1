/-
Runs that are recorded in a folder, and what becomes of all that was there.
- `record_cases`: a log that cannot be opened, a header that cannot be written, or a header with ticks behind it;
- `record_keeps`: in a folder without a log, a recording changes nothing that was there, also where it failed;
- `record_ended`: **a run that is recorded there to its end has come to no fault, and its log reads back as its header and
  all that was seen in it**.
-/
import TileCrew.Proofs.Replay.Opening
import TileCrew.Proofs.Replay.Roundtrip

namespace TileCrew.RunLog

variable {s u : Store} {folder place : Path} {old : List UInt8} {h : RunHeader} {r : Run}

/-- no log can be opened; or one can, and its header cannot be written, or it is written and what was seen comes behind -/
theorem record_cases (folder : Path) (h : RunHeader) (r : Run) (s : Store) :
    (∃ e t, (LogWriter.ofFolder folder).openLog s = (.error e, t) ∧ record folder h r s = (.error e, t) ∧
      Store.Founds s t) ∨
    ∃ u place old, (LogWriter.ofFolder folder).openLog s = (.ok { LogWriter.ofFolder folder with isOpen := true }, u) ∧
      Opened s u folder place old ∧
      ((∃ e, writeLine .header h.toJson = .error e ∧ record folder h r s = (.error e, u)) ∨
        h.toJson.isPrintable = true) := by
  have hpath : (LogWriter.ofFolder folder).path = pathIn folder := rfl
  rcases openLog_cases hpath s with ⟨e, t, hopen, hfounds⟩ | ⟨u, place, old, hopen, ho⟩
  · exact .inl ⟨e, t, hopen, record_error hopen, hfounds⟩
  · refine .inr ⟨u, place, old, hopen, ho, ?_⟩
    cases hh : h.toJson.isPrintable with
    | false =>
      obtain ⟨e, he⟩ := writeLine_error .header hh
      exact .inl ⟨e, he, record_unwritable hopen he⟩
    | true => exact .inr rfl

/-- a run is recorded behind what its log held, and nothing else changes -/
theorem record_entry
    (hopen : (LogWriter.ofFolder folder).openLog s = (.ok { LogWriter.ofFolder folder with isOpen := true }, u))
    (ho : Opened s u folder place old) (hh : h.toJson.isPrintable = true) :
    Store.entry? (record folder h r s).2 place = some (.file (old ++ octetsOf (recordsOf h (written r.snapshots)))) ∧
      ∀ q, place ≠ q → Store.entry? (record folder h r s).2 q = u.entry? q := by
  obtain ⟨hheader, hothers, hplace⟩ := Store.append_entry ho.locate ho.entry (headerRecord h).line
  obtain ⟨hticks, hothers', -⟩ := Store.append_entry hplace hheader
    ((written r.snapshots).map fun p => (tickRecord p).line).flatten
  rw [record_store hopen hh, octetsOf_recordsOf, ← List.append_assoc]
  exact ⟨hticks, fun q hq => (hothers' q hq).trans (hothers q hq)⟩

/-- in a folder without a log a recording changes nothing that is there -/
theorem record_keeps (folder : Path) (h : RunHeader) (r : Run) (s : Store) (hnew : Unlogged s folder) :
    Store.Keeps s (record folder h r s).2 := by
  rcases record_cases folder h r s with ⟨e, t, -, heq, hfounds⟩ | ⟨u, place, old, hopen, ho, ⟨e, -, heq⟩ | hh⟩
  · rw [heq]
    exact hfounds.keeps
  · rw [heq]
    exact ho.keeps
  · intro q e hq
    have hne : place ≠ q := by
      rintro rfl
      rw [(ho.unlogged hnew).1] at hq
      cases hq
    rw [(record_entry hopen ho hh).2 q hne]
    exact ho.keeps q e hq

/-- a recording that ends well has written all that was seen, and the run came to no fault -/
theorem record_ok {n : Nat}
    (hopen : (LogWriter.ofFolder folder).openLog s = (.ok { LogWriter.ofFolder folder with isOpen := true }, u))
    (hh : h.toJson.isPrintable = true) (hend : (record folder h r s).1 = .ok n) :
    (∀ p ∈ r.snapshots, p.toJson.isPrintable = true) ∧ r.fault = none ∧ n = r.snapshots.length := by
  have hresult := record_result (r := r) hopen hh
  rw [hend] at hresult
  cases hlines : (tickLines r.snapshots).2 with
  | some e => rw [hlines] at hresult; cases hresult
  | none =>
    have hs := printable_of_tickLines hlines
    have houtcome := record_outcome hopen hh hs
    rw [hend] at houtcome
    cases hfault : r.fault with
    | some e => rw [hfault] at houtcome; cases houtcome
    | none => rw [hfault] at houtcome; exact ⟨hs, rfl, Except.ok.inj houtcome⟩

/-- **A run that is recorded to its end is alone in its log, and its log reads back as it was.** -/
theorem record_ended {n : Nat} (hend : (record folder h r s).1 = .ok n) (hnew : Unlogged s folder) :
    r.fault = none ∧ n = r.snapshots.length ∧ header folder (record folder h r s).2 = .ok h ∧
      snapshots folder (record folder h r s).2 = ⟨r.snapshots, none⟩ := by
  rcases record_cases folder h r s with ⟨e, t, -, heq, -⟩ | ⟨u, place, old, hopen, ho, ⟨e, -, heq⟩ | hh⟩
  · rw [heq] at hend
    cases hend
  · rw [heq] at hend
    cases hend
  · obtain ⟨hs, hfault, hn⟩ := record_ok hopen hh hend
    have hholds := record_appends (r := r) hopen ho.holds hh
    rw [(ho.unlogged hnew).2, List.nil_append, written_eq hs] at hholds
    exact ⟨hfault, hn, header_recorded hholds hh hs, snapshots_recorded hholds hh hs⟩

end TileCrew.RunLog
