/-
Names of runs. A run that is given no name is named for the moment at which it starts. Such a name is short and has digits,
dashes and two letters in it (`runId_chars`), so it is the name of one entry of a folder (`runId_isEntryName`): as a path
it is that name alone (`ofText_entryName`).
-/
import Mathlib
import TileCrew.Proofs.Files.Path
import TileCrew.Proofs.Outcomes
import TileCrew.Proofs.Text.Digits
import TileCrew.Replay.Log

namespace TileCrew

open Decimal Text

/-! ## Names of entries -/

/-- an entry of a folder can have the name, and no path through folders is spelled by it -/
structure Path.IsEntryName (name : String) : Prop where
  noSlash : '/' ∉ name.toList
  noNul : '\x00' ∉ name.toList
  ne_empty : name ≠ ""
  ne_dot : name ≠ "."
  ne_dots : name ≠ ".."
  short : name.utf8ByteSize ≤ Store.nameLimit

/-- such a name is spelled as a path by itself -/
theorem Path.ofText_entryName {name : String} (h : Path.IsEntryName name) : Path.ofText name = ⟨"", [name]⟩ := by
  have hstart : Path.startOf name.toList = "" := by
    unfold Path.startOf
    split
    · next heq => exact absurd (by rw [heq]; exact List.mem_cons_self) h.noSlash
    · next heq => exact absurd (by rw [heq]; exact List.mem_cons_self) h.noSlash
    · next heq => exact absurd (by rw [heq]; exact List.mem_cons_self) h.noSlash
    · rfl
  rw [Path.ofText, hstart, Path.pieces_noSlash h.noSlash, List.reverse_nil, List.nil_append, String.ofList_toList,
    List.filter_cons_of_pos (by simp [h.ne_empty, h.ne_dot])]
  rfl

/-! ## Moments -/

namespace Moment

theorem between_ok {low high part : ℤ} {fault : Invalid} {u : Unit} :
    between low high part fault = .ok u ↔ low ≤ part ∧ part ≤ high := by
  unfold between
  split
  · next h => exact iff_of_true rfl h
  · next h => exact iff_of_false (fun hc => by cases hc) h

/-- no part of a moment is written with more digits than its place in a name has -/
structure Bounded (m : Moment) : Prop where
  year : ∃ y : ℕ, m.year = y ∧ y < 10 ^ 4
  month : m.month < 10 ^ 2
  day : m.day < 10 ^ 2
  hour : m.hour < 10 ^ 2
  minute : m.minute < 10 ^ 2
  second : m.second < 10 ^ 2

theorem daysIn_le (year month : ℤ) : daysIn year month ≤ 31 := by
  unfold daysIn
  split_ifs <;> omega

theorem ofParts_bounded {year month day hour minute second microsecond : ℤ} {m : Moment}
    (h : ofParts year month day hour minute second microsecond = .ok m) : m.Bounded := by
  unfold ofParts at h
  split at h
  · cases h
  · simp only [bind_ok, between_ok] at h
    obtain ⟨_, hyear, _, hmonth, _, hday, _, hhour, _, hminute, _, hsecond, _, -, hm⟩ := h
    have hdays := daysIn_le year month
    cases hm
    exact ⟨⟨year.toNat, show year = _ by omega, by omega⟩, show month.toNat < _ by omega, show day.toNat < _ by omega,
      show hour.toNat < _ by omega, show minute.toNat < _ by omega, show second.toNat < _ by omega⟩

theorem ofClock_bounded {clock : Float} {m : Moment} (h : ofClock clock = .ok m) : m.Bounded := by
  unfold ofClock at h
  obtain ⟨seconds, -, h⟩ := bind_ok.1 h
  unfold ofSeconds at h
  dsimp only at h
  split at h
  · exact ofParts_bounded h
  · cases h

/-- may stand in the name of a run -/
def isNameChar (c : Char) : Bool := isAsciiDigit c || ['-', 'T', 'Z'].contains c

theorem digits_nameChars {ds : List Char} (h : AreDigits ds) : ∀ c ∈ ds, isNameChar c = true := by
  intro c hc
  rw [isNameChar, h c hc, Bool.true_or]

theorem pair_chars {n : ℕ} (h : n < 10 ^ 2) :
    (∀ c ∈ (pair n).toList, isNameChar c = true) ∧ (pair n).toList.length = 2 := by
  have hlength : (digitsOf n).length ≤ 2 := (digitsOf_length_le (by omega)).2 h
  rw [pair, String.toList_ofList]
  refine ⟨digits_nameChars (areDigits_append (areDigits_zeros _) (areDigits_digitsOf n)), ?_⟩
  rw [List.length_leftpad]
  omega

variable {m : Moment}

/-- **The name of a run has digits, dashes and two letters in it, twenty at most.** -/
theorem runId_chars (h : m.Bounded) :
    (∀ c ∈ m.runId.toList, isNameChar c = true) ∧ m.runId.toList.length ≤ 20 := by
  obtain ⟨y, hyear, hy⟩ := h.year
  have hyearChars : m.year.repr.toList = digitsOf y := by
    rw [hyear]
    exact String.toList_ofList
  have hyearLength : (digitsOf y).length ≤ 4 := (digitsOf_length_le (by omega)).2 hy
  have hmonth := pair_chars h.month
  have hday := pair_chars h.day
  have hhour := pair_chars h.hour
  have hminute := pair_chars h.minute
  have hsecond := pair_chars h.second
  have hrunId : m.runId.toList = digitsOf y ++ ('-' :: (pair m.month).toList) ++ ('-' :: (pair m.day).toList) ++
      ('T' :: (pair m.hour).toList) ++ ('-' :: (pair m.minute).toList) ++ ('-' :: (pair m.second).toList) ++ ['Z'] := by
    simp [runId, monthAndDay, String.toList_append, hyearChars]
  rw [hrunId]
  constructor
  · simp only [List.forall_mem_append, List.forall_mem_cons]
    exact ⟨⟨⟨⟨⟨⟨digits_nameChars (areDigits_digitsOf y), rfl, hmonth.1⟩, rfl, hday.1⟩, rfl, hhour.1⟩, rfl, hminute.1⟩, rfl,
      hsecond.1⟩, rfl, List.forall_mem_nil _⟩
  · simp only [List.length_append, List.length_cons, List.length_nil, hmonth.2, hday.2, hhour.2, hminute.2, hsecond.2]
    omega

theorem runId_ends (m : Moment) : 'Z' ∈ m.runId.toList := by
  simp [runId, String.toList_append]

theorem utf8ByteSize_le (s : String) : s.utf8ByteSize ≤ 4 * s.toList.length := by
  have hlist (cs : List Char) : String.utf8Len cs ≤ 4 * cs.length := by
    induction cs with
    | nil => exact Nat.le_refl 0
    | cons c cs ih =>
      have hc := Char.utf8Size_le_four c
      rw [String.utf8Len_cons, List.length_cons]
      omega
  have hsize := hlist s.toList
  rwa [← String.utf8ByteSize_ofList, String.ofList_toList] at hsize

/-- **The name of a run is the name of an entry of a folder**, and not that of a log. -/
theorem runId_isEntryName {clock : Float} (h : ofClock clock = .ok m) :
    Path.IsEntryName m.runId ∧ m.runId ≠ RunLog.fileName := by
  obtain ⟨hchars, hlength⟩ := runId_chars (ofClock_bounded h)
  have hz := runId_ends m
  have other {name : String} (hname : 'Z' ∉ name.toList) : m.runId ≠ name := by
    rintro rfl
    exact hname hz
  have none {c : Char} (hc : isNameChar c = false) : c ∉ m.runId.toList := by
    intro hmem
    rw [hchars c hmem] at hc
    cases hc
  have hsize := utf8ByteSize_le m.runId
  have hlimit : Store.nameLimit = 255 := rfl
  exact ⟨⟨none rfl, none rfl, other (by decide), other (by decide), other (by decide), by omega⟩, other (by decide)⟩

end Moment

end TileCrew
