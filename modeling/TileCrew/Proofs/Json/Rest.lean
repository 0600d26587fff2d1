/-
What reading leaves. Whatever is read of a text, its end is left (`Within`): of a number, a string, and of a value with all
that is in it, since each part is read from what the part before has left.
- `readNumber_within`: if the digits of a number are too many, they stand in the text one behind the other;
- `readValue_within`: so it is for a number anywhere within a value;
- `read_tooLong`: **a text is refused for an integer that is too long only if it has a run of that many digits**.
-/
import Mathlib
import TileCrew.Json.Reader

namespace TileCrew.Json

open Text

variable {α β : Type}

/-- the text has a run of `n` digits, more than a number may have -/
def LongRun (n : ℕ) (cs : List Char) : Prop :=
  digitLimit < n ∧ ∃ ds, ds <:+: cs ∧ ds.length = n ∧ ∀ c ∈ ds, isAsciiDigit c = true

theorem LongRun.mono {n : ℕ} {cs ds : List Char} (h : LongRun n cs) (hcs : cs <:+: ds) : LongRun n ds := by
  obtain ⟨hn, run, hrun, hlength, hdigits⟩ := h
  exact ⟨hn, run, hrun.trans hcs, hlength, hdigits⟩

/-- reading leaves an end of the text; it ends with a number that is too long only at such a run of digits -/
def Within (cs : List Char) : Read α → Prop
  | .ok r => r.2 <:+ cs
  | .error (.tooLong n) => LongRun n cs
  | .error _ => True

namespace Within

variable {cs ds : List Char} {r : Read α}

theorem mono (h : Within cs r) (hcs : cs <:+ ds) : Within ds r := by
  cases r with
  | ok r => exact List.IsSuffix.trans h hcs
  | error e =>
    cases e with
    | complaint c rest => exact trivial
    | tooLong n => exact LongRun.mono h hcs.isInfix
    | tooDeep c => exact trivial

theorem error {e : Stop} (h : Within cs (.error e : Read α)) : Within cs (.error e : Read β) := by
  cases e with
  | complaint c rest => exact trivial
  | tooLong n => exact h
  | tooDeep c => exact trivial

theorem map (h : Within cs r) {f : α × List Char → β × List Char} (hf : ∀ r, (f r).2 = r.2) : Within cs (r.map f) := by
  cases r with
  | ok r =>
    show (f r).2 <:+ cs
    rw [hf]
    exact h
  | error e => exact h.error

end Within

/-! ## Numbers -/

theorem pointDigits_suffix (cs : List Char) : (pointDigits cs).2 <:+ cs := by
  unfold pointDigits
  split
  · next d rest =>
    split
    · exact ((List.dropWhile_suffix _).trans (List.suffix_cons d rest)).trans (List.suffix_cons _ _)
    · exact List.suffix_rfl
  · exact List.suffix_rfl

theorem takeSign_suffix (cs : List Char) : (takeSign cs).2 <:+ cs := by
  unfold takeSign
  split
  · exact List.suffix_cons _ _
  · exact List.suffix_cons _ _
  · exact List.suffix_rfl

theorem exponentPart_suffix (cs : List Char) : (exponentPart cs).2 <:+ cs := by
  unfold exponentPart
  split
  · next c rest =>
    split
    · dsimp only
      split
      · exact List.suffix_rfl
      · exact ((List.dropWhile_suffix _).trans (takeSign_suffix rest)).trans (List.suffix_cons _ _)
    · exact List.suffix_rfl
  · exact List.suffix_rfl

theorem wholeDigits_append (cs : List Char) : (wholeDigits cs).1 ++ (wholeDigits cs).2 = cs := by
  unfold wholeDigits
  split
  · rfl
  · exact List.takeWhile_append_dropWhile

theorem wholeDigits_digits (cs : List Char) : ∀ c ∈ (wholeDigits cs).1, isAsciiDigit c = true := by
  unfold wholeDigits
  split
  · exact List.forall_mem_singleton.2 rfl
  · exact List.all_eq_true.1 List.all_takeWhile

def unsigned : List Char → List Char
  | '-' :: cs => cs
  | cs => cs

theorem unsigned_suffix (cs : List Char) : unsigned cs <:+ cs := by
  unfold unsigned
  split
  · exact List.suffix_cons _ _
  · exact List.suffix_rfl

theorem unsigned_plain {cs : List Char} (h : ∀ rest, cs = '-' :: rest → False) : unsigned cs = cs := unsigned.eq_2 cs h

/-- a number is complained about, or read up to the end of the text that it leaves, or has too many digits before its
point -/
theorem readNumber_cases (cs : List Char) :
    (∃ c rest, readNumber cs = .error (.complaint c rest)) ∨ (∃ v rest, readNumber cs = .ok (v, rest) ∧ rest <:+ cs) ∨
      digitLimit < (wholeDigits (unsigned cs)).1.length ∧
        readNumber cs = .error (.tooLong (wholeDigits (unsigned cs)).1.length) := by
  have hrest : (exponentPart (pointDigits (wholeDigits (unsigned cs)).2).2).2 <:+ cs :=
    (((exponentPart_suffix _).trans (pointDigits_suffix _)).trans ⟨_, wholeDigits_append _⟩).trans (unsigned_suffix cs)
  unfold readNumber
  split
  next negative us heq =>
  have hus : us = unsigned cs := by
    split at heq
    · exact (Prod.mk.inj heq).2.symm
    · next hne =>
      rw [unsigned_plain hne]
      exact (Prod.mk.inj heq).2.symm
  rw [hus]
  dsimp only
  split
  · exact .inl ⟨_, _, rfl⟩
  · split
    · split
      · next hlong => exact .inr (.inr ⟨hlong, rfl⟩)
      · exact .inr (.inl ⟨_, _, rfl, hrest⟩)
    · exact .inr (.inl ⟨_, _, rfl, hrest⟩)

theorem readNumber_within (cs : List Char) : Within cs (readNumber cs) := by
  rcases readNumber_cases cs with ⟨c, rest, h⟩ | ⟨v, rest, h, hrest⟩ | ⟨hlong, h⟩
  · rw [h]
    exact trivial
  · rw [h]
    exact hrest
  · rw [h]
    have hrun : (wholeDigits (unsigned cs)).1 <:+: unsigned cs := List.IsPrefix.isInfix ⟨_, wholeDigits_append _⟩
    exact ⟨hlong, _, hrun.trans (unsigned_suffix cs).isInfix, rfl, wholeDigits_digits _⟩

theorem readScalar_within (cs : List Char) : Within cs (readScalar cs) := by
  unfold readScalar
  split
  · exact List.drop_suffix _ _
  · exact readNumber_within cs

/-! ## Strings -/

theorem stringUnits_within (opening cs : List Char) : Within cs (stringUnits opening cs) := by
  fun_induction stringUnits opening cs with
  | case1 => exact trivial
  | case2 cs => exact List.suffix_cons _ cs
  | case3 => exact trivial
  | case4 a b c d e cs n hn ih => exact Within.mono (ih.map fun _ => rfl) ⟨['\\', 'u', a, b, c, d], rfl⟩
  | case5 => exact trivial
  | case6 => exact trivial
  | case7 c cs hunit hu n hn ih => exact Within.mono (ih.map fun _ => rfl) ⟨['\\', c], rfl⟩
  | case8 => exact trivial
  | case9 => exact trivial
  | case10 c cs hq hunit hb hslash hlow ih => exact Within.mono (ih.map fun _ => rfl) (List.suffix_cons c cs)

theorem readString_within (cs : List Char) : Within cs (readString cs) := (stringUnits_within _ cs).map fun _ => rfl

/-! ## Values -/

theorem skipGap_suffix (cs : List Char) : skipGap cs <:+ cs := List.dropWhile_suffix _

theorem gap_suffix {cs rest : List Char} {c : Char} (h : skipGap cs = c :: rest) : rest <:+ cs :=
  (List.suffix_cons c rest).trans (by rw [← h]; exact skipGap_suffix cs)

/-- all three readers of values, given as much fuel -/
def AllWithin (fuel : ℕ) : Prop :=
  (∀ depth cs, Within cs (readValue fuel depth cs)) ∧ (∀ depth cs, Within cs (readItems fuel depth cs)) ∧
    ∀ depth fields cs, Within cs (readFields fuel depth fields cs)

theorem readValue_step {fuel : ℕ} (h : AllWithin fuel) (depth : ℕ) (cs : List Char) :
    Within cs (readValue (fuel + 1) depth cs) := by
  unfold readValue
  split
  · next rest => exact Within.mono ((readString_within rest).map fun _ => rfl) (List.suffix_cons _ rest)
  · exact trivial
  · exact trivial
  · next rest depth =>
    split
    · next heq => exact (gap_suffix heq).trans (List.suffix_cons _ rest)
    · exact Within.mono ((h.2.1 depth (skipGap rest)).map fun _ => rfl)
        ((skipGap_suffix rest).trans (List.suffix_cons _ rest))
  · next rest depth =>
    split
    · next heq => exact (gap_suffix heq).trans (List.suffix_cons _ rest)
    · exact Within.mono ((h.2.2 depth [] (skipGap rest)).map fun _ => rfl)
        ((skipGap_suffix rest).trans (List.suffix_cons _ rest))
  · exact readScalar_within cs

theorem readItems_step {fuel : ℕ} (h : AllWithin fuel) (depth : ℕ) (cs : List Char) :
    Within cs (readItems (fuel + 1) depth cs) := by
  have hvalue := h.1 depth cs
  unfold readItems
  split
  · next e heq =>
    rw [heq] at hvalue
    exact hvalue.error
  · next v rest heq =>
    rw [heq] at hvalue
    have hrest : rest <:+ cs := hvalue
    split
    · next hclose => exact (gap_suffix hclose).trans hrest
    · next more hcomma =>
      exact Within.mono ((h.2.1 depth (skipGap more)).map fun _ => rfl)
        (((skipGap_suffix more).trans (gap_suffix hcomma)).trans hrest)
    · exact trivial

theorem readFields_step {fuel : ℕ} (h : AllWithin fuel) (depth : ℕ) (fields : List (Text × Json)) (cs : List Char) :
    Within cs (readFields (fuel + 1) depth fields cs) := by
  unfold readFields
  split
  · next quoted =>
    have hname := readString_within quoted
    split
    · next e heq =>
      rw [heq] at hname
      exact hname.error.mono (List.suffix_cons _ quoted)
    · next name rest heq =>
      rw [heq] at hname
      have hrest : rest <:+ '"' :: quoted := List.IsSuffix.trans hname (List.suffix_cons _ quoted)
      split
      · next behind hcolon =>
        have hbehind : skipGap behind <:+ '"' :: quoted :=
          ((skipGap_suffix behind).trans (gap_suffix hcolon)).trans hrest
        have hvalue := h.1 depth (skipGap behind)
        split
        · next e heq =>
          rw [heq] at hvalue
          exact hvalue.error.mono hbehind
        · next v rest heq =>
          rw [heq] at hvalue
          have hleft : rest <:+ '"' :: quoted := List.IsSuffix.trans hvalue hbehind
          dsimp only
          split
          · next hclose => exact (gap_suffix hclose).trans hleft
          · next more hcomma =>
            exact (h.2.2 depth _ (skipGap more)).mono (((skipGap_suffix more).trans (gap_suffix hcomma)).trans hleft)
          · exact trivial
      · exact trivial
  · exact trivial

theorem allWithin (fuel : ℕ) : AllWithin fuel := by
  induction fuel with
  | zero => exact ⟨fun _ _ => trivial, fun _ _ => trivial, fun _ _ _ => trivial⟩
  | succ fuel ih => exact ⟨readValue_step ih, readItems_step ih, readFields_step ih⟩

/-- **Whatever is read of a value leaves an end of the text**, and too long is only a number that stands in it. -/
theorem readValue_within (fuel depth : ℕ) (cs : List Char) : Within cs (readValue fuel depth cs) :=
  (allWithin fuel).1 depth cs

theorem readChars_tooLong {cs : List Char} {n : ℕ} (h : readChars cs = .error (.tooLong n)) : LongRun n cs := by
  unfold readChars at h
  split at h
  · cases h
  · split at h
    · next e heq =>
      have hvalue := readValue_within (2 * cs.length + 2) depthLimit (skipGap cs)
      obtain rfl : e = .tooLong n := Except.error.inj h
      rw [heq] at hvalue
      exact LongRun.mono hvalue (skipGap_suffix cs).isInfix
    · split at h
      · cases h
      · cases h

/-- **A text is refused for an integer that is too long only if it has a run of that many digits.** -/
theorem read_tooLong {s : String} {n : ℕ} (h : read s = .error (.tooLong n)) : LongRun n s.toList := by
  unfold read at h
  split at h
  · cases h
  · next m heq =>
    obtain rfl : m = n := Fault.tooLong.inj (Except.error.inj h)
    exact readChars_tooLong heq
  · cases h
  · cases h

end TileCrew.Json
