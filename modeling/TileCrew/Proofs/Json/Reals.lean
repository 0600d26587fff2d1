/-
Doubles in JSON text. A written magnitude spells its decimal (`magnitude_spells`), whichever layout it is in, and of a
double the decimal is the shortest one in its interval; so `readScalar_real`: **a written double is read as that double**,
NaN, the infinities and the zero with a minus sign among them. Integers and doubles are written in few characters
(`numberChars_alphabet`).
-/
import Mathlib
import TileCrew.Proofs.Decimal.Shortest
import TileCrew.Proofs.Json.Numerals

namespace TileCrew.Json

open Decimal Text Binary64

/-! ## Spelt decimals -/

/-- characters that spell a decimal: a numeral with a point or an exponent, of its magnitude -/
def Spells (cs : List Char) (d : Scaled) : Prop :=
  ∃ ds fs e?, cs = ds ++ (pointChars fs ++ exponentText e?) ∧ IsWhole ds ∧ AreDigits fs ∧
    (fs.isEmpty && e?.isNone) = false ∧ Scaled.value ⟨valueOf (ds ++ fs), e?.getD 0 - fs.length⟩ = d.value

theorem pointChars_eq {fs : List Char} (h : fs ≠ []) : pointChars fs = '.' :: fs := by
  cases fs with
  | nil => exact absurd rfl h
  | cons f fs => rfl

theorem pointed_spells {ds fs : List Char} {d : Scaled} (hds : IsWhole ds) (hfs : AreDigits fs) (hne : fs ≠ [])
    (h : Scaled.value ⟨valueOf (ds ++ fs), -fs.length⟩ = d.value) : Spells (ds ++ '.' :: fs) d := by
  refine ⟨ds, fs, none, ?_, hds, hfs, ?_, ?_⟩
  · rw [pointChars_eq hne, exponentText, Option.map_none, Option.getD_none, List.append_nil]
  · cases fs with
    | nil => exact absurd rfl hne
    | cons f fs => rfl
  · rw [Option.getD_none, zero_sub]
    exact h

theorem isWhole_zero : IsWhole ['0'] := ⟨areDigits_zeros 1, .inl rfl⟩

variable {ds : List Char}

theorem positional_before (hds : AreDigits ds) (hne : ds ≠ []) {point : ℤ} (hp : point ≤ 0) :
    Spells (positional ds point) ⟨valueOf ds, point - ds.length⟩ := by
  unfold positional
  rw [if_pos hp]
  show Spells (['0'] ++ '.' :: (List.replicate (-point).toNat '0' ++ ds)) _
  refine pointed_spells isWhole_zero (areDigits_append (areDigits_zeros _) hds)
    (List.append_ne_nil_of_right_ne_nil _ hne) ?_
  have hvalue : valueOf (['0'] ++ (List.replicate (-point).toNat '0' ++ ds)) = valueOf ds :=
    (valueOf_zeros_append 1 _).trans (valueOf_zeros_append _ ds)
  have hexp : -((List.replicate (-point).toNat '0' ++ ds).length : ℤ) = point - ds.length := by
    rw [List.length_append, List.length_replicate]
    omega
  rw [hvalue, hexp]

theorem positional_within (hds : AreDigits ds) (hne : ds ≠ []) (hzero : Stops (· == '0') ds) {k : ℕ}
    (hk : k + 1 < ds.length) : Spells (positional ds (k + 1 : ℕ)) ⟨valueOf ds, (k + 1 : ℕ) - ds.length⟩ := by
  have hrest : ds.drop (k + 1) ≠ [] := by
    rw [Ne, List.drop_eq_nil_iff]
    omega
  have hwhole : (ds.take (k + 1)).length = k + 1 := List.length_take_of_le (by omega)
  have hempty : (ds.drop (k + 1)).isEmpty = false := by simpa using hrest
  have hexp : -((ds.drop (k + 1)).length : ℤ) = (k + 1 : ℕ) - ds.length := by
    rw [List.length_drop]
    omega
  unfold positional
  rw [if_neg (by omega), Int.toNat_natCast]
  simp only [hwhole, Nat.sub_self, List.replicate_zero, List.append_nil, hempty, Bool.false_eq_true, if_false]
  refine pointed_spells (isWhole_take hds hne hzero k) (fun c hc => hds c (List.mem_of_mem_drop hc)) hrest ?_
  rw [List.take_append_drop, hexp]

theorem positional_behind (hds : AreDigits ds) (hne : ds ≠ []) (hzero : Stops (· == '0') ds) {k : ℕ}
    (hk : ds.length ≤ k + 1) : Spells (positional ds (k + 1 : ℕ)) ⟨valueOf ds, (k + 1 : ℕ) - ds.length⟩ := by
  have hrest : ds.drop (k + 1) = [] := List.drop_eq_nil_iff.2 hk
  have hwhole : ds.take (k + 1) = ds := List.take_of_length_le hk
  have hvalue : valueOf (ds ++ List.replicate (k + 1 - ds.length) '0' ++ ['0']) =
      10 ^ (k + 1 - ds.length + 1) * valueOf ds := by
    have hzeros : List.replicate (k + 1 - ds.length) '0' ++ ['0'] = List.replicate (k + 1 - ds.length + 1) '0' :=
      List.replicate_succ'.symm
    rw [List.append_assoc, hzeros, valueOf_append_zeros]
  have hexp : ((k + 1 : ℕ) : ℤ) - ds.length = ((k + 1 - ds.length : ℕ) : ℤ) := by omega
  have hstops : Stops (· == '0') (ds ++ List.replicate (k + 1 - ds.length) '0') := by
    cases ds with
    | nil => exact absurd rfl hne
    | cons d ds =>
      rw [stops_cons] at hzero
      exact stops_cons.2 hzero
  unfold positional
  rw [if_neg (by omega), Int.toNat_natCast]
  simp only [hwhole, hrest, List.isEmpty_nil, if_true]
  refine pointed_spells ⟨areDigits_append hds (areDigits_zeros _), .inr ⟨by simp [hne], hstops⟩⟩ (areDigits_zeros 1)
    (List.cons_ne_nil _ _) ?_
  rw [hvalue, hexp, Scaled.value, Scaled.value, List.length_singleton]
  push_cast
  rw [zpow_natCast, zpow_neg_one, pow_succ]
  ring

/-- digits with a point spell the decimal whose point stands there -/
theorem positional_spells (hds : AreDigits ds) (hne : ds ≠ []) (hzero : Stops (· == '0') ds) (point : ℤ) :
    Spells (positional ds point) ⟨valueOf ds, point - ds.length⟩ := by
  by_cases hp : point ≤ 0
  · exact positional_before hds hne hp
  · obtain ⟨k, rfl⟩ : ∃ k : ℕ, point = (k + 1 : ℕ) := ⟨point.toNat - 1, by omega⟩
    by_cases hk : k + 1 < ds.length
    · exact positional_within hds hne hzero hk
    · exact positional_behind hds hne hzero (Nat.le_of_not_lt hk)

/-- digits with an exponent spell the decimal whose first digit stands at that place -/
theorem scientific_spells (hds : AreDigits ds) (hne : ds ≠ []) (hzero : Stops (· == '0') ds)
    (place : ℤ) : Spells (layout.scientific ds place) ⟨valueOf ds, place + 1 - ds.length⟩ := by
  cases ds with
  | nil => exact absurd rfl hne
  | cons d rest =>
    refine ⟨[d], rest, some place, rfl, ?_, fun c hc => hds c (List.mem_cons_of_mem d hc), ?_, ?_⟩
    · exact isWhole_take hds hne hzero 0
    · rw [Option.isNone_some, Bool.and_false]
    · have hexp : (some place).getD 0 - rest.length = place + 1 - (d :: rest).length := by
        rw [List.length_cons, Option.getD_some]
        push_cast
        ring
      rw [hexp]
      rfl

/-- **A written magnitude spells its decimal.** -/
theorem magnitude_spells (d : Scaled) : Spells (layout.magnitude d) d := by
  unfold Layout.magnitude
  by_cases h0 : d.coefficient = 0
  · simp only [h0, if_true]
    show Spells (['0'] ++ '.' :: ['0']) d
    refine pointed_spells isWhole_zero (areDigits_zeros 1) (List.cons_ne_nil _ _) ?_
    have hvalue : valueOf (['0'] ++ ['0']) = 0 := valueOf_zeros 2
    rw [Scaled.value, Scaled.value, hvalue, h0, Nat.cast_zero, zero_mul, zero_mul]
  · have hds := areDigits_digitsOf d.coefficient
    have hne := digitsOf_ne_nil d.coefficient
    have hzero := digitsOf_stops h0
    simp only [h0, if_false]
    split
    · have h := positional_spells hds hne hzero ((digitsOf d.coefficient).length + d.exponent)
      rw [valueOf_digitsOf, add_sub_cancel_left] at h
      exact h
    · have h := scientific_spells hds hne hzero ((digitsOf d.coefficient).length + d.exponent - 1)
      rw [valueOf_digitsOf, sub_add_cancel, add_sub_cancel_left] at h
      exact h

theorem realChars_cases (x : Float) :
    layout.chars x ∈ ["NaN".toList, "Infinity".toList, "-Infinity".toList] ∨
      ∃ negative cs d, layout.chars x = signChars negative ++ cs ∧ Spells cs d := by
  unfold Layout.chars
  cases value x with
  | nan => exact .inl List.mem_cons_self
  | infinite negative =>
    cases negative with
    | true => exact .inl (List.mem_cons_of_mem _ (List.mem_cons_of_mem _ List.mem_cons_self))
    | false => exact .inl (List.mem_cons_of_mem _ List.mem_cons_self)
  | finite v => exact .inr ⟨v.negative, _, _, rfl, magnitude_spells _⟩

/-! ## Reading -/

/-- what is read of a spelt decimal has its sign and its magnitude -/
theorem readScalar_spelt (negative : Bool) {cs rest : List Char} {d : Scaled} (h : Spells cs d)
    (hrest : Stops goesOn rest) :
    ∃ d' : Scaled, d'.value = d.value ∧
      readScalar (signChars negative ++ (cs ++ rest)) = .ok (.float (readSigned negative d'), rest) := by
  obtain ⟨ds, fs, e?, rfl, hds, hfs, hreal, hvalue⟩ := h
  refine ⟨_, hvalue, ?_⟩
  rw [List.append_assoc, List.append_assoc, readScalar_numeral negative _ hds,
    readNumber_eq negative e? hds hfs hrest, hreal]
  rfl

/-- **A written double is read as that double.** -/
theorem readScalar_real (x : Float) {rest : List Char} (hrest : Stops goesOn rest) :
    readScalar (layout.chars x ++ rest) = .ok (.float x, rest) := by
  unfold Layout.chars
  cases hx : value x with
  | nan =>
    rw [value_nan hx]
    rfl
  | infinite negative =>
    have hsigned := signed_magnitude (value_infinite hx) (Nat.le_refl _)
    cases negative with
    | true =>
      rw [← hsigned]
      rfl
    | false =>
      rw [← hsigned]
      rfl
  | finite v =>
    obtain ⟨d, hvalue, hread⟩ := readScalar_spelt v.negative (magnitude_spells (shortest v)) hrest
    rw [readSigned_shortest hx hvalue] at hread
    rw [List.append_assoc]
    exact hread

/-! ## Characters -/

/-- stands in numbers: a digit, a sign, a point, the letter of an exponent or one of a name -/
def isNumberChar (c : Char) : Bool := isAsciiDigit c || ['-', '+', '.', 'e', 'N', 'a', 'I', 'n', 'f', 'i', 't', 'y'].contains c

theorem digits_alphabet {cs : List Char} (h : AreDigits cs) : ∀ c ∈ cs, isNumberChar c = true := by
  intro c hc
  rw [isNumberChar, h c hc]
  rfl

theorem signChars_alphabet (negative : Bool) : ∀ c ∈ signChars negative, isNumberChar c = true := by
  cases negative with
  | true => exact List.all_eq_true.1 rfl
  | false => exact List.forall_mem_nil _

theorem pointChars_alphabet {fs : List Char} (h : AreDigits fs) : ∀ c ∈ pointChars fs, isNumberChar c = true := by
  cases fs with
  | nil => exact List.forall_mem_nil _
  | cons f fs => exact List.forall_mem_cons.2 ⟨rfl, digits_alphabet h⟩

theorem exponentText_alphabet (e? : Option ℤ) : ∀ c ∈ exponentText e?, isNumberChar c = true := by
  cases e? with
  | none => exact List.forall_mem_nil _
  | some e =>
    obtain ⟨ds, hchars, -, hds, -⟩ := exponentDigits e
    have hsign : isNumberChar (if e < 0 then '-' else '+') = true := by split <;> rfl
    show ∀ c ∈ 'e' :: layout.exponentChars e, isNumberChar c = true
    rw [hchars]
    exact List.forall_mem_cons.2 ⟨rfl, List.forall_mem_cons.2 ⟨hsign, digits_alphabet hds⟩⟩

theorem realChars_alphabet (x : Float) : ∀ c ∈ layout.chars x, isNumberChar c = true := by
  rcases realChars_cases x with h | ⟨negative, cs, d, h, ds, fs, e?, rfl, hds, hfs, -⟩
  · simp only [List.mem_cons, List.not_mem_nil, or_false] at h
    rcases h with h | h | h
    all_goals
      rw [h]
      exact List.all_eq_true.1 rfl
  · rw [h]
    simp only [List.forall_mem_append]
    exact ⟨signChars_alphabet negative, digits_alphabet hds.1, pointChars_alphabet hfs, exponentText_alphabet e?⟩

theorem numberChars_alphabet (n : Number) : ∀ c ∈ numberChars n, isNumberChar c = true := by
  cases n with
  | whole n =>
    have hds := digits_alphabet (areDigits_digitsOf n.natAbs)
    show ∀ c ∈ integerChars n, isNumberChar c = true
    unfold integerChars
    split
    · exact List.forall_mem_cons.2 ⟨rfl, hds⟩
    · exact hds
  | real x => exact realChars_alphabet x

end TileCrew.Json
