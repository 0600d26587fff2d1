/-
Numbers in JSON text. A numeral is a sign, digits, a point with digits behind it and an exponent, the last two only where
they are wanted.
- `readNumber_eq`: what is read of a numeral are exactly these parts, and nothing that follows them;
- `readNumber_integer`: a written integer is read as that integer;
- `readScalar_numeral`: no numeral is taken for a fixed word.
-/
import TileCrew.Json.Printer
import TileCrew.Json.Reader
import TileCrew.Proofs.Text.Digits

namespace TileCrew.Json

open Decimal Text

/-! ## Parts of a numeral -/

/-- the minus sign, where the number is negative -/
def signChars (negative : Bool) : List Char := if negative then ['-'] else []

/-- a point and the digits behind it, nothing where there are none -/
def pointChars (fs : List Char) : List Char := if fs.isEmpty then [] else '.' :: fs

/-- an exponent, where there is one -/
def exponentText (e? : Option Int) : List Char := (e?.map fun e => 'e' :: layout.exponentChars e).getD []

/-- goes on a number: a digit, a point or the letter of an exponent -/
def goesOn (c : Char) : Bool := isAsciiDigit c || c == '.' || c == 'e' || c == 'E'

theorem goesOn_digit {rest : List Char} (h : Stops goesOn rest) : Stops isAsciiDigit rest := by
  intro c hc
  have hg : goesOn c = false := h c hc
  simp only [goesOn, Bool.or_eq_false_iff] at hg
  exact hg.1.1.1

theorem stops_exponentText {rest : List Char} (e? : Option Int) (h : Stops goesOn rest) :
    Stops isAsciiDigit (exponentText e? ++ rest) ∧ Stops (· == '.') (exponentText e? ++ rest) := by
  cases e? with
  | some e => exact ⟨stops_cons.2 rfl, stops_cons.2 rfl⟩
  | none =>
    refine ⟨goesOn_digit h, fun c hc => ?_⟩
    have hg : goesOn c = false := h c hc
    simp only [goesOn, Bool.or_eq_false_iff] at hg
    exact hg.1.1.2

theorem stops_pointChars {fs rest : List Char} (h : Stops isAsciiDigit rest) :
    Stops isAsciiDigit (pointChars fs ++ rest) := by
  cases fs with
  | nil => exact h
  | cons f fs => exact stops_cons.2 rfl

/-! ## Reading the parts -/

theorem wholeDigits_eq {ds rest : List Char} (h : IsWhole ds) (hr : Stops isAsciiDigit rest) :
    wholeDigits (ds ++ rest) = (ds, rest) := by
  obtain ⟨hdigits, rfl | ⟨hne, hzero⟩⟩ := h
  · rfl
  · cases ds with
    | nil => exact absurd rfl hne
    | cons d ds =>
      have hd : d ≠ '0' := fun hd => by
        rw [stops_cons, hd] at hzero
        cases hzero
      have htake := takeWhile_run hdigits hr
      have hdrop := dropWhile_run hdigits hr
      rw [List.cons_append] at htake hdrop ⊢
      rw [wholeDigits, htake, hdrop]
      intro rest' hrest
      exact hd (List.cons.inj hrest).1

theorem pointDigits_eq {fs rest : List Char} (h : AreDigits fs) (hr : Stops isAsciiDigit rest)
    (hp : Stops (· == '.') rest) : pointDigits (pointChars fs ++ rest) = (fs, rest) := by
  cases fs with
  | nil =>
    show pointDigits rest = ([], rest)
    cases rest with
    | nil => rfl
    | cons c rest =>
      have hc : c ≠ '.' := by
        have h := stops_cons.1 hp
        simpa using h
      rw [pointDigits]
      intro d rest' hrest
      exact absurd (List.cons.inj hrest).1 hc
  | cons f fs =>
    obtain ⟨hf, hfs⟩ := List.forall_mem_cons.1 h
    show pointDigits ('.' :: f :: (fs ++ rest)) = (f :: fs, rest)
    rw [pointDigits, if_pos hf, takeWhile_run hfs hr, dropWhile_run hfs hr]

theorem exponentDigits (e : Int) : ∃ ds, layout.exponentChars e = (if e < 0 then '-' else '+') :: ds ∧ ds ≠ [] ∧
    AreDigits ds ∧ valueOf ds = e.natAbs := by
  refine ⟨(digitsOf e.natAbs).leftpad layout.exponentDigits '0', rfl, ?_, ?_, ?_⟩
  · exact List.append_ne_nil_of_right_ne_nil _ (digitsOf_ne_nil _)
  · exact areDigits_append (areDigits_zeros _) (areDigits_digitsOf _)
  · rw [List.leftpad, valueOf_zeros_append, valueOf_digitsOf]

theorem exponentPart_eq {rest : List Char} (e? : Option Int) (h : Stops goesOn rest) :
    exponentPart (exponentText e? ++ rest) = (e?, rest) := by
  cases e? with
  | none =>
    show exponentPart rest = (none, rest)
    cases rest with
    | nil => rfl
    | cons c rest =>
      have hc : ¬(c = 'e' ∨ c = 'E') := by
        have hg := stops_cons.1 h
        simp only [goesOn, Bool.or_eq_false_iff, beq_eq_false_iff_ne] at hg
        exact fun hc => hc.elim hg.1.2 hg.2
      rw [exponentPart, if_neg hc]
  | some e =>
    obtain ⟨ds, hsplit, hne, hdigits, hvalue⟩ := exponentDigits e
    have hempty : ds.isEmpty = false := by simpa using hne
    have htake := takeWhile_run hdigits (goesOn_digit h)
    have hdrop := dropWhile_run hdigits (goesOn_digit h)
    have hnumber : ofDigits (ds.map asciiValue) = e.natAbs := hvalue
    show exponentPart ('e' :: (layout.exponentChars e ++ rest)) = (some e, rest)
    rw [hsplit, exponentPart, if_pos (.inl rfl)]
    by_cases he : e < 0
    · simp only [he, if_true, List.cons_append, takeSign, htake, hdrop, hempty, hnumber, Bool.false_eq_true, if_false]
      rw [show -(e.natAbs : Int) = e by omega]
    · simp only [he, List.cons_append, takeSign, htake, hdrop, hempty, hnumber, Bool.false_eq_true, if_false]
      rw [show (e.natAbs : Int) = e by omega]

theorem whole_ne_minus {ds rest rest' : List Char} (h : IsWhole ds) : ds ++ rest ≠ '-' :: rest' := by
  intro heq
  cases ds with
  | nil => exact h.ne_nil rfl
  | cons d ds =>
    have hdigit := h.1 d List.mem_cons_self
    rw [(List.cons.inj heq).1] at hdigit
    cases hdigit

/-- **What is read of a numeral are its parts, and nothing that follows.** -/
theorem readNumber_eq (negative : Bool) {ds fs rest : List Char} (e? : Option Int) (hds : IsWhole ds)
    (hfs : AreDigits fs) (hrest : Stops goesOn rest) :
    readNumber (signChars negative ++ (ds ++ (pointChars fs ++ (exponentText e? ++ rest)))) =
      if fs.isEmpty && e?.isNone then
        if digitLimit < ds.length then .error (.tooLong ds.length)
        else .ok (.int (if negative then -(valueOf ds : Int) else valueOf ds), rest)
      else .ok (.float (readSigned negative ⟨valueOf (ds ++ fs), e?.getD 0 - fs.length⟩), rest) := by
  obtain ⟨hdigit, hpoint⟩ := stops_exponentText e? hrest
  have hempty : ds.isEmpty = false := by simpa using hds.ne_nil
  unfold readNumber
  cases negative with
  | true =>
    simp only [signChars, if_true, List.cons_append, List.nil_append, wholeDigits_eq hds (stops_pointChars hdigit),
      pointDigits_eq hfs hdigit hpoint, exponentPart_eq e? hrest, hempty, Bool.false_eq_true, if_false, valueOf]
  | false =>
    simp only [signChars, Bool.false_eq_true, if_false, List.nil_append]
    split
    next rest' heq => exact absurd heq (whole_ne_minus hds)
    simp only [wholeDigits_eq hds (stops_pointChars hdigit), pointDigits_eq hfs hdigit hpoint, exponentPart_eq e? hrest,
      hempty, Bool.false_eq_true, if_false, valueOf]

theorem readNumber_integer {n : Int} {rest : List Char} (hn : (digitsOf n.natAbs).length ≤ digitLimit)
    (hrest : Stops goesOn rest) : readNumber (integerChars n ++ rest) = .ok (.int n, rest) := by
  have hsplit : integerChars n ++ rest =
      signChars (decide (n < 0)) ++ (digitsOf n.natAbs ++ (pointChars [] ++ (exponentText none ++ rest))) := by
    by_cases h : n < 0
    · simp [integerChars, h, signChars, pointChars, exponentText]
    · simp [integerChars, h, signChars, pointChars, exponentText]
  have hnil : AreDigits [] := fun c hc => absurd hc List.not_mem_nil
  rw [hsplit, readNumber_eq _ none (isWhole_digitsOf _) hnil hrest, valueOf_digitsOf]
  simp only [List.isEmpty_nil, Option.isNone_none, Bool.and_self, if_true, Nat.not_lt.2 hn, if_false, decide_eq_true_eq]
  by_cases h : n < 0
  · rw [if_pos h, show -(n.natAbs : Int) = n by omega]
  · rw [if_neg h, show (n.natAbs : Int) = n by omega]

/-! ## Numerals and fixed words -/

theorem readScalar_numeral (negative : Bool) {ds : List Char} (rest : List Char) (h : IsWhole ds) :
    readScalar (signChars negative ++ (ds ++ rest)) = readNumber (signChars negative ++ (ds ++ rest)) := by
  obtain ⟨d, ds', rfl⟩ := List.exists_cons_of_ne_nil h.ne_nil
  have hdigit : isAsciiDigit d = true := h.1 d List.mem_cons_self
  have other {c : Char} (hc : isAsciiDigit c = false) : (c == d) = false := by
    rw [beq_eq_false_iff_ne]
    rintro rfl
    rw [hdigit] at hc
    cases hc
  have hfind : fixedWords.find? (fun w => w.1.isPrefixOf (signChars negative ++ (d :: ds' ++ rest))) = none := by
    cases negative with
    | true => simp [fixedWords, signChars, List.isPrefixOf, other (c := 'I') rfl]
    | false =>
      simp [fixedWords, signChars, List.isPrefixOf, other (c := 'n') rfl, other (c := 't') rfl, other (c := 'f') rfl,
        other (c := 'N') rfl, other (c := 'I') rfl, other (c := '-') rfl]
  unfold readScalar
  rw [hfind]

end TileCrew.Json
