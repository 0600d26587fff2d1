/-
JSON text that breaks off. What is written for a value is cut anywhere: reading what is left ends in a complaint, or with
a number behind which nothing stands that could follow it (`Hangs`).
- `tears_scalar`: a torn number or word, whose digits are never too many;
- `readString_torn`: a torn string has no closing quote;
- `list_torn`, `object_torn`: nor has a torn list or object its bracket;
- `read_torn`: **no proper part of a written object, taken from its start, is a JSON text**.
-/
import TileCrew.Proofs.Json.Rest
import TileCrew.Proofs.Json.Roundtrip

namespace TileCrew.Json

open Decimal Text

variable {α : Type}

/-- reading has ended in a complaint -/
def Complains (r : Read α) : Prop := ∃ c rest, r = .error (.complaint c rest)

theorem Complains.map {β : Type} {r : Read α} (h : Complains r) (f : α × List Char → β × List Char) :
    Complains (r.map f) := by
  obtain ⟨c, rest, rfl⟩ := h
  exact ⟨c, rest, rfl⟩

/-- may stand behind a value: a blank, a comma or what closes a list or an object -/
def follows (c : Char) : Bool := isGap c || [',', ']', '\x7d'].contains c

/-- a complaint, or a value behind which nothing stands that may follow it -/
def Hangs (r : Read Json) : Prop := Complains r ∨ ∃ v rest, r = .ok (v, rest) ∧ ∀ c ∈ rest, follows c = false

/-! ## Numbers and words -/

theorem wholeDigits_length (cs : List Char) : (wholeDigits cs).1.length ≤ (cs.takeWhile isAsciiDigit).length := by
  unfold wholeDigits
  split
  · exact Nat.succ_le_succ (Nat.zero_le _)
  · exact Nat.le_refl _

def leading (cs : List Char) : List Char := (unsigned cs).takeWhile isAsciiDigit

/-- whatever is read as a number leaves the end of the text, unless its digits are too many -/
theorem readNumber_outcome {cs : List Char} (h : (leading cs).length ≤ digitLimit) :
    Complains (readNumber cs) ∨ ∃ v rest, readNumber cs = .ok (v, rest) ∧ rest <:+ cs := by
  rcases readNumber_cases cs with hcomplains | hread | ⟨hlong, -⟩
  · exact .inl hcomplains
  · exact .inr hread
  · exact absurd ((wholeDigits_length _).trans h) (Nat.not_le.2 hlong)

theorem readScalar_outcome {cs : List Char} (h : (leading cs).length ≤ digitLimit) :
    Complains (readScalar cs) ∨ ∃ v rest, readScalar cs = .ok (v, rest) ∧ rest <:+ cs := by
  unfold readScalar
  split
  · exact .inr ⟨_, _, rfl, List.drop_suffix _ _⟩
  · exact readNumber_outcome h

/-- fewer characters do not start with more digits -/
theorem leading_start {p cs : List Char} (h : p <+: cs) : (leading p).length ≤ (leading cs).length := by
  have hrun {p cs : List Char} (h : p <+: cs) :
      (p.takeWhile isAsciiDigit).length ≤ (cs.takeWhile isAsciiDigit).length := by
    obtain ⟨t, rfl⟩ := h
    rw [List.takeWhile_append]
    split
    · next hall => rw [List.length_append, hall]; exact Nat.le_add_right _ _
    · exact Nat.le_refl _
  cases p with
  | nil => exact Nat.zero_le _
  | cons c p =>
    obtain ⟨t, rfl⟩ := h
    by_cases hc : c = '-'
    · subst hc
      exact hrun (List.prefix_append p t)
    · have hsame (q : List Char) : unsigned (c :: q) = c :: q := by
        unfold unsigned
        split
        · next heq => exact absurd (List.cons.inj heq).1 hc
        · rfl
      rw [leading, leading, List.cons_append, hsame, hsame]
      exact hrun ⟨t, rfl⟩

/-- digits behind a sign are the leading ones, up to where they stop -/
theorem leading_eq (negative : Bool) {ds rest : List Char} (hds : IsWhole ds) (hrest : Stops isAsciiDigit rest) :
    leading (signChars negative ++ (ds ++ rest)) = ds := by
  have hunsigned : unsigned (signChars negative ++ (ds ++ rest)) = ds ++ rest := by
    cases negative with
    | true => rfl
    | false =>
      show unsigned (ds ++ rest) = ds ++ rest
      unfold unsigned
      split
      · next heq => exact absurd heq (whole_ne_minus hds)
      · rfl
  rw [leading, hunsigned]
  exact takeWhile_run hds.1 hrest

theorem positional_leading {ds : List Char} (hds : AreDigits ds) {point : ℤ} (hpoint : point ≤ layout.plainBelow) :
    ((positional ds point).takeWhile isAsciiDigit).length ≤ digitLimit := by
  have hfew : layout.plainBelow.toNat ≤ digitLimit := by decide
  unfold positional
  split
  · exact of_decide_eq_true rfl
  · have hwhole : AreDigits (ds.take point.toNat ++ List.replicate (point.toNat - (ds.take point.toNat).length) '0') :=
      areDigits_append (fun c hc => hds c (List.mem_of_mem_take hc)) (areDigits_zeros _)
    rw [takeWhile_run hwhole (stops_cons.2 rfl), List.length_append, List.length_replicate]
    have htake : (ds.take point.toNat).length ≤ point.toNat := List.length_take_le _ _
    omega

theorem scientific_leading (ds : List Char) (place : ℤ) :
    ((layout.scientific ds place).takeWhile isAsciiDigit).length ≤ digitLimit := by
  unfold Layout.scientific
  cases ds with
  | nil => exact Nat.zero_le _
  | cons d rest =>
    dsimp only
    rw [List.cons_append, List.takeWhile_cons]
    cases rest with
    | nil => split <;> exact of_decide_eq_true rfl
    | cons r rest => split <;> exact of_decide_eq_true rfl

theorem magnitude_leading (d : Scaled) : ((layout.magnitude d).takeWhile isAsciiDigit).length ≤ digitLimit := by
  unfold Layout.magnitude
  dsimp only
  split
  · exact of_decide_eq_true rfl
  · split
    · next h => exact positional_leading (areDigits_digitsOf _) (by omega)
    · exact scientific_leading _ _

/-- no number that is written starts with too many digits -/
theorem numberChars_leading {n : Number} (hn : ∀ m, n = .whole m → (digitsOf m.natAbs).length ≤ digitLimit) :
    (leading (numberChars n)).length ≤ digitLimit := by
  cases n with
  | whole m =>
    have hlead := leading_eq (decide (m < 0)) (isWhole_digitsOf m.natAbs) (stops_nil _)
    rw [List.append_nil, ← integerChars_eq] at hlead
    show (leading (integerChars m)).length ≤ digitLimit
    rw [hlead]
    exact hn m rfl
  | real x =>
    show (leading (layout.chars x)).length ≤ digitLimit
    unfold Layout.chars
    cases Binary64.value x with
    | nan => exact of_decide_eq_true rfl
    | infinite negative =>
      cases negative with
      | true => exact of_decide_eq_true rfl
      | false => exact of_decide_eq_true rfl
    | finite v =>
      have hmagnitude := magnitude_leading (shortest v)
      obtain ⟨ds, fs, e?, hsplit, hds, -⟩ := magnitude_spells (shortest v)
      have hstops : Stops isAsciiDigit (pointChars fs ++ exponentText e?) := by
        have h := (stops_exponentText e? (stops_nil goesOn)).1
        rw [List.append_nil] at h
        exact stops_pointChars h
      rw [hsplit, takeWhile_run hds.1 hstops] at hmagnitude
      have hlead := leading_eq v.negative hds hstops
      rw [← hsplit] at hlead
      show (leading (signChars v.negative ++ layout.magnitude (shortest v))).length ≤ digitLimit
      rw [hlead]
      exact hmagnitude

theorem isNumberChar_follows {c : Char} (h : isNumberChar c = true) : follows c = false := by
  by_contra hc
  simp only [follows, isGap, List.contains_cons, List.contains_nil, Bool.or_eq_true, decide_eq_true_eq, beq_iff_eq,
    Bool.or_false, Bool.not_eq_false] at hc
  rcases hc with (((rfl | rfl) | rfl) | rfl) | rfl | rfl | rfl
  all_goals cases h

theorem readValue_nil (fuel depth : ℕ) : Complains (readValue fuel depth []) := by
  cases fuel with
  | zero => exact ⟨_, _, rfl⟩
  | succ fuel => exact ⟨_, _, rfl⟩

/-- the value hangs when its text breaks off anywhere, given fuel for what is left of it -/
def Tears (depth : ℕ) (v : Json) : Prop :=
  ∀ fuel p, p <+: v.chars → 2 * p.length ≤ fuel → Hangs (readValue fuel depth p)

theorem tears_scalar {depth : ℕ} {v : Json} (hstart : ∃ c cs, v.chars = c :: cs ∧ isScalarStart c = true)
    (hchars : ∀ c ∈ v.chars, follows c = false) (hlead : (leading v.chars).length ≤ digitLimit) : Tears depth v := by
  intro fuel p hp hfuel
  cases p with
  | nil => exact .inl (readValue_nil fuel depth)
  | cons c p =>
    obtain ⟨c', cs, hcs, hc⟩ := hstart
    rw [hcs] at hp
    obtain ⟨rfl, -⟩ := List.cons_prefix_cons.1 hp
    rw [← hcs] at hp
    rw [List.length_cons] at hfuel
    obtain ⟨fuel, rfl⟩ : ∃ f, fuel = f + 1 := ⟨fuel - 1, by omega⟩
    rw [readValue_scalar hc]
    rcases readScalar_outcome ((leading_start hp).trans hlead) with h | ⟨w, rest, h, hrest⟩
    · exact .inl h
    · exact .inr ⟨w, rest, h, fun d hd => hchars d (hp.subset (hrest.subset hd))⟩

theorem tears_number {depth : ℕ} {n : Number} (hn : ∀ m, n = .whole m → (digitsOf m.natAbs).length ≤ digitLimit) :
    Tears depth (.number n) := by
  refine tears_scalar ?_ ?_ ?_
  · rw [chars_number]
    exact numberChars_start n
  · rw [chars_number]
    exact fun c hc => isNumberChar_follows (numberChars_alphabet n c hc)
  · rw [chars_number]
    exact numberChars_leading hn

/-! ## Strings -/

/-- a string that is read is read the same way when more text follows it -/
def Settles (opening cs : List Char) (us : List ℕ) (rest : List Char) : Prop :=
  stringUnits opening cs = .ok (us, rest) ∧
    ∀ opening' more, stringUnits opening' (cs ++ more) = .ok (us, rest ++ more)

/-- the reading of a string ends in a complaint, or it settles -/
theorem stringUnits_outcome (opening cs : List Char) :
    Complains (stringUnits opening cs) ∨ ∃ us rest, Settles opening cs us rest := by
  fun_induction stringUnits opening cs with
  | case1 => exact .inl ⟨_, _, rfl⟩
  | case2 cs => exact .inr ⟨[], cs, rfl, fun _ _ => rfl⟩
  | case3 => exact .inl ⟨_, _, rfl⟩
  | case4 a b c d e cs n hn ih =>
    rcases ih with h | ⟨us, rest, h, hmore⟩
    · exact .inl (h.map _)
    · refine .inr ⟨n :: us, rest, ?_, fun opening' more => ?_⟩
      · rw [stringUnits, hn, h]; rfl
      · have hrest := hmore opening' more
        rw [List.cons_append] at hrest
        simp only [List.cons_append, stringUnits, hn, hrest]; rfl
  | case5 => exact .inl ⟨_, _, rfl⟩
  | case6 => exact .inl ⟨_, _, rfl⟩
  | case7 c cs hunit hu n hn ih =>
    rcases ih with h | ⟨us, rest, h, hmore⟩
    · exact .inl (h.map _)
    · refine .inr ⟨n :: us, rest, ?_, fun opening' more => ?_⟩
      · rw [stringUnits_escape hu hn, h]; rfl
      · rw [List.cons_append, List.cons_append, stringUnits_escape hu hn, hmore]; rfl
  | case8 => exact .inl ⟨_, _, rfl⟩
  | case9 => exact .inl ⟨_, _, rfl⟩
  | case10 c cs hq hunit hb hslash hlow ih =>
    rcases ih with h | ⟨us, rest, h, hmore⟩
    · exact .inl (h.map _)
    · refine .inr ⟨c.toNat :: us, rest, ?_, fun opening' more => ?_⟩
      · rw [stringUnits_plain hq hslash (by omega), h]; rfl
      · rw [List.cons_append, stringUnits_plain hq hslash (by omega), hmore]; rfl

/-- a written string without its closing quote has no end -/
theorem readString_torn {s : String} {p : List Char} (h : p <+: s.toList.flatMap escapedChar) :
    Complains (readString p) := by
  obtain ⟨t, ht⟩ := h
  rcases stringUnits_outcome ('"' :: p) p with hp | ⟨us, rest, -, hmore⟩
  · exact hp.map _
  · -- with the closing quote nothing would be left of the text, but here a quote is
    have hwhole := stringUnits_chars [] s.toList []
    rw [← ht, List.append_assoc, hmore] at hwhole
    have hrest : rest ++ (t ++ ['"']) = [] := (Prod.mk.inj (Except.ok.inj hwhole)).2
    simp at hrest

theorem tears_text {depth : ℕ} (t : Text) : Tears depth (.text t) := by
  intro fuel p hp hfuel
  rw [chars_text, stringChars] at hp
  rcases List.prefix_cons_iff.1 hp with rfl | ⟨q, rfl, hq⟩
  · exact .inl (readValue_nil fuel depth)
  · obtain ⟨fuel, rfl⟩ : ∃ f, fuel = f + 1 := ⟨fuel - 1, by rw [List.length_cons] at hfuel; omega⟩
    rcases List.prefix_concat_iff.1 hq with rfl | hq
    · rw [readValue, readString_chars]
      exact .inr ⟨_, _, rfl, List.forall_mem_nil _⟩
    · rw [readValue]
      exact .inl ((readString_torn hq).map _)

/-! ## Lists and objects -/

/-- nothing is skipped at the start of a value, however little of it is left -/
theorem skipGap_torn {c : Char} {cs p : List Char} (hc : isGap c = false) (h : p <+: c :: cs) : skipGap p = p := by
  rcases List.prefix_cons_iff.1 h with rfl | ⟨q, rfl, -⟩
  · rfl
  · rw [skipGap, List.dropWhile_cons_of_neg]
    rw [hc]
    decide

/-- a value, and whatever follows it, does not start with a blank -/
theorem chars_unblank (v : Json) (tail : List Char) : ∃ c cs, v.chars ++ tail = c :: cs ∧ isGap c = false := by
  obtain ⟨c, cs, hchars, hc⟩ := chars_start v
  exact ⟨c, cs ++ tail, by rw [hchars]; rfl, isStart_gap hc⟩

/-- what stands behind a hanging value is neither blank nor closes anything -/
theorem skipGap_hanging {rest : List Char} (h : ∀ c ∈ rest, follows c = false) :
    skipGap rest = rest ∧ ∀ c cs, rest = c :: cs → c ≠ ',' ∧ c ≠ ']' ∧ c ≠ '\x7d' := by
  cases rest with
  | nil => exact ⟨rfl, fun c cs h => by cases h⟩
  | cons d ds =>
    have hd := h d List.mem_cons_self
    simp only [follows, List.contains_cons, List.contains_nil, Bool.or_eq_false_iff, beq_eq_false_iff_ne, Bool.or_false]
      at hd
    refine ⟨skipGap_torn hd.1 List.prefix_rfl, fun c cs hcs => ?_⟩
    obtain ⟨rfl, -⟩ := List.cons.inj hcs
    exact hd.2

/-- a hanging item ends its list in a complaint -/
theorem readItems_hangs {fuel depth : ℕ} {p : List Char} (h : Hangs (readValue fuel depth p)) :
    Complains (readItems (fuel + 1) depth p) := by
  rw [readItems]
  rcases h with ⟨c, rest, h⟩ | ⟨v, rest, h, hrest⟩
  · rw [h]
    exact ⟨c, rest, rfl⟩
  · obtain ⟨hgap, hne⟩ := skipGap_hanging hrest
    rw [h]
    simp only [hgap]
    split
    · next heq => exact absurd rfl (hne _ _ rfl).2.1
    · next heq => exact absurd rfl (hne _ _ rfl).1
    · exact ⟨_, _, rfl⟩

/-- a text of two parts breaks off in the first or behind it -/
theorem torn_cases {cs more p t : List Char} (h : cs ++ more = p ++ t) :
    p <+: cs ∨ ∃ d as, p = cs ++ d :: as ∧ more = d :: (as ++ t) := by
  rcases List.append_eq_append_iff.1 h with ⟨as, rfl, hmore⟩ | ⟨bs, rfl, -⟩
  · cases as with
    | nil => exact .inl (by rw [List.append_nil])
    | cons d as => exact .inr ⟨d, as, rfl, hmore⟩
  · exact .inl (List.prefix_append p bs)

/-- of a blank and a text behind it, as much is left of the text as is left when the blank is skipped -/
theorem torn_gap {cs as t : List Char} (hcs : ∃ c ds, cs = c :: ds ∧ isGap c = false) (h : ' ' :: cs = as ++ t)
    (ht : t ≠ []) : ∃ t', t' ≠ [] ∧ cs = skipGap as ++ t' ∧ (skipGap as).length ≤ as.length := by
  obtain ⟨c, ds, rfl, hc⟩ := hcs
  cases as with
  | nil => exact ⟨c :: ds, List.cons_ne_nil c ds, rfl, Nat.le_refl _⟩
  | cons d q =>
    obtain ⟨rfl, hq⟩ := List.cons.inj h
    have hgap : skipGap (' ' :: q) = q := skipGap_torn hc ⟨t, hq.symm⟩
    rw [hgap]
    exact ⟨t, ht, hq, Nat.le_succ _⟩

theorem readItems_torn {depth : ℕ} {v : Json} {vs : List Json} (hread : ∀ w ∈ v :: vs, IsRead depth w)
    (htear : ∀ w ∈ v :: vs, Tears depth w) {fuel : ℕ} {p t : List Char} (h : v.chars ++ moreItemChars vs = p ++ t)
    (ht : t ≠ []) (hfuel : 2 * p.length + 1 ≤ fuel) : Complains (readItems fuel depth p) := by
  induction vs generalizing v fuel p t with
  | nil =>
    obtain ⟨fuel, rfl⟩ : ∃ f, fuel = f + 1 := ⟨fuel - 1, by omega⟩
    rcases torn_cases h with hp | ⟨d, as, -, hclose⟩
    · exact readItems_hangs (htear v List.mem_cons_self fuel p hp (by omega))
    · -- only the bracket could be missing, so nothing is
      have hnil : as ++ t = [] := ((List.cons.inj hclose).2).symm
      exact absurd (List.append_eq_nil_iff.1 hnil).2 ht
  | cons w ws ih =>
    obtain ⟨fuel, rfl⟩ : ∃ f, fuel = f + 1 := ⟨fuel - 1, by omega⟩
    rcases torn_cases h with hp | ⟨d, as, rfl, hmore⟩
    · exact readItems_hangs (htear v List.mem_cons_self fuel p hp (by omega))
    · rw [moreItemChars_cons] at hmore
      obtain ⟨rfl, hgap⟩ := List.cons.inj hmore
      obtain ⟨t', ht', hws, hlen⟩ := torn_gap (chars_unblank w _) hgap ht
      rw [List.length_append, List.length_cons] at hfuel
      rw [readItems_more (hread v List.mem_cons_self) (by omega) (stops_cons.2 rfl) rfl]
      exact (ih (fun u hu => hread u (List.mem_cons_of_mem v hu)) (fun u hu => htear u (List.mem_cons_of_mem v hu)) hws ht'
        (by omega)).map _

/-- a field whose value hangs ends its object in a complaint -/
theorem readFields_hangs {fuel depth : ℕ} (acc : List (Text × Json)) (name : Text) {as : List Char}
    (h : Hangs (readValue fuel depth (skipGap as))) :
    Complains (readFields (fuel + 1) depth acc (stringChars name ++ ':' :: as)) := by
  have hcolon : skipGap (':' :: as) = ':' :: as := rfl
  rw [stringChars_append, readFields]
  simp only [readString_chars, hcolon]
  rcases h with ⟨c, rest, h⟩ | ⟨v, rest, h, hrest⟩
  · rw [h]
    exact ⟨c, rest, rfl⟩
  · obtain ⟨hgap, hne⟩ := skipGap_hanging hrest
    rw [h]
    simp only [hgap]
    split
    · next heq => exact absurd rfl (hne _ _ rfl).2.2
    · next heq => exact absurd rfl (hne _ _ rfl).1
    · exact ⟨_, _, rfl⟩

/-- a torn name, or one without colon -/
theorem readFields_name {fuel depth : ℕ} (acc : List (Text × Json)) {name : Text} {p : List Char}
    (h : p <+: stringChars name) : Complains (readFields fuel depth acc p) := by
  cases fuel with
  | zero => exact ⟨_, _, rfl⟩
  | succ fuel =>
    rcases List.prefix_cons_iff.1 h with rfl | ⟨q, rfl, hq⟩
    · exact ⟨_, _, rfl⟩
    · rcases List.prefix_concat_iff.1 hq with rfl | hq
      · rw [readFields]
        simp only [readString_chars]
        exact ⟨_, _, rfl⟩
      · obtain ⟨c, rest, h⟩ := readString_torn hq
        rw [readFields, h]
        exact ⟨c, rest, rfl⟩

theorem readFields_gap {fuel depth : ℕ} (acc : List (Text × Json)) (name : Text) {as bs : List Char}
    (h : skipGap as = skipGap bs) :
    readFields (fuel + 1) depth acc (stringChars name ++ ':' :: as) =
      readFields (fuel + 1) depth acc (stringChars name ++ ':' :: bs) := by
  have hcolon (cs : List Char) : skipGap (':' :: cs) = ':' :: cs := rfl
  rw [stringChars_append, stringChars_append, readFields, readFields]
  simp only [readString_chars, hcolon, h]

theorem readFields_torn {depth : ℕ} {f : Text × Json} {fs : List (Text × Json)}
    (hread : ∀ g ∈ f :: fs, g.1.isWhole = true ∧ IsRead depth g.2) (htear : ∀ g ∈ f :: fs, Tears depth g.2)
    {acc : List (Text × Json)}
    {fuel : ℕ} {p t : List Char} (h : stringChars f.1 ++ ':' :: ' ' :: (f.2.chars ++ moreFieldChars fs) = p ++ t)
    (ht : t ≠ []) (hfuel : 2 * p.length + 1 ≤ fuel) : Complains (readFields fuel depth acc p) := by
  induction fs generalizing f acc fuel p t with
  | nil =>
    obtain ⟨fuel, rfl⟩ : ∃ f, fuel = f + 1 := ⟨fuel - 1, by omega⟩
    rcases torn_cases h with hp | ⟨d, as, rfl, hcolon⟩
    · exact readFields_name acc hp
    · obtain ⟨rfl, hgap⟩ := List.cons.inj hcolon
      obtain ⟨t', ht', hvalue, hlen⟩ := torn_gap (chars_unblank f.2 _) hgap ht
      rw [List.length_append, List.length_cons] at hfuel
      rcases torn_cases hvalue with hp | ⟨d, bs, -, hclose⟩
      · exact readFields_hangs acc f.1 (htear f List.mem_cons_self fuel _ hp (by omega))
      · have hnil : bs ++ t' = [] := ((List.cons.inj hclose).2).symm
        exact absurd (List.append_eq_nil_iff.1 hnil).2 ht'
  | cons g gs ih =>
    obtain ⟨fuel, rfl⟩ : ∃ f, fuel = f + 1 := ⟨fuel - 1, by omega⟩
    rcases torn_cases h with hp | ⟨d, as, rfl, hcolon⟩
    · exact readFields_name acc hp
    · obtain ⟨rfl, hgap⟩ := List.cons.inj hcolon
      obtain ⟨t', ht', hvalue, hlen⟩ := torn_gap (chars_unblank f.2 _) hgap ht
      rw [List.length_append, List.length_cons] at hfuel
      rcases torn_cases hvalue with hp | ⟨d, bs, hskip, hmore⟩
      · exact readFields_hangs acc f.1 (htear f List.mem_cons_self fuel _ hp (by omega))
      · rw [moreFieldChars_cons] at hmore
        obtain ⟨rfl, hgap'⟩ := List.cons.inj hmore
        obtain ⟨t'', ht'', hgs, hlen'⟩ := torn_gap ⟨_, _, stringChars_append g.1 _, rfl⟩ hgap' ht'
        have hsame : skipGap as = skipGap (' ' :: (f.2.chars ++ ',' :: bs)) := by
          rw [hskip]
          exact (skipGap_chars f.2 _).symm
        rw [hskip, List.length_append, List.length_cons] at hlen
        obtain ⟨hname, hf⟩ := hread f List.mem_cons_self
        rw [readFields_gap acc f.1 hsame, readFields_more acc hname hf (by omega) (stops_cons.2 rfl) rfl]
        exact ih (fun e he => hread e (List.mem_cons_of_mem f he)) (fun e he => htear e (List.mem_cons_of_mem f he)) hgs
          ht'' (by omega)

/-! ## Values -/

/-- what is left of a text that starts a value starts a value, if anything is left -/
theorem start_torn {c : Char} {cs q t : List Char} (hc : isStart c = true) (h : c :: cs = q ++ t) :
    ∀ d ds, q = d :: ds → isStart d = true := by
  rintro d ds rfl
  obtain ⟨rfl, -⟩ := List.cons.inj h
  exact hc

theorem skipGap_start {q : List Char} (h : ∀ c cs, q = c :: cs → isStart c = true) : skipGap q = q := by
  cases q with
  | nil => rfl
  | cons c cs => exact skipGap_torn (isStart_gap (h c cs rfl)) List.prefix_rfl

/-- a list with items is torn where its items are -/
theorem readValue_items {fuel depth : ℕ} {q : List Char} (hstart : ∀ c cs, q = c :: cs → isStart c = true)
    (h : Complains (readItems fuel depth q)) : Complains (readValue (fuel + 1) (depth + 1) ('[' :: q)) := by
  simp only [readValue, skipGap_start hstart]
  split
  · exact absurd rfl (isStart_ne (hstart _ _ rfl) rfl)
  · exact h.map _

/-- an object with fields is torn where its fields are -/
theorem readValue_fields {fuel depth : ℕ} {q : List Char} (hstart : ∀ c cs, q = c :: cs → isStart c = true)
    (h : Complains (readFields fuel depth [] q)) : Complains (readValue (fuel + 1) (depth + 1) ('\x7b' :: q)) := by
  simp only [readValue, skipGap_start hstart]
  split
  · exact absurd rfl (isStart_ne (hstart _ _ rfl) rfl)
  · exact h.map _

theorem list_torn {depth : ℕ} {items : List Json} (hread : ∀ v ∈ items, IsRead depth v)
    (htear : ∀ v ∈ items, Tears depth v) {fuel : ℕ} {p t : List Char} (h : (Json.list items).chars = p ++ t)
    (ht : t ≠ []) (hfuel : 2 * p.length ≤ fuel) : Complains (readValue fuel (depth + 1) p) := by
  cases p with
  | nil => exact readValue_nil fuel _
  | cons c q =>
    rw [List.length_cons] at hfuel
    obtain ⟨fuel, rfl⟩ : ∃ f, fuel = f + 2 := ⟨fuel - 2, by omega⟩
    obtain ⟨rfl, hitems⟩ : '[' = c ∧ itemChars items = q ++ t := List.cons.inj h
    cases items with
    | nil =>
      rcases List.append_eq_singleton_iff.1 hitems.symm with ⟨rfl, -⟩ | ⟨-, rfl⟩
      · exact readValue_items (fun c cs h => by cases h) (readItems_hangs (.inl (readValue_nil _ _)))
      · exact absurd rfl ht
    | cons v vs =>
      have hitems' : v.chars ++ moreItemChars vs = q ++ t := by rw [← itemChars_cons, hitems]
      obtain ⟨c, cs, hchars, hc⟩ := chars_start v
      have hstart : c :: (cs ++ moreItemChars vs) = q ++ t := by rw [← hitems', hchars, List.cons_append]
      exact readValue_items (start_torn hc hstart) (readItems_torn hread htear hitems' ht (by omega))

theorem object_torn {depth : ℕ} {fields : List (Text × Json)}
    (hread : ∀ f ∈ fields, f.1.isWhole = true ∧ IsRead depth f.2)
    (htear : ∀ f ∈ fields, Tears depth f.2) {fuel : ℕ} {p t : List Char} (h : (Json.object fields).chars = p ++ t)
    (ht : t ≠ []) (hfuel : 2 * p.length ≤ fuel) : Complains (readValue fuel (depth + 1) p) := by
  cases p with
  | nil => exact readValue_nil fuel _
  | cons c q =>
    rw [List.length_cons] at hfuel
    obtain ⟨fuel, rfl⟩ : ∃ f, fuel = f + 2 := ⟨fuel - 2, by omega⟩
    obtain ⟨rfl, hfields⟩ : '\x7b' = c ∧ fieldChars fields = q ++ t := List.cons.inj h
    cases fields with
    | nil =>
      rcases List.append_eq_singleton_iff.1 hfields.symm with ⟨rfl, -⟩ | ⟨-, rfl⟩
      · exact readValue_fields (fun c cs h => by cases h) ⟨_, _, rfl⟩
      · exact absurd rfl ht
    | cons f fs =>
      have hfields' : stringChars f.1 ++ ':' :: ' ' :: (f.2.chars ++ moreFieldChars fs) = q ++ t := by
        rw [← fieldChars_cons, hfields]
      refine readValue_fields (start_torn rfl ((stringChars_append f.1 _).symm.trans hfields'))
        (readFields_torn hread htear hfields' ht (by omega))

/-- a value that is not left whole hangs, and so does one that is -/
theorem tears_of_torn {depth : ℕ} {v : Json} (hread : IsRead depth v)
    (htorn : ∀ fuel p t, v.chars = p ++ t → t ≠ [] → 2 * p.length ≤ fuel → Complains (readValue fuel depth p)) :
    Tears depth v := by
  rintro fuel p ⟨t, ht⟩ hfuel
  cases t with
  | nil =>
    rw [List.append_nil] at ht
    have hwhole := hread fuel [] (by rw [← ht]; exact hfuel) (stops_nil _)
    rw [List.append_nil, ← ht] at hwhole
    exact .inr ⟨v, [], hwhole, List.forall_mem_nil _⟩
  | cons c t => exact .inl (htorn fuel p (c :: t) ht.symm (List.cons_ne_nil c t) hfuel)

/-- **Whatever is left of a written value hangs.** -/
theorem tears_chars {k : ℕ} {v : Json} (h : Legible k v) : ∀ depth, k ≤ depth → Tears depth v := by
  induction h with
  | null =>
    exact fun depth _ => tears_scalar ⟨_, _, rfl, rfl⟩ (by simp [chars_null, follows, isGap]) (Nat.zero_le _)
  | bool b =>
    intro depth _
    cases b with
    | true => exact tears_scalar ⟨_, _, rfl, rfl⟩ (by simp [chars_bool, follows, isGap]) (Nat.zero_le _)
    | false => exact tears_scalar ⟨_, _, rfl, rfl⟩ (by simp [chars_bool, follows, isGap]) (Nat.zero_le _)
  | @whole k n hn =>
    intro depth _
    refine tears_number (n := .whole n) fun m hm => ?_
    rw [← Number.whole.inj hm]
    exact hn
  | real x =>
    intro depth _
    refine tears_number (n := .real x) fun m hm => ?_
    cases hm
  | text _ => exact fun depth _ => tears_text _
  | list hitems ih =>
    intro depth hk
    obtain ⟨depth, rfl⟩ : ∃ d, depth = d + 1 := ⟨depth - 1, by omega⟩
    exact tears_of_torn (isRead_chars (.list hitems) (depth + 1) hk) fun fuel p t =>
      list_torn (fun v hv => isRead_chars (hitems v hv) depth (by omega)) fun v hv => ih v hv depth (by omega)
  | object hnames hwhole hfields ih =>
    intro depth hk
    obtain ⟨depth, rfl⟩ : ∃ d, depth = d + 1 := ⟨depth - 1, by omega⟩
    exact tears_of_torn (isRead_chars (.object hnames hwhole hfields) (depth + 1) hk) fun fuel p t =>
      object_torn (fun f hf => ⟨hwhole f hf, isRead_chars (hfields f hf) depth (by omega)⟩) fun f hf =>
        ih f hf depth (by omega)

/-! ## Texts -/

theorem readChars_torn {k : ℕ} {fields : List (Text × Json)} (h : Legible k (.object fields)) (hk : k ≤ depthLimit)
    {p t : List Char} (hp : (Json.object fields).chars = p ++ t) (ht : t ≠ []) :
    ∃ c rest, readChars p = .error (.complaint c rest) := by
  cases h with
  | @object k fields hnames hwhole hfields =>
    obtain ⟨depth, hdepth⟩ : ∃ d, depthLimit = d + 1 := ⟨depthLimit - 1, rfl⟩
    have htorn : Complains (readValue (2 * p.length + 2) depthLimit p) := by
      rw [hdepth]
      exact object_torn (fun f hf => ⟨hwhole f hf, isRead_chars (hfields f hf) depth (by omega)⟩)
        (fun f hf => tears_chars (hfields f hf) depth (by omega)) hp ht (by omega)
    obtain ⟨c, rest, htorn⟩ := htorn
    have hstart : ∀ c cs, p = c :: cs → isStart c = true := start_torn rfl hp
    refine ⟨c, rest, ?_⟩
    unfold readChars
    split
    · exact absurd rfl (isStart_ne (hstart _ _ rfl) rfl)
    · rw [skipGap_start hstart, htorn]

/-- **No proper part of a written object, taken from its start, is a JSON text**: reading it is a complaint about its form,
never one about a number that is too long or a container that is too deep. -/
theorem read_torn {k : ℕ} {fields : List (Text × Json)} (h : Legible k (.object fields)) (hk : k ≤ depthLimit)
    {p t : List Char} (hp : (Json.object fields).chars = p ++ t) (ht : t ≠ []) :
    ∃ c l column position, read (String.ofList p) = .error (.malformed c l column position) := by
  obtain ⟨c, rest, hread⟩ := readChars_torn h hk hp ht
  refine ⟨c, (placeOf p rest).1, (placeOf p rest).2.1, (placeOf p rest).2.2, ?_⟩
  unfold read
  rw [String.toList_ofList, hread]

end TileCrew.Json
