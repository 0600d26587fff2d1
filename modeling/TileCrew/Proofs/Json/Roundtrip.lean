/-
JSON text reads back as the value it was written for.
- `isRead_chars`: a written value is read as that value, from any text that does not go on its last number;
- `read_chars`: **so is a text that is one written value**.
What is asked of a value is that it can be written and read at all (`Legible`): integers of no more digits than are read,
texts without lone halves of surrogate pairs, fields of different names, no more containers within each other than are
read. The latter two are matters of its form (`Regular`), whatever the integers and texts in it are.
-/
import Mathlib
import TileCrew.Proofs.Json.Reals
import TileCrew.Proofs.Json.Strings
import TileCrew.Proofs.Json.Written

namespace TileCrew.Json

open Decimal Text

/-- can be written and read back, at most k containers within each other -/
inductive Legible : ℕ → Json → Prop where
  | null {k : ℕ} : Legible k .null
  | bool {k : ℕ} (b : Bool) : Legible k (.bool b)
  | whole {k : ℕ} {n : ℤ} : (digitsOf n.natAbs).length ≤ digitLimit → Legible k (.number (.whole n))
  | real {k : ℕ} (x : Float) : Legible k (.number (.real x))
  | text {k : ℕ} {t : Text} : t.isWhole = true → Legible k (.text t)
  | list {k : ℕ} {items : List Json} : (∀ v ∈ items, Legible k v) → Legible (k + 1) (.list items)
  | object {k : ℕ} {fields : List (Text × Json)} : (fields.map (·.1)).Nodup → (∀ f ∈ fields, f.1.isWhole = true) →
      (∀ f ∈ fields, Legible k f.2) → Legible (k + 1) (.object fields)

/-! ## How values begin -/

/-- begins a number or a fixed word -/
def isScalarStart (c : Char) : Bool := isAsciiDigit c || ['-', 'N', 'I', 'n', 't', 'f'].contains c

def isStart (c : Char) : Bool := isScalarStart c || ['"', '[', '\x7b'].contains c

theorem isStart_gap {c : Char} (h : isStart c = true) : isGap c = false := by
  by_contra hc
  simp only [isGap, Bool.or_eq_true, decide_eq_true_eq, Bool.not_eq_false] at hc
  rcases hc with ((rfl | rfl) | rfl) | rfl
  all_goals cases h

theorem isStart_ne {c d : Char} (h : isStart c = true) (hd : isStart d = false) : c ≠ d := by
  rintro rfl
  rw [h] at hd
  cases hd

theorem isScalarStart_ne {c d : Char} (h : isScalarStart c = true) (hd : isScalarStart d = false) : c ≠ d := by
  rintro rfl
  rw [h] at hd
  cases hd

theorem isScalarStart_digit {c : Char} (h : isAsciiDigit c = true) : isScalarStart c = true := by
  rw [isScalarStart, h]
  rfl

theorem numeral_start (negative : Bool) {ds : List Char} (rest : List Char) (h : IsWhole ds) :
    ∃ c cs, signChars negative ++ (ds ++ rest) = c :: cs ∧ isScalarStart c = true := by
  cases negative with
  | true => exact ⟨'-', ds ++ rest, rfl, rfl⟩
  | false =>
    obtain ⟨d, ds', rfl⟩ := List.exists_cons_of_ne_nil h.ne_nil
    exact ⟨d, ds' ++ rest, rfl, isScalarStart_digit (h.1 d List.mem_cons_self)⟩

theorem integerChars_eq (n : ℤ) : integerChars n = signChars (decide (n < 0)) ++ digitsOf n.natAbs := by
  by_cases h : n < 0
  · simp [integerChars, signChars, h]
  · simp [integerChars, signChars, h]

theorem numberChars_start (n : Number) : ∃ c cs, numberChars n = c :: cs ∧ isScalarStart c = true := by
  cases n with
  | whole n =>
    obtain ⟨c, cs, h, hc⟩ := numeral_start (decide (n < 0)) [] (isWhole_digitsOf n.natAbs)
    rw [List.append_nil, ← integerChars_eq] at h
    exact ⟨c, cs, h, hc⟩
  | real x =>
    show ∃ c cs, layout.chars x = c :: cs ∧ isScalarStart c = true
    rcases realChars_cases x with h | ⟨negative, cs, d, h, ds, fs, e?, rfl, hds, -⟩
    · simp only [List.mem_cons, List.not_mem_nil, or_false] at h
      rcases h with h | h | h
      all_goals exact ⟨_, _, h, rfl⟩
    · rw [h]
      exact numeral_start negative _ hds

theorem chars_start (v : Json) : ∃ c cs, v.chars = c :: cs ∧ isStart c = true := by
  cases v with
  | null => exact ⟨_, _, rfl, rfl⟩
  | bool b =>
    cases b with
    | true => exact ⟨_, _, rfl, rfl⟩
    | false => exact ⟨_, _, rfl, rfl⟩
  | number n =>
    obtain ⟨c, cs, h, hc⟩ := numberChars_start n
    refine ⟨c, cs, (chars_number n).trans h, ?_⟩
    rw [isStart, hc]
    rfl
  | text s => exact ⟨_, _, rfl, rfl⟩
  | list items => exact ⟨_, _, rfl, rfl⟩
  | object fields => exact ⟨_, _, rfl, rfl⟩

theorem skipGap_chars (v : Json) (rest : List Char) : skipGap (v.chars ++ rest) = v.chars ++ rest := by
  obtain ⟨c, cs, h, hc⟩ := chars_start v
  rw [h, List.cons_append, skipGap, List.dropWhile_cons_of_neg]
  rw [isStart_gap hc]
  decide

theorem chars_pos (v : Json) : 0 < v.chars.length := by
  obtain ⟨c, cs, h, -⟩ := chars_start v
  rw [h]
  exact Nat.succ_pos _

/-! ## Scalars -/

/-- what begins as a scalar is read as one -/
theorem readValue_scalar {fuel depth : ℕ} {c : Char} {cs : List Char} (h : isScalarStart c = true) :
    readValue (fuel + 1) depth (c :: cs) = readScalar (c :: cs) := by
  have hq : c ≠ '"' := isScalarStart_ne h rfl
  have hl : c ≠ '[' := isScalarStart_ne h rfl
  have hb : c ≠ '\x7b' := isScalarStart_ne h rfl
  rw [readValue]
  · exact fun _ heq => hq (List.cons.inj heq).1
  · exact fun _ heq _ => hl (List.cons.inj heq).1
  · exact fun _ heq _ => hb (List.cons.inj heq).1
  · exact fun _ _ heq _ => hl (List.cons.inj heq).1
  · exact fun _ _ heq _ => hb (List.cons.inj heq).1

theorem readScalar_number {n : Number} (hn : ∀ m, n = .whole m → (digitsOf m.natAbs).length ≤ digitLimit)
    {rest : List Char} (hrest : Stops goesOn rest) :
    readScalar (numberChars n ++ rest) = .ok (.number n, rest) := by
  cases n with
  | real x => exact readScalar_real x hrest
  | whole m =>
    show readScalar (integerChars m ++ rest) = .ok (.int m, rest)
    rw [← readNumber_integer (hn m rfl) hrest, integerChars_eq, List.append_assoc]
    exact readScalar_numeral _ _ (isWhole_digitsOf _)

/-! ## Values -/

/-- the value is read from its text, whatever follows it, with fuel for twice its length -/
def IsRead (depth : ℕ) (v : Json) : Prop :=
  ∀ fuel rest, 2 * v.chars.length ≤ fuel → Stops goesOn rest → readValue fuel depth (v.chars ++ rest) = .ok (v, rest)

theorem isRead_scalar {depth : ℕ} {v : Json} (hstart : ∃ c cs, v.chars = c :: cs ∧ isScalarStart c = true)
    (h : ∀ rest, Stops goesOn rest → readScalar (v.chars ++ rest) = .ok (v, rest)) : IsRead depth v := by
  intro fuel rest hfuel hrest
  have hpos := chars_pos v
  obtain ⟨fuel, rfl⟩ : ∃ f, fuel = f + 1 := ⟨fuel - 1, by omega⟩
  obtain ⟨c, cs, hchars, hc⟩ := hstart
  have hread := h rest hrest
  rw [hchars, List.cons_append] at hread ⊢
  rw [readValue_scalar hc, hread]

theorem isRead_number {depth : ℕ} (n : Number) (hn : ∀ m, n = .whole m → (digitsOf m.natAbs).length ≤ digitLimit) :
    IsRead depth (.number n) := by
  refine isRead_scalar ?_ ?_
  · rw [chars_number]
    exact numberChars_start n
  · rw [chars_number]
    exact fun _ hrest => readScalar_number hn hrest

/-- what follows an item begins with a comma or a bracket -/
theorem moreItemChars_cases (vs : List Json) :
    moreItemChars vs = [']'] ∧ vs = [] ∨
      ∃ w ws, vs = w :: ws ∧ moreItemChars vs = ',' :: ' ' :: (w.chars ++ moreItemChars ws) := by
  cases vs with
  | nil => exact .inl ⟨rfl, rfl⟩
  | cons w ws => exact .inr ⟨w, ws, rfl, moreItemChars_cons w ws⟩

theorem moreItemChars_stops (vs : List Json) (rest : List Char) : Stops goesOn (moreItemChars vs ++ rest) := by
  rcases moreItemChars_cases vs with ⟨h, -⟩ | ⟨w, ws, -, h⟩
  · rw [h]
    exact stops_cons.2 rfl
  · rw [h]
    exact stops_cons.2 rfl

section

variable {depth fuel : ℕ} {v : Json} {tail rest : List Char}

theorem readItems_last (hv : IsRead depth v) (hfuel : 2 * v.chars.length ≤ fuel) (htail : Stops goesOn tail)
    (hclose : skipGap tail = ']' :: rest) : readItems (fuel + 1) depth (v.chars ++ tail) = .ok ([v], rest) := by
  rw [readItems, hv fuel tail hfuel htail]
  simp only [hclose]

theorem readItems_more (hv : IsRead depth v) (hfuel : 2 * v.chars.length ≤ fuel) (htail : Stops goesOn tail)
    (hcomma : skipGap tail = ',' :: rest) :
    readItems (fuel + 1) depth (v.chars ++ tail) =
      (readItems fuel depth (skipGap rest)).map fun r => (v :: r.1, r.2) := by
  rw [readItems, hv fuel tail hfuel htail]
  simp only [hcomma]

end

theorem readItems_chars {depth : ℕ} {v : Json} {vs : List Json} (h : ∀ w ∈ v :: vs, IsRead depth w) {fuel : ℕ}
    {rest : List Char} (hfuel : 2 * (v.chars ++ moreItemChars vs).length + 1 ≤ fuel) :
    readItems fuel depth (v.chars ++ (moreItemChars vs ++ rest)) = .ok (v :: vs, rest) := by
  induction vs generalizing v fuel with
  | nil =>
    obtain ⟨fuel, rfl⟩ : ∃ f, fuel = f + 1 := ⟨fuel - 1, by omega⟩
    rw [List.length_append] at hfuel
    exact readItems_last (h v List.mem_cons_self) (by omega) (moreItemChars_stops [] rest) rfl
  | cons w ws ih =>
    obtain ⟨fuel, rfl⟩ : ∃ f, fuel = f + 1 := ⟨fuel - 1, by omega⟩
    have hmore := moreItemChars_cons w ws
    rw [List.length_append, hmore, List.length_cons, List.length_cons] at hfuel
    -- the item has taken two units of fuel for each of its characters; as many are left for what follows
    have hws := ih (v := w) (fun u hu => h u (List.mem_cons_of_mem v hu)) (show _ ≤ fuel by omega)
    have hgap : skipGap (' ' :: (w.chars ++ (moreItemChars ws ++ rest))) = w.chars ++ (moreItemChars ws ++ rest) :=
      skipGap_chars w _
    have hcomma : skipGap (moreItemChars (w :: ws) ++ rest) = ',' :: ' ' :: (w.chars ++ (moreItemChars ws ++ rest)) := by
      rw [hmore, List.cons_append, List.cons_append, List.append_assoc]
      rfl
    rw [readItems_more (h v List.mem_cons_self) (by omega) (moreItemChars_stops _ rest) hcomma, hgap, hws]
    rfl

theorem isRead_list {depth : ℕ} {items : List Json} (h : ∀ v ∈ items, IsRead depth v) :
    IsRead (depth + 1) (.list items) := by
  intro fuel rest hfuel hrest
  cases items with
  | nil =>
    obtain ⟨fuel, rfl⟩ : ∃ f, fuel = f + 1 := ⟨fuel - 1, by have := chars_pos (.list []); omega⟩
    rfl
  | cons v vs =>
    have htext : (Json.list (v :: vs)).chars = '[' :: (v.chars ++ moreItemChars vs) := by
      rw [chars_list, itemChars_cons]
    rw [htext, List.length_cons] at hfuel
    obtain ⟨fuel, rfl⟩ : ∃ f, fuel = f + 1 := ⟨fuel - 1, by omega⟩
    have hread : readItems fuel depth (v.chars ++ (moreItemChars vs ++ rest)) = .ok (v :: vs, rest) :=
      readItems_chars h (by omega)
    have hgap := skipGap_chars v (moreItemChars vs ++ rest)
    obtain ⟨c, cs, hchars, hc⟩ := chars_start v
    rw [htext, List.cons_append, List.append_assoc]
    rw [hchars, List.cons_append] at hgap hread ⊢
    have hclose : c ≠ ']' := isStart_ne hc rfl
    simp only [readValue, hgap]
    split
    · next heq => exact absurd (List.cons.inj heq).1 hclose
    · rw [hread]
      rfl

/-- what follows a field begins with a comma or a brace -/
theorem moreFieldChars_cases (fs : List (Text × Json)) :
    moreFieldChars fs = ['\x7d'] ∧ fs = [] ∨
      ∃ f gs, fs = f :: gs ∧
        moreFieldChars fs = ',' :: ' ' :: (stringChars f.1 ++ ':' :: ' ' :: (f.2.chars ++ moreFieldChars gs)) := by
  cases fs with
  | nil => exact .inl ⟨rfl, rfl⟩
  | cons f gs => exact .inr ⟨f, gs, rfl, moreFieldChars_cons f gs⟩

theorem moreFieldChars_stops (fs : List (Text × Json)) (rest : List Char) :
    Stops goesOn (moreFieldChars fs ++ rest) := by
  rcases moreFieldChars_cases fs with ⟨h, -⟩ | ⟨f, gs, -, h⟩
  · rw [h]
    exact stops_cons.2 rfl
  · rw [h]
    exact stops_cons.2 rfl

/-- a field of a new name comes last -/
theorem putField_new {name : Text} (v : Json) {fields : List (Text × Json)} (h : name ∉ fields.map (·.1)) :
    putField name v fields = fields ++ [(name, v)] := by
  induction fields with
  | nil => rfl
  | cons f fs ih =>
    rw [List.map_cons, List.mem_cons, not_or] at h
    rw [putField, if_neg (Ne.symm h.1), ih h.2]
    rfl

theorem acc_names {f : Text × Json} {acc fs : List (Text × Json)} (h : ((acc ++ f :: fs).map (·.1)).Nodup) :
    f.1 ∉ acc.map (·.1) := by
  rw [List.map_append, List.nodup_append] at h
  intro hf
  exact h.2.2 _ hf _ (List.mem_cons_self) rfl

theorem stringChars_append (t : Text) (rest : List Char) :
    stringChars t ++ rest = '"' :: (t.masked.toList.flatMap escapedChar ++ '"' :: rest) := by
  rw [stringChars, List.cons_append, List.append_assoc]
  rfl

/-- a text without halves is read from its characters -/
theorem readString_whole {t : Text} (h : t.isWhole = true) (rest : List Char) :
    readString (t.masked.toList.flatMap escapedChar ++ '"' :: rest) = .ok (t, rest) := by
  rw [readString_chars, Text.ofString_masked h]

section

variable {depth fuel : ℕ} {f : Text × Json} {tail rest : List Char}

theorem readFields_last (acc : List (Text × Json)) (hname : f.1.isWhole = true) (hf : IsRead depth f.2)
    (hfuel : 2 * f.2.chars.length ≤ fuel) (htail : Stops goesOn tail) (hclose : skipGap tail = '\x7d' :: rest) :
    readFields (fuel + 1) depth acc (stringChars f.1 ++ ':' :: ' ' :: (f.2.chars ++ tail)) =
      .ok (putField f.1 f.2 acc, rest) := by
  have hcolon (cs : List Char) : skipGap (':' :: cs) = ':' :: cs := rfl
  have hgap : skipGap (' ' :: (f.2.chars ++ tail)) = f.2.chars ++ tail := skipGap_chars f.2 tail
  rw [stringChars_append, readFields]
  simp only [readString_whole hname, hcolon, hgap, hf fuel tail hfuel htail, hclose]

theorem readFields_more (acc : List (Text × Json)) (hname : f.1.isWhole = true) (hf : IsRead depth f.2)
    (hfuel : 2 * f.2.chars.length ≤ fuel) (htail : Stops goesOn tail) (hcomma : skipGap tail = ',' :: rest) :
    readFields (fuel + 1) depth acc (stringChars f.1 ++ ':' :: ' ' :: (f.2.chars ++ tail)) =
      readFields fuel depth (putField f.1 f.2 acc) (skipGap rest) := by
  have hcolon (cs : List Char) : skipGap (':' :: cs) = ':' :: cs := rfl
  have hgap : skipGap (' ' :: (f.2.chars ++ tail)) = f.2.chars ++ tail := skipGap_chars f.2 tail
  rw [stringChars_append, readFields]
  simp only [readString_whole hname, hcolon, hgap, hf fuel tail hfuel htail, hcomma]

end

theorem readFields_chars {depth : ℕ} {f : Text × Json} {fs acc : List (Text × Json)}
    (h : ∀ g ∈ f :: fs, g.1.isWhole = true ∧ IsRead depth g.2) (hnames : ((acc ++ f :: fs).map (·.1)).Nodup) {fuel : ℕ}
    {rest : List Char}
    (hfuel : 2 * (stringChars f.1 ++ ':' :: ' ' :: (f.2.chars ++ moreFieldChars fs)).length + 1 ≤ fuel) :
    readFields fuel depth acc (stringChars f.1 ++ ':' :: ' ' :: (f.2.chars ++ (moreFieldChars fs ++ rest))) =
      .ok (acc ++ f :: fs, rest) := by
  induction fs generalizing f acc fuel with
  | nil =>
    obtain ⟨fuel, rfl⟩ : ∃ f, fuel = f + 1 := ⟨fuel - 1, by omega⟩
    rw [List.length_append, List.length_cons, List.length_cons, List.length_append] at hfuel
    obtain ⟨hname, hf⟩ := h f List.mem_cons_self
    have hread : readFields (fuel + 1) depth acc
        (stringChars f.1 ++ ':' :: ' ' :: (f.2.chars ++ (moreFieldChars [] ++ rest))) =
        .ok (putField f.1 f.2 acc, rest) :=
      readFields_last acc hname hf (by omega) (moreFieldChars_stops [] rest) rfl
    rw [putField_new f.2 (acc_names hnames)] at hread
    exact hread
  | cons g gs ih =>
    obtain ⟨fuel, rfl⟩ : ∃ f, fuel = f + 1 := ⟨fuel - 1, by omega⟩
    have hmore := moreFieldChars_cons g gs
    rw [List.length_append, List.length_cons, List.length_cons, List.length_append, hmore, List.length_cons,
      List.length_cons] at hfuel
    have hgs : readFields fuel depth (acc ++ [f])
        (stringChars g.1 ++ ':' :: ' ' :: (g.2.chars ++ (moreFieldChars gs ++ rest))) =
        .ok (acc ++ [f] ++ g :: gs, rest) :=
      ih (fun e he => h e (List.mem_cons_of_mem f he)) (by rw [List.append_assoc]; exact hnames) (by omega)
    have hcomma : skipGap (moreFieldChars (g :: gs) ++ rest) = ',' :: ' ' ::
        (stringChars g.1 ++ ':' :: ' ' :: (g.2.chars ++ (moreFieldChars gs ++ rest))) := by
      rw [hmore, List.cons_append, List.cons_append, List.append_assoc, List.cons_append, List.cons_append,
        List.append_assoc]
      rfl
    obtain ⟨hname, hf⟩ := h f List.mem_cons_self
    rw [readFields_more acc hname hf (by omega) (moreFieldChars_stops _ rest) hcomma,
      putField_new f.2 (acc_names hnames)]
    rw [List.append_assoc] at hgs
    exact hgs

theorem isRead_object {depth : ℕ} {fields : List (Text × Json)} (hnames : (fields.map (·.1)).Nodup)
    (h : ∀ f ∈ fields, f.1.isWhole = true ∧ IsRead depth f.2) : IsRead (depth + 1) (.object fields) := by
  intro fuel rest hfuel hrest
  cases fields with
  | nil =>
    obtain ⟨fuel, rfl⟩ : ∃ f, fuel = f + 1 := ⟨fuel - 1, by have := chars_pos (.object []); omega⟩
    rfl
  | cons f fs =>
    have htext : (Json.object (f :: fs)).chars =
        '\x7b' :: (stringChars f.1 ++ ':' :: ' ' :: (f.2.chars ++ moreFieldChars fs)) := by
      rw [chars_object, fieldChars_cons]
    rw [htext, List.length_cons] at hfuel
    obtain ⟨fuel, rfl⟩ : ∃ f, fuel = f + 1 := ⟨fuel - 1, by omega⟩
    have hread : readFields fuel depth [] (stringChars f.1 ++ ':' :: ' ' :: (f.2.chars ++ (moreFieldChars fs ++ rest))) =
        .ok (f :: fs, rest) := readFields_chars h hnames (by omega)
    rw [stringChars_append] at hread
    have hgap (cs : List Char) : skipGap ('"' :: cs) = '"' :: cs := rfl
    rw [htext, List.cons_append, List.append_assoc, List.cons_append, List.cons_append, List.append_assoc,
      stringChars_append]
    simp only [readValue, hgap]
    split
    · next heq => cases heq
    · rw [hread]
      rfl

theorem isRead_text {depth : ℕ} {t : Text} (h : t.isWhole = true) : IsRead depth (.text t) := by
  intro fuel rest hfuel hrest
  obtain ⟨fuel, rfl⟩ : ∃ f, fuel = f + 1 := ⟨fuel - 1, by have := chars_pos (.text t); omega⟩
  rw [chars_text, stringChars_append]
  simp only [readValue, readString_whole h]
  rfl

/-- a written value is read as that value, from any text that does not go on its last number -/
theorem isRead_chars {k : ℕ} {v : Json} (h : Legible k v) : ∀ depth, k ≤ depth → IsRead depth v := by
  induction h with
  | null => exact fun depth _ => isRead_scalar ⟨_, _, rfl, rfl⟩ fun rest _ => rfl
  | bool b =>
    intro depth _
    cases b with
    | true => exact isRead_scalar ⟨_, _, rfl, rfl⟩ fun rest _ => rfl
    | false => exact isRead_scalar ⟨_, _, rfl, rfl⟩ fun rest _ => rfl
  | @whole k n hn =>
    intro depth _
    refine isRead_number (.whole n) fun m hm => ?_
    rw [← Number.whole.inj hm]
    exact hn
  | real x =>
    intro depth _
    refine isRead_number (.real x) fun m hm => ?_
    cases hm
  | text hwhole => exact fun depth _ => isRead_text hwhole
  | list _ ih =>
    intro depth hk
    -- a container takes one from the depth that is left to its items
    obtain ⟨depth, rfl⟩ : ∃ d, depth = d + 1 := ⟨depth - 1, by omega⟩
    exact isRead_list fun v hv => ih v hv depth (by omega)
  | object hnames hwhole _ ih =>
    intro depth hk
    obtain ⟨depth, rfl⟩ : ∃ d, depth = d + 1 := ⟨depth - 1, by omega⟩
    exact isRead_object hnames fun f hf => ⟨hwhole f hf, ih f hf depth (by omega)⟩

theorem readChars_chars {k : ℕ} {v : Json} (h : Legible k v) (hk : k ≤ depthLimit) : readChars v.chars = .ok v := by
  have hread := isRead_chars h depthLimit hk (2 * v.chars.length + 2) [] (by omega) (stops_nil _)
  have hgap := skipGap_chars v []
  rw [List.append_nil] at hread hgap
  obtain ⟨c, cs, hchars, hc⟩ := chars_start v
  have hmark : c ≠ '\ufeff' := isStart_ne hc rfl
  unfold readChars
  split
  · next heq =>
    rw [hchars] at heq
    exact absurd (List.cons.inj heq).1 hmark
  · rw [hgap, hread]
    rfl

/-- **A text that is one written value is read as that value.** -/
theorem read_chars {k : ℕ} {v : Json} (h : Legible k v) (hk : k ≤ depthLimit) :
    read (String.ofList v.chars) = .ok v := by
  unfold read
  rw [String.toList_ofList, readChars_chars h hk]

/-! ## Forms -/

/-- legible as soon as no integer inside is too long and no text has a lone half -/
def Regular (k : ℕ) (v : Json) : Prop := v.isPrintable = true → Legible k v

namespace Regular

variable {k : ℕ}

theorem int (n : ℤ) : Regular k (.int n) := fun h => .whole (isPrintable_whole h)

theorem float (x : Float) : Regular k (.float x) := fun _ => .real x

theorem text (t : Text) : Regular k (.text t) := fun h => .text ((isPrintable_text t).symm.trans h)

theorem int? (n? : Option ℤ) : Regular k (.int? n?) := by
  cases n? with
  | none => exact fun _ => .null
  | some n => exact int n

theorem text? (t? : Option Text) : Regular k (.text? t?) := by
  cases t? with
  | none => exact fun _ => .null
  | some t => exact text t

theorem list {α : Type} {write : α → Json} (h : ∀ a, Regular k (write a)) (as : List α) :
    Regular (k + 1) (.list (as.map write)) := by
  intro hprint
  refine .list fun v hv => ?_
  obtain ⟨a, -, rfl⟩ := List.mem_map.1 hv
  exact h a (isPrintable_list.1 hprint _ hv)

theorem object {fields : List (Text × Json)} (hnames : (fields.map (·.1)).Nodup) (h : ∀ f ∈ fields, Regular k f.2) :
    Regular (k + 1) (.object fields) :=
  fun hprint => .object hnames (fun f hf => (isPrintable_object.1 hprint f hf).1)
    fun f hf => h f hf (isPrintable_object.1 hprint f hf).2

end Regular

end TileCrew.Json
