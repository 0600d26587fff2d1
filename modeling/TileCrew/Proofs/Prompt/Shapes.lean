/-
The grammar of prompts. `Shape` says what a line looks like that is a command, piece by piece and without a word on how
it is read.
- `cutWord_eq`, `cutWord_split`: cutting off a word undoes writing word and gap, and only that;
- `readPoint_eq`, `readPoint_cases`: two coordinates are read exactly where they are written;
- `spells_unique`: no word stands for two verbs, so at most one shape fits;
- `parse_exact`: **a text is read as a command exactly where its stripped line has the shape of it**, and as none exactly
  where it has no shape.
-/
import Mathlib.Data.List.Forall2
import TileCrew.Prompt.Grammar
import TileCrew.Proofs.Text.Runs

namespace TileCrew.Prompt

open Text

/-! ## Shapes -/

/-- a word: characters that are not blank, at least one -/
def IsWord (cs : List Char) : Prop := cs ≠ [] ∧ ∀ c ∈ cs, isBlank c = false

/-- a gap: blanks, at least one -/
def IsGap (cs : List Char) : Prop := cs ≠ [] ∧ ∀ c ∈ cs, isBlank c = true

/-- a numeral: ASCII digits, at least one -/
def IsNumeral (cs : List Char) : Prop := cs ≠ [] ∧ ∀ c ∈ cs, isAsciiDigit c = true

/-- what stands between coordinates: one comma or blank, with blanks on both sides -/
def IsSeparation (cs : List Char) : Prop :=
  ∃ before c after, cs = before ++ c :: after ∧ (c = ',' ∨ isBlank c = true) ∧ (∀ b ∈ before, isBlank b = true) ∧
    ∀ b ∈ after, isBlank b = true

/-- the rest of a line: it begins with a character that is not blank and holds no line feed -/
def IsRest (cs : List Char) : Prop := cs ≠ [] ∧ Stops isBlank cs ∧ '\n' ∉ cs

/-- a word that stands for a name, each of its characters for the letter in that place -/
def Spelt (name : String) (cs : List Char) : Prop := List.Forall₂ (fun k c => standsFor k c = true) name.toList cs

def numberOf (ds : List Char) : Int := ofDigits (ds.map asciiValue)

/-- a line has the shape of a command -/
inductive Shape (line : List Char) : Command → Prop where
  | move {n v₁ v₂ w₁ w₂ w₃ xs s ys : List Char} :
      line = n ++ w₁ ++ v₁ ++ w₂ ++ v₂ ++ w₃ ++ xs ++ s ++ ys → IsWord n → IsGap w₁ → Spelt "move" v₁ → IsGap w₂ →
      Spelt "to" v₂ → IsGap w₃ → IsNumeral xs → IsSeparation s → IsNumeral ys →
      Shape line ⟨String.ofList n, .move (numberOf xs) (numberOf ys)⟩
  | explore {n w v : List Char} : line = n ++ w ++ v → IsWord n → IsGap w → Spelt "explore" v →
      Shape line ⟨String.ofList n, .explore⟩
  | gather {n w₁ v w₂ r : List Char} : line = n ++ w₁ ++ v ++ w₂ ++ r → IsWord n → IsGap w₁ → Spelt "gather" v →
      IsGap w₂ → IsRest r → Shape line ⟨String.ofList n, .gather (lower (String.ofList r))⟩
  | build {n w₁ v w₂ r : List Char} : line = n ++ w₁ ++ v ++ w₂ ++ r → IsWord n → IsGap w₁ → Spelt "build" v →
      IsGap w₂ → IsRest r → Shape line ⟨String.ofList n, .build (lower (String.ofList r))⟩
  | say {n w₁ v w₂ r : List Char} : line = n ++ w₁ ++ v ++ w₂ ++ r → IsWord n → IsGap w₁ → Spelt "say" v →
      IsGap w₂ → IsRest r → Shape line ⟨String.ofList n, .say (String.ofList r)⟩

/-- a line is written as a move of a target to two numerals, of whatever length -/
def MovesTo (line n xs ys : List Char) : Prop :=
  ∃ w₁ v₁ w₂ v₂ w₃ s, line = n ++ w₁ ++ v₁ ++ w₂ ++ v₂ ++ w₃ ++ xs ++ s ++ ys ∧ IsWord n ∧ IsGap w₁ ∧ Spelt "move" v₁ ∧
    IsGap w₂ ∧ Spelt "to" v₂ ∧ IsGap w₃ ∧ IsNumeral xs ∧ IsSeparation s ∧ IsNumeral ys

theorem MovesTo.shape {line n xs ys : List Char} (h : MovesTo line n xs ys) :
    Shape line ⟨String.ofList n, .move (numberOf xs) (numberOf ys)⟩ := by
  obtain ⟨w₁, v₁, w₂, v₂, w₃, s, hl, hn, hw₁, hv₁, hw₂, hv₂, hw₃, hx, hs, hy⟩ := h
  exact .move hl hn hw₁ hv₁ hw₂ hv₂ hw₃ hx hs hy

/-! ## Words and gaps -/

theorem IsWord.stops {cs : List Char} (h : IsWord cs) (rest : List Char) : Stops isBlank (cs ++ rest) := by
  obtain ⟨hne, hcs⟩ := h
  cases cs with
  | nil => exact absurd rfl hne
  | cons c cs => exact stops_cons.2 (hcs c List.mem_cons_self)

theorem IsGap.stops {cs : List Char} (h : IsGap cs) (rest : List Char) : Stops (!isBlank ·) (cs ++ rest) := by
  obtain ⟨hne, hcs⟩ := h
  cases cs with
  | nil => exact absurd rfl hne
  | cons c cs => exact stops_cons.2 (by rw [hcs c List.mem_cons_self]; rfl)

theorem cutWord_eq {n w rest : List Char} (hn : IsWord n) (hw : IsGap w) (hrest : Stops isBlank rest) :
    cutWord (n ++ (w ++ rest)) = (n, rest) := by
  have hn' : ∀ c ∈ n, (!isBlank c) = true := fun c hc => by rw [hn.2 c hc]; rfl
  rw [cutWord, takeWhile_run hn' (hw.stops rest), dropWhile_run hn' (hw.stops rest), dropWhile_run hw.2 hrest]

theorem cutWord_word {n : List Char} (hn : IsWord n) : cutWord n = (n, []) := by
  have hn' : ∀ c ∈ n, (!isBlank c) = true := fun c hc => by rw [hn.2 c hc]; rfl
  have ht := takeWhile_run hn' (stops_nil _)
  have hd := dropWhile_run hn' (stops_nil _)
  rw [List.append_nil] at ht hd
  rw [cutWord, ht, hd]; rfl

/-- a cut splits the text into characters that are not blank, blanks, and the rest -/
theorem cutWord_split {cs n rest : List Char} (h : cutWord cs = (n, rest)) :
    ∃ w, cs = n ++ (w ++ rest) ∧ (∀ c ∈ n, isBlank c = false) ∧ (∀ c ∈ w, isBlank c = true) ∧
      (w = [] → rest = []) ∧ Stops isBlank rest := by
  simp only [cutWord, Prod.mk.injEq] at h
  obtain ⟨rfl, rfl⟩ := h
  have hs := stops_dropWhile (!isBlank ·) cs
  refine ⟨(cs.dropWhile (!isBlank ·)).takeWhile isBlank, ?_, ?_, all_takeWhile _ _, ?_, stops_dropWhile _ _⟩
  · rw [List.takeWhile_append_dropWhile, List.takeWhile_append_dropWhile]
  · intro c hc
    have := all_takeWhile _ _ c hc
    simpa using this
  · intro hw
    cases hd : cs.dropWhile (!isBlank ·) with
    | nil => rfl
    | cons c cs' =>
      rw [hd, stops_cons] at hs
      rw [hd, List.takeWhile_cons_of_pos (by simpa using hs)] at hw
      cases hw

/-! ## Verbs -/

theorem spells_iff {ks cs : List Char} : spells ks cs = true ↔ List.Forall₂ (fun k c => standsFor k c = true) ks cs := by
  induction ks generalizing cs with
  | nil => cases cs <;> simp [spells]
  | cons k ks ih =>
    cases cs with
    | nil => simp [spells]
    | cons c cs => simp [spells, ih]

/-- an ASCII letter is stood for by itself, its capital, or one of three letters outside ASCII -/
theorem standsFor_cases {k c : Char} (h : standsFor k c = true) :
    lowerAscii c = k ∨ k = 's' ∧ c.toNat = 0x17f ∨ k = 'i' ∧ (c.toNat = 0x130 ∨ c.toNat = 0x131) := by
  simpa [standsFor, or_assoc] using h

theorem lowerAscii_high {c : Char} (h : 128 ≤ c.toNat) : lowerAscii c = c := by
  have hn : ¬('A' ≤ c ∧ c ≤ 'Z') := fun hc => by
    have h2 : c.toNat ≤ 90 := hc.2
    omega
  exact if_neg hn

theorem standsFor_unique {k k' c : Char} (hk : k.toNat < 128) (hk' : k'.toNat < 128) (h : standsFor k c = true)
    (h' : standsFor k' c = true) : k = k' := by
  have low {k : Char} (hk : k.toNat < 128) (h : lowerAscii c = k) : c.toNat < 128 := by
    by_contra hc
    rw [lowerAscii_high (by omega)] at h
    subst h
    omega
  rcases standsFor_cases h with h | ⟨rfl, h⟩ | ⟨rfl, h⟩
  · have hc := low hk h
    rcases standsFor_cases h' with h' | ⟨-, h'⟩ | ⟨-, h'⟩
    · exact h.symm.trans h'
    · omega
    · omega
  · rcases standsFor_cases h' with h' | ⟨rfl, -⟩ | ⟨-, h'⟩
    · have hc := low hk' h'
      omega
    · rfl
    · omega
  · rcases standsFor_cases h' with h' | ⟨-, h'⟩ | ⟨rfl, -⟩
    · have hc := low hk' h'
      omega
    · omega
    · rfl

def isAscii (cs : List Char) : Bool := cs.all fun c => c.toNat < 128

theorem spells_unique {ks ks' cs : List Char} (hk : isAscii ks = true) (hk' : isAscii ks' = true) (h : spells ks cs = true)
    (h' : spells ks' cs = true) : ks = ks' := by
  rw [spells_iff] at h h'
  induction h generalizing ks' with
  | nil => cases h'; rfl
  | cons hkc h ih =>
    cases h' with
    | cons hkc' h' =>
      simp only [isAscii, List.all_cons, Bool.and_eq_true, decide_eq_true_eq] at hk hk'
      rw [standsFor_unique hk.1 hk'.1 hkc hkc', ih hk.2 hk'.2 h']

/-- what stands for a character that is not blank is not blank -/
theorem isBlank_standsFor {k c : Char} (hk : isBlank k = false) (h : standsFor k c = true) : isBlank c = false := by
  rcases standsFor_cases h with h | ⟨-, h⟩ | ⟨-, h | h⟩
  · rw [← h] at hk
    unfold lowerAscii at hk
    split at hk
    · rename_i hc
      have h1 : 65 ≤ c.toNat := hc.1
      have h2 : c.toNat ≤ 90 := hc.2
      simp [isBlank]; omega
    · exact hk
  all_goals simp [isBlank, h]

theorem Spelt.isWord {name : String} {cs : List Char} (h : Spelt name cs) (hne : name.toList ≠ [])
    (hname : name.toList.all (fun k => !isBlank k) = true) : IsWord cs := by
  unfold Spelt at h
  generalize name.toList = ks at *
  refine ⟨fun hcs => by rw [hcs] at h; cases h; exact hne rfl, ?_⟩
  clear hne
  induction h with
  | nil => simp
  | cons hkc h ih =>
    rw [List.all_cons, Bool.and_eq_true, Bool.not_eq_true'] at hname
    rw [List.forall_mem_cons]
    exact ⟨isBlank_standsFor hname.1 hkc, ih hname.2⟩

/-! ## Coordinates -/

theorem isBlank_digit {c : Char} (h : isAsciiDigit c = true) : isBlank c = false := by
  simp only [isAsciiDigit, Bool.and_eq_true, decide_eq_true_eq] at h
  have h1 : 48 ≤ c.toNat := h.1
  have h2 : c.toNat ≤ 57 := h.2
  simp [isBlank]; omega

theorem isSeparator_iff {cs : List Char} : isSeparator cs = true ↔ IsSeparation cs := by
  simp only [isSeparator, Bool.and_eq_true, Bool.not_eq_true', List.isEmpty_eq_false_iff, List.all_eq_true,
    Bool.or_eq_true, beq_iff_eq, decide_eq_true_eq]
  constructor
  · rintro ⟨⟨hne, hall⟩, hcount⟩
    by_cases hmem : ',' ∈ cs
    · obtain ⟨before, after, rfl⟩ := List.append_of_mem hmem
      rw [List.count_append, List.count_cons_self] at hcount
      have blank {ds : List Char} (hds : ds ⊆ before ++ ',' :: after) (h0 : ds.count ',' = 0) :
          ∀ b ∈ ds, isBlank b = true := fun b hb =>
        (hall b (hds hb)).resolve_right fun h => List.count_eq_zero.1 h0 (h ▸ hb)
      exact ⟨before, ',', after, rfl, .inl rfl, blank (by simp) (by omega), blank (by simp) (by omega)⟩
    · have hblank : ∀ b ∈ cs, isBlank b = true := fun b hb => (hall b hb).resolve_right fun h => hmem (h ▸ hb)
      cases cs with
      | nil => exact absurd rfl hne
      | cons c cs =>
        rw [List.forall_mem_cons] at hblank
        exact ⟨[], c, cs, rfl, .inr hblank.1, by simp, hblank.2⟩
  · rintro ⟨before, c, after, rfl, hc, hb, ha⟩
    have none {ds : List Char} (hds : ∀ b ∈ ds, isBlank b = true) : ds.count ',' = 0 :=
      List.count_eq_zero.2 fun h => absurd (hds _ h) (by decide)
    refine ⟨⟨by simp, fun b hm => ?_⟩, ?_⟩
    · rcases List.mem_append.1 hm with hm | hm
      · exact .inl (hb b hm)
      · rcases List.mem_cons.1 hm with rfl | hm
        · exact hc.symm
        · exact .inl (ha b hm)
    · rw [List.count_append, none hb, List.count_cons, none ha]
      split <;> omega

theorem IsSeparation.not_digit {cs : List Char} (h : IsSeparation cs) : ∀ c ∈ cs, isAsciiDigit c = false := by
  intro c hc
  obtain ⟨before, d, after, rfl, hd, hb, ha⟩ := h
  have no {c : Char} (h : isBlank c = true) : isAsciiDigit c = false := by
    by_contra hn
    rw [isBlank_digit (by simpa using hn)] at h
    cases h
  rcases List.mem_append.1 hc with hc | hc
  · exact no (hb c hc)
  · rcases List.mem_cons.1 hc with rfl | hc
    · rcases hd with rfl | hd
      · decide
      · exact no hd
    · exact no (ha c hc)

theorem IsSeparation.ne_nil {cs : List Char} (h : IsSeparation cs) : cs ≠ [] := by
  obtain ⟨before, d, after, rfl, -⟩ := h
  simp

theorem IsNumeral.isWord {cs : List Char} (h : IsNumeral cs) : IsWord cs := ⟨h.1, fun c hc => isBlank_digit (h.2 c hc)⟩

theorem readCoordinate_eq {ds : List Char} (h : ds.length ≤ digitLimit) : readCoordinate ds = .ok (numberOf ds) :=
  if_neg (by omega)

/-- the pieces in which coordinates are written are those in which they are read -/
theorem readPoint_pieces {xs s ys : List Char} (hx : IsNumeral xs) (hs : IsSeparation s) (hy : IsNumeral ys) :
    readPoint (xs ++ (s ++ ys)) =
      (readCoordinate xs).bind fun x => (readCoordinate ys).bind fun y => .ok (some (.move x y)) := by
  have hs' : ∀ c ∈ s, (!isAsciiDigit c) = true := fun c hc => by rw [hs.not_digit c hc]; rfl
  have hstop : Stops isAsciiDigit (s ++ ys) := by
    obtain ⟨c, cs, rfl⟩ := List.exists_cons_of_ne_nil hs.ne_nil
    exact stops_cons.2 (hs.not_digit c List.mem_cons_self)
  have hystop : Stops (!isAsciiDigit ·) ys := by
    obtain ⟨c, cs, rfl⟩ := List.exists_cons_of_ne_nil hy.1
    exact stops_cons.2 (by rw [hy.2 c List.mem_cons_self]; rfl)
  have hcond : (!xs.isEmpty && isSeparator s && !ys.isEmpty && ys.all isAsciiDigit) = true := by
    simp [hx.1, hy.1, isSeparator_iff.2 hs, List.all_eq_true.2 hy.2]
  simp only [readPoint, takeWhile_run hx.2 hstop, dropWhile_run hx.2 hstop, takeWhile_run hs' hystop,
    dropWhile_run hs' hystop]
  rw [if_pos hcond]
  rfl

theorem readPoint_eq {xs s ys : List Char} (hx : IsNumeral xs) (hs : IsSeparation s) (hy : IsNumeral ys)
    (hxl : xs.length ≤ digitLimit) (hyl : ys.length ≤ digitLimit) :
    readPoint (xs ++ (s ++ ys)) = .ok (some (.move (numberOf xs) (numberOf ys))) := by
  rw [readPoint_pieces hx hs hy, readCoordinate_eq hxl, readCoordinate_eq hyl]
  rfl

/-- a text is no point, or it is two numerals and what separates them -/
theorem readPoint_split (cs : List Char) :
    readPoint cs = .ok none ∨ ∃ xs s ys, cs = xs ++ (s ++ ys) ∧ IsNumeral xs ∧ IsSeparation s ∧ IsNumeral ys := by
  by_cases hcond : (!(cs.takeWhile isAsciiDigit).isEmpty &&
      isSeparator ((cs.dropWhile isAsciiDigit).takeWhile (!isAsciiDigit ·)) &&
      !((cs.dropWhile isAsciiDigit).dropWhile (!isAsciiDigit ·)).isEmpty &&
      ((cs.dropWhile isAsciiDigit).dropWhile (!isAsciiDigit ·)).all isAsciiDigit) = true
  · right
    have hsplit : cs = cs.takeWhile isAsciiDigit ++ ((cs.dropWhile isAsciiDigit).takeWhile (!isAsciiDigit ·) ++
        (cs.dropWhile isAsciiDigit).dropWhile (!isAsciiDigit ·)) := by
      rw [List.takeWhile_append_dropWhile, List.takeWhile_append_dropWhile]
    have hxs := all_takeWhile isAsciiDigit cs
    generalize cs.takeWhile isAsciiDigit = xs at hcond hsplit hxs
    generalize (cs.dropWhile isAsciiDigit).takeWhile (!isAsciiDigit ·) = s at hcond hsplit
    generalize (cs.dropWhile isAsciiDigit).dropWhile (!isAsciiDigit ·) = ys at hcond hsplit
    simp only [Bool.and_eq_true, Bool.not_eq_true', List.isEmpty_eq_false_iff, List.all_eq_true] at hcond
    obtain ⟨⟨⟨hx, hs⟩, hy⟩, hys⟩ := hcond
    exact ⟨xs, s, ys, hsplit, ⟨hx, hxs⟩, isSeparator_iff.1 hs, ⟨hy, hys⟩⟩
  · left
    simp only [readPoint]
    rw [if_neg hcond]

/-- no run of ASCII digits in the text has more digits than an integer is read from -/
def Readable (cs : List Char) : Prop :=
  ∀ ds, ds <:+: cs → (∀ c ∈ ds, isAsciiDigit c = true) → ds.length ≤ digitLimit

theorem Readable.part {cs ds : List Char} (h : Readable cs) (hi : ds <:+: cs) : Readable ds :=
  fun es he => h es (he.trans hi)

/-- a readable text is two coordinates, or it is none -/
theorem readPoint_cases {cs : List Char} (hd : Readable cs) :
    readPoint cs = .ok none ∨ ∃ xs s ys, cs = xs ++ (s ++ ys) ∧ IsNumeral xs ∧ IsSeparation s ∧ IsNumeral ys ∧
      readPoint cs = .ok (some (.move (numberOf xs) (numberOf ys))) := by
  rcases readPoint_split cs with h | ⟨xs, s, ys, hsplit, hx, hs, hy⟩
  · exact .inl h
  · have hxi : xs <:+: cs := ⟨[], s ++ ys, by rw [hsplit]; rfl⟩
    have hyi : ys <:+: cs := ⟨xs ++ s, [], by rw [hsplit]; simp⟩
    refine .inr ⟨xs, s, ys, hsplit, hx, hs, hy, ?_⟩
    rw [hsplit]
    exact readPoint_eq hx hs hy (hd xs hxi hx.2) (hd ys hyi hy.2)

/-! ## Orders -/

theorem readRest_eq {r : List Char} (h : IsRest r) : readRest r = some (String.ofList r) := by
  have hc : (r.isEmpty || r.contains '\n') = false := by simp [h.1, h.2.2]
  rw [readRest, hc]; rfl

theorem readRest_cases {r : List Char} (hs : Stops isBlank r) :
    readRest r = none ∨ IsRest r ∧ readRest r = some (String.ofList r) := by
  by_cases hc : (r.isEmpty || r.contains '\n') = true
  · left; rw [readRest, if_pos hc]
  · right
    have hr : IsRest r := by simpa [IsRest, hs] using hc
    exact ⟨hr, readRest_eq hr⟩

theorem spells_of_spelt {name : String} {v : List Char} (h : Spelt name v) : spells name.toList v = true :=
  spells_iff.2 h

/-- a word that stands for one verb stands for no other -/
theorem spells_other {name : String} (other : String) {v : List Char} (h : Spelt name v) (hne : name.toList ≠ other.toList)
    (hname : isAscii name.toList = true) (hother : isAscii other.toList = true) : spells other.toList v = false := by
  by_contra hn
  exact hne (spells_unique hname hother (spells_of_spelt h) (by simpa using hn))

theorem readOrder_move {v rest link rest' : List Char} (hv : Spelt "move" v) (hc : cutWord rest = (link, rest')) :
    readOrder v rest = if spells "to".toList link then readPoint rest' else .ok none := by
  simp only [readOrder, spells_of_spelt hv, hc, if_true]

theorem readOrder_explore {v : List Char} (hv : Spelt "explore" v) (rest : List Char) :
    readOrder v rest = .ok (if rest.isEmpty then some .explore else none) := by
  have h1 := spells_other "move" hv (by decide) (by decide) (by decide)
  simp only [readOrder, spells_of_spelt hv, h1, if_true, Bool.false_eq_true, if_false]

theorem readOrder_gather {v rest : List Char} (hv : Spelt "gather" v) :
    readOrder v rest = .ok ((readRest rest).map fun r => .gather (lower r)) := by
  have h1 := spells_other "move" hv (by decide) (by decide) (by decide)
  have h2 := spells_other "explore" hv (by decide) (by decide) (by decide)
  simp only [readOrder, spells_of_spelt hv, h1, h2, if_true, Bool.false_eq_true, if_false]

theorem readOrder_build {v rest : List Char} (hv : Spelt "build" v) :
    readOrder v rest = .ok ((readRest rest).map fun r => .build (lower r)) := by
  have h1 := spells_other "move" hv (by decide) (by decide) (by decide)
  have h2 := spells_other "explore" hv (by decide) (by decide) (by decide)
  have h3 := spells_other "gather" hv (by decide) (by decide) (by decide)
  simp only [readOrder, spells_of_spelt hv, h1, h2, h3, if_true, Bool.false_eq_true, if_false]

theorem readOrder_say {v rest : List Char} (hv : Spelt "say" v) :
    readOrder v rest = .ok ((readRest rest).map fun (r : String) => .say r) := by
  have h1 := spells_other "move" hv (by decide) (by decide) (by decide)
  have h2 := spells_other "explore" hv (by decide) (by decide) (by decide)
  have h3 := spells_other "gather" hv (by decide) (by decide) (by decide)
  have h4 := spells_other "build" hv (by decide) (by decide) (by decide)
  simp only [readOrder, spells_of_spelt hv, h1, h2, h3, h4, if_true, Bool.false_eq_true, if_false]

/-! ## Lines -/

theorem readLine_rest {n w₁ v w₂ r : List Char} {f : String → Order} (hn : IsWord n) (hw₁ : IsGap w₁) (hv : IsWord v)
    (hw₂ : IsGap w₂) (hr : IsRest r) (hread : ∀ rest, readOrder v rest = .ok ((readRest rest).map f)) :
    readLine (n ++ w₁ ++ v ++ w₂ ++ r) = .ok (some ⟨String.ofList n, f (String.ofList r)⟩) := by
  have h1 := cutWord_eq hn hw₁ (hv.stops (w₂ ++ r))
  simp only [List.append_assoc, readLine, h1, cutWord_eq hv hw₂ hr.2.1, hread, readRest_eq hr]
  rfl

/-- a line that is written as a move is read as one if its numerals are -/
theorem readLine_moves {line n xs ys : List Char} (h : MovesTo line n xs ys) :
    readLine line = (readCoordinate xs).bind fun x => (readCoordinate ys).bind fun y =>
      .ok (some ⟨String.ofList n, .move x y⟩) := by
  obtain ⟨w₁, v₁, w₂, v₂, w₃, s, hl, hn, hw₁, hv₁, hw₂, hv₂, hw₃, hx, hs, hy⟩ := h
  have hword₁ : IsWord v₁ := hv₁.isWord (by decide) (by decide)
  have hword₂ : IsWord v₂ := hv₂.isWord (by decide) (by decide)
  have h1 := cutWord_eq hn hw₁ (hword₁.stops (w₂ ++ (v₂ ++ (w₃ ++ (xs ++ (s ++ ys))))))
  have h2 := cutWord_eq hword₁ hw₂ (hword₂.stops (w₃ ++ (xs ++ (s ++ ys))))
  have h3 := cutWord_eq hword₂ hw₃ (hx.isWord.stops (s ++ ys))
  simp only [hl, List.append_assoc, readLine, h1, h2, readOrder_move hv₁ h3, spells_of_spelt hv₂, if_true,
    readPoint_pieces hx hs hy]
  cases readCoordinate xs with
  | error e => rfl
  | ok x =>
    cases readCoordinate ys with
    | error e => rfl
    | ok y => rfl

/-- a line that has the shape of a command is read as that command -/
theorem readLine_shape {line : List Char} {c : Command} (hd : Readable line) (h : Shape line c) :
    readLine line = .ok (some c) := by
  cases h with
  | @move n v₁ v₂ w₁ w₂ w₃ xs s ys hl hn hw₁ hv₁ hw₂ hv₂ hw₃ hx hs hy =>
    have hxl : xs.length ≤ digitLimit :=
      hd xs ⟨n ++ w₁ ++ v₁ ++ w₂ ++ v₂ ++ w₃, s ++ ys, by rw [hl]; simp⟩ hx.2
    have hyl : ys.length ≤ digitLimit :=
      hd ys ⟨n ++ w₁ ++ v₁ ++ w₂ ++ v₂ ++ w₃ ++ xs ++ s, [], by rw [hl]; simp⟩ hy.2
    rw [readLine_moves ⟨w₁, v₁, w₂, v₂, w₃, s, hl, hn, hw₁, hv₁, hw₂, hv₂, hw₃, hx, hs, hy⟩, readCoordinate_eq hxl,
      readCoordinate_eq hyl]
    rfl
  | @explore n w v hl hn hw hv =>
    have hword : IsWord v := hv.isWord (by decide) (by decide)
    have h1 := cutWord_eq hn hw (hword.stops ([]))
    rw [List.append_nil] at h1
    simp only [hl, List.append_assoc, readLine, h1, cutWord_word hword, readOrder_explore hv []]
    rfl
  | gather hl hn hw₁ hv hw₂ hr =>
    rw [hl]; exact readLine_rest hn hw₁ (hv.isWord (by decide) (by decide)) hw₂ hr fun _ => readOrder_gather hv
  | build hl hn hw₁ hv hw₂ hr =>
    rw [hl]; exact readLine_rest hn hw₁ (hv.isWord (by decide) (by decide)) hw₂ hr fun _ => readOrder_build hv
  | say hl hn hw₁ hv hw₂ hr =>
    rw [hl]; exact readLine_rest hn hw₁ (hv.isWord (by decide) (by decide)) hw₂ hr fun _ => readOrder_say hv

theorem ends_nil {cs w : List Char} (he : Stops isBlank (cs ++ w).reverse) (hw : ∀ c ∈ w, isBlank c = true) : w = [] := by
  by_contra hne
  obtain ⟨c, cs', hc⟩ := List.exists_cons_of_ne_nil (List.reverse_ne_nil_iff.2 hne)
  rw [List.reverse_append, hc] at he
  have hb := hw c (List.mem_reverse.1 (by rw [hc]; exact List.mem_cons_self))
  rw [stops_cons.1 he] at hb
  cases hb

/-- the line is no command, or it is one and has the shape of it -/
def Judged (line : List Char) : Prop := readLine line = .ok none ∨ ∃ c, Shape line c ∧ readLine line = .ok (some c)

section

variable {line n v rest rest' : List Char}

theorem readLine_cut (h1 : cutWord line = (n, rest')) (h2 : cutWord rest' = (v, rest)) {o : Option Order}
    (ho : readOrder v rest = .ok o) : readLine line = .ok (o.map (Command.mk (String.ofList n) ·)) := by
  simp only [readLine, h1, h2, ho]; rfl

/-- a line whose second piece is a word has a first word and a gap before it, and behind it a gap and the rest -/
theorem line_split (hs : Stops isBlank line) (h1 : cutWord line = (n, rest'))
    (h2 : cutWord rest' = (v, rest)) (hv : IsWord v) :
    ∃ w₁ w₂, line = n ++ w₁ ++ v ++ w₂ ++ rest ∧ IsWord n ∧ IsGap w₁ ∧ (∀ c ∈ w₂, isBlank c = true) ∧
      (w₂ = [] → rest = []) ∧ Stops isBlank rest := by
  obtain ⟨w₁, hl, hn, hw₁, hw₁n, -⟩ := cutWord_split h1
  obtain ⟨w₂, hr, -, hw₂, hw₂n, hstop⟩ := cutWord_split h2
  have hrest' : rest' ≠ [] := fun h => hv.1 (by rw [h] at hr; exact (List.append_eq_nil_iff.1 hr.symm).1)
  have hgap : IsGap w₁ := ⟨fun h => hrest' (hw₁n h), hw₁⟩
  have hword : IsWord n := by
    refine ⟨fun h => ?_, hn⟩
    obtain ⟨c, cs, hc⟩ := List.exists_cons_of_ne_nil hgap.1
    rw [hl, h, hc] at hs
    have hb := hw₁ c (by rw [hc]; exact List.mem_cons_self)
    rw [stops_cons.1 hs] at hb
    cases hb
  exact ⟨w₁, w₂, by rw [hl, hr]; simp, hword, hgap, hw₂, hw₂n, hstop⟩

theorem judged_rest {name : String} {f : String → Order} (hs : Stops isBlank line) (h1 : cutWord line = (n, rest'))
    (h2 : cutWord rest' = (v, rest)) (hv : Spelt name v) (hword : IsWord v)
    (ho : readOrder v rest = .ok ((readRest rest).map f))
    (shape : ∀ {w₁ w₂ r : List Char}, line = n ++ w₁ ++ v ++ w₂ ++ r → IsWord n → IsGap w₁ → Spelt name v →
      IsGap w₂ → IsRest r → Shape line ⟨String.ofList n, f (String.ofList r)⟩) : Judged line := by
  obtain ⟨w₁, w₂, hl, hn, hw₁, hw₂, hw₂n, hstop⟩ := line_split hs h1 h2 hword
  rcases readRest_cases hstop with hr | ⟨hrest, hr⟩
  · rw [hr] at ho; exact .inl (readLine_cut h1 h2 ho)
  · rw [hr] at ho
    have hw₂' : IsGap w₂ := ⟨fun h => hrest.1 (hw₂n h), hw₂⟩
    exact .inr ⟨_, shape hl hn hw₁ hv hw₂' hrest, readLine_cut h1 h2 ho⟩

theorem judged_explore (hs : Stops isBlank line) (he : Stops isBlank line.reverse) (h1 : cutWord line = (n, rest'))
    (h2 : cutWord rest' = (v, rest)) (hv : Spelt "explore" v) : Judged line := by
  have ho := readOrder_explore hv rest
  by_cases hr : rest.isEmpty
  · rw [if_pos hr] at ho
    obtain ⟨w₁, w₂, hl, hn, hw₁, hw₂, -⟩ := line_split hs h1 h2 (hv.isWord (by decide) (by decide))
    rw [List.isEmpty_iff.1 hr, List.append_nil] at hl
    rw [hl] at he
    rw [ends_nil he hw₂, List.append_nil] at hl
    exact .inr ⟨_, .explore hl hn hw₁ hv, readLine_cut h1 h2 ho⟩
  · rw [if_neg hr] at ho; exact .inl (readLine_cut h1 h2 ho)

theorem movesTo_cut {link point xs s ys : List Char} (hs : Stops isBlank line) (h1 : cutWord line = (n, rest'))
    (h2 : cutWord rest' = (v, rest)) (h3 : cutWord rest = (link, point)) (hv : Spelt "move" v) (hlink : Spelt "to" link)
    (hp : point = xs ++ (s ++ ys)) (hx : IsNumeral xs) (hsep : IsSeparation s) (hy : IsNumeral ys) :
    MovesTo line n xs ys := by
  have hword : IsWord link := hlink.isWord (by decide) (by decide)
  obtain ⟨w₁, w₂, hl, hn, hw₁, hw₂, hw₂n, -⟩ := line_split hs h1 h2 (hv.isWord (by decide) (by decide))
  obtain ⟨w₃, hr, -, hw₃, hw₃n, -⟩ := cutWord_split h3
  have hrest : rest ≠ [] := fun h => hword.1 (by rw [h] at hr; exact (List.append_eq_nil_iff.1 hr.symm).1)
  have hpne : point ≠ [] := fun h => hx.1 (by rw [h] at hp; exact (List.append_eq_nil_iff.1 hp.symm).1)
  have hline : line = n ++ w₁ ++ v ++ w₂ ++ link ++ w₃ ++ xs ++ s ++ ys := by rw [hl, hr, hp]; simp
  exact ⟨w₁, v, w₂, link, w₃, s, hline, hn, hw₁, hv, ⟨fun h => hrest (hw₂n h), hw₂⟩, hlink,
    ⟨fun h => hpne (hw₃n h), hw₃⟩, hx, hsep, hy⟩

theorem judged_move (hs : Stops isBlank line) (hd : Readable line) (h1 : cutWord line = (n, rest'))
    (h2 : cutWord rest' = (v, rest)) (hv : Spelt "move" v) : Judged line := by
  obtain ⟨⟨link, point⟩, h3⟩ : ∃ r, cutWord rest = r := ⟨_, rfl⟩
  have ho := readOrder_move hv h3
  by_cases ht : spells "to".toList link = true
  · rw [if_pos ht] at ho
    obtain ⟨w₁, w₂, hl, -⟩ := line_split hs h1 h2 (hv.isWord (by decide) (by decide))
    obtain ⟨w₃, hr, -⟩ := cutWord_split h3
    have hpoint : point <:+: line := ⟨n ++ w₁ ++ v ++ w₂ ++ link ++ w₃, [], by rw [hl, hr]; simp⟩
    rcases readPoint_cases (hd.part hpoint) with hp | ⟨xs, s, ys, hp, hx, hsep, hy, hread⟩
    · rw [hp] at ho; exact .inl (readLine_cut h1 h2 ho)
    · rw [hread] at ho
      exact .inr ⟨_, (movesTo_cut hs h1 h2 h3 hv (spells_iff.1 ht) hp hx hsep hy).shape, readLine_cut h1 h2 ho⟩
  · rw [if_neg ht] at ho; exact .inl (readLine_cut h1 h2 ho)

end

/-- a stripped readable line is no command, or it is one and has the shape of it -/
theorem readLine_cases {line : List Char} (hs : Stops isBlank line) (he : Stops isBlank line.reverse)
    (hd : Readable line) : Judged line := by
  obtain ⟨⟨n, rest'⟩, h1⟩ : ∃ r, cutWord line = r := ⟨_, rfl⟩
  obtain ⟨⟨v, rest⟩, h2⟩ : ∃ r, cutWord rest' = r := ⟨_, rfl⟩
  by_cases hm : spells "move".toList v = true
  · exact judged_move hs hd h1 h2 (spells_iff.1 hm)
  by_cases hx : spells "explore".toList v = true
  · exact judged_explore hs he h1 h2 (spells_iff.1 hx)
  by_cases hg : spells "gather".toList v = true
  · have hv : Spelt "gather" v := spells_iff.1 hg
    exact judged_rest hs h1 h2 hv (hv.isWord (by decide) (by decide)) (readOrder_gather hv) .gather
  by_cases hb : spells "build".toList v = true
  · have hv : Spelt "build" v := spells_iff.1 hb
    exact judged_rest hs h1 h2 hv (hv.isWord (by decide) (by decide)) (readOrder_build hv) .build
  by_cases hy : spells "say".toList v = true
  · have hv : Spelt "say" v := spells_iff.1 hy
    exact judged_rest hs h1 h2 hv (hv.isWord (by decide) (by decide)) (readOrder_say hv) .say
  refine .inl (readLine_cut h1 h2 (o := none) ?_)
  simp only [readOrder, hm, hx, hg, hb, hy, Bool.false_eq_true, if_false]

theorem parse_strip (text : String) : parse (strip text) = parse text := by
  rw [parse, parse, strip, String.toList_ofList, stripBy_stripBy]

/-- **A text is a command exactly where its stripped line has the shape of one, and then of one only.** -/
theorem parse_exact (text : Option String) (hd : Readable (text.getD "").toList) :
    let line := stripBy isBlank (text.getD "").toList
    (∀ c, parse? text = .ok (some c) ↔ Shape line c) ∧ (parse? text = .ok none ↔ ∀ c, ¬Shape line c) ∧
      ∀ c c', Shape line c → Shape line c' → c = c' := by
  intro line
  have hline : Readable line := hd.part (stripBy_part _ _)
  have shaped {c : Command} (h : Shape line c) : parse? text = .ok (some c) := readLine_shape hline h
  rcases readLine_cases (stripBy_stops _ _) (stripBy_ends _ _) hline with hnone | ⟨c₀, hc₀, hsome⟩
  · have hp : parse? text = .ok none := hnone
    have no (c : Command) : ¬Shape line c := fun h => by
      have := shaped h
      rw [hp] at this; cases this
    exact ⟨fun c => ⟨fun h => (by rw [hp] at h; cases h), shaped⟩, ⟨fun _ => no, fun _ => hp⟩,
      fun c _ h _ => absurd h (no c)⟩
  · have hp : parse? text = .ok (some c₀) := hsome
    have one {c : Command} (h : Shape line c) : c = c₀ := by
      have := shaped h
      rw [hp] at this; cases this; rfl
    refine ⟨fun c => ⟨fun h => ?_, shaped⟩, ⟨fun h => (by rw [hp] at h; cases h), fun h => absurd hc₀ (h c₀)⟩,
      fun c c' h h' => (one h).trans (one h').symm⟩
    rw [hp] at h; cases h; exact hc₀

/-- a prompt in capitals, with a tab, leading zeros and blanks around the comma -/
theorem parse_exact_spaced :
    let text := "\tBot MOVE  to 007 , 12\n"
    Readable text.toList ∧ Shape (stripBy isBlank text.toList) ⟨"Bot", .move 7 12⟩ ∧
      ∀ c, Shape (stripBy isBlank text.toList) c → c = ⟨"Bot", .move 7 12⟩ := by
  intro text
  have hd : Readable text.toList := fun ds h _ => Nat.le_trans h.length_le (by decide)
  obtain ⟨hsome, -, hone⟩ := parse_exact (some text) hd
  have hp : (parse? (some text)).toOption = some (some ⟨"Bot", .move 7 12⟩) := by decide +kernel
  have hshape : Shape (stripBy isBlank text.toList) ⟨"Bot", .move 7 12⟩ := (hsome _).1 (by
    cases h : parse? (some text) with
    | error e => rw [h] at hp; cases hp
    | ok r => rw [h] at hp; exact congrArg Except.ok (Option.some.inj hp))
  exact ⟨hd, hshape, fun c h => hone _ _ h hshape⟩

end TileCrew.Prompt
