/-
Styles in words. A definition is `none` alone, or a row of phrases (`Phrases`): attributes, `not` and an attribute, `on` and
a colour, `link` and an address, colours. The words are judged one after the other:
- `areUsable_iff`, `areUsable_error`: they are of use just if they are a row of phrases; there is a fault just if such a row
  is followed by a colour of three components one of which is no numeral (`Miscolored`);
- `agentStyle_usable`: **the style of an agent is a definition, of its own colour if that is one and else of the fallback,
  for all colours but `none` and those at fault**;
- `none_unusable`: a colour that is a definition, and the style made of it, which is none.
-/
import Mathlib.Data.List.Induction
import TileCrew.Proofs.Outcomes
import TileCrew.Proofs.Text.Runs
import TileCrew.View.Style

namespace TileCrew.Style

open Text

/-! ## Colours at fault -/

/-- three components in brackets, of digits and blanks, that are read to a fault -/
def Miscolored (e : Fault) (cs : List Char) : Prop :=
  ∃ r g b : List Char, cs = "rgb(".toList ++ (r ++ ',' :: (g ++ ',' :: b)) ++ [')'] ∧
    (∀ c ∈ r ++ (g ++ b), (digitValue? c).isSome = true ∨ isBlank c = true) ∧ [r, g, b].mapM component = .error e

theorem bracketed?_iff {opening : String} {cs inner : List Char} (h : opening.toList.getLast? ≠ some ')') :
    bracketed? opening cs = some inner ↔ cs = opening.toList ++ inner ++ [')'] := by
  unfold bracketed?
  constructor
  · intro hb
    split at hb
    · next hcond =>
      simp only [Bool.and_eq_true, List.isPrefixOf_iff_prefix, beq_iff_eq] at hcond
      obtain ⟨⟨rest, rfl⟩, hlast⟩ := hcond
      rw [← String.length_toList, List.drop_left, Option.some.injEq] at hb
      rcases List.eq_nil_or_concat rest with rfl | ⟨init, c, rfl⟩
      · rw [List.append_nil] at hlast
        exact absurd hlast h
      · rw [List.concat_eq_append, List.getLast?_append] at hlast
        simp at hlast hb
        rw [← hb, hlast, List.append_assoc]
        simp
    · cases hb
  · rintro rfl
    have hcond : (opening.toList.isPrefixOf (opening.toList ++ inner ++ [')']) &&
        (opening.toList ++ inner ++ [')']).getLast? == some ')') = true := by simp
    rw [if_pos hcond, List.append_assoc, ← String.length_toList, List.drop_left, List.dropLast_concat]

theorem cutCommas_piece {p : List Char} (h : ',' ∉ p) (acc : List Char) : cutCommas acc p = [acc.reverse ++ p] := by
  induction p generalizing acc with
  | nil => simp [cutCommas]
  | cons c p ih =>
    simp only [List.mem_cons, not_or] at h
    rw [cutCommas, if_neg (Ne.symm h.1), ih h.2]
    simp

theorem cutCommas_comma {p : List Char} (h : ',' ∉ p) (acc rest : List Char) :
    cutCommas acc (p ++ ',' :: rest) = (acc.reverse ++ p) :: cutCommas [] rest := by
  induction p generalizing acc with
  | nil => simp [cutCommas]
  | cons c p ih =>
    simp only [List.mem_cons, not_or] at h
    rw [List.cons_append, cutCommas, if_neg (Ne.symm h.1), ih h.2]
    simp

theorem cutCommas_ne_nil (acc cs : List Char) : cutCommas acc cs ≠ [] := by
  induction cs generalizing acc with
  | nil => simp [cutCommas]
  | cons c cs ih =>
    rw [cutCommas]
    split
    · simp
    · exact ih _

/-- three pieces are what stands before, between and behind two commas -/
theorem cutCommas_three {cs r g b : List Char} : cutCommas [] cs = [r, g, b] ↔
    cs = r ++ ',' :: (g ++ ',' :: b) ∧ ',' ∉ r ++ (g ++ b) := by
  have hcut {cs p : List Char} {ps : List (List Char)} (h : cutCommas [] cs = p :: ps) (hps : ps ≠ []) :
      ∃ rest, cs = p ++ ',' :: rest ∧ ',' ∉ p ∧ cutCommas [] rest = ps := by
    by_cases hmem : ',' ∈ cs
    · obtain ⟨q, rest, rfl, hq⟩ := List.eq_append_cons_of_mem hmem
      rw [cutCommas_comma hq] at h
      cases h
      exact ⟨rest, rfl, hq, rfl⟩
    · rw [cutCommas_piece hmem] at h
      cases h
      exact absurd rfl hps
  constructor
  · intro h
    obtain ⟨rest, rfl, hr, hrest⟩ := hcut h (by simp)
    obtain ⟨rest, rfl, hg, hrest⟩ := hcut hrest (by simp)
    have hb : ',' ∉ rest := by
      intro hmem
      obtain ⟨q, more, rfl, hq⟩ := List.eq_append_cons_of_mem hmem
      rw [cutCommas_comma hq] at hrest
      exact cutCommas_ne_nil [] more (List.cons.inj hrest).2
    rw [cutCommas_piece hb] at hrest
    cases hrest
    refine ⟨rfl, ?_⟩
    simp [hr, hg, hb]
  · rintro ⟨rfl, h⟩
    simp only [List.mem_append, not_or] at h
    rw [cutCommas_comma h.1, cutCommas_comma h.2.1, cutCommas_piece h.2.2]
    rfl

theorem components_chars {r g b : List Char} :
    ((r ++ ',' :: (g ++ ',' :: b)).all (fun c => (digitValue? c).isSome || isBlank c || c == ',') = true ∧
      ',' ∉ r ++ (g ++ b)) ↔ ∀ c ∈ r ++ (g ++ b), (digitValue? c).isSome = true ∨ isBlank c = true := by
  simp only [List.all_eq_true, Bool.or_eq_true, beq_iff_eq, List.mem_append, List.mem_cons]
  constructor
  · rintro ⟨hall, hcommas⟩ c hc
    refine (hall c (by tauto)).resolve_right ?_
    rintro rfl
    exact hcommas hc
  · intro hchars
    refine ⟨fun c hc => ?_, fun hcomma => ?_⟩
    · by_cases hsep : c = ','
      · exact .inr hsep
      · exact .inl (hchars c (by tauto))
    · rcases hchars ',' hcomma with h | h
      · exact absurd h (by decide)
      · exact absurd h (by decide)

theorem components_error {r g b : List Char} {e : Fault} {f : Int → Int → Int → Bool} :
    (do return f (← component r) (← component g) (← component b) : Except Fault Bool) = .error e ↔
      [r, g, b].mapM component = .error e := by
  refine error_iff_of_map ?_ e
  rw [List.mapM_cons, List.mapM_cons, List.mapM_cons, List.mapM_nil]
  cases component r with
  | error e => rfl
  | ok r =>
    cases component g with
    | error e => rfl
    | ok g => cases component b <;> rfl

theorem isMixedColor_error {cs : List Char} {e : Fault} : isMixedColor cs = .error e ↔ Miscolored e cs := by
  have hopening : "rgb(".toList.getLast? ≠ some ')' := by decide
  unfold isMixedColor
  constructor
  · intro h
    cases hinner : bracketed? "rgb(" cs with
    | none => rw [hinner] at h; cases h
    | some inner =>
      rw [hinner] at h
      dsimp only at h
      split at h
      · cases h
      · next hchars =>
        split at h
        · next r g b hpieces =>
          obtain ⟨rfl, hcommas⟩ := cutCommas_three.1 hpieces
          simp only [Bool.or_eq_true, Bool.not_eq_true', not_or, Bool.not_eq_false] at hchars
          exact ⟨r, g, b, (bracketed?_iff hopening).1 hinner, components_chars.1 ⟨hchars.2, hcommas⟩, components_error.1 h⟩
        · cases h
  · rintro ⟨r, g, b, rfl, hchars, hfault⟩
    obtain ⟨hall, hcommas⟩ := components_chars.2 hchars
    have hsome : (r ++ ',' :: (g ++ ',' :: b)).isEmpty = false := by simp
    rw [(bracketed?_iff hopening).2 rfl]
    dsimp only
    rw [hall, hsome, cutCommas_three.2 ⟨rfl, hcommas⟩]
    exact components_error.2 hfault

/-- no other colour begins like one of three components -/
theorem isColorName_rgb {w : String} (h : "rgb(".toList.isPrefixOf w.toList = true) : isColorName w = false := by
  have hnames : ∀ name ∈ colorNames, "rgb(".toList.isPrefixOf name.toList = false := by decide +kernel
  have hgrey (n : Nat) : w ≠ "grey" ++ toString n ∧ w ≠ "gray" ++ toString n := by
    constructor <;> (rintro rfl; simp [String.toList_append, List.isPrefixOf] at h)
  rw [isColorName, Bool.or_eq_false_iff, List.any_eq_false]
  constructor
  · rw [← Bool.not_eq_true, List.contains_iff_mem]
    intro hmem
    rw [hnames w hmem] at h
    cases h
  · intro n _ hn
    rw [Bool.or_eq_true, beq_iff_eq, beq_iff_eq] at hn
    exact hn.elim (hgrey n).1 (hgrey n).2

/-- a word is a colour at fault just if it is one of three components that are read to that fault -/
theorem isColor_error {word : String} {e : Fault} : isColor word = .error e ↔ Miscolored e (lower word).toList := by
  unfold isColor
  dsimp only
  split
  · next hcolor =>
    constructor
    · rintro ⟨⟩
    · rintro ⟨r, g, b, hword, -⟩
      have hstart : "rgb(".toList.isPrefixOf (lower word).toList = true := by
        rw [hword, List.append_assoc]
        exact List.isPrefixOf_iff_prefix.2 (List.prefix_append _ _)
      have hdefault : lower word ≠ "default" := by
        intro hsame
        rw [hsame] at hstart
        cases hstart
      have hhex : isHexColor (lower word).toList = false := by rw [hword]; rfl
      have hpalette : isPaletteColor (lower word).toList = false := by rw [hword]; rfl
      rw [isColorName_rgb hstart, hhex, hpalette] at hcolor
      simp [hdefault] at hcolor
  · exact isMixedColor_error

/-! ## Rows of phrases -/

inductive Phrase : List String → Prop where
  | quality {w : String} (h : lower w ∈ attributes) : Phrase [w]
  | negated {w q : String} (hw : lower w = "not") (h : q ∈ attributes) : Phrase [w, q]
  | background {w color : String} (hw : lower w = "on") (h : isColor color = .ok true) : Phrase [w, color]
  | address {w url : String} (hw : lower w = "link") : Phrase [w, url]
  | color {w : String} (h : isColor (lower w) = .ok true) : Phrase [w]

inductive Phrases : List String → Prop where
  | nil : Phrases []
  | cons {phrase ws : List String} (h : Phrase phrase) (hs : Phrases ws) : Phrases (phrase ++ ws)

/-- the words begin with a colour at fault, or with `on` and such a colour -/
inductive Faulty (e : Fault) : List String → Prop where
  | background {w color : String} {ws : List String} (hw : lower w = "on") (h : Miscolored e (lower color).toList) :
    Faulty e (w :: color :: ws)
  | color {w : String} {ws : List String} (h : Miscolored e (lower (lower w)).toList) : Faulty e (w :: ws)

/-- the words that lead a phrase and are no colours -/
theorem leading_noColor : isColor "on" = .ok false ∧ isColor "not" = .ok false ∧ isColor "link" = .ok false := by
  refine ⟨by rfl, by rfl, by rfl⟩

theorem attributes_noColor : ∀ w ∈ attributes, isColor w = .ok false := by
  have hall : ∀ w ∈ attributes, (isColor w).toOption = some false := by decide +kernel
  exact fun w hw => ok_of_toOption (hall w hw)

theorem leading_noAttribute : ∀ w ∈ ["on", "not", "link"], w ∉ attributes := by decide

/-- a word that is judged as a colour: it leads no other phrase -/
theorem areUsable_color {w : String} (h : isColor (lower w) ≠ .ok false) (ws : List String) :
    areUsable (w :: ws) = (do if ← isColor (lower w) then areUsable ws else return false) := by
  have hon : lower w ≠ "on" := fun hw => h (by rw [hw]; exact leading_noColor.1)
  have hnot : lower w ≠ "not" := fun hw => h (by rw [hw]; exact leading_noColor.2.1)
  have hlink : lower w ≠ "link" := fun hw => h (by rw [hw]; exact leading_noColor.2.2)
  have hattribute : lower w ∉ attributes := fun hmem => h (attributes_noColor _ hmem)
  rw [areUsable.eq_def]
  simp only [beq_iff_eq, List.contains_iff_mem, hon, hnot, hlink, hattribute, if_false]

theorem Phrase.skip {phrase : List String} (h : Phrase phrase) (ws : List String) :
    areUsable (phrase ++ ws) = areUsable ws := by
  cases h with
  | @quality w h =>
    have hother : ∀ v ∈ ["on", "not", "link"], lower w ≠ v := by
      rintro v hv rfl
      exact leading_noAttribute _ hv h
    rw [List.singleton_append, areUsable.eq_def]
    simp [hother, h]
  | negated hw h => simp [areUsable, hw, h]
  | background hw h => simp [areUsable, hw, h, bind, Except.bind]
  | address hw => simp [areUsable, hw]
  | color h =>
    rw [List.singleton_append, areUsable_color (by rw [h]; simp), h]
    rfl

theorem Phrases.skip {before : List String} (h : Phrases before) (ws : List String) :
    areUsable (before ++ ws) = areUsable ws := by
  induction h with
  | nil => rfl
  | cons h _ ih => rw [List.append_assoc, h.skip, ih]

theorem Faulty.error {e : Fault} {ws : List String} (h : Faulty e ws) : areUsable ws = .error e := by
  cases h with
  | background hw h => simp [areUsable, hw, isColor_error.2 h, bind, Except.bind]
  | color h =>
    rw [areUsable_color (by rw [isColor_error.2 h]; simp), isColor_error.2 h]
    rfl

theorem Phrases.usable {ws : List String} (h : Phrases ws) : areUsable ws = .ok true := by
  rw [← List.append_nil ws, h.skip, areUsable]

/-- what words are judged to be, and why; of words that are of no use it says no more -/
inductive Judged : List String → Except Fault Bool → Prop where
  | usable {ws : List String} (h : Phrases ws) : Judged ws (.ok true)
  | useless {ws : List String} : Judged ws (.ok false)
  | fault {e : Fault} {before rest : List String} (h : Phrases before) (hfault : Faulty e rest) :
    Judged (before ++ rest) (.error e)

theorem Judged.behind {phrase ws : List String} {outcome : Except Fault Bool} (hphrase : Phrase phrase)
    (h : Judged ws outcome) : Judged (phrase ++ ws) outcome := by
  cases h with
  | usable h => exact .usable (.cons hphrase h)
  | useless => exact .useless
  | fault h hfault =>
    rw [← List.append_assoc]
    exact .fault (.cons hphrase h) hfault

theorem Judged.ofColor {word : String} {phrase ws : List String}
    (hphrase : isColor word = .ok true → Phrase phrase) (hfault : ∀ e, isColor word = .error e → Faulty e (phrase ++ ws))
    (h : Judged ws (areUsable ws)) : Judged (phrase ++ ws) (do if ← isColor word then areUsable ws else return false) := by
  cases hcolor : isColor word with
  | error e =>
    rw [← List.nil_append (phrase ++ ws)]
    exact .fault .nil (hfault e hcolor)
  | ok usable =>
    cases usable with
    | false => exact .useless
    | true => exact h.behind (hphrase hcolor)

theorem areUsable_judged (ws : List String) : Judged ws (areUsable ws) := by
  fun_induction areUsable ws with
  | case1 => exact .usable .nil
  | case2 word w hon => exact .useless
  | case3 word w hon color rest ih =>
    have hw : lower word = "on" := beq_iff_eq.1 hon
    exact .ofColor (.background hw) (fun e h => .background hw (isColor_error.1 h)) ih
  | case4 word w hon hnot => exact .useless
  | case5 word w hon hnot quality rest h ih => exact ih.behind (.negated (beq_iff_eq.1 hnot) (List.contains_iff_mem.1 h))
  | case6 word w hon hnot quality rest h => exact .useless
  | case7 word w hon hnot hlink => exact .useless
  | case8 word w hon hnot hlink url rest ih => exact ih.behind (.address (beq_iff_eq.1 hlink))
  | case9 word rest w hon hnot hlink h ih => exact ih.behind (.quality (List.contains_iff_mem.1 h))
  | case10 word rest w hon hnot hlink h ih => exact .ofColor .color (fun e h => .color (isColor_error.1 h)) ih

/-- **Words are of use just if they are a row of phrases.** -/
theorem areUsable_iff {ws : List String} : areUsable ws = .ok true ↔ Phrases ws := by
  refine ⟨fun h => ?_, Phrases.usable⟩
  have hjudged := areUsable_judged ws
  rw [h] at hjudged
  cases hjudged with
  | usable hs => exact hs

/-- **There is a fault just if a row of phrases is followed by a colour at fault.** -/
theorem areUsable_error {ws : List String} {e : Fault} : areUsable ws = .error e ↔
    ∃ before rest, ws = before ++ rest ∧ Phrases before ∧ Faulty e rest := by
  constructor
  · intro h
    have hjudged := areUsable_judged ws
    rw [h] at hjudged
    cases hjudged with
    | @fault _ before rest hs hfault => exact ⟨before, rest, rfl, hs, hfault⟩
  · rintro ⟨before, rest, rfl, hs, hfault⟩
    rw [hs.skip, hfault.error]

/-! ## Words of a text -/

def wordsOf (s : String) : List String := (words s.toList).map String.ofList

theorem words_go_blank {c : Char} (h : isBlank c = true) (word cs : List Char) :
    words.go word (cs ++ [c]) = words.go word cs := by
  induction cs generalizing word with
  | nil => simp [words.go, h]
  | cons d cs ih => simp only [List.cons_append, words.go, ih]

theorem words_dropWhile (cs : List Char) : words (cs.dropWhile isBlank) = words cs := by
  induction cs with
  | nil => rfl
  | cons c cs ih =>
    by_cases h : isBlank c = true
    · rw [List.dropWhile_cons_of_pos h, ih]
      simp [words, words.go, h]
    · rw [List.dropWhile_cons_of_neg h]

theorem words_stripBy (cs : List Char) : words (stripBy isBlank cs) = words cs := by
  rw [← words_dropWhile cs, stripBy]
  generalize cs.dropWhile isBlank = ds
  induction ds using List.reverseRecOn with
  | nil => rfl
  | append_singleton ds c ih =>
    rw [List.reverse_concat]
    by_cases h : isBlank c = true
    · rw [List.dropWhile_cons_of_pos h, ih]
      exact (words_go_blank h [] ds).symm
    · rw [List.dropWhile_cons_of_neg h, List.reverse_cons, List.reverse_reverse]

theorem wordsOf_strip (s : String) : wordsOf (strip s) = wordsOf s := by
  rw [wordsOf, strip, String.toList_ofList, words_stripBy, wordsOf]

theorem wordsOf_bold (s : String) : wordsOf ("bold " ++ s) = "bold" :: wordsOf s := by
  rw [wordsOf, String.toList_append]
  rfl

/-! ## Definitions -/

/-- a definition of a style: `none` alone, or a row of phrases -/
def IsDefinition (definition : String) : Prop := strip definition = "none" ∨ Phrases (wordsOf definition)

theorem isUsable_eq (definition : String) :
    isUsable definition = if strip definition = "none" then .ok true else areUsable (wordsOf definition) := by
  unfold isUsable wordsOf
  simp only [beq_iff_eq]
  split
  · next hwords => simp [hwords, areUsable]
  · rfl

/-- `none` is no row of phrases, nor is it at fault -/
theorem none_noPhrases {s : String} (h : strip s = "none") : areUsable (wordsOf s) = .ok false := by
  rw [← wordsOf_strip, h]
  rfl

theorem isUsable_iff {definition : String} : isUsable definition = .ok true ↔ IsDefinition definition := by
  rw [isUsable_eq, IsDefinition, ← areUsable_iff]
  split
  · next h => simp [h]
  · next h => simp [h]

theorem isUsable_error {definition : String} {e : Fault} : isUsable definition = .error e ↔
    ∃ before rest, wordsOf definition = before ++ rest ∧ Phrases before ∧ Faulty e rest := by
  rw [isUsable_eq, ← areUsable_error]
  split
  · next h => simp [none_noPhrases h]
  · rfl

theorem bold_definition {s : String} : IsDefinition ("bold " ++ s) ↔ Phrases (wordsOf s) := by
  have hbold : Phrase ["bold"] := .quality (by decide +kernel)
  have hother : strip ("bold " ++ s) ≠ "none" := by
    intro h
    have hwords := (wordsOf_bold s).symm.trans ((wordsOf_strip _).symm.trans (congrArg wordsOf h))
    exact absurd (List.cons.inj hwords).1 (by decide)
  rw [IsDefinition, wordsOf_bold, ← areUsable_iff, ← areUsable_iff, ← hbold.skip (wordsOf s)]
  exact or_iff_right hother

/-! ## The style of an agent -/

theorem masked_bold (color : Text) : ("bold " ++ color : Text).masked = "bold " ++ color.masked := by
  rw [← String.toList_inj]
  simp only [masked, String.toList_ofList, String.toList_append]
  rfl

/-- **There is a fault just if the colour, read as a definition, is at fault. Else the style is the colour in bold if the
colour is a definition, and the fallback in bold if it is none; and this is a definition unless the colour is `none`.** -/
theorem agentStyle_usable (color : Text) :
    (∀ e, agentStyle color = .error e ↔
      ∃ before rest, wordsOf color.masked = before ++ rest ∧ Phrases before ∧ Faulty e rest) ∧
    ∀ style, agentStyle color = .ok style →
      (IsDefinition color.masked ∧ style = "bold " ++ color ∨
        ¬IsDefinition color.masked ∧ style = "bold " ++ (fallbackColor : Text)) ∧
      (IsDefinition style.masked ↔ strip color.masked ≠ "none") := by
  constructor
  · intro e
    rw [← isUsable_error, agentStyle]
    cases isUsable color.masked <;> simp [Except.map]
  · intro style hstyle
    unfold agentStyle at hstyle
    cases husable : isUsable color.masked with
    | error e => rw [husable] at hstyle; cases hstyle
    | ok usable =>
      rw [husable] at hstyle
      cases usable with
      | true =>
        cases hstyle
        have hcolor := isUsable_iff.1 husable
        refine ⟨.inl ⟨hcolor, rfl⟩, ?_⟩
        show IsDefinition ("bold " ++ color : Text).masked ↔ _
        rw [masked_bold, bold_definition]
        constructor
        · intro hs hnone
          cases (none_noPhrases hnone).symm.trans hs.usable
        · exact fun hnone => hcolor.resolve_left hnone
      | false =>
        cases hstyle
        have hcolor : ¬IsDefinition color.masked := by
          rw [← isUsable_iff, husable]
          simp
        have hfallback : Phrases (wordsOf fallbackColor) := areUsable_iff.1 (ok_of_toOption (by decide +kernel))
        refine ⟨.inr ⟨hcolor, rfl⟩, ?_⟩
        show IsDefinition ("bold " ++ (fallbackColor : Text) : Text).masked ↔ _
        rw [masked_bold, masked_ofString]
        exact iff_of_true (bold_definition.2 hfallback) fun hnone => hcolor (.inl hnone)

theorem agentStyle_usable_words :
    agentStyle " Red on blue" = .ok "bold  Red on blue" ∧ IsDefinition "bold  Red on blue" := by
  have hstyle : agentStyle " Red on blue" = .ok "bold  Red on blue" := ok_of_toOption (by decide +kernel)
  have hother : strip (" Red on blue" : Text).masked ≠ "none" := by decide
  have hused := ((agentStyle_usable " Red on blue").2 _ hstyle).2.2 hother
  rw [masked_ofString] at hused
  exact ⟨hstyle, hused⟩

/-- A colour is judged as a definition of its own and is used behind `bold`, where `none` is no colour. -/
theorem none_unusable : IsDefinition "none" ∧ agentStyle "none" = .ok "bold none" ∧ ¬IsDefinition "bold none" := by
  refine ⟨.inl (by decide), ok_of_toOption (by decide +kernel), ?_⟩
  intro h
  have husable : areUsable (wordsOf "none") = .ok false := by rfl
  cases husable.symm.trans (bold_definition (s := "none").1 h).usable

end TileCrew.Style
