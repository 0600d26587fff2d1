/-
Strings in JSON text. Each letter is read back from its escaped form as its code point (`stringUnits_letter`), and code
points are joined only where the two halves of a surrogate pair meet (`joinUnits_code`). Hence `readString_letters`:
**letters are read as they are escaped**, lone halves included. No two characters make a pair, so a written string is read
as that string (`readString_chars`).
-/
import TileCrew.Json.Printer
import TileCrew.Json.Reader
import Mathlib.Data.List.Chain

namespace TileCrew.Json

open Text

/-! ## Characters -/

/-- the three forms of a character: an escape by a letter, an escape by code point, itself -/
theorem escapedChar_cases (c : Char) :
    (∃ e, e ≠ 'u' ∧ simpleEscape? e = some c.toNat ∧ escapedChar c = ['\\', e]) ∨
      (c.toNat < 0x20 ∧ escapedChar c = '\\' :: 'u' :: hexChars 4 c.toNat) ∨
      (c ≠ '"' ∧ c ≠ '\\' ∧ ¬c.toNat < 0x20 ∧ escapedChar c = [c]) := by
  by_cases hs : c ∈ ['"', '\\', '\n', '\r', '\t', Char.ofNat 0x08, Char.ofNat 0x0c]
  · refine .inl ?_
    simp only [List.mem_cons, List.not_mem_nil, or_false] at hs
    rcases hs with rfl | rfl | rfl | rfl | rfl | rfl | rfl
    all_goals exact ⟨_, by decide, rfl, rfl⟩
  · refine .inr ?_
    simp only [List.mem_cons, List.not_mem_nil, or_false, not_or] at hs
    obtain ⟨hq, hb, hn, hr, ht, h8, hc⟩ := hs
    have code {n : Nat} (h : c ≠ Char.ofNat n) : c.toNat ≠ n := fun he => h (by rw [← he, Char.ofNat_toNat])
    unfold escapedChar
    rw [if_neg hq, if_neg hb, if_neg hn, if_neg hr, if_neg ht, if_neg (code h8), if_neg (code hc)]
    by_cases hlow : c.toNat < 0x20
    · exact .inl ⟨hlow, if_pos hlow⟩
    · exact .inr ⟨hq, hb, hlow, if_neg hlow⟩

/-- a letter as it can stand in a string: a half only as the escape of its code point -/
def escapedLetter : Letter → List Char
  | .char c => escapedChar c
  | .half n => '\\' :: 'u' :: hexChars 4 (0xd800 + n)

/-- the code unit that characters spell, if they are four hexadecimal digits -/
def unitOf? : List Char → Option Nat
  | [a, b, c, d] => hexUnit? a b c d
  | _ => none

theorem unitOf?_control : ∀ n < 0x20, unitOf? (hexChars 4 n) = some n := by
  decide +kernel

theorem hexValue?_digitChar : ∀ d < 16, hexValue? (Nat.digitChar d) = some d := by
  decide

theorem hexChars_four {a b c d : Nat} (ha : 0 < a) (ha' : a < 16) (hb : b < 16) (hc : c < 16) (hd : d < 16) :
    hexChars 4 (16 * (16 * (16 * a + b) + c) + d) = [a, b, c, d].map Nat.digitChar := by
  have last {m e : Nat} (hm : 0 < m) (he : e < 16) :
      Nat.toDigits 16 (16 * m + e) = Nat.toDigits 16 m ++ [Nat.digitChar e] := by
    rw [← Nat.toDigits_append_toDigits (by decide) hm he, Nat.toDigits_of_lt_base he]
  rw [hexChars, last (by omega) hd, last (by omega) hc, last ha hb, Nat.toDigits_of_lt_base ha']
  rfl

theorem unitOf?_half {n : Nat} (h : n < 0x800) : unitOf? (hexChars 4 (0xd800 + n)) = some (0xd800 + n) := by
  have hdigits : 0xd800 + n = 16 * (16 * (16 * 13 + (8 + n / 256)) + n / 16 % 16) + n % 16 := by omega
  rw [hdigits, hexChars_four (by decide) (by decide) (by omega) (by omega) (by omega), List.map_cons, List.map_cons,
    List.map_cons, List.map_cons, List.map_nil, unitOf?, hexUnit?, hexValue?_digitChar _ (by decide),
    hexValue?_digitChar _ (by omega), hexValue?_digitChar _ (by omega), hexValue?_digitChar _ (by omega)]
  show some (((13 * 16 + (8 + n / 256)) * 16 + n / 16 % 16) * 16 + n % 16) = some _
  exact congrArg some (by omega)

theorem stringUnits_escape {e : Char} {n : Nat} (he : e ≠ 'u') (h : simpleEscape? e = some n)
    (opening rest : List Char) :
    stringUnits opening ('\\' :: e :: rest) = (stringUnits opening rest).map fun r => (n :: r.1, r.2) := by
  rw [stringUnits, if_neg he, h]
  exact fun _ _ _ _ _ _ hu _ => he hu

theorem stringUnits_unit {n : Nat} (h : unitOf? (hexChars 4 n) = some n) (opening : List Char) (c : Char)
    (rest : List Char) :
    stringUnits opening ('\\' :: 'u' :: (hexChars 4 n ++ c :: rest)) =
      (stringUnits opening (c :: rest)).map fun r => (n :: r.1, r.2) := by
  unfold unitOf? at h
  split at h
  · next w x y z hchars =>
    rw [hchars]
    simp only [List.cons_append, List.nil_append, stringUnits, h]
  · cases h

theorem stringUnits_plain {c : Char} (hq : c ≠ '"') (hb : c ≠ '\\') (hc : ¬c.toNat < 0x20) (opening rest : List Char) :
    stringUnits opening (c :: rest) = (stringUnits opening rest).map fun r => (c.toNat :: r.1, r.2) := by
  rw [stringUnits, if_neg hb, if_neg (by omega)]
  · exact fun h => hq h
  · exact fun a b c d e cs h _ => hb h
  · exact fun c cs h _ => hb h

/-- an escaped letter is read as its code point, whatever follows -/
theorem stringUnits_letter (opening : List Char) (l : Letter) (next : Char) (rest : List Char) :
    stringUnits opening (escapedLetter l ++ next :: rest) =
      (stringUnits opening (next :: rest)).map fun r => (l.code :: r.1, r.2) := by
  cases l with
  | half n => exact stringUnits_unit (unitOf?_half n.isLt) opening next rest
  | char c =>
    show stringUnits opening (escapedChar c ++ next :: rest) = _
    rcases escapedChar_cases c with ⟨e, he, hsimple, h⟩ | ⟨hc, h⟩ | ⟨hq, hb, hc, h⟩
    · rw [h]
      exact stringUnits_escape he hsimple opening _
    · rw [h]
      exact stringUnits_unit (unitOf?_control _ hc) opening next rest
    · rw [h]
      exact stringUnits_plain hq hb hc opening _

theorem stringUnits_letters (opening : List Char) (ls : List Letter) (rest : List Char) :
    stringUnits opening (ls.flatMap escapedLetter ++ '"' :: rest) = .ok (ls.map Letter.code, rest) := by
  induction ls with
  | nil => rfl
  | cons l ls ih =>
    have hsome : ∃ next tail, ls.flatMap escapedLetter ++ '"' :: rest = next :: tail :=
      List.exists_cons_of_ne_nil (List.append_ne_nil_of_right_ne_nil _ (List.cons_ne_nil _ _))
    obtain ⟨next, tail, htail⟩ := hsome
    rw [htail] at ih
    rw [List.flatMap_cons, List.append_assoc, htail, stringUnits_letter, ih]
    rfl

theorem stringUnits_chars (opening cs rest : List Char) :
    stringUnits opening (cs.flatMap escapedChar ++ '"' :: rest) = .ok (cs.map Char.toNat, rest) := by
  have h := stringUnits_letters opening (cs.map .char) rest
  rwa [List.flatMap_map, List.map_map] at h

/-! ## Code points -/

/-- no code point of a character is the code point of a half -/
theorem code_range (c : Char) : c.toNat < 0xd800 ∨ 0xdfff < c.toNat :=
  c.valid.imp (fun h => h) (fun h => h.1)

theorem unitLetter_code (l : Letter) : unitLetter l.code = l := by
  cases l with
  | char c =>
    have hrange := code_range c
    rw [Letter.code, unitLetter, dif_neg (by omega), Char.ofNat_toNat]
  | half n =>
    have hrange : 0xd800 ≤ 0xd800 + n.val ∧ 0xd800 + n.val ≤ 0xdfff := by omega
    rw [Letter.code, unitLetter, dif_pos hrange]
    exact congrArg Letter.half (Fin.ext (Nat.add_sub_cancel_left _ _))

/-- the two letters are the halves of a surrogate pair -/
def IsPair (l m : Letter) : Prop := isHighHalf l.code ∧ isLowHalf m.code

theorem not_isPair_char (c : Char) (m : Letter) : ¬IsPair (.char c) m := by
  rintro ⟨hhigh, -⟩
  have hrange := code_range c
  rw [isHighHalf, Bool.and_eq_true, decide_eq_true_eq, decide_eq_true_eq, Letter.code] at hhigh
  omega

theorem joinUnits_code {ls : List Letter} (h : ls.IsChain fun l m => ¬IsPair l m) : joinUnits (ls.map Letter.code) = ls := by
  induction h with
  | nil => rfl
  | singleton l => exact congrArg (fun m => [m]) (unitLetter_code l)
  | @cons_cons l m ls hpair _ ih =>
    rw [List.map_cons] at ih
    rw [List.map_cons, List.map_cons, joinUnits, if_neg (by simpa [IsPair] using hpair), unitLetter_code, ih]

/-- **Letters are read as they are escaped.** Only the two halves of a pair, one behind the other, would be joined. -/
theorem readString_letters {ls : List Letter} (h : ls.IsChain fun l m => ¬IsPair l m) (rest : List Char) :
    readString (ls.flatMap escapedLetter ++ '"' :: rest) = .ok (⟨ls⟩, rest) := by
  rw [readString, stringUnits_letters]
  show Except.ok (Text.mk (joinUnits (ls.map Letter.code)), rest) = _
  rw [joinUnits_code h]

/-- the two halves of a pair, one behind the other, are one character -/
example : readString "\\ud83d\\ude00\"".toList = .ok (("😀" : Text), []) := by
  decide +kernel

/-- a written string is read as that string -/
theorem readString_chars (s : String) (rest : List Char) :
    readString (s.toList.flatMap escapedChar ++ '"' :: rest) = .ok (Text.ofString s, rest) := by
  have hchars : (s.toList.map Letter.char).IsChain fun l m => ¬IsPair l m :=
    (List.isChain_map _).2 (List.pairwise_of_forall fun c d => not_isPair_char c (.char d)).isChain
  have h := readString_letters hchars rest
  rwa [List.flatMap_map] at h

end TileCrew.Json
