/-
What is written for a value, part by part. As characters (`chars`) the parts of a list and of an object stand one behind
the other (`itemChars_cons`, `fieldChars_cons`), and a text stands as its characters escaped (`stringLetters_masked`). A
value is without lone halves just if all texts in it are, names of fields included (`isWhole_list`, `isWhole_object`),
and so what can be put into a file is told from the parts (`isPrintable_list`, `isPrintable_object`).
-/
import Mathlib.Logic.Basic
import TileCrew.Json.Printer
import TileCrew.Text.Utf8

namespace TileCrew

/-! ## Halves among letters -/

@[simp] theorem Letter.any_isHalf_char (cs : List Char) : (cs.map Letter.char).any Letter.isHalf = false := by
  simp [Letter.isHalf]

/-- a mapping of characters makes no halves and keeps those that are there -/
theorem Letter.any_isHalf_image (f : Char → List Char) (ls : List Letter) :
    (ls.flatMap (Letter.image f)).any Letter.isHalf = ls.any Letter.isHalf := by
  induction ls with
  | nil => rfl
  | cons l ls ih =>
    rw [List.flatMap_cons, List.any_append, ih, List.any_cons]
    cases l with
    | char c => rw [Letter.image, Letter.any_isHalf_char, Letter.isHalf]
    | half n => rfl

theorem Utf8.firstHalves?_isNone (ls : List Letter) : (firstHalves? ls).isNone = !ls.any Letter.isHalf := by
  induction ls with
  | nil => rfl
  | cons l ls ih =>
    cases l with
    | char c =>
      -- a character in front moves what is found, and is not among it
      have hskip : (firstHalves? (.char c :: ls)).isNone = (firstHalves? ls).isNone := by
        simp only [firstHalves?, List.dropWhile_cons, Letter.isHalf_char, Bool.not_false, if_true]
        split
        · rfl
        · rfl
      rw [hskip, ih, List.any_cons, Letter.isHalf_char, Bool.false_or]
    | half n => rfl

namespace Json

open Text

/-! ## Characters -/

/-- a text as a JSON string, U+FFFD for each half -/
def stringChars (t : Text) : List Char := '"' :: (t.masked.toList.flatMap escapedChar ++ ['"'])

def itemChars (vs : List Json) : List Char := (itemLetters vs).map Letter.masked

def moreItemChars (vs : List Json) : List Char := (moreItemLetters vs).map Letter.masked

def fieldChars (fs : List (Text × Json)) : List Char := (fieldLetters fs).map Letter.masked

def moreFieldChars (fs : List (Text × Json)) : List Char := (moreFieldLetters fs).map Letter.masked

theorem map_masked_char (cs : List Char) : (cs.map Letter.char).map Letter.masked = cs := by
  simp [Function.comp_def, Letter.masked]

theorem escaped_masked (l : Letter) : (l.image escapedChar).map Letter.masked = escapedChar l.masked := by
  cases l with
  | char c => exact map_masked_char (escapedChar c)
  | half n => rfl

theorem stringLetters_masked (t : Text) : (stringLetters t).map Letter.masked = stringChars t := by
  simp [stringLetters, stringChars, Text.masked, List.map_flatMap, List.flatMap_map, escaped_masked, Letter.masked]

theorem chars_null : chars .null = "null".toList := rfl

theorem chars_bool (b : Bool) : (Json.bool b).chars = (if b then "true" else "false").toList := map_masked_char _

theorem chars_number (n : Number) : (Json.number n).chars = numberChars n := map_masked_char _

theorem chars_text (t : Text) : (Json.text t).chars = stringChars t := stringLetters_masked t

theorem chars_list (items : List Json) : (Json.list items).chars = '[' :: itemChars items := rfl

theorem chars_object (fields : List (Text × Json)) : (Json.object fields).chars = '\x7b' :: fieldChars fields := rfl

theorem itemChars_cons (v : Json) (vs : List Json) : itemChars (v :: vs) = v.chars ++ moreItemChars vs := by
  rw [itemChars, itemLetters, List.map_append]
  rfl

theorem moreItemChars_cons (v : Json) (vs : List Json) :
    moreItemChars (v :: vs) = ',' :: ' ' :: (v.chars ++ moreItemChars vs) := by
  rw [moreItemChars, moreItemLetters, List.map_cons, List.map_cons, List.map_append]
  rfl

theorem fieldChars_cons (f : Text × Json) (fs : List (Text × Json)) :
    fieldChars (f :: fs) = stringChars f.1 ++ ':' :: ' ' :: (f.2.chars ++ moreFieldChars fs) := by
  rw [fieldChars, fieldLetters, List.map_append, List.map_cons, List.map_cons, List.map_append, stringLetters_masked]
  rfl

theorem moreFieldChars_cons (f : Text × Json) (fs : List (Text × Json)) :
    moreFieldChars (f :: fs) =
      ',' :: ' ' :: (stringChars f.1 ++ ':' :: ' ' :: (f.2.chars ++ moreFieldChars fs)) := by
  rw [moreFieldChars, moreFieldLetters, List.map_cons, List.map_cons, List.map_append, List.map_cons, List.map_cons,
    List.map_append, stringLetters_masked]
  rfl

/-! ## Lone halves -/

theorem any_isHalf_string (t : Text) : (stringLetters t).any Letter.isHalf = !t.isWhole := by
  simp only [stringLetters, List.any_cons, List.any_append, Letter.any_isHalf_image, Letter.isHalf_char, Text.isWhole,
    List.any_nil, Bool.false_or, Bool.or_false, Bool.not_not]

theorem any_isHalf (v : Json) : v.letters.any Letter.isHalf = !v.isWhole := by simp only [isWhole, Bool.not_not]

theorem isWhole_number (n : Number) : (Json.number n).isWhole = true := by simp [isWhole, letters]

theorem isWhole_text (t : Text) : (Json.text t).isWhole = t.isWhole := by
  rw [isWhole, letters, any_isHalf_string, Bool.not_not]

theorem moreItems_whole (vs : List Json) :
    (moreItemLetters vs).any Letter.isHalf = false ↔ ∀ v ∈ vs, v.isWhole = true := by
  induction vs with
  | nil => exact iff_of_true rfl (List.forall_mem_nil _)
  | cons v vs ih =>
    rw [List.forall_mem_cons, ← ih, moreItemLetters]
    simp only [List.any_cons, List.any_append, any_isHalf, Letter.isHalf_char, Bool.false_or, Bool.or_eq_false_iff,
      Bool.not_eq_false']

theorem isWhole_list {items : List Json} : (Json.list items).isWhole = true ↔ ∀ v ∈ items, v.isWhole = true := by
  cases items with
  | nil => exact iff_of_true rfl (List.forall_mem_nil _)
  | cons v vs =>
    rw [List.forall_mem_cons, ← moreItems_whole, isWhole, letters, itemLetters]
    simp only [List.any_cons, List.any_append, any_isHalf, Letter.isHalf_char, Bool.false_or, Bool.not_or,
      Bool.and_eq_true, Bool.not_not, Bool.not_eq_true']

theorem moreFields_whole (fs : List (Text × Json)) :
    (moreFieldLetters fs).any Letter.isHalf = false ↔ ∀ f ∈ fs, f.1.isWhole = true ∧ f.2.isWhole = true := by
  induction fs with
  | nil => exact iff_of_true rfl (List.forall_mem_nil _)
  | cons f fs ih =>
    rw [List.forall_mem_cons, ← ih, moreFieldLetters]
    simp only [List.any_cons, List.any_append, any_isHalf, any_isHalf_string, Letter.isHalf_char, Bool.false_or,
      Bool.or_eq_false_iff, Bool.not_eq_false', and_assoc]

theorem isWhole_object {fields : List (Text × Json)} :
    (Json.object fields).isWhole = true ↔ ∀ f ∈ fields, f.1.isWhole = true ∧ f.2.isWhole = true := by
  cases fields with
  | nil => exact iff_of_true rfl (List.forall_mem_nil _)
  | cons f fs =>
    rw [List.forall_mem_cons, ← moreFields_whole, isWhole, letters, fieldLetters]
    simp only [List.any_cons, List.any_append, any_isHalf, any_isHalf_string, Letter.isHalf_char, Bool.false_or,
      Bool.not_or, Bool.and_eq_true, Bool.not_not, Bool.not_eq_true', and_assoc]

/-! ## What can be put into a file -/

theorem haveShortIntegers_iff {items : List Json} :
    haveShortIntegers items = true ↔ ∀ v ∈ items, v.hasShortIntegers = true := by
  induction items with
  | nil => exact iff_of_true rfl (List.forall_mem_nil _)
  | cons v vs ih => rw [haveShortIntegers, Bool.and_eq_true, ih, List.forall_mem_cons]

theorem fieldsShort_iff {fields : List (Text × Json)} :
    fieldsShort fields = true ↔ ∀ f ∈ fields, f.2.hasShortIntegers = true := by
  induction fields with
  | nil => exact iff_of_true rfl (List.forall_mem_nil _)
  | cons f fs ih => rw [fieldsShort, Bool.and_eq_true, ih, List.forall_mem_cons]

theorem isPrintable_whole {n : Int} (h : (Json.int n).isPrintable = true) :
    (Decimal.digitsOf n.natAbs).length ≤ digitLimit :=
  of_decide_eq_true (Bool.and_eq_true_iff.1 h).1

theorem isPrintable_text (t : Text) : (Json.text t).isPrintable = t.isWhole := by
  rw [isPrintable, isWhole_text]
  exact Bool.true_and _

theorem isPrintable_list {items : List Json} :
    (Json.list items).isPrintable = true ↔ ∀ v ∈ items, v.isPrintable = true := by
  simp only [isPrintable, Bool.and_eq_true, isWhole_list, hasShortIntegers, haveShortIntegers_iff, ← forall₂_and]

theorem isPrintable_object {fields : List (Text × Json)} :
    (Json.object fields).isPrintable = true ↔ ∀ f ∈ fields, f.1.isWhole = true ∧ f.2.isPrintable = true := by
  simp only [isPrintable, Bool.and_eq_true, isWhole_object, hasShortIntegers, fieldsShort_iff, ← forall₂_and]
  exact forall₂_congr fun _ _ => and_left_comm

end Json

end TileCrew
