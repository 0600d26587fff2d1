/-
Texts. A letter of a text is a character or a lone half of a surrogate pair: an escape in JSON can give a half, and it
is kept apart from every other letter wherever the text goes. A `String` has characters alone; it stands for the text of
the same characters wherever a text is asked for. Where numerals and colours are read, a half counts as U+FFFD
(`masked`), which like it is neither blank nor digit, has no case and stands in no name of a colour.
-/
namespace TileCrew

/-- a character, or the lone half of a surrogate pair with code point `0xd800 + offset` -/
inductive Letter where
  | char (c : Char)
  | half (offset : Fin 0x800)
deriving Repr

namespace Letter

instance : DecidableEq Letter
  | .char c, .char d => decidable_of_iff (c = d) ⟨congrArg char, char.inj⟩
  | .half m, .half n => decidable_of_iff (m = n) ⟨congrArg half, half.inj⟩
  | .char _, .half _ => isFalse nofun
  | .half _, .char _ => isFalse nofun

def code : Letter → Nat
  | .char c => c.toNat
  | .half n => 0xd800 + n

/-- the letter as a character, U+FFFD for a half -/
def masked : Letter → Char
  | .char c => c
  | .half _ => Char.ofNat 0xfffd

def isHalf : Letter → Bool
  | .char _ => false
  | .half _ => true

@[simp] theorem isHalf_char (c : Char) : (char c).isHalf = false := rfl

/-- the image of a letter under a mapping of characters; a half is its own image -/
def image (f : Char → List Char) : Letter → List Letter
  | .char c => (f c).map .char
  | .half n => [.half n]

end Letter

/-- letters in a row -/
structure Text where
  letters : List Letter
deriving Repr

namespace Text

instance : DecidableEq Text := fun s t => decidable_of_iff (s.letters = t.letters) ⟨congrArg mk, congrArg letters⟩

/-- the text of the characters of a string -/
def ofString (s : String) : Text := ⟨s.toList.map .char⟩

instance : Coe String Text := ⟨ofString⟩

instance : Append Text := ⟨fun s t => ⟨s.letters ++ t.letters⟩⟩

def isEmpty (t : Text) : Bool := t.letters.isEmpty

/-- no letter is a lone half -/
def isWhole (t : Text) : Bool := !t.letters.any Letter.isHalf

/-- the characters of a text, U+FFFD for each half -/
def masked (t : Text) : String := String.ofList (t.letters.map Letter.masked)

/-- texts one after the other, with a text between each two -/
def intercalate (separator : Text) (ts : List Text) : Text := ⟨separator.letters.intercalate (ts.map letters)⟩

theorem append_assoc (r s t : Text) : r ++ s ++ t = r ++ (s ++ t) :=
  congrArg Text.mk (List.append_assoc r.letters s.letters t.letters)

/-! ## Strings as texts -/

variable {s t : String}

@[simp] theorem ofString_inj : ofString s = ofString t ↔ s = t := by
  simp only [ofString, Text.mk.injEq]
  rw [List.map_inj_right (fun _ _ => Letter.char.inj), String.toList_inj]

@[simp] theorem ofString_beq : (ofString s == ofString t) = (s == t) := by
  rw [Bool.eq_iff_iff]
  simp

theorem ofString_append : ofString (s ++ t) = ofString s ++ ofString t := by
  simp only [ofString, String.toList_append, List.map_append]
  rfl

@[simp] theorem ofString_isWhole (s : String) : (ofString s).isWhole = true := by
  simp [isWhole, ofString]

@[simp] theorem masked_ofString (s : String) : (ofString s).masked = s := by
  simp [masked, ofString, Function.comp_def, Letter.masked]

theorem ofString_masked {t : Text} (h : t.isWhole = true) : ofString t.masked = t := by
  obtain ⟨ls⟩ := t
  simp only [isWhole, Bool.not_eq_true', List.any_eq_false] at h
  have same : ∀ l ∈ ls, (Letter.char ∘ Letter.masked) l = id l := by
    intro l hl
    cases l with
    | char c => rfl
    | half n => exact absurd rfl (h _ hl)
  simp only [masked, ofString, String.toList_ofList, List.map_map, Text.mk.injEq]
  rw [List.map_congr_left same, List.map_id]

end Text

end TileCrew
