/-
Checks that give back what was written. `Restores check write` says that a check, applied to the JSON form of a value,
is valid and gives that value. It holds of the scalars and of the words of a table, and goes over from a check to lists
of what it accepts, to values that may be null and to the fields of a record, whether they have a default or not.
-/
import TileCrew.Schema.Checked

namespace TileCrew.Schema

/-- the check gives back every value from its JSON form -/
def Restores {α : Type} (check : Json → Checked α) (write : α → Json) : Prop := ∀ a, check (write a) = .valid a

/-! ## Scalars -/

theorem text_restores : Restores text .text := fun _ => rfl

theorem integer_restores : Restores integer .int := fun _ => rfl

theorem real_restores : Restores real .float := fun _ => rfl

theorem optionalInteger_restores : Restores (nullable integer) .int? := by
  intro n?
  cases n? with
  | none => rfl
  | some n => rfl

theorem optionalText_restores : Restores (nullable text) .text? := by
  intro s?
  cases s? with
  | none => rfl
  | some s => rfl

theorem word_restores {α : Type} {words : List (String × α)} {name : α → String} (cause : Cause)
    (h : ∀ a, words.find? (·.1 == name a) = some (name a, a)) : Restores (word words cause) fun a => .text (name a) := by
  intro a
  simp only [word, Text.ofString_beq, h a]

/-! ## Lists and records -/

variable {α : Type} {check : Json → Checked α} {write : α → Json}

theorem nullable_restores (h : Restores check write) (hnull : ∀ a, write a ≠ .null) :
    Restores (nullable check) fun a? => (a?.map write).getD .null := by
  intro a?
  cases a? with
  | none => rfl
  | some a =>
    show nullable check (write a) = .valid (some a)
    rw [nullable]
    · rw [h a]
      rfl
    · exact hnull a

theorem items_restore (h : Restores check write) (i : Nat) (as : List α) :
    items check i (as.map write) = .valid as := by
  induction as generalizing i with
  | nil => rfl
  | cons a as ih =>
    rw [List.map_cons, items, h a, ih]
    rfl

theorem list_restores (h : Restores check write) : Restores (list check) fun as => .list (as.map write) :=
  items_restore h 0

variable {fields : List (Text × Json)} {name : String}

/-- an object whose names are without lone halves is checked field by field -/
theorem record_whole {check : List (Text × Json) → Checked α} (h : fields.all (·.1.isWhole) = true) :
    record check (.object fields) = check fields := if_pos h

theorem Restores.required (h : Restores check write) {a : α} (hv : Json.lookup name fields = some (write a)) :
    required fields name check = .valid a := by
  rw [Schema.required, hv]
  simp only [h a]
  rfl

theorem Restores.optional (h : Restores check write) {a default : α}
    (hv : Json.lookup name fields = some (write a)) : optional fields name default check = .valid a := by
  rw [Schema.optional, hv]
  simp only [h a]
  rfl

theorem noOthers_valid {names : List String}
    (h : (fields.all fun f => (names.map Text.ofString).contains f.1) = true) : noOthers fields names = .valid () := by
  have hnone : fields.filter (fun f => !(names.map Text.ofString).contains f.1) = [] := by
    rw [List.filter_eq_nil_iff]
    intro f hf
    rw [List.all_eq_true.1 h f hf]
    decide
  rw [noOthers, hnone]
  rfl

end TileCrew.Schema
