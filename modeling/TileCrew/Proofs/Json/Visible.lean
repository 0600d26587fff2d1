/-
JSON text is one line. No control character is in what is written for a value, however it is made up
(`chars_visible`), since strings escape them and numbers have none; in particular there is no line feed and no carriage
return (`Visible.noFeed`, `Visible.noReturn`), so that lines of JSON can be told apart again.
-/
import Mathlib
import TileCrew.Proofs.Json.Reals
import TileCrew.Proofs.Json.Strings
import TileCrew.Proofs.Json.Written

namespace TileCrew.Json

open Decimal Text

/-- no control characters -/
def Visible (cs : List Char) : Prop := ∀ c ∈ cs, 0x20 ≤ c.toNat

namespace Visible

theorem nil : Visible [] := List.forall_mem_nil _

theorem cons {c : Char} {cs : List Char} (hc : 0x20 ≤ c.toNat) (h : Visible cs) : Visible (c :: cs) :=
  List.forall_mem_cons.2 ⟨hc, h⟩

theorem append {cs ds : List Char} (hc : Visible cs) (hd : Visible ds) : Visible (cs ++ ds) :=
  List.forall_mem_append.2 ⟨hc, hd⟩

theorem of_all {cs : List Char} (h : (cs.all fun c => 0x20 ≤ c.toNat) = true) : Visible cs := by
  simpa [Visible] using h

theorem noFeed {cs : List Char} (h : Visible cs) : '\n' ∉ cs :=
  fun hn => absurd (h '\n' hn) (by decide)

theorem noReturn {cs : List Char} (h : Visible cs) : '\r' ∉ cs :=
  fun hr => absurd (h '\r' hr) (by decide)

end Visible

/-! ## Numbers -/

theorem isNumberChar_visible {c : Char} (h : isNumberChar c = true) : 0x20 ≤ c.toNat := by
  by_contra hc
  have hlow : ∀ n < 0x20, isNumberChar (Char.ofNat n) = false := by decide +kernel
  have hnone := hlow c.toNat (by omega)
  rw [Char.ofNat_toNat, h] at hnone
  cases hnone

theorem numberChars_visible (n : Number) : Visible (numberChars n) :=
  fun c hc => isNumberChar_visible (numberChars_alphabet n c hc)

/-! ## Strings -/

theorem hexChars_visible : ∀ n < 0x20, (hexChars 4 n).all fun c => 0x20 ≤ c.toNat := by
  decide +kernel

theorem simpleEscape_visible {e : Char} {n : ℕ} (h : simpleEscape? e = some n) : 0x20 ≤ e.toNat := by
  by_contra he
  have hlow : ∀ m < 0x20, simpleEscape? (Char.ofNat m) = none := by decide +kernel
  have hnone := hlow e.toNat (by omega)
  rw [Char.ofNat_toNat, h] at hnone
  cases hnone

theorem escapedChar_visible (c : Char) : Visible (escapedChar c) := by
  rcases escapedChar_cases c with ⟨e, -, he, h⟩ | ⟨hc, h⟩ | ⟨-, -, hc, h⟩
  · rw [h]
    exact .cons (by decide) (.cons (simpleEscape_visible he) .nil)
  · rw [h]
    exact .cons (by decide) (.cons (by decide) (.of_all (hexChars_visible c.toNat hc)))
  · rw [h]
    exact .cons (Nat.le_of_not_lt hc) .nil

theorem stringChars_visible (t : Text) : Visible (stringChars t) := by
  refine .cons (by decide) (.append ?_ (.cons (by decide) .nil))
  intro c hc
  obtain ⟨d, -, hd⟩ := List.mem_flatMap.1 hc
  exact escapedChar_visible d c hd

/-! ## Values -/

mutual
/-- **What is written for a value is one line.** -/
theorem chars_visible : ∀ v : Json, Visible v.chars
  | .null => .of_all rfl
  | .bool true => .of_all rfl
  | .bool false => .of_all rfl
  | .number n => by
    rw [chars_number]
    exact numberChars_visible n
  | .text t => by
    rw [chars_text]
    exact stringChars_visible t
  | .list items => .cons (by decide) (itemChars_visible items)
  | .object fields => .cons (by decide) (fieldChars_visible fields)

theorem itemChars_visible : ∀ items, Visible (itemChars items)
  | [] => .cons (by decide) .nil
  | v :: vs => by
    rw [itemChars_cons]
    exact (chars_visible v).append (moreItemChars_visible vs)

theorem moreItemChars_visible : ∀ items, Visible (moreItemChars items)
  | [] => .cons (by decide) .nil
  | v :: vs => by
    rw [moreItemChars_cons]
    exact .cons (by decide) (.cons (by decide) ((chars_visible v).append (moreItemChars_visible vs)))

theorem fieldChars_visible : ∀ fields, Visible (fieldChars fields)
  | [] => .cons (by decide) .nil
  | (name, v) :: fs => by
    rw [fieldChars_cons]
    exact (stringChars_visible name).append
      (.cons (by decide) (.cons (by decide) ((chars_visible v).append (moreFieldChars_visible fs))))

theorem moreFieldChars_visible : ∀ fields, Visible (moreFieldChars fields)
  | [] => .cons (by decide) .nil
  | (name, v) :: fs => by
    rw [moreFieldChars_cons]
    exact .cons (by decide) (.cons (by decide) ((stringChars_visible name).append
      (.cons (by decide) (.cons (by decide) ((chars_visible v).append (moreFieldChars_visible fs))))))
end

end TileCrew.Json
