/-
Decimal digits of naturals. The written digits of a natural are ASCII digits, at least one, without a leading zero unless
the natural is zero (`IsWhole`); they stand for it (`valueOf_digitsOf`), also with zeros in front of them, and each zero
behind them is a factor of ten (`valueOf_zeros_append`, `valueOf_append`).
-/
import TileCrew.Decimal.Conversion
import TileCrew.Proofs.Text.Runs
import TileCrew.Text.Character

namespace TileCrew.Text

open Decimal

/-- the number that ASCII digits stand for -/
def valueOf (ds : List Char) : Nat := ofDigits (ds.map asciiValue)

def AreDigits (cs : List Char) : Prop := ∀ c ∈ cs, isAsciiDigit c = true

/-- digits that may stand before a point: one zero, or digits of which the first is no zero -/
def IsWhole (cs : List Char) : Prop := AreDigits cs ∧ (cs = ['0'] ∨ cs ≠ [] ∧ Stops (· == '0') cs)

/-! ## Values -/

theorem valueOf_eq (ds : List Char) : valueOf ds = Nat.ofDigitChars 10 ds 0 := by
  rw [valueOf, ofDigits, List.foldl_map, Nat.ofDigitChars_eq_foldl]
  rfl

theorem valueOf_append (ds es : List Char) : valueOf (ds ++ es) = 10 ^ es.length * valueOf ds + valueOf es := by
  rw [valueOf_eq, valueOf_eq, valueOf_eq, Nat.ofDigitChars_append, Nat.ofDigitChars_eq_ofDigitChars_zero]

theorem valueOf_zeros (n : Nat) : valueOf (List.replicate n '0') = 0 := by
  rw [valueOf_eq, Nat.ofDigitChars_replicate_zero, Nat.mul_zero]

theorem valueOf_zeros_append (n : Nat) (ds : List Char) : valueOf (List.replicate n '0' ++ ds) = valueOf ds := by
  rw [valueOf_append, valueOf_zeros, Nat.mul_zero, Nat.zero_add]

theorem valueOf_append_zeros (n : Nat) (ds : List Char) :
    valueOf (ds ++ List.replicate n '0') = 10 ^ n * valueOf ds := by
  rw [valueOf_append, valueOf_zeros, List.length_replicate, Nat.add_zero]

/-! ## Written digits -/

theorem areDigits_append {cs ds : List Char} (hc : AreDigits cs) (hd : AreDigits ds) : AreDigits (cs ++ ds) := by
  intro c h
  rcases List.mem_append.1 h with h | h
  · exact hc c h
  · exact hd c h

theorem areDigits_zeros (n : Nat) : AreDigits (List.replicate n '0') := by
  intro c h
  rw [List.eq_of_mem_replicate h]
  rfl

theorem areDigits_digitsOf (n : Nat) : AreDigits (digitsOf n) := by
  intro c h
  have hc : c.isDigit = true := Nat.isDigit_of_mem_toDigits (by decide) (by decide) h
  simpa [isAsciiDigit, Char.isDigit, Char.le_def, UInt32.le_iff_toNat_le] using hc

theorem valueOf_digitsOf (n : Nat) : valueOf (digitsOf n) = n := by
  rw [valueOf_eq]
  exact Nat.ofDigitChars_ten_toDigits

theorem digitsOf_ne_nil (n : Nat) : digitsOf n ≠ [] := Nat.toDigits_ne_nil

theorem digitsOf_stops {n : Nat} (h : n ≠ 0) : Stops (· == '0') (digitsOf n) := by
  induction n using Nat.strongRecOn with
  | ind n ih =>
    by_cases hn : n < 10
    · have hd : digitsOf n = [n.digitChar] := Nat.toDigits_of_lt_base hn
      rw [hd, stops_cons, beq_eq_false_iff_ne]
      intro hz
      have hval := Nat.toNat_digitChar_of_lt_ten hn
      rw [hz] at hval
      have h48 : '0'.toNat = 48 := rfl
      omega
    · have hd : digitsOf n = digitsOf (n / 10) ++ [(n % 10).digitChar] :=
        Nat.toDigits_of_base_le (by decide) (by omega)
      have hprior : Stops (· == '0') (digitsOf (n / 10)) := ih (n / 10) (by omega) (by omega)
      rw [hd]
      cases hfront : digitsOf (n / 10) with
      | nil => exact absurd hfront (digitsOf_ne_nil _)
      | cons d ds =>
        rw [hfront, stops_cons] at hprior
        exact stops_cons.2 hprior

theorem isWhole_digitsOf (n : Nat) : IsWhole (digitsOf n) := by
  refine ⟨areDigits_digitsOf n, ?_⟩
  by_cases h : n = 0
  · rw [h]
    exact .inl (Nat.toDigits_zero 10)
  · exact .inr ⟨digitsOf_ne_nil n, digitsOf_stops h⟩

theorem IsWhole.ne_nil {cs : List Char} (h : IsWhole cs) : cs ≠ [] := by
  rcases h.2 with rfl | h
  · exact List.cons_ne_nil _ _
  · exact h.1

theorem isWhole_take {ds : List Char} (h : AreDigits ds) (hne : ds ≠ []) (hzero : Stops (· == '0') ds) (k : Nat) :
    IsWhole (ds.take (k + 1)) := by
  cases ds with
  | nil => exact absurd rfl hne
  | cons d ds =>
    rw [stops_cons] at hzero
    exact ⟨fun c hc => h c (List.mem_of_mem_take hc), .inr ⟨List.cons_ne_nil _ _, stops_cons.2 hzero⟩⟩

theorem digitsOf_length_le {n k : Nat} (hk : 0 < k) : (digitsOf n).length ≤ k ↔ n < 10 ^ k :=
  Nat.length_toDigits_le_iff (by decide) hk

end TileCrew.Text
