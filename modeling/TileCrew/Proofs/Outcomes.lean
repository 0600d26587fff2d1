/-
Outcomes of steps in a row. Where one step fails the row fails; so a row that comes to no fault has taken every step
(`bind_ok`, `map_ok`), and a list that is worked through without a fault has been worked through item by item (`mapM_ok`,
`mapM_all`). A fault in a list is that of the first item that has one (`mapM_error`).
-/
import Mathlib.Data.List.Forall2

namespace TileCrew

variable {ε α β γ : Type}

theorem bind_ok {x : Except ε α} {f : α → Except ε β} {b : β} :
    (x >>= f) = .ok b ↔ ∃ a, x = .ok a ∧ f a = .ok b := by
  cases x with
  | ok a => exact ⟨fun h => ⟨a, rfl, h⟩, fun ⟨_, ha, h⟩ => by rw [Except.ok.inj ha]; exact h⟩
  | error e => exact ⟨fun h => (by cases h), fun ⟨_, ha, _⟩ => (by cases ha)⟩

theorem bind_error {x : Except ε α} {f : α → Except ε β} {e : ε} :
    (x >>= f) = .error e ↔ x = .error e ∨ ∃ a, x = .ok a ∧ f a = .error e := by
  cases x with
  | ok a =>
    constructor
    · exact fun h => .inr ⟨a, rfl, h⟩
    · rintro (h | ⟨_, ha, h⟩)
      · cases h
      · cases ha; exact h
  | error e' =>
    constructor
    · intro h
      cases h
      exact .inl rfl
    · rintro (h | ⟨_, ha, -⟩)
      · cases h; rfl
      · cases ha

theorem map_ok {x : Except ε α} {f : α → β} {b : β} : x.map f = .ok b ↔ ∃ a, x = .ok a ∧ f a = b := by
  cases x with
  | ok a => exact ⟨fun h => ⟨a, rfl, Except.ok.inj h⟩, fun ⟨_, ha, h⟩ => by rw [Except.ok.inj ha, ← h]; rfl⟩
  | error e => exact ⟨fun h => (by cases h), fun ⟨_, ha, _⟩ => (by cases ha)⟩

theorem ok_of_toOption {x : Except ε α} {a : α} (h : x.toOption = some a) : x = .ok a := by
  cases x with
  | ok b => exact congrArg Except.ok (Option.some.inj h)
  | error e => cases h

/-! ## Outcomes that agree but for their results -/

theorem ok_iff_of_map {x : Except ε α} {y : Except ε β} (h : (x.map fun _ => ()) = y.map fun _ => ()) :
    (∃ a, x = .ok a) ↔ ∃ b, y = .ok b := by
  cases x <;> cases y <;> simp_all [Except.map]

theorem error_iff_of_map {x : Except ε α} {y : Except ε β} (h : (x.map fun _ => ()) = y.map fun _ => ()) (e : ε) :
    x = .error e ↔ y = .error e := by
  cases x <;> cases y <;> simp_all [Except.map]

/-! ## Lists -/

variable {f : α → Except ε β} {xs : List α} {ys : List β}

theorem mapM_ok (h : xs.mapM f = .ok ys) : List.Forall₂ (fun x y => f x = .ok y) xs ys := by
  induction xs generalizing ys with
  | nil => cases h; exact .nil
  | cons x xs ih =>
    rw [List.mapM_cons] at h
    obtain ⟨y, hy, h⟩ := bind_ok.1 h
    obtain ⟨ys', hys', h⟩ := bind_ok.1 h
    cases h
    exact .cons hy (ih hys')

theorem mapM_all (h : List.Forall₂ (fun x y => f x = .ok y) xs ys) : xs.mapM f = .ok ys := by
  induction h with
  | nil => rfl
  | cons hy _ ih =>
    rw [List.mapM_cons]
    exact bind_ok.2 ⟨_, hy, bind_ok.2 ⟨_, ih, rfl⟩⟩

/-- a list comes to the fault of the first item that has one -/
theorem mapM_error {e : ε} : xs.mapM f = .error e ↔
    ∃ before x after, xs = before ++ x :: after ∧ (∀ b ∈ before, ∃ y, f b = .ok y) ∧ f x = .error e := by
  induction xs with
  | nil =>
    constructor
    · rintro ⟨⟩
    · rintro ⟨before, x, after, hxs, -⟩
      exact absurd hxs (by simp)
  | cons x xs ih =>
    rw [List.mapM_cons, bind_error]
    constructor
    · rintro (hx | ⟨y, hy, h⟩)
      · exact ⟨[], x, xs, rfl, by simp, hx⟩
      · rcases bind_error.1 h with h | ⟨ys, -, h⟩
        · obtain ⟨before, x', after, rfl, hbefore, hx'⟩ := ih.1 h
          exact ⟨x :: before, x', after, rfl, List.forall_mem_cons.2 ⟨⟨y, hy⟩, hbefore⟩, hx'⟩
        · cases h
    · rintro ⟨before, x', after, hxs, hbefore, hx'⟩
      cases before with
      | nil => cases hxs; exact .inl hx'
      | cons b before =>
        cases hxs
        obtain ⟨⟨y, hy⟩, hbefore⟩ := List.forall_mem_cons.1 hbefore
        exact .inr ⟨y, hy, bind_error.2 (.inl (ih.2 ⟨before, x', after, rfl, hbefore, hx'⟩))⟩

theorem mapM_any : (∃ ys, xs.mapM f = .ok ys) ↔ ∀ x ∈ xs, ∃ y, f x = .ok y := by
  constructor
  · rintro ⟨ys, h⟩
    have hall := mapM_ok h
    clear h
    induction hall with
    | nil => simp
    | cons hy _ ih => exact List.forall_mem_cons.2 ⟨⟨_, hy⟩, ih⟩
  · intro h
    cases hmap : xs.mapM f with
    | ok ys => exact ⟨ys, rfl⟩
    | error e =>
      obtain ⟨before, x, after, rfl, -, hx⟩ := mapM_error.1 hmap
      obtain ⟨y, hy⟩ := h x (by simp)
      cases hx.symm.trans hy

theorem mapM_getElem? (h : xs.mapM f = .ok ys) {i : Nat} {x : α} (hx : xs[i]? = some x) :
    ∃ y, f x = .ok y ∧ ys[i]? = some y := by
  have hall := mapM_ok h
  clear h
  induction hall generalizing i with
  | nil => cases hx
  | cons hy _ ih =>
    cases i with
    | zero => cases hx; exact ⟨_, hy, rfl⟩
    | succ i => exact ih hx

/-- what has come of a list shows item by item what the list has -/
theorem mapM_map {g : α → γ} {k : β → γ} (hf : ∀ x y, f x = .ok y → k y = g x) (h : xs.mapM f = .ok ys) :
    ys.map k = xs.map g := by
  have hall := mapM_ok h
  clear h
  induction hall with
  | nil => rfl
  | cons hy _ ih => rw [List.map_cons, List.map_cons, hf _ _ hy, ih]

end TileCrew
