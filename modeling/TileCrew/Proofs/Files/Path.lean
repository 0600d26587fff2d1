/-
Paths and the texts that spell them. What a text spells starts in one of three ways and goes through names that are not
left out and have no slash in them (`Spelled`, `ofText_spelled`).
- `Spelled.ofText_text`: **the text of such a path spells that very path**, so a path that is written down and read again
  leads to the same file.
-/
import Mathlib
import TileCrew.Files.Path

namespace TileCrew.Path

/-- a text can spell the path -/
structure Spelled (p : Path) : Prop where
  start : p.start ∈ ["", "/", "//"]
  names : ∀ n ∈ p.names, (n ≠ "" ∧ n ≠ ".") ∧ '/' ∉ n.toList

/-! ## Pieces -/

theorem pieces_noSlash {cs : List Char} (h : '/' ∉ cs) (piece : List Char) :
    pieces piece cs = [String.ofList (piece.reverse ++ cs)] := by
  induction cs generalizing piece with
  | nil => rw [List.append_nil, pieces]
  | cons c cs ih =>
    have hc : c ≠ '/' := fun hc => h (by rw [hc]; exact List.mem_cons_self)
    rw [pieces, if_neg hc, ih fun hm => h (List.mem_cons_of_mem c hm), List.reverse_cons, List.append_assoc]
    rfl

theorem pieces_slash {cs : List Char} (h : '/' ∉ cs) (piece rest : List Char) :
    pieces piece (cs ++ '/' :: rest) = String.ofList (piece.reverse ++ cs) :: pieces [] rest := by
  induction cs generalizing piece with
  | nil => rw [List.nil_append, List.append_nil, pieces, if_pos rfl]
  | cons c cs ih =>
    have hc : c ≠ '/' := fun hc => h (by rw [hc]; exact List.mem_cons_self)
    rw [List.cons_append, pieces, if_neg hc, ih fun hm => h (List.mem_cons_of_mem c hm), List.reverse_cons,
      List.append_assoc]
    rfl

/-- names are the pieces of what they are joined to -/
theorem pieces_joined {n : String} {ns : List String} (h : ∀ m ∈ n :: ns, '/' ∉ m.toList) :
    pieces [] ("/".intercalate (n :: ns)).toList = n :: ns := by
  induction ns generalizing n with
  | nil =>
    rw [String.intercalate_singleton, pieces_noSlash (h n List.mem_cons_self)]
    simp
  | cons m ns ih =>
    have hn := h n List.mem_cons_self
    have hns : ∀ m' ∈ m :: ns, '/' ∉ m'.toList := fun m' hm' => h m' (List.mem_cons_of_mem n hm')
    have htext : ("/".intercalate (n :: m :: ns)).toList = n.toList ++ '/' :: ("/".intercalate (m :: ns)).toList := by
      rw [String.intercalate_cons_cons]
      simp
    rw [htext, pieces_slash hn, ih hns]
    simp

theorem pieces_clean (piece cs : List Char) (h : '/' ∉ piece) : ∀ n ∈ pieces piece cs, '/' ∉ n.toList := by
  induction cs generalizing piece with
  | nil =>
    rw [pieces, List.forall_mem_singleton, String.toList_ofList, List.mem_reverse]
    exact h
  | cons c cs ih =>
    rw [pieces]
    split
    · refine List.forall_mem_cons.2 ⟨?_, ih [] List.not_mem_nil⟩
      rw [String.toList_ofList, List.mem_reverse]
      exact h
    · next hc => exact ih (c :: piece) (by simp [Ne.symm hc, h])

/-! ## Texts and paths -/

theorem startOf_mem (cs : List Char) : startOf cs ∈ ["", "/", "//"] := by
  unfold startOf
  split <;> simp

theorem ofText_spelled (t : String) : (ofText t).Spelled where
  start := startOf_mem t.toList
  names := fun n hn => by
    obtain ⟨hpiece, hkept⟩ := List.mem_filter.1 hn
    exact ⟨by simpa using hkept, pieces_clean [] t.toList List.not_mem_nil n hpiece⟩

/-- a start is read up to the names behind it, and gives no name -/
theorem ofText_behind {start : String} (hstart : start ∈ ["", "/", "//"]) {body : String} {c : Char} {cs : List Char}
    (hbody : body.toList = c :: cs) (hc : c ≠ '/') : ofText (start ++ body) = ⟨start, (ofText body).names⟩ := by
  rw [ofText, ofText, String.toList_append, hbody]
  simp only [List.mem_cons, List.not_mem_nil, or_false] at hstart
  rcases hstart with rfl | rfl | rfl
  · simp [startOf, hc]
  · simp [startOf, pieces, hc]
  · simp [startOf, pieces, hc]

/-- **The text of a path spells that path.** -/
theorem Spelled.ofText_text {p : Path} (h : p.Spelled) : ofText p.text = p := by
  obtain ⟨start, names⟩ := p
  have hstart : start ∈ ["", "/", "//"] := h.start
  cases names with
  | nil =>
    simp only [List.mem_cons, List.not_mem_nil, or_false] at hstart
    rcases hstart with rfl | rfl | rfl <;> decide
  | cons n ns =>
    have hnames : ∀ m ∈ n :: ns, (m ≠ "" ∧ m ≠ ".") ∧ '/' ∉ m.toList := h.names
    have hpieces := pieces_joined fun m hm => (hnames m hm).2
    have hkept : (ofText ("/".intercalate (n :: ns))).names = n :: ns := by
      rw [ofText, hpieces]
      exact List.filter_eq_self.2 fun m hm => by simpa using (hnames m hm).1
    -- the first name is not empty, so it is no slash that the names begin with
    obtain ⟨c, cs, hbody, hc⟩ : ∃ c cs, ("/".intercalate (n :: ns)).toList = c :: cs ∧ c ≠ '/' := by
      have hne := (hnames n List.mem_cons_self).1.1
      cases hb : ("/".intercalate (n :: ns)).toList with
      | nil =>
        rw [hb] at hpieces
        exact absurd (List.cons.inj hpieces).1.symm hne
      | cons c cs =>
        refine ⟨c, cs, rfl, ?_⟩
        rintro rfl
        rw [hb] at hpieces
        exact absurd (List.cons.inj hpieces).1.symm hne
    rw [text, List.isEmpty_cons, Bool.and_false, if_neg (by decide), ofText_behind hstart hbody hc, hkept]

end TileCrew.Path
