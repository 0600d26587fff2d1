/-
The machine that reads UTF-8 undoes writing it.
- `lead_two`, `lead_three`, `lead_four`: a written lead octet begins a character whose range admits the written tail;
- `run_char`: a written character is read as that character;
- `run_encode`: a written text is read as that text, from any state between characters;
- `decode_encode`: **octets written for a text stand for that text**;
- `run_torn`: octets that end within a written character leave it under way, and `take_encode`: octets written for a text
  and cut anywhere are those of a part of it, and of a torn character if the cut is within one.
-/
import TileCrew.Text.Utf8

namespace TileCrew.Utf8

/-! ## Single octets -/

theorem toNat_octet {n : Nat} (h : n < 256) : (UInt8.ofNat n).toNat = n := by
  rw [UInt8.toNat_ofNat', Nat.mod_eq_of_lt h]

theorem octet_le {m n : Nat} (hm : m < 256) (hn : n < 256) : UInt8.ofNat m ≤ UInt8.ofNat n ↔ m ≤ n := by
  rw [UInt8.le_iff_toNat_le, toNat_octet hm, toNat_octet hn]

theorem octet_lt {m n : Nat} (hm : m < 256) (hn : n < 256) : UInt8.ofNat m < UInt8.ofNat n ↔ m < n := by
  rw [UInt8.lt_iff_toNat_lt, toNat_octet hm, toNat_octet hn]

theorem step_ascii {done : List Char} {k n : Nat} (h : n < 128) :
    State.step ⟨done, k, none⟩ (UInt8.ofNat n) = .ok ⟨Char.ofNat n :: done, k + 1, none⟩ := by
  have hlt : UInt8.ofNat n < 0x80 := (octet_lt (n := 0x80) (by omega) (by omega)).2 h
  simp only [State.step, hlt, if_true, toNat_octet (show n < 256 by omega)]

theorem step_lead {done : List Char} {k n : Nat} {p : Partial} (hn : 128 ≤ n) (hn' : n < 256)
    (h : Partial.ofLead? (UInt8.ofNat n) = some p) :
    State.step ⟨done, k, none⟩ (UInt8.ofNat n) = .ok ⟨done, k + 1, some p⟩ := by
  have hlt : ¬UInt8.ofNat n < 0x80 := fun hc => absurd ((octet_lt (n := 0x80) hn' (by omega)).1 hc) (by omega)
  simp only [State.step, hlt, if_false, h]

theorem step_tail {done : List Char} {k n : Nat} {p : Partial} (hn : n < 64) (howed : 1 < p.owed)
    (hrange : p.low ≤ UInt8.ofNat (n + 0x80) ∧ UInt8.ofNat (n + 0x80) ≤ p.high) :
    State.step ⟨done, k, some p⟩ (UInt8.ofNat (n + 0x80)) =
      .ok ⟨done, k + 1, some ⟨UInt8.ofNat (n + 0x80) :: p.seen, p.owed - 1, 0x80, 0xbf, p.code * 64 + n⟩⟩ := by
  have hcode : (UInt8.ofNat (n + 0x80)).toNat - 0x80 = n := by rw [toNat_octet (by omega)]; omega
  simp only [State.step, hrange, and_self, if_true, Nat.not_le.2 howed, if_false, hcode]

theorem step_last {done : List Char} {k n : Nat} {p : Partial} (hn : n < 64) (howed : p.owed ≤ 1)
    (hrange : p.low ≤ UInt8.ofNat (n + 0x80) ∧ UInt8.ofNat (n + 0x80) ≤ p.high) :
    State.step ⟨done, k, some p⟩ (UInt8.ofNat (n + 0x80)) =
      .ok ⟨Char.ofNat (p.code * 64 + n) :: done, k + 1, none⟩ := by
  have hcode : (UInt8.ofNat (n + 0x80)).toNat - 0x80 = n := by rw [toNat_octet (by omega)]; omega
  simp only [State.step, hrange, and_self, if_true, howed, hcode]

/-- every tail octet lies in the widest range -/
theorem tail_range {n : Nat} (h : n < 64) : 0x80 ≤ UInt8.ofNat (n + 0x80) ∧ UInt8.ofNat (n + 0x80) ≤ 0xbf :=
  ⟨(octet_le (m := 0x80) (by omega) (by omega)).2 (by omega), (octet_le (n := 0xbf) (by omega) (by omega)).2 (by omega)⟩

/-! ## Lead octets -/

theorem lead_two {v : Nat} (h : 0x7f < v) (h' : v ≤ 0x7ff) :
    Partial.ofLead? (UInt8.ofNat (v / 64 % 0x20 + 0xc0)) =
      some ⟨[UInt8.ofNat (v / 64 % 0x20 + 0xc0)], 1, 0x80, 0xbf, v / 64⟩ := by
  have hn := toNat_octet (show v / 64 % 0x20 + 0xc0 < 256 by omega)
  have hcode : v / 64 % 0x20 + 0xc0 - 0xc0 = v / 64 := by omega
  simp only [Partial.ofLead?, hn, hcode]
  rw [if_pos (by omega)]

/-- of three octets: after E0 the tail starts at A0, after ED it ends at 9F, since surrogates are no characters -/
theorem lead_three {v : Nat} (h : 0x7ff < v) (h' : v ≤ 0xffff) (hv : v < 0xd800 ∨ 0xdfff < v) :
    ∃ low high, Partial.ofLead? (UInt8.ofNat (v / 4096 % 0x10 + 0xe0)) =
        some ⟨[UInt8.ofNat (v / 4096 % 0x10 + 0xe0)], 2, low, high, v / 4096⟩ ∧
      low ≤ UInt8.ofNat (v / 64 % 0x40 + 0x80) ∧ UInt8.ofNat (v / 64 % 0x40 + 0x80) ≤ high := by
  have hn := toNat_octet (show v / 4096 % 0x10 + 0xe0 < 256 by omega)
  have hcode : v / 4096 % 0x10 + 0xe0 - 0xe0 = v / 4096 := by omega
  have hwide := tail_range (show v / 64 % 0x40 < 64 by omega)
  simp only [Partial.ofLead?, hn, hcode]
  rw [if_neg (by omega)]
  by_cases h0 : v / 4096 % 0x10 + 0xe0 = 0xe0
  · have hzero : v / 4096 = 0 := by omega
    rw [if_pos h0, hzero]
    exact ⟨_, _, rfl, (octet_le (m := 0xa0) (by omega) (by omega)).2 (by omega), hwide.2⟩
  rw [if_neg h0]
  by_cases hd : v / 4096 % 0x10 + 0xe0 = 0xed
  · have hthirteen : v / 4096 = 0xd := by omega
    rw [if_pos hd, hthirteen]
    exact ⟨_, _, rfl, hwide.1, (octet_le (n := 0x9f) (by omega) (by omega)).2 (by omega)⟩
  rw [if_neg hd, if_pos (by omega)]
  exact ⟨_, _, rfl, hwide⟩

/-- of four octets: after F0 the tail starts at 90, after F4 it ends at 8F -/
theorem lead_four {v : Nat} (h : 0xffff < v) (h' : v < 0x110000) :
    ∃ low high, Partial.ofLead? (UInt8.ofNat (v / 262144 % 0x08 + 0xf0)) =
        some ⟨[UInt8.ofNat (v / 262144 % 0x08 + 0xf0)], 3, low, high, v / 262144⟩ ∧
      low ≤ UInt8.ofNat (v / 4096 % 0x40 + 0x80) ∧ UInt8.ofNat (v / 4096 % 0x40 + 0x80) ≤ high := by
  have hn := toNat_octet (show v / 262144 % 0x08 + 0xf0 < 256 by omega)
  have hcode : v / 262144 % 0x08 + 0xf0 - 0xf0 = v / 262144 := by omega
  have hwide := tail_range (show v / 4096 % 0x40 < 64 by omega)
  simp only [Partial.ofLead?, hn, hcode]
  rw [if_neg (by omega), if_neg (by omega), if_neg (by omega), if_neg (by omega)]
  by_cases h0 : v / 262144 % 0x08 + 0xf0 = 0xf0
  · have hzero : v / 262144 = 0 := by omega
    rw [if_pos h0, hzero]
    exact ⟨_, _, rfl, (octet_le (m := 0x90) (by omega) (by omega)).2 (by omega), hwide.2⟩
  rw [if_neg h0]
  by_cases h4 : v / 262144 % 0x08 + 0xf0 = 0xf4
  · have hfour : v / 262144 = 4 := by omega
    rw [if_neg (by omega), if_pos h4, hfour]
    exact ⟨_, _, rfl, hwide.1, (octet_le (n := 0x8f) (by omega) (by omega)).2 (by omega)⟩
  rw [if_pos (by omega)]
  exact ⟨_, _, rfl, hwide⟩

/-! ## Characters and texts -/

theorem run_cons {s t : State} {b : UInt8} {bs : List UInt8} (h : s.step b = .ok t) : s.run (b :: bs) = t.run bs := by
  simp only [State.run, h]

theorem run_char (done : List Char) (k : Nat) (c : Char) (rest : List UInt8) :
    State.run ⟨done, k, none⟩ (String.utf8EncodeChar c ++ rest) =
      State.run ⟨c :: done, k + (String.utf8EncodeChar c).length, none⟩ rest := by
  have hv : c.val.toNat.isValidChar := c.valid
  have hc : Char.ofNat c.val.toNat = c := Char.ofNat_toNat c
  unfold String.utf8EncodeChar
  generalize c.val.toNat = v at hv hc
  have hlt : v < 0x110000 := by rcases hv with h | h <;> omega
  have hsurrogate : v < 0xd800 ∨ 0xdfff < v := by rcases hv with h | h <;> omega
  -- one case for each width, from one octet to four
  by_cases h1 : v ≤ 0x7f
  · rw [if_pos h1, List.cons_append, run_cons (step_ascii (by omega)), hc]
    rfl
  rw [if_neg h1]
  by_cases h2 : v ≤ 0x7ff
  · have hlead := lead_two (by omega) h2
    have hcode : v / 64 * 64 + v % 0x40 = v := by omega
    rw [if_pos h2, List.cons_append, run_cons (step_lead (by omega) (by omega) hlead), List.cons_append,
      run_cons (step_last (by omega) (Nat.le_refl 1) (tail_range (by omega))), hcode, hc]
    rfl
  rw [if_neg h2]
  by_cases h3 : v ≤ 0xffff
  · obtain ⟨low, high, hlead, hfirst⟩ := lead_three (by omega) h3 hsurrogate
    have hcode : (v / 4096 * 64 + v / 64 % 0x40) * 64 + v % 0x40 = v := by omega
    rw [if_pos h3, List.cons_append, run_cons (step_lead (by omega) (by omega) hlead), List.cons_append,
      run_cons (step_tail (by omega) (by simp) hfirst), List.cons_append,
      run_cons (step_last (by omega) (Nat.le_refl 1) (tail_range (by omega))), hcode, hc]
    rfl
  obtain ⟨low, high, hlead, hfirst⟩ := lead_four (by omega) hlt
  have hcode : ((v / 262144 * 64 + v / 4096 % 0x40) * 64 + v / 64 % 0x40) * 64 + v % 0x40 = v := by omega
  rw [if_neg h3, List.cons_append, run_cons (step_lead (by omega) (by omega) hlead), List.cons_append,
    run_cons (step_tail (by omega) (by simp) hfirst), List.cons_append,
    run_cons (step_tail (by omega) (by simp) (tail_range (by omega))), List.cons_append,
    run_cons (step_last (by omega) (Nat.le_refl 1) (tail_range (by omega))), hcode, hc]
  rfl

/-- a written text is read as that text, from any state between characters -/
theorem run_encode (done : List Char) (k : Nat) (cs : List Char) :
    State.run ⟨done, k, none⟩ (encode cs) = (⟨cs.reverse ++ done, k + (encode cs).length, none⟩, none) := by
  induction cs generalizing done k with
  | nil => rfl
  | cons c cs ih =>
    have hsplit : encode (c :: cs) = String.utf8EncodeChar c ++ encode cs := List.flatMap_cons
    rw [hsplit, run_char, ih, List.length_append, List.reverse_cons, List.append_assoc, Nat.add_assoc]
    rfl

/-- **Octets that were written for a text stand for that text.** -/
theorem decode_encode (cs : List Char) : decode (encode cs) = .ok cs := by
  have h := run_encode [] 0 cs
  simp only [decode, State.empty, h, State.cutOff?, Option.map_none, List.append_nil, List.reverse_reverse]

theorem encode_append (cs ds : List Char) : encode (cs ++ ds) = encode cs ++ encode ds := List.flatMap_append

/-! ## Characters that break off -/

theorem run_cons_ok {s t : State} {b : UInt8} {bs : List UInt8} (h : s.run (b :: bs) = (t, none)) :
    ∃ s', s.step b = .ok s' ∧ s'.run bs = (t, none) := by
  cases hstep : s.step b with
  | error e =>
    simp only [State.run, hstep] at h
    cases (Prod.mk.inj h).2
  | ok s' =>
    rw [run_cons hstep] at h
    exact ⟨s', rfl, h⟩

theorem run_append {s t : State} {as : List UInt8} (h : s.run as = (t, none)) (bs : List UInt8) :
    s.run (as ++ bs) = t.run bs := by
  induction as generalizing s with
  | nil =>
    rw [State.run] at h
    rw [← (Prod.mk.inj h).1]
    rfl
  | cons a as ih =>
    obtain ⟨s', hstep, hrun⟩ := run_cons_ok h
    rw [List.cons_append, run_cons hstep]
    exact ih hrun

theorem run_append_ok {s t : State} {as bs : List UInt8} (h : s.run (as ++ bs) = (t, none)) :
    ∃ u, s.run as = (u, none) ∧ u.run bs = (t, none) := by
  induction as generalizing s with
  | nil => exact ⟨s, rfl, h⟩
  | cons a as ih =>
    obtain ⟨s', hstep, hrun⟩ := run_cons_ok h
    obtain ⟨u, has, hbs⟩ := ih hrun
    exact ⟨u, by rw [run_cons hstep, has], hbs⟩

/-- an octet that is not refused leaves a character under way, or completes one -/
theorem step_done {s t : State} {b : UInt8} (h : s.step b = .ok t) :
    t.done = s.done ∧ t.pending.isSome = true ∨ (∃ c, t.done = c :: s.done) ∧ t.pending = none := by
  unfold State.step at h
  split at h
  · split at h
    · cases h
      exact .inr ⟨⟨_, rfl⟩, rfl⟩
    · split at h
      · cases h
        exact .inl ⟨rfl, rfl⟩
      · cases h
  · split at h
    · dsimp only at h
      split at h
      · cases h
        exact .inr ⟨⟨_, rfl⟩, rfl⟩
      · cases h
        exact .inl ⟨rfl, rfl⟩
    · cases h

theorem run_done {s t : State} {bs : List UInt8} (h : s.run bs = (t, none)) : s.done <:+ t.done := by
  induction bs generalizing s with
  | nil =>
    rw [State.run] at h
    obtain rfl : s = t := (Prod.mk.inj h).1
    exact List.suffix_rfl
  | cons b bs ih =>
    obtain ⟨s', hstep, hrun⟩ := run_cons_ok h
    have hrest := ih hrun
    rcases step_done hstep with ⟨hdone, -⟩ | ⟨⟨c, hdone⟩, -⟩
    · rwa [hdone] at hrest
    · rw [hdone] at hrest
      exact (List.suffix_cons c s.done).trans hrest

/-- octets behind which no character is under way have completed one at least -/
theorem run_closed {s t : State} {bs : List UInt8} (h : s.run bs = (t, none)) (hbs : bs ≠ [])
    (ht : t.pending = none) : s.done.length < t.done.length := by
  obtain ⟨bs, b, rfl⟩ := (List.eq_nil_or_concat bs).resolve_left hbs
  rw [List.concat_eq_append] at h
  obtain ⟨u, hbs, hb⟩ := run_append_ok h
  -- only the last octet can have completed the character that ends here
  obtain ⟨u', hstep, hend⟩ := run_cons_ok hb
  obtain rfl : u' = t := (Prod.mk.inj hend).1
  rcases step_done hstep with ⟨-, hpending⟩ | ⟨⟨c, hdone⟩, -⟩
  · rw [ht] at hpending
    cases hpending
  · rw [hdone]
    exact Nat.lt_succ_of_le (run_done hbs).length_le

/-- **Octets that end within a written character leave it under way**, and nothing is read for them. -/
theorem run_torn (done : List Char) (k : Nat) {c : Char} {part t : List UInt8}
    (h : String.utf8EncodeChar c = part ++ t) (hpart : part ≠ []) (ht : t ≠ []) :
    ∃ j p, State.run ⟨done, k, none⟩ part = (⟨done, j, some p⟩, none) := by
  have hwhole := run_char done k c []
  rw [List.append_nil, h, State.run] at hwhole
  obtain ⟨u, hrun, hmissing⟩ := run_append_ok hwhole
  -- what is missing completes a character, and the written one is all that is completed
  have hfew := run_closed hmissing ht rfl
  have hdone : done = u.done := (run_done hrun).eq_of_length_le (Nat.le_of_lt_succ hfew)
  obtain ⟨done', j, pending⟩ := u
  obtain rfl : done = done' := hdone
  cases pending with
  | none => exact absurd (run_closed hrun hpart rfl) (Nat.lt_irrefl _)
  | some p => exact ⟨j, p, hrun⟩

/-- octets that are part of a character but not all of it -/
def Torn (part : List UInt8) : Prop := ∃ c t, String.utf8EncodeChar c = part ++ t ∧ part ≠ [] ∧ t ≠ []

/-- **Octets written for a text and cut anywhere** are those of a part of the text, and of a torn character if the cut is
within one. -/
theorem take_encode (cs : List Char) (k : Nat) :
    ∃ ds es part, cs = ds ++ es ∧ (encode cs).take k = encode ds ++ part ∧ (part = [] ∨ Torn part) := by
  induction cs generalizing k with
  | nil => exact ⟨[], [], [], rfl, List.take_nil, .inl rfl⟩
  | cons c cs ih =>
    have hsplit : encode (c :: cs) = String.utf8EncodeChar c ++ encode cs := List.flatMap_cons
    by_cases hk : (String.utf8EncodeChar c).length ≤ k
    · obtain ⟨ds, es, part, hcs, htake, hpart⟩ := ih (k - (String.utf8EncodeChar c).length)
      refine ⟨c :: ds, es, part, by rw [hcs]; rfl, ?_, hpart⟩
      have hds : encode (c :: ds) = String.utf8EncodeChar c ++ encode ds := List.flatMap_cons
      rw [hsplit, hds, List.take_append, List.take_of_length_le hk, htake, List.append_assoc]
    · have htake : (encode (c :: cs)).take k = (String.utf8EncodeChar c).take k := by
        rw [hsplit, List.take_append_of_le_length (by omega)]
      refine ⟨[], c :: cs, (String.utf8EncodeChar c).take k, rfl, htake, ?_⟩
      by_cases hzero : k = 0
      · exact .inl (by rw [hzero, List.take_zero])
      · refine .inr ⟨c, (String.utf8EncodeChar c).drop k, (List.take_append_drop k _).symm, ?_, ?_⟩
        · intro hnil
          have hlen := congrArg List.length hnil
          rw [List.length_take, List.length_nil] at hlen
          omega
        · intro hnil
          have hlen := congrArg List.length hnil
          rw [List.length_drop, List.length_nil] at hlen
          omega

end TileCrew.Utf8
