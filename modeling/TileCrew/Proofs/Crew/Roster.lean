/-
The roster as a map whose slots stay in place. Two views say what an operation does to it: the agent found under a key and
the keys in the order of their slots.
- `find?_put_self`, `find?_put_ne`, `keys_put_old`, `slots_put_new`: the last agent put under a key is found there; a key
  that has a slot keeps it, another gets one at the end;
- `find?_remove_self`, `find?_remove_ne`, `keys_remove`: a key is removed with its slot, and nothing else;
- `Kept`: slot by slot the same keys, and agents that stand in a relation. Time passes in this way (`update_kept`), and
  so does all that is given to agents;
- `Sound`: no key has two slots, and each is the folding of its agent's name. Every operation keeps it.
-/
import Mathlib.Data.List.Forall2
import Mathlib.Data.List.Nodup
import TileCrew.Crew.Roster

namespace TileCrew.Roster

/-! ## Looking up -/

theorem find?_nil (k : Text) : (⟨[]⟩ : Roster).find? k = none := rfl

theorem find?_cons (s : Text × Agent) (ss : List (Text × Agent)) (k : Text) :
    (⟨s :: ss⟩ : Roster).find? k = if s.1 = k then some s.2 else (⟨ss⟩ : Roster).find? k := by
  simp only [find?, List.find?_cons]
  by_cases h : s.1 = k
  · rw [if_pos h, h, beq_self_eq_true]; rfl
  · rw [if_neg h, beq_false_of_ne h]

theorem find?_isSome {r : Roster} {k : Text} : (r.find? k).isSome ↔ k ∈ r.keys := by
  simp [find?, keys]

theorem find?_eq_none {r : Roster} {k : Text} : r.find? k = none ↔ k ∉ r.keys := by
  rw [← find?_isSome, Option.not_isSome_iff_eq_none]

theorem mem_keys_of_find? {r : Roster} {k : Text} {a : Agent} (h : r.find? k = some a) : k ∈ r.keys :=
  find?_isSome.1 (by rw [h]; rfl)

theorem mem_slots_of_find? {r : Roster} {k : Text} {a : Agent} (h : r.find? k = some a) : (k, a) ∈ r.slots := by
  simp only [find?, Option.map_eq_some_iff] at h
  obtain ⟨s, hs, rfl⟩ := h
  have hk : s.1 = k := by simpa using List.find?_some hs
  rw [← hk]
  exact List.mem_of_find?_eq_some hs

/-- where no key has two slots, the agent of a slot is found under its key -/
theorem find?_of_mem_slots {r : Roster} (h : r.keys.Nodup) {s : Text × Agent} (hs : s ∈ r.slots) :
    r.find? s.1 = some s.2 := by
  cases hf : r.find? s.1 with
  | none => exact absurd (List.mem_map_of_mem hs) (find?_eq_none.1 hf)
  | some b =>
    have heq := List.inj_on_of_nodup_map h (mem_slots_of_find? hf) hs rfl
    rw [← heq]

theorem agents_getElem? (r : Roster) (k : Text) : r.agents[r.keys.idxOf k]? = r.find? k := by
  obtain ⟨slots⟩ := r
  induction slots with
  | nil => rfl
  | cons s ss ih =>
    rw [find?_cons]
    by_cases h : s.1 = k
    · simp [agents, keys, h]
    · simpa [agents, keys, List.idxOf_cons, h] using ih

/-! ## Putting and removing -/

theorem find?_put_self (r : Roster) (k : Text) (a : Agent) : (r.put k a).find? k = some a := by
  obtain ⟨slots⟩ := r
  simp only [put]
  induction slots with
  | nil => simp [putSlot, find?_cons]
  | cons s ss ih =>
    rw [putSlot]
    split
    · simp [find?_cons]
    · rename_i h; rw [find?_cons, if_neg h, ih]

theorem find?_put_ne (r : Roster) {j k : Text} (a : Agent) (h : j ≠ k) : (r.put k a).find? j = r.find? j := by
  obtain ⟨slots⟩ := r
  simp only [put]
  induction slots with
  | nil => simp [putSlot, find?_cons, find?_nil, Ne.symm h]
  | cons s ss ih =>
    rw [putSlot, find?_cons]
    split
    · rename_i hs; rw [find?_cons, hs, if_neg (Ne.symm h), if_neg (Ne.symm h)]
    · rw [find?_cons, ih]

theorem keys_cons (s : Text × Agent) (ss : List (Text × Agent)) :
    (⟨s :: ss⟩ : Roster).keys = s.1 :: (⟨ss⟩ : Roster).keys := rfl

/-- a key that has a slot keeps it -/
theorem keys_put_old {r : Roster} {k : Text} (a : Agent) (h : k ∈ r.keys) : (r.put k a).keys = r.keys := by
  obtain ⟨slots⟩ := r
  simp only [put]
  induction slots with
  | nil => cases h
  | cons s ss ih =>
    rw [putSlot]
    split
    · rename_i hs; rw [keys_cons, keys_cons, hs]
    · rename_i hs
      have hk : k ∈ (⟨ss⟩ : Roster).keys := (List.mem_cons.1 h).resolve_left (Ne.symm hs)
      rw [keys_cons, keys_cons, ih hk]

/-- another gets one at the end, and no slot before it changes -/
theorem slots_put_new {r : Roster} {k : Text} (a : Agent) (h : k ∉ r.keys) :
    (r.put k a).slots = r.slots ++ [(k, a)] := by
  obtain ⟨slots⟩ := r
  simp only [put]
  induction slots with
  | nil => rfl
  | cons s ss ih =>
    rw [keys_cons, List.mem_cons, not_or] at h
    rw [putSlot, if_neg (Ne.symm h.1), ih h.2, List.cons_append]

theorem keys_put_new {r : Roster} {k : Text} (a : Agent) (h : k ∉ r.keys) : (r.put k a).keys = r.keys ++ [k] := by
  simp [keys, slots_put_new a h]

theorem find?_remove_self (r : Roster) (k : Text) : (r.remove k).find? k = none := by
  rw [find?_eq_none]
  simp [keys, remove]

theorem find?_remove_ne (r : Roster) {j k : Text} (h : j ≠ k) : (r.remove k).find? j = r.find? j := by
  obtain ⟨slots⟩ := r
  simp only [remove]
  induction slots with
  | nil => rfl
  | cons s ss ih =>
    rw [List.filter_cons]
    split
    · rw [find?_cons, find?_cons, ih]
    · rename_i hs
      have hk : s.1 = k := by simpa using hs
      rw [ih, find?_cons, hk, if_neg (Ne.symm h)]

theorem keys_remove (r : Roster) (k : Text) : (r.remove k).keys = r.keys.filter (· ≠ k) := by
  simp only [keys, remove, List.filter_map]
  rfl

/-! ## Slots that stay -/

/-- slot by slot the same keys, and agents in a relation -/
def Kept (R : Agent → Agent → Prop) (r r' : Roster) : Prop :=
  List.Forall₂ (fun s t => t.1 = s.1 ∧ R s.2 t.2) r.slots r'.slots

section Kept

variable {R : Agent → Agent → Prop} {r r' r'' : Roster}

theorem kept_refl (hR : ∀ a, R a a) (r : Roster) : Kept R r r :=
  List.forall₂_same.2 fun _ _ => ⟨rfl, hR _⟩

theorem Kept.trans (hR : ∀ a b c, R a b → R b c → R a c) (h : Kept R r r') (h' : Kept R r' r'') : Kept R r r'' := by
  simp only [Kept] at *
  generalize r.slots = ss at h
  generalize r'.slots = ts at h h'
  generalize r''.slots = us at h'
  induction h generalizing us with
  | nil => exact h'
  | cons hs _ ih =>
    cases h' with
    | cons ht h' => exact .cons ⟨ht.1.trans hs.1, hR _ _ _ hs.2 ht.2⟩ (ih _ h')

theorem Kept.keys_eq (h : Kept R r r') : r'.keys = r.keys := by
  simp only [Kept, keys] at *
  generalize r.slots = ss at *
  generalize r'.slots = ts at *
  induction h with
  | nil => rfl
  | cons hs _ ih => rw [List.map_cons, List.map_cons, hs.1, ih]

theorem Kept.before (h : Kept R r r') {k : Text} {b : Agent} (hb : r'.find? k = some b) :
    ∃ a, r.find? k = some a ∧ R a b := by
  obtain ⟨ss⟩ := r
  obtain ⟨ts⟩ := r'
  simp only [Kept] at h
  induction h with
  | nil => cases hb
  | cons hs _ ih =>
    rw [find?_cons, hs.1] at hb
    rw [find?_cons]
    split at hb
    · cases hb; rename_i hk; exact ⟨_, if_pos hk, hs.2⟩
    · rename_i hk; rw [if_neg hk]; exact ih hb

theorem Kept.after (h : Kept R r r') {k : Text} {a : Agent} (ha : r.find? k = some a) :
    ∃ b, r'.find? k = some b ∧ R a b := by
  have hk : (r'.find? k).isSome := find?_isSome.2 (by rw [h.keys_eq]; exact mem_keys_of_find? ha)
  obtain ⟨b, hb⟩ := Option.isSome_iff_exists.1 hk
  obtain ⟨a', ha', hR⟩ := h.before hb
  rw [ha] at ha'
  cases ha'
  exact ⟨b, hb, hR⟩

/-- an agent put where one stands in relation to it -/
theorem put_kept (hR : ∀ a, R a a) {k : Text} {a b : Agent} (ha : r.find? k = some a) (hab : R a b) :
    Kept R r (r.put k b) := by
  obtain ⟨slots⟩ := r
  simp only [Kept, put]
  induction slots with
  | nil => cases ha
  | cons s ss ih =>
    rw [find?_cons] at ha
    rw [putSlot]
    split at ha
    · rename_i hk
      cases ha
      rw [if_pos hk]
      exact .cons ⟨hk.symm, hab⟩ (List.forall₂_same.2 fun _ _ => ⟨rfl, hR _⟩)
    · rename_i hk
      rw [if_neg hk]
      exact .cons ⟨rfl, hR _⟩ (ih ha)

end Kept

/-- a span of time is had by agents in their slots; one whom it fails is left as it was -/
theorem update_kept (r : Roster) (dt : Float) :
    Kept (fun a b => b = a ∨ a.update dt = .ok b) r (r.update dt).2 := by
  obtain ⟨slots⟩ := r
  simp only [Kept, update]
  induction slots with
  | nil => exact .nil
  | cons s ss ih =>
    rw [updateSlots]
    cases h : s.2.update dt with
    | error e => exact .cons ⟨rfl, .inl rfl⟩ (List.forall₂_same.2 fun _ _ => ⟨rfl, .inl rfl⟩)
    | ok a => exact .cons ⟨rfl, .inr h⟩ ih

theorem update_all {r r' : Roster} {dt : Float} (h : r.update dt = (.ok (), r')) :
    Kept (fun a b => a.update dt = .ok b) r r' := by
  obtain ⟨slots⟩ := r
  simp only [update, Prod.mk.injEq] at h
  obtain ⟨hok, rfl⟩ := h
  simp only [Kept]
  induction slots with
  | nil => exact .nil
  | cons s ss ih =>
    rw [updateSlots] at hok ⊢
    cases ha : s.2.update dt with
    | error e => rw [ha] at hok; cases hok
    | ok a => rw [ha] at hok; exact .cons ⟨rfl, ha⟩ (ih hok)

/-! ## Soundness -/

/-- no key has two slots, and each is the folding of its agent's name -/
structure Sound (r : Roster) : Prop where
  nodup : r.keys.Nodup
  keyed : ∀ s ∈ r.slots, s.1 = keyOf s.2.name

theorem sound_empty : (⟨[]⟩ : Roster).Sound := ⟨List.nodup_nil, by simp⟩

theorem mem_put {r : Roster} {k : Text} {a : Agent} {s : Text × Agent} (h : s ∈ (r.put k a).slots) :
    s = (k, a) ∨ s ∈ r.slots := by
  obtain ⟨slots⟩ := r
  simp only [put] at h
  induction slots with
  | nil => exact .inl (List.mem_singleton.1 h)
  | cons t ts ih =>
    rw [putSlot] at h
    split at h
    · rcases List.mem_cons.1 h with rfl | h
      · exact .inl rfl
      · exact .inr (List.mem_cons_of_mem _ h)
    · rcases List.mem_cons.1 h with rfl | h
      · exact .inr List.mem_cons_self
      · exact (ih h).imp_right (List.mem_cons_of_mem _)

theorem nodup_put {r : Roster} (h : r.keys.Nodup) {k : Text} (a : Agent) : (r.put k a).keys.Nodup := by
  by_cases hk : k ∈ r.keys
  · rw [keys_put_old a hk]
    exact h
  · rw [keys_put_new a hk, List.nodup_append]
    refine ⟨h, List.pairwise_singleton _ _, ?_⟩
    intro j hj i hi hji
    rw [List.mem_singleton.1 hi] at hji
    rw [hji] at hj
    exact hk hj

theorem nodup_remove {r : Roster} (h : r.keys.Nodup) (k : Text) : (r.remove k).keys.Nodup := by
  rw [keys_remove]
  exact h.filter _

theorem Sound.put {r : Roster} (h : r.Sound) (a : Agent) : (r.put (keyOf a.name) a).Sound := by
  refine ⟨nodup_put h.nodup a, ?_⟩
  intro s hs
  rcases mem_put hs with rfl | hs
  · rfl
  · exact h.keyed s hs

theorem Sound.remove {r : Roster} (h : r.Sound) (k : Text) : (r.remove k).Sound :=
  ⟨nodup_remove h.nodup k, fun s hs => h.keyed s (List.mem_filter.1 hs).1⟩

theorem Sound.kept {R : Agent → Agent → Prop} {r r' : Roster} (h : r.Sound) (hk : Kept R r r')
    (hR : ∀ a b, R a b → b.name = a.name) : r'.Sound := by
  refine ⟨by rw [hk.keys_eq]; exact h.nodup, ?_⟩
  have hkeyed := h.keyed
  simp only [Kept] at hk
  generalize r.slots = ss at *
  generalize r'.slots = ts at *
  clear h
  induction hk with
  | nil => simp
  | cons hs _ ih =>
    rw [List.forall_mem_cons] at hkeyed ⊢
    exact ⟨by rw [hs.1, hkeyed.1, hR _ _ hs.2], ih hkeyed.2⟩

theorem Sound.keys_eq {r : Roster} (h : r.Sound) : r.keys = r.agents.map fun a => keyOf a.name := by
  rw [keys, agents, List.map_map]
  exact List.map_congr_left h.keyed

/-- the agents of a sound roster are those found under the foldings of their names -/
theorem Sound.mem_agents {r : Roster} (h : r.Sound) {a : Agent} : a ∈ r.agents ↔ r.find? (keyOf a.name) = some a := by
  constructor
  · intro ha
    obtain ⟨s, hs, rfl⟩ := List.mem_map.1 ha
    rw [← h.keyed s hs]
    exact find?_of_mem_slots h.nodup hs
  · intro ha
    exact List.mem_map_of_mem (mem_slots_of_find? ha)

end TileCrew.Roster
