/-
Scripts line by line, and scripts joined. Whether a line can be read depends on this line alone (`Misread`): it starts with
`@`, and what follows up to the first space is no integer, or one below 1.
- `readLine_error`: a line is refused just if it is misread;
- `readLines_ok`, `readLines_error`: lines are read if none of them is misread, and then add what each of them says; else
  the first that is misread is reported with its number (`FirstMisread`);
- `Schedule.add_sound`: what is added keeps a schedule in order (`Schedule.Sound`);
- `scripts_join`: **a script of two parts, each beginning a line, is read if both parts are, and has for each tick what the
  first part has, and then what the second has**.
-/
import TileCrew.Proofs.Files.Store
import TileCrew.Proofs.Outcomes
import TileCrew.Proofs.Setup.Script
import TileCrew.Proofs.Text.Breaks
import TileCrew.Proofs.Text.Octets

namespace TileCrew

/-! ## Schedules in order -/

namespace Schedule

/-- every tick is there once and counts from 1, with at least one prompt; no prompt is empty or has blanks around it -/
structure Sound (s : Schedule) : Prop where
  nodup : (s.entries.map (·.1)).Nodup
  ticks : ∀ e ∈ s.entries, 1 ≤ e.1
  inhabited : ∀ e ∈ s.entries, e.2 ≠ []
  prompts : ∀ e ∈ s.entries, ∀ text ∈ e.2, Text.strip text = text ∧ text ≠ ""

/-- prompts added at their ticks, one after the other -/
def addAll (s : Schedule) (said : List (Int × String)) : Schedule := said.foldl (fun s e => s.add e.1 e.2) s

theorem sound_empty : Sound {} := ⟨List.nodup_nil, by simp, by simp, by simp⟩

theorem mem_addTo {tick : Int} {text : String} {entries : List (Int × List String)} {e : Int × List String}
    (h : e ∈ addTo tick text entries) :
    e ∈ entries ∨ e.1 = tick ∧ (e.2 = [text] ∨ ∃ old ∈ entries, e.2 = old.2 ++ [text]) := by
  induction entries with
  | nil =>
    rw [addTo, List.mem_singleton] at h
    rw [h]
    exact .inr ⟨rfl, .inl rfl⟩
  | cons d entries ih =>
    rw [addTo] at h
    by_cases hd : d.1 = tick
    · rw [if_pos hd, List.mem_cons] at h
      rcases h with rfl | h
      · exact .inr ⟨rfl, .inr ⟨d, List.mem_cons_self, rfl⟩⟩
      · exact .inl (List.mem_cons_of_mem d h)
    · rw [if_neg hd, List.mem_cons] at h
      rcases h with rfl | h
      · exact .inl List.mem_cons_self
      · rcases ih h with h | ⟨htick, h | ⟨old, hold, h⟩⟩
        · exact .inl (List.mem_cons_of_mem d h)
        · exact .inr ⟨htick, .inl h⟩
        · exact .inr ⟨htick, .inr ⟨old, List.mem_cons_of_mem d hold, h⟩⟩

theorem nodup_addTo {tick : Int} {text : String} {entries : List (Int × List String)}
    (h : (entries.map (·.1)).Nodup) : ((addTo tick text entries).map (·.1)).Nodup := by
  induction entries with
  | nil => simp [addTo]
  | cons d entries ih =>
    rw [List.map_cons, List.nodup_cons] at h
    obtain ⟨hnew, h⟩ := h
    rw [addTo]
    by_cases hd : d.1 = tick
    · rw [if_pos hd, List.map_cons, List.nodup_cons, ← hd]
      exact ⟨hnew, h⟩
    · rw [if_neg hd, List.map_cons, List.nodup_cons]
      refine ⟨?_, ih h⟩
      intro hmem
      obtain ⟨e, he, htick⟩ := List.mem_map.1 hmem
      rcases mem_addTo he with he | ⟨he, -⟩
      · exact hnew (List.mem_map.2 ⟨e, he, htick⟩)
      · exact hd (htick.symm.trans he)

theorem add_sound {s : Schedule} {tick : Int} {text : String} (h : s.Sound) (htick : 1 ≤ tick)
    (htext : Text.strip text = text ∧ text ≠ "") : (s.add tick text).Sound := by
  refine ⟨nodup_addTo h.nodup, ?_, ?_, ?_⟩
  · intro e he
    rcases mem_addTo he with he | ⟨rfl, -⟩
    · exact h.ticks e he
    · exact htick
  · intro e he
    rcases mem_addTo he with he | ⟨-, he | ⟨old, -, he⟩⟩
    · exact h.inhabited e he
    · simp [he]
    · simp [he]
  · intro e he other hother
    rcases mem_addTo he with he | ⟨-, he | ⟨old, hold, he⟩⟩
    · exact h.prompts e he other hother
    · rw [he, List.mem_singleton] at hother
      rw [hother]
      exact htext
    · rw [he, List.mem_append, List.mem_singleton] at hother
      rcases hother with hother | rfl
      · exact h.prompts old hold other hother
      · exact htext

theorem addAll_sound {s : Schedule} {said : List (Int × String)} (h : s.Sound)
    (hsaid : ∀ e ∈ said, 1 ≤ e.1 ∧ Text.strip e.2 = e.2 ∧ e.2 ≠ "") : (s.addAll said).Sound := by
  induction said generalizing s with
  | nil => exact h
  | cons e said ih =>
    obtain ⟨⟨htick, htext⟩, hsaid⟩ := List.forall_mem_cons.1 hsaid
    exact ih (add_sound h htick htext) hsaid

end Schedule

namespace Script

open Text

/-! ## Markers -/

def MarkerFault.reported (p : Path) (n : Nat) : MarkerFault → Fault
  | .noTick marker => .tickMarker p n marker
  | .belowOne => .tickBelowOne p n

/-- the report names the script and the line -/
theorem reported_message (p : Path) (n : Nat) (f : MarkerFault) :
    ∃ words : String, (f.reported p n).message = p.text ++ ":" ++ toString n ++ ": " ++ words := by
  cases f with
  | noTick marker =>
    have hwords : Text.ofString ": bad tick marker " = ": " ++ "bad tick marker " := by decide
    refine ⟨"bad tick marker " ++ quoted marker, ?_⟩
    show (p.text ++ ":" ++ toString n ++ ": bad tick marker " ++ quoted marker : Text) = _
    rw [hwords, ofString_append, ← Text.append_assoc, ← Text.append_assoc]
  | belowOne =>
    have hwords : Text.ofString ": tick must be >= 1" = ": " ++ "tick must be >= 1" := by decide
    refine ⟨"tick must be >= 1", ?_⟩
    show (p.text ++ ":" ++ toString n ++ ": tick must be >= 1" : Text) = _
    rw [hwords, ← Text.append_assoc]

/-- the line, stripped, starts with `@`, and what stands between that and the first space is no integer, or is below 1 -/
inductive Misread (line : List Char) : MarkerFault → Prop
  | noTick {cs : List Char} {e : IntegerFault} : stripBy isBlank line = '@' :: cs →
      readInteger (String.ofList (cs.takeWhile (· ≠ ' '))) = .error e →
      Misread line (.noTick (String.ofList ('@' :: cs.takeWhile (· ≠ ' '))))
  | belowOne {cs : List Char} {tick : Int} : stripBy isBlank line = '@' :: cs →
      readInteger (String.ofList (cs.takeWhile (· ≠ ' '))) = .ok tick → tick < 1 → Misread line .belowOne

theorem readMarker_error {digits : List Char} {f : MarkerFault} :
    readMarker ('@' :: digits) = .error f ↔
      (∃ e, readInteger (String.ofList digits) = .error e ∧ f = .noTick (String.ofList ('@' :: digits))) ∨
        ∃ tick, readInteger (String.ofList digits) = .ok tick ∧ tick < 1 ∧ f = .belowOne := by
  rw [readMarker, List.drop_one, List.tail_cons]
  cases hn : readInteger (String.ofList digits) with
  | error e => simp [eq_comm]
  | ok tick =>
    by_cases htick : tick < 1
    · simp [htick, eq_comm]
    · simp [htick]

/-- a line is refused just if it is misread -/
theorem readLine_error {line : List Char} {f : MarkerFault} : readLine line = .error f ↔ Misread line f := by
  -- the marker is what stands before the first space, with the `@`
  have hmarker (cs : List Char) : ('@' :: cs).takeWhile (· ≠ ' ') = '@' :: cs.takeWhile (· ≠ ' ') :=
    List.takeWhile_cons_of_pos (by decide)
  have hmarked {cs : List Char} (hline : stripBy isBlank line = '@' :: cs) :
      readLine line = .error f ↔ readMarker ('@' :: cs.takeWhile (· ≠ ' ')) = .error f := by
    simp only [readLine, hline, hmarker]
    cases readMarker ('@' :: cs.takeWhile (· ≠ ' ')) <;> simp [Except.map]
  constructor
  · intro h
    have hcase := h
    unfold readLine at hcase
    split at hcase
    · cases hcase
    · cases hcase
    · next cs hline =>
      rw [hmarked hline, readMarker_error] at h
      rcases h with ⟨e, he, rfl⟩ | ⟨tick, htick, hlow, rfl⟩
      · exact .noTick hline he
      · exact .belowOne hline htick hlow
    · cases hcase
  · intro h
    cases h with
    | noTick hline he => exact (hmarked hline).2 (readMarker_error.2 (.inl ⟨_, he, rfl⟩))
    | belowOne hline htick hlow => exact (hmarked hline).2 (readMarker_error.2 (.inr ⟨_, htick, hlow, rfl⟩))

/-- a line is read, or it is misread -/
theorem readLine_cases (line : List Char) :
    (∃ l, readLine line = .ok l ∧ ∀ f, ¬Misread line f) ∨ ∃ f, readLine line = .error f ∧ Misread line f := by
  cases h : readLine line with
  | error f => exact .inr ⟨f, rfl, readLine_error.1 h⟩
  | ok l =>
    refine .inl ⟨l, rfl, ?_⟩
    intro f hf
    rw [readLine_error.2 hf] at h
    cases h

theorem blank_silent {line : List Char} (h : line = []) : spoken line = none ∧ ∀ f, ¬Misread line f := by
  have hline : readLine line = .ok .silent := by rw [h]; rfl
  refine ⟨by rw [spoken, hline], ?_⟩
  intro f hf
  rw [readLine_error.2 hf] at hline
  cases hline

/-! ## Lines -/

/-- k lines stand before the first that is misread, which has this fault -/
def FirstMisread (lines : List (List Char)) (k : Nat) (f : MarkerFault) : Prop :=
  ∃ before line after, lines = before ++ line :: after ∧ (∀ l ∈ before, ∀ g, ¬Misread l g) ∧ Misread line f ∧
    before.length = k

theorem not_firstMisread_nil {k : Nat} {f : MarkerFault} : ¬FirstMisread [] k f := by
  rintro ⟨before, line, after, h, -⟩
  simp at h

theorem firstMisread_here {line : List Char} {lines : List (List Char)} {k : Nat} {f g : MarkerFault}
    (hg : readLine line = .error g) : FirstMisread (line :: lines) k f ↔ k = 0 ∧ f = g := by
  constructor
  · rintro ⟨before, line', after, h, hbefore, hf, rfl⟩
    cases before with
    | nil =>
      cases h
      rw [readLine_error.2 hf] at hg
      cases hg
      exact ⟨rfl, rfl⟩
    | cons b before =>
      cases h
      exact absurd (readLine_error.1 hg) (hbefore line List.mem_cons_self g)
  · rintro ⟨rfl, rfl⟩
    exact ⟨[], line, lines, rfl, by simp, readLine_error.1 hg, rfl⟩

/-- behind a line that is read the count goes on -/
theorem firstMisread_later {line : List Char} {lines : List (List Char)} {k : Nat} {f : MarkerFault}
    (hline : ∀ g, ¬Misread line g) :
    FirstMisread (line :: lines) k f ↔ ∃ j, k = j + 1 ∧ FirstMisread lines j f := by
  constructor
  · rintro ⟨before, line', after, h, hbefore, hf, rfl⟩
    cases before with
    | nil =>
      cases h
      exact absurd hf (hline f)
    | cons b before =>
      cases h
      exact ⟨before.length, rfl, before, line', after, rfl, (List.forall_mem_cons.1 hbefore).2, hf, rfl⟩
  · rintro ⟨j, rfl, before, line', after, rfl, hbefore, hf, rfl⟩
    exact ⟨line :: before, line', after, rfl, List.forall_mem_cons.2 ⟨hline, hbefore⟩, hf, rfl⟩

theorem readLines_silent {p : Path} {n : Nat} {s : Schedule} {line : List Char} {lines : List (List Char)}
    (h : readLine line = .ok .silent) : readLines p n s (line :: lines) = readLines p (n + 1) s lines := by
  rw [readLines, h]

theorem readLines_prompt {p : Path} {n : Nat} {s : Schedule} {line : List Char} {lines : List (List Char)} {tick : Int}
    {text : String} (h : readLine line = .ok (.prompt tick text)) :
    readLines p n s (line :: lines) = readLines p (n + 1) (s.add tick text) lines := by
  rw [readLines, h]

theorem readLines_refused {p : Path} {n : Nat} {s : Schedule} {line : List Char} {lines : List (List Char)}
    {f : MarkerFault} (h : readLine line = .error f) : readLines p n s (line :: lines) = .error (f.reported p n) := by
  rw [readLines, h]
  cases f <;> rfl

/-- lines of which none is misread are read, and add what they say -/
theorem readLines_ok {p : Path} {n : Nat} {s c : Schedule} {lines : List (List Char)} :
    readLines p n s lines = .ok c ↔
      (∀ line ∈ lines, ∀ f, ¬Misread line f) ∧ c = s.addAll (lines.filterMap spoken) := by
  induction lines generalizing n s with
  | nil => simp [readLines, Schedule.addAll, eq_comm]
  | cons line lines ih =>
    rw [List.forall_mem_cons]
    rcases readLine_cases line with ⟨l, hl, hline⟩ | ⟨f, hf, hline⟩
    · cases l with
      | silent =>
        have hspoken : spoken line = none := by rw [spoken, hl]
        rw [readLines_silent hl, ih, List.filterMap_cons_none hspoken]
        simp [hline]
      | prompt tick text =>
        have hspoken : spoken line = some (tick, text) := by rw [spoken, hl]
        rw [readLines_prompt hl, ih, List.filterMap_cons_some hspoken]
        simp [hline, Schedule.addAll]
    · rw [readLines_refused hf]
      constructor
      · intro h
        cases h
      · rintro ⟨⟨hnone, -⟩, -⟩
        exact absurd hline (hnone f)

/-- of other lines the first that is misread is reported, with its number -/
theorem readLines_error {p : Path} {n : Nat} {s : Schedule} {lines : List (List Char)} {e : Fault} :
    readLines p n s lines = .error e ↔ ∃ k f, FirstMisread lines k f ∧ e = f.reported p (n + k) := by
  induction lines generalizing n s with
  | nil =>
    constructor
    · intro h
      cases h
    · rintro ⟨k, f, h, -⟩
      exact absurd h not_firstMisread_nil
  | cons line lines ih =>
    rcases readLine_cases line with ⟨l, hl, hline⟩ | ⟨g, hg, -⟩
    · have hrest : readLines p n s (line :: lines) = .error e ↔
          ∃ k f, FirstMisread lines k f ∧ e = f.reported p (n + 1 + k) := by
        cases l with
        | silent => rw [readLines_silent hl, ih]
        | prompt tick text => rw [readLines_prompt hl, ih]
      rw [hrest]
      constructor
      · rintro ⟨k, f, hfirst, rfl⟩
        exact ⟨k + 1, f, (firstMisread_later hline).2 ⟨k, rfl, hfirst⟩, by rw [Nat.add_assoc, Nat.add_comm 1 k]⟩
      · rintro ⟨k, f, hfirst, rfl⟩
        obtain ⟨j, rfl, hlater⟩ := (firstMisread_later hline).1 hfirst
        exact ⟨j, f, hlater, by rw [Nat.add_assoc, Nat.add_comm 1 j]⟩
    · rw [readLines_refused hg]
      constructor
      · intro h
        cases h
        exact ⟨0, g, (firstMisread_here hg).2 ⟨rfl, rfl⟩, rfl⟩
      · rintro ⟨k, f, hfirst, rfl⟩
        obtain ⟨rfl, rfl⟩ := (firstMisread_here hg).1 hfirst
        rfl

/-! ## Files -/

/-- what is loaded from a file with a text is what its lines give, whatever newlines it has -/
theorem load_lines {s : Store} {p : Path} {t : List Char} (h : s.read p = .ok (Utf8.encode t)) :
    load s p = readLines p 1 {} (splitLines t) := by
  have htext : s.readText p = .ok (unifyNewlines t) := by
    rw [Store.readText, h]
    dsimp only
    rw [textOfOctets, Utf8.decode_encode]
    rfl
  rw [load, htext]
  show readLines p 1 {} (splitLines (unifyNewlines t)) = _
  rw [splitLines_unifyNewlines]

/-- the prompts of a loaded script are those that its lines say -/
theorem load_prompts {s : Store} {p : Path} {t : List Char} {c : Schedule} (ht : s.read p = .ok (Utf8.encode t))
    (h : load s p = .ok c) (tick : Int) : c.prompts tick = ((said t).filter (·.1 = tick)).map (·.2) := by
  rw [load_lines ht] at h
  exact readLines_prompts h tick

theorem load_sound {s : Store} {p : Path} {t : List Char} {c : Schedule} (ht : s.read p = .ok (Utf8.encode t))
    (h : load s p = .ok c) : c.Sound := by
  rw [load_lines ht, readLines_ok] at h
  rw [h.2]
  exact Schedule.addAll_sound Schedule.sound_empty fun e he => said_sound he

theorem load_ok_iff {s : Store} {p : Path} {t : List Char} (ht : s.read p = .ok (Utf8.encode t)) :
    (∃ c, load s p = .ok c) ↔ ∀ line ∈ splitLines t, ∀ f, ¬Misread line f := by
  simp only [load_lines ht, readLines_ok]
  constructor
  · rintro ⟨c, h, -⟩
    exact h
  · intro h
    exact ⟨_, h, rfl⟩

theorem load_fails_iff {s : Store} {p : Path} {t : List Char} (ht : s.read p = .ok (Utf8.encode t)) :
    (∃ e, load s p = .error e) ↔ ∃ line ∈ splitLines t, ∃ f, Misread line f := by
  have hok := load_ok_iff ht
  cases h : load s p with
  | ok c =>
    have hnone := hok.1 ⟨c, h⟩
    constructor
    · rintro ⟨e, he⟩
      cases he
    · rintro ⟨line, hline, f, hf⟩
      exact absurd hf (hnone line hline f)
  | error e =>
    have he := h
    rw [load_lines ht] at he
    obtain ⟨k, f, ⟨before, line, after, hlines, -, hf, -⟩, -⟩ := readLines_error.1 he
    have hline : line ∈ splitLines t := by simp [hlines]
    exact ⟨fun _ => ⟨line, hline, f, hf⟩, fun _ => ⟨e, rfl⟩⟩

/-- what two texts say with a line feed between them is what the one says, and then the other -/
theorem said_join (t₁ t₂ : List Char) : said (t₁ ++ '\n' :: t₂) = said t₁ ++ said t₂ := by
  obtain ⟨gap, hgap, hlines⟩ := splitLines_append_feed t₁ t₂
  have hsilent : gap.filterMap spoken = [] := by
    rw [List.filterMap_eq_nil_iff]
    intro line hline
    exact (blank_silent (hgap line hline)).1
  rw [said, hlines, List.filterMap_append, List.filterMap_append, hsilent, List.append_nil]
  rfl

/-- and none of its lines is misread just if none of theirs is -/
theorem misread_join (t₁ t₂ : List Char) :
    (∀ line ∈ splitLines (t₁ ++ '\n' :: t₂), ∀ f, ¬Misread line f) ↔
      (∀ line ∈ splitLines t₁, ∀ f, ¬Misread line f) ∧ ∀ line ∈ splitLines t₂, ∀ f, ¬Misread line f := by
  obtain ⟨gap, hgap, hlines⟩ := splitLines_append_feed t₁ t₂
  have hnone : ∀ line ∈ gap, ∀ f, ¬Misread line f := fun line hline => (blank_silent (hgap line hline)).2
  rw [hlines, List.forall_mem_append, List.forall_mem_append]
  constructor
  · rintro ⟨⟨h₁, -⟩, h₂⟩
    exact ⟨h₁, h₂⟩
  · rintro ⟨h₁, h₂⟩
    exact ⟨⟨h₁, hnone⟩, h₂⟩

/-- **Scripts are loaded line by line and compose.** Two parts with a line feed between them are loaded just if each of
them is, and have for each tick what the first has and then what the second has. A script fails just if one of its lines
is misread, and names the first that is by its number; what is loaded is in order. Newlines may be of any kind. -/
theorem scripts_join {s s₁ s₂ : Store} {p p₁ p₂ : Path} {t₁ t₂ : List Char} (h₁ : s₁.read p₁ = .ok (Utf8.encode t₁))
    (h₂ : s₂.read p₂ = .ok (Utf8.encode t₂)) (h : s.read p = .ok (Utf8.encode (t₁ ++ '\n' :: t₂))) :
    ((∃ c, load s p = .ok c) ↔ (∃ c₁, load s₁ p₁ = .ok c₁) ∧ ∃ c₂, load s₂ p₂ = .ok c₂) ∧
    (∀ c c₁ c₂, load s p = .ok c → load s₁ p₁ = .ok c₁ → load s₂ p₂ = .ok c₂ →
      ∀ tick, c.prompts tick = c₁.prompts tick ++ c₂.prompts tick) ∧
    ((∃ e, load s₁ p₁ = .error e) ↔ ∃ line ∈ splitLines t₁, ∃ f, Misread line f) ∧
    (∀ e, load s₁ p₁ = .error e → ∃ k f, FirstMisread (splitLines t₁) k f ∧ e = f.reported p₁ (k + 1) ∧
      ∃ words : String, e.message = p₁.text ++ ":" ++ toString (k + 1) ++ ": " ++ words) ∧
    (∀ c₁, load s₁ p₁ = .ok c₁ → c₁.Sound) := by
  refine ⟨?_, ?_, load_fails_iff h₁, ?_, fun c₁ hc₁ => load_sound h₁ hc₁⟩
  · rw [load_ok_iff h, load_ok_iff h₁, load_ok_iff h₂]
    exact misread_join t₁ t₂
  · intro c c₁ c₂ hc hc₁ hc₂ tick
    rw [load_prompts h hc, load_prompts h₁ hc₁, load_prompts h₂ hc₂, said_join, List.filter_append, List.map_append]
  · intro e he
    rw [load_lines h₁] at he
    obtain ⟨k, f, hfirst, rfl⟩ := readLines_error.1 he
    rw [Nat.add_comm 1 k]
    exact ⟨k, f, hfirst, rfl, reported_message p₁ (k + 1) f⟩

/-- a return before the feed, a comment between, and a marker in digits of another script -/
theorem scripts_join_twice :
    let t₁ := "@2 Bot explore\n@+1_0 All say hi\r".toList
    let t₂ := "# nothing\x85  Bot gather wood\n@٢\n@٢  Bot build hut ".toList
    let file (t : List Char) : Store := ⟨[(⟨"", ["script"]⟩, .file (Utf8.encode t))]⟩
    let p : Path := ⟨"", ["script"]⟩
    ((file t₁).read p = .ok (Utf8.encode t₁) ∧ (file t₂).read p = .ok (Utf8.encode t₂) ∧
      (file (t₁ ++ '\n' :: t₂)).read p = .ok (Utf8.encode (t₁ ++ '\n' :: t₂))) ∧
    ∃ c, load (file (t₁ ++ '\n' :: t₂)) p = .ok c ∧ c.prompts 1 = ["Bot gather wood"] ∧
      c.prompts 2 = ["Bot explore", "Bot build hut"] ∧ c.prompts 10 = ["All say hi"] := by
  intro t₁ t₂ file p
  have hread (t : List Char) : (file t).read p = .ok (Utf8.encode t) :=
    Store.Holds.read ⟨p, Store.locate_of (by decide) (by decide +kernel) rfl, rfl⟩
  have hc₁ : load (file t₁) p = .ok ⟨[(2, ["Bot explore"]), (10, ["All say hi"])]⟩ :=
    ok_of_toOption (by decide +kernel)
  have hc₂ : load (file t₂) p = .ok ⟨[(1, ["Bot gather wood"]), (2, ["Bot build hut"])]⟩ :=
    ok_of_toOption (by decide +kernel)
  obtain ⟨hok, hprompts, -⟩ := scripts_join (hread t₁) (hread t₂) (hread (t₁ ++ '\n' :: t₂))
  obtain ⟨c, hc⟩ := hok.2 ⟨⟨_, hc₁⟩, _, hc₂⟩
  have hjoined := hprompts c _ _ hc hc₁ hc₂
  exact ⟨⟨hread _, hread _, hread _⟩, c, hc, hjoined 1, hjoined 2, hjoined 10⟩

end Script

end TileCrew
