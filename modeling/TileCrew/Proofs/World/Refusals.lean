/-
Prompts that fail. Agents that stand somewhere take every order but one: a move to a point without doubles. And of all
lines only those that are written as moves can be too long to be read.
- `readLine_other`: a line is written as a move, or it is read, and not as one;
- `put_ok`, `put_move_fails`: which orders an agent takes;
- `handlePrompt_outcome`: a prompt fails where it cannot be read or its command cannot be given;
- `prompts_refused`: **a prompt fails exactly where it is written as a move, and a numeral in it has too many digits or,
  with somebody there to be told, no double**.
-/
import TileCrew.Proofs.Arithmetic.HalfUp
import TileCrew.Proofs.Prompt.Shapes
import TileCrew.Proofs.World.Giving
import TileCrew.Setup.WorldFile

namespace TileCrew

/-! ## Lines -/

namespace Prompt

open Text

/-- a verb and what follows it are a move, or they are read, and not as one -/
theorem readOrder_other (verb rest : List Char) :
    (∃ order?, readOrder verb rest = .ok order? ∧ ∀ x y, order? ≠ some (.move x y)) ∨
      Spelt "move" verb ∧ ∃ link point xs s ys, cutWord rest = (link, point) ∧ Spelt "to" link ∧
        point = xs ++ (s ++ ys) ∧ IsNumeral xs ∧ IsSeparation s ∧ IsNumeral ys := by
  by_cases hm : spells "move".toList verb = true
  · have hv : Spelt "move" verb := spells_iff.1 hm
    obtain ⟨⟨link, point⟩, hc⟩ : ∃ r, cutWord rest = r := ⟨_, rfl⟩
    have ho := readOrder_move hv hc
    by_cases ht : spells "to".toList link = true
    · rw [if_pos ht] at ho
      rcases readPoint_split point with hp | ⟨xs, s, ys, hp, hx, hs, hy⟩
      · exact .inl ⟨none, by rw [ho, hp], by simp⟩
      · exact .inr ⟨hv, link, point, xs, s, ys, hc, spells_iff.1 ht, hp, hx, hs, hy⟩
    · rw [if_neg ht] at ho
      exact .inl ⟨none, ho, by simp⟩
  · left
    rw [readOrder, if_neg hm]
    split
    · exact ⟨_, rfl, by split <;> simp⟩
    split
    · exact ⟨_, rfl, by cases readRest rest <;> simp⟩
    split
    · exact ⟨_, rfl, by cases readRest rest <;> simp⟩
    split
    · exact ⟨_, rfl, by cases readRest rest <;> simp⟩
    · exact ⟨none, rfl, by simp⟩

/-- a line is written as a move, or it is read, and not as one -/
theorem readLine_other {line : List Char} (hs : Stops isBlank line) :
    (∃ c?, readLine line = .ok c? ∧ ∀ c ∈ c?, ∀ x y, c.order ≠ .move x y) ∨ ∃ n xs ys, MovesTo line n xs ys := by
  obtain ⟨⟨n, rest'⟩, h1⟩ : ∃ r, cutWord line = r := ⟨_, rfl⟩
  obtain ⟨⟨v, rest⟩, h2⟩ : ∃ r, cutWord rest' = r := ⟨_, rfl⟩
  rcases readOrder_other v rest with ⟨order?, ho, hother⟩ | ⟨hv, link, point, xs, s, ys, h3, hlink, hp, hx, hsep, hy⟩
  · refine .inl ⟨_, readLine_cut h1 h2 ho, ?_⟩
    intro c hc x y hxy
    obtain ⟨order, horder, rfl⟩ := Option.map_eq_some_iff.1 hc
    exact hother x y (by rw [horder, ← hxy])
  · exact .inr ⟨n, xs, ys, movesTo_cut hs h1 h2 h3 hv hlink hp hx hsep hy⟩

theorem readCoordinate_long {ds : List Char} (h : digitLimit < ds.length) :
    readCoordinate ds = .error (.longNumeral ds.length) := if_pos h

section

variable {line n xs ys : List Char}

theorem readLine_long (h : MovesTo line n xs ys) (hlong : digitLimit < xs.length ∨ digitLimit < ys.length) :
    ∃ e, readLine line = .error e := by
  rw [readLine_moves h]
  by_cases hx : digitLimit < xs.length
  · exact ⟨_, by rw [readCoordinate_long hx]; rfl⟩
  · rw [readCoordinate_eq (by omega), readCoordinate_long (hlong.resolve_left hx)]
    exact ⟨_, rfl⟩

theorem readLine_short (h : MovesTo line n xs ys) (hx : xs.length ≤ digitLimit) (hy : ys.length ≤ digitLimit) :
    readLine line = .ok (some ⟨String.ofList n, .move (numberOf xs) (numberOf ys)⟩) := by
  rw [readLine_moves h, readCoordinate_eq hx, readCoordinate_eq hy]
  rfl

end

end Prompt

/-! ## Puts -/

def Agent.Placed (a : Agent) : Prop := Binary64.isFinite a.x = true ∧ Binary64.isFinite a.y = true

/-- the order is no move, or one to a point that has doubles -/
def Order.Fits (order : Order) : Prop :=
  ∀ x y, order = .move x y → (Binary64.ofInt? x).isSome ∧ (Binary64.ofInt? y).isSome

namespace Agent

theorem enqueueMove_ok (a : Agent) {x y : Int} (hx : (Binary64.ofInt? x).isSome) (hy : (Binary64.ofInt? y).isSome) :
    ∃ r, a.enqueueMove (.whole x) (.whole y) = .ok r := by
  obtain ⟨x', hx⟩ := Option.isSome_iff_exists.1 hx
  obtain ⟨y', hy⟩ := Option.isSome_iff_exists.1 hy
  simp only [enqueueMove, Schema.realOfNumber, Number.toFloat?, hx, hy]
  exact ⟨_, rfl⟩

theorem enqueueMove_fails (a : Agent) {x y : Int} (h : Binary64.ofInt? x = none ∨ Binary64.ofInt? y = none) :
    ∃ e, a.enqueueMove (.whole x) (.whole y) = .error e := by
  simp only [enqueueMove, Schema.realOfNumber, Number.toFloat?]
  rcases h with h | h
  · rw [h]
    cases Binary64.ofInt? y with
    | none => exact ⟨_, rfl⟩
    | some y' => exact ⟨_, rfl⟩
  · rw [h]
    cases Binary64.ofInt? x with
    | none => exact ⟨_, rfl⟩
    | some x' => exact ⟨_, rfl⟩

theorem enqueueExplore_ok {a : Agent} (h : a.Placed) (g : Twister) : ∃ r, (a.enqueueExplore g).1 = .ok r := by
  obtain ⟨⟨dx, g₁⟩, h₁⟩ : ∃ draw, g.nextOffset = draw := ⟨_, rfl⟩
  obtain ⟨⟨dy, g₂⟩, h₂⟩ : ∃ draw, g₁.nextOffset = draw := ⟨_, rfl⟩
  obtain ⟨column, hx⟩ := nearestTile_ok h.1
  obtain ⟨row, hy⟩ := nearestTile_ok h.2
  simp only [enqueueExplore, h₁, h₂, hx, hy]
  exact ⟨_, rfl⟩

theorem put_ok {a : Agent} (h : a.Placed) {order : Order} (ho : order.Fits) (g : Twister) :
    ∃ b q, a.put (order.toPut g) = .ok (b, q) := by
  cases order with
  | move x y =>
    obtain ⟨hx, hy⟩ := ho x y rfl
    obtain ⟨r, hr⟩ := a.enqueueMove_ok hx hy
    exact ⟨r.1, .action r.2, by simp only [Order.toPut, put, hr]; rfl⟩
  | explore =>
    obtain ⟨r, hr⟩ := enqueueExplore_ok h g
    exact ⟨r.1, .action r.2, by simp only [Order.toPut, put, hr]; rfl⟩
  | gather resource => exact ⟨_, _, rfl⟩
  | build building => exact ⟨_, _, rfl⟩
  | say message => exact ⟨_, _, rfl⟩

theorem put_move_fails (a : Agent) {x y : Int} (h : Binary64.ofInt? x = none ∨ Binary64.ofInt? y = none) (g : Twister) :
    ∃ e, a.put ((Order.move x y).toPut g) = .error e := by
  obtain ⟨e, he⟩ := a.enqueueMove_fails h
  exact ⟨e, by simp only [Order.toPut, put, he]; rfl⟩

end Agent

/-! ## Commands -/

namespace World

def Placed (w : World) : Prop := ∀ key a, w.roster.find? key = some a → a.Placed

theorem placed_of_agents {w : World} (h : ∀ a ∈ w.roster.agents, a.Placed) : w.Placed :=
  fun _ _ ha => h _ (List.mem_map_of_mem (Roster.mem_slots_of_find? ha))

theorem give_placed {w : World} (h : w.Placed) (order : Order) (key : Text) : (w.give order key).2.Placed := by
  have hclosed : PutClosed fun a b : Agent => b.x = a.x ∧ b.y = a.y := by
    constructor
    · exact fun a => ⟨rfl, rfl⟩
    · exact fun a b c hab hbc => ⟨hbc.1.trans hab.1, hbc.2.trans hab.2⟩
    · intro a b p q hp
      rw [Agent.put_eq hp]
      exact ⟨rfl, rfl⟩
  intro k b hb
  obtain ⟨a, ha, hx, hy⟩ := (give_stays hclosed w order key).roster.before hb
  obtain ⟨hax, hay⟩ := h k a ha
  exact ⟨by rw [hx]; exact hax, by rw [hy]; exact hay⟩

theorem giveAll_ok {order : Order} (ho : order.Fits) (keys : List Text) {w : World} (h : w.Placed) :
    (giveAll order keys w).1 = .ok () := by
  induction keys generalizing w with
  | nil => rfl
  | cons key keys ih =>
    have hplaced := give_placed h order key
    have hok : (w.give order key).1 = .ok () := by
      rcases w.give_cases order key with ⟨-, hg⟩ | ⟨a, e, ha, hp, -⟩ | ⟨a, b, q, -, -, hg⟩
      · rw [hg]
      · obtain ⟨b, q, hok⟩ := Agent.put_ok (h key a ha) ho w.rng
        rw [hok] at hp
        cases hp
      · rw [hg]
    rw [giveAll]
    cases hg : w.give order key with
    | mk outcome w' =>
      rw [hg] at hok hplaced
      cases hok
      exact ih hplaced

/-- a move to a point without doubles fails at the first who is there, before anything is changed -/
theorem giveAll_fails {w : World} {x y : Int} (h : Binary64.ofInt? x = none ∨ Binary64.ofInt? y = none) {key : Text}
    (hkey : key ∈ w.roster.keys) (keys : List Text) : ∃ e, giveAll (.move x y) (key :: keys) w = (.error e, w) := by
  rcases w.give_cases (.move x y) key with ⟨hnone, -⟩ | ⟨a, e, -, -, hg⟩ | ⟨a, b, q, -, hp, -⟩
  · exact absurd hkey (Roster.find?_eq_none.1 hnone)
  · exact ⟨e, by rw [giveAll, hg]; rfl⟩
  · obtain ⟨e, he⟩ := a.put_move_fails h w.rng
    rw [he] at hp
    cases hp

/-- a command fails exactly where somebody is addressed by a move to a point without doubles -/
theorem dispatch_fails_iff {w : World} (h : w.Placed) (c : Command) :
    (∃ e, (w.dispatch c).1 = .error e) ↔ w.addressed c.target ≠ [] ∧
      ∃ x y, c.order = .move x y ∧ (Binary64.ofInt? x = none ∨ Binary64.ofInt? y = none) := by
  rw [dispatch, dispatchTo]
  cases hto : w.addressed c.target with
  | nil => simp
  | cons key keys =>
    dsimp only
    by_cases ho : c.order.Fits
    · have hok := giveAll_ok ho (key :: keys) h
      cases hg : giveAll c.order (key :: keys) w with
      | mk outcome w' =>
        rw [hg] at hok
        cases hok
        constructor
        · rintro ⟨e, he⟩; cases he
        · rintro ⟨-, x, y, hxy, hnone⟩
          obtain ⟨hx, hy⟩ := ho x y hxy
          rcases hnone with hn | hn
          · rw [hn] at hx; cases hx
          · rw [hn] at hy; cases hy
    · have hmove : ∃ x y, c.order = .move x y ∧ (Binary64.ofInt? x = none ∨ Binary64.ofInt? y = none) := by
        by_contra hno
        apply ho
        intro x y hxy
        simp only [Option.isSome_iff_ne_none]
        exact ⟨fun hn => hno ⟨x, y, hxy, .inl hn⟩, fun hn => hno ⟨x, y, hxy, .inr hn⟩⟩
      obtain ⟨x, y, hxy, hnone⟩ := hmove
      have hkey : key ∈ w.addressed c.target := by rw [hto]; exact List.mem_cons_self
      obtain ⟨e, he⟩ := giveAll_fails hnone (addressed_keys hkey) keys
      rw [hxy]
      cases hg : giveAll (.move x y) (key :: keys) w with
      | mk outcome w' =>
        rw [hg] at he
        cases he
        exact ⟨fun _ => ⟨by simp, x, y, rfl, hnone⟩, fun _ => ⟨e, rfl⟩⟩

/-! ## Prompts -/

/-- a prompt is read, and its command is given where its echo stands in the log -/
theorem handlePrompt_outcome (w : World) (text : String) :
    (w.handlePrompt text).1 = (Prompt.parse text).bind fun
      | none => .ok none
      | some c => ((w.addMessage ("> " ++ Text.strip text)).dispatch c).1.map fun _ => some c := by
  rcases w.handlePrompt_cases text with ⟨-, hparse, hp⟩ | ⟨-, ⟨e, hparse, hp⟩ | ⟨hparse, hp⟩ | ⟨c, hparse, hp⟩⟩
  · rw [hp, hparse]; rfl
  · rw [hp, hparse]; rfl
  · rw [hp, hparse]; rfl
  · rw [hp, hparse]; rfl

/-- the prompt is written as a move, and has a numeral of too many digits or, if somebody is addressed, without double -/
def Refuses (w : World) (text : String) : Prop :=
  ∃ n xs ys, Prompt.MovesTo (Text.stripBy Text.isBlank text.toList) n xs ys ∧
    (Text.digitLimit < xs.length ∨ Text.digitLimit < ys.length ∨
      w.addressed (String.ofList n) ≠ [] ∧
        (Binary64.ofInt? (Prompt.numberOf xs) = none ∨ Binary64.ofInt? (Prompt.numberOf ys) = none))

theorem handlePrompt_read {w : World} {text : String} {c? : Option Command} (h : w.Placed)
    (hp : Prompt.parse text = .ok c?) :
    (w.handlePrompt text).1 = .ok c? ∨ ∃ c x y, c? = some c ∧ c.order = .move x y ∧ w.addressed c.target ≠ [] ∧
      (Binary64.ofInt? x = none ∨ Binary64.ofInt? y = none) ∧ ∃ e, (w.handlePrompt text).1 = .error e := by
  rw [handlePrompt_outcome, hp]
  cases c? with
  | none => exact .inl rfl
  | some c =>
    have hfails := dispatch_fails_iff (w := w.addMessage ("> " ++ Text.strip text)) h c
    show ((w.addMessage ("> " ++ Text.strip text)).dispatch c).1.map _ = _ ∨ _
    cases hd : ((w.addMessage ("> " ++ Text.strip text)).dispatch c).1 with
    | ok names => exact .inl rfl
    | error e =>
      obtain ⟨hto, x, y, hxy, hnone⟩ := hfails.1 ⟨e, hd⟩
      refine .inr ⟨c, x, y, rfl, hxy, hto, hnone, e, ?_⟩
      show ((w.addMessage ("> " ++ Text.strip text)).dispatch c).1.map _ = _
      rw [hd]
      rfl

theorem refuses_fails {w : World} {text : String} (h : w.Placed) (hr : w.Refuses text) :
    ∃ e, (w.handlePrompt text).1 = .error e := by
  obtain ⟨n, xs, ys, hmoves, hcause⟩ := hr
  by_cases hlong : Text.digitLimit < xs.length ∨ Text.digitLimit < ys.length
  · obtain ⟨e, he⟩ := Prompt.readLine_long hmoves hlong
    have hp : Prompt.parse text = .error e := he
    exact ⟨e, by rw [handlePrompt_outcome, hp]; rfl⟩
  · rw [← or_assoc] at hcause
    obtain ⟨hto, hnone⟩ := hcause.resolve_left hlong
    have hp : Prompt.parse text = .ok (some ⟨String.ofList n, .move (Prompt.numberOf xs) (Prompt.numberOf ys)⟩) :=
      Prompt.readLine_short hmoves (by omega) (by omega)
    obtain ⟨e, he⟩ := (dispatch_fails_iff (w := w.addMessage ("> " ++ Text.strip text)) h
      ⟨String.ofList n, .move (Prompt.numberOf xs) (Prompt.numberOf ys)⟩).2 ⟨hto, _, _, rfl, hnone⟩
    refine ⟨e, ?_⟩
    rw [handlePrompt_outcome, hp]
    show ((w.addMessage ("> " ++ Text.strip text)).dispatch _).1.map _ = _
    rw [he]
    rfl

theorem unrefused_ok {w : World} {text : String} (h : w.Placed) (hr : ¬w.Refuses text) :
    ∃ c?, Prompt.parse text = .ok c? ∧ (w.handlePrompt text).1 = .ok c? := by
  have hstops := Text.stripBy_stops Text.isBlank text.toList
  rcases Prompt.readLine_other hstops with ⟨c?, hread, hother⟩ | ⟨n, xs, ys, hmoves⟩
  · have hp : Prompt.parse text = .ok c? := hread
    rcases handlePrompt_read h hp with hok | ⟨c, x, y, hc, hxy, -⟩
    · exact ⟨c?, hp, hok⟩
    · exact absurd hxy (hother c hc x y)
  · have hshort : ¬(Text.digitLimit < xs.length ∨ Text.digitLimit < ys.length) := fun hlong =>
      hr ⟨n, xs, ys, hmoves, hlong.elim .inl fun hy => .inr (.inl hy)⟩
    have hp : Prompt.parse text = .ok (some ⟨String.ofList n, .move (Prompt.numberOf xs) (Prompt.numberOf ys)⟩) :=
      Prompt.readLine_short hmoves (by omega) (by omega)
    rcases handlePrompt_read h hp with hok | ⟨c, x, y, hc, hxy, hto, hnone, -⟩
    · exact ⟨_, hp, hok⟩
    · cases hc
      cases hxy
      exact absurd ⟨n, xs, ys, hmoves, .inr (.inr ⟨hto, hnone⟩)⟩ hr

/-- a prompt that is no command is echoed and complained about -/
theorem handlePrompt_unknown (w : World) {text : String} (hp : Prompt.parse text = .ok none)
    (hne : Text.strip text ≠ "") :
    w.handlePrompt text = (.ok none, (w.addMessage ("> " ++ Text.strip text)).addMessage notUnderstood) := by
  rw [← Prompt.parse_strip] at hp
  simp only [handlePrompt, String.isEmpty_iff, hne, if_false, hp]

/-- **A prompt fails exactly where it is written as a move that cannot be represented.** -/
theorem prompts_refused {w : World} (hw : ∀ a ∈ w.roster.agents, a.Placed) (text : String) :
    ((∃ e, (w.handlePrompt text).1 = .error e) ↔ w.Refuses text) ∧
    (¬w.Refuses text → ∃ c?, Prompt.parse text = .ok c? ∧ (w.handlePrompt text).1 = .ok c?) ∧
    (Prompt.parse text = .ok none → Text.strip text ≠ "" →
      w.handlePrompt text = (.ok none, (w.addMessage ("> " ++ Text.strip text)).addMessage notUnderstood)) := by
  have h : w.Placed := placed_of_agents hw
  refine ⟨⟨?_, refuses_fails h⟩, unrefused_ok h, w.handlePrompt_unknown⟩
  rintro ⟨e, he⟩
  by_contra hr
  obtain ⟨c?, -, hok⟩ := unrefused_ok h hr
  rw [hok] at he
  cases he

/-- the prompt by which Bot is told to move to a column of that numeral -/
def moveBot (ds : List Char) : String :=
  String.ofList (['B', 'o', 't', ' ', 'm', 'o', 'v', 'e', ' ', 't', 'o', ' '] ++ (ds ++ [',', '0']))

theorem moveBot_moves {ds : List Char} (hd : Prompt.IsNumeral ds) :
    Prompt.MovesTo (Text.stripBy Text.isBlank (moveBot ds).toList) ['B', 'o', 't'] ds ['0'] := by
  have hstrip : Text.stripBy Text.isBlank (moveBot ds).toList =
      ['B', 'o', 't', ' ', 'm', 'o', 'v', 'e', ' ', 't', 'o', ' '] ++ (ds ++ [',', '0']) := by
    rw [moveBot, String.toList_ofList]
    refine Text.stripBy_eq (Text.stops_cons.2 (by decide)) ?_
    rw [List.reverse_append, List.reverse_append]
    exact Text.stops_cons.2 (by decide)
  have hmove : Prompt.Spelt "move" ['m', 'o', 'v', 'e'] := Prompt.spells_iff.1 (by decide)
  have hto : Prompt.Spelt "to" ['t', 'o'] := Prompt.spells_iff.1 (by decide)
  have hgap : Prompt.IsGap [' '] := ⟨by simp, List.forall_mem_singleton.2 (by decide)⟩
  have hbot : Prompt.IsWord ['B', 'o', 't'] :=
    ⟨by simp, by simp only [List.mem_cons, List.not_mem_nil, or_false, forall_eq_or_imp, forall_eq]; decide⟩
  have hrow : Prompt.IsNumeral ['0'] := ⟨by simp, List.forall_mem_singleton.2 (by decide)⟩
  rw [hstrip]
  exact ⟨[' '], _, [' '], _, [' '], [','], by simp, hbot, hgap, hmove, hgap, hto, hgap, hd,
    ⟨[], ',', [], rfl, .inl rfl, by simp, by simp⟩, hrow⟩

theorem isNumeral_nines {n : Nat} (h : n ≠ 0) : Prompt.IsNumeral (List.replicate n '9') :=
  ⟨by simpa using h, fun c hc => by rw [List.eq_of_mem_replicate hc]; decide⟩

theorem moveBot_refused {w : World} (ds : List Char) (hd : Prompt.IsNumeral ds)
    (h : Text.digitLimit < ds.length ∨ w.addressed "Bot" ≠ [] ∧ Binary64.ofInt? (Prompt.numberOf ds) = none) :
    w.Refuses (moveBot ds) := by
  refine ⟨_, _, _, moveBot_moves hd, ?_⟩
  rw [show String.ofList ['B', 'o', 't'] = "Bot" from rfl]
  rcases h with h | ⟨hto, h⟩
  · exact .inl h
  · exact .inr (.inr ⟨hto, .inl h⟩)

theorem nines_without_double : Binary64.ofInt? (Prompt.numberOf (List.replicate 400 '9')) = none := by
  rw [← Option.isNone_iff_eq_none]
  decide +kernel

/-- an agent that stands far out explores, and is told in vain to go further than doubles do -/
theorem prompts_refused_far :
    let w : World := { bare ⟨#[], 0⟩ 0.0 with
      roster := ⟨[("bot", { id := 1, name := "Bot", x := 1e300, y := -0.5 })]⟩ }
    (∀ a ∈ w.roster.agents, a.Placed) ∧ ¬w.Refuses "bot EXPLORE" ∧
      ∃ e, (w.handlePrompt (moveBot (List.replicate 400 '9'))).1 = .error e := by
  intro w
  have hw : ∀ a ∈ w.roster.agents, a.Placed := by
    simp only [w, Roster.agents, Agent.Placed]
    decide +kernel
  refine ⟨hw, ?_, (prompts_refused hw _).1.2 ?_⟩
  · intro hr
    obtain ⟨e, he⟩ := (prompts_refused hw "bot EXPLORE").1.2 hr
    have hok : (w.handlePrompt "bot EXPLORE").1.isOk = true := by decide +kernel
    rw [he] at hok
    cases hok
  · exact moveBot_refused _ (isNumeral_nines (by decide)) (.inr ⟨by decide +kernel, nines_without_double⟩)

/-- prompts that fail in a world just built: a column without double, and one of too many digits -/
theorem prompts_fail :
    let f : WorldFile := ⟨2, 2, [⟨"Bot", .whole 0, .whole 0, "#fff"⟩], .null⟩
    ∃ w, f.build ⟨#[], 0⟩ 0.0 = .ok w ∧ (∀ a ∈ w.roster.agents, a.Placed) ∧
      (∃ e, (w.handlePrompt (moveBot (List.replicate 400 '9'))).1 = .error e) ∧
      ∃ e, (w.handlePrompt (moveBot (List.replicate 4301 '9'))).1 = .error e := by
  intro f
  obtain ⟨w, hbuild, hplaced, hto⟩ : ∃ w, f.build ⟨#[], 0⟩ 0.0 = .ok w ∧
      (∀ a ∈ w.roster.agents, Binary64.isFinite a.x = true ∧ Binary64.isFinite a.y = true) ∧ w.addressed "Bot" ≠ [] :=
    ⟨_, rfl, by decide +kernel, by decide +kernel⟩
  have hlong : Text.digitLimit < (List.replicate 4301 '9').length := by rw [List.length_replicate]; decide
  refine ⟨w, hbuild, hplaced, refuses_fails (placed_of_agents hplaced) ?_, refuses_fails (placed_of_agents hplaced) ?_⟩
  · exact moveBot_refused _ (isNumeral_nines (by decide)) (.inr ⟨hto, nines_without_double⟩)
  · exact moveBot_refused _ (isNumeral_nines (by decide)) (.inl hlong)

end World

end TileCrew
