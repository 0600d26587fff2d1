/-
What the log says. Every line that is ever added is a message with the reading of the clock at its turn; the log keeps the
last of them.
- `Writes`: the log after is the log before with these lines added, one reading of the clock for each;
- `lines`: what a call is to say in the log, by what it is and whom it means;
- `call_writes`: a call says that, or if it fails the first part of it;
- `Chronicle`: calls, and what each of them said;
- `log_recent`: **the log is the last fifty lines of everything that was ever said**.
-/
import Mathlib.Data.List.DropRight
import TileCrew.Proofs.World.Calls
import TileCrew.Proofs.World.Effect

namespace TileCrew

/-- messages of these texts, each with what the clock reads when its turn comes -/
def Clock.stamps (c : Clock) : List Text → List Message
  | [] => []
  | text :: texts => ⟨text, c.now⟩ :: c.next.stamps texts

@[simp] theorem Clock.length_stamps (c : Clock) (texts : List Text) : (c.stamps texts).length = texts.length := by
  induction texts generalizing c with
  | nil => rfl
  | cons text texts ih => simp [stamps, ih]

theorem rtake_append_rtake {α : Type} (l m : List α) (n : Nat) : (l.rtake n ++ m).rtake n = (l ++ m).rtake n := by
  simp only [List.rtake_eq_reverse_take_reverse, List.reverse_append, List.reverse_reverse, List.take_append,
    List.length_reverse, List.take_take]
  congr 3
  omega

theorem rtake_append_of_le {α : Type} (l : List α) {m : List α} {n : Nat} (h : n ≤ m.length) :
    (l ++ m).rtake n = m.rtake n := by
  rw [List.rtake_eq_reverse_take_reverse, List.rtake_eq_reverse_take_reverse, List.reverse_append,
    List.take_append_of_le_length (by rw [List.length_reverse]; exact h)]

namespace World

/-! ## Lines in the log -/

def addMessages (w : World) (texts : List Text) : World := texts.foldl addMessage w

theorem addMessages_congr {w v : World} (hlog : w.log = v.log) (hclock : w.clock = v.clock) (texts : List Text) :
    (w.addMessages texts).log = (v.addMessages texts).log ∧ (w.addMessages texts).clock = (v.addMessages texts).clock := by
  induction texts generalizing w v with
  | nil => exact ⟨hlog, hclock⟩
  | cons text texts ih =>
    apply ih
    · simp only [addMessage, stamp, hlog, hclock]
    · simp only [addMessage, hclock]

/-- of fifty messages and one more the first is left out -/
theorem addMessage_entries (w : World) (text : Text) :
    (w.addMessage text).log.entries = (w.log.entries ++ [w.stamp text]).rtake 50 := by
  have hcapacity : MessageLog.capacity = 50 := rfl
  rw [← hcapacity]
  rfl

/-- what was the last part of a history is, with these lines, the last part of a longer one -/
theorem addMessages_entries {w : World} {past : List Message} (h : w.log.entries = past.rtake 50) (texts : List Text) :
    (w.addMessages texts).log.entries = (past ++ w.clock.stamps texts).rtake 50 := by
  induction texts generalizing w past with
  | nil => rw [Clock.stamps, List.append_nil]; exact h
  | cons text texts ih =>
    have hstep : (w.addMessage text).log.entries = (past ++ [w.stamp text]).rtake 50 := by
      rw [← rtake_append_rtake, ← h, addMessage_entries]
    have hrest := ih hstep
    rw [List.append_assoc] at hrest
    exact hrest

/-- the log after is the log before with these lines added, and the clock has been read for each of them -/
structure Writes (w : World) (texts : List Text) (w' : World) : Prop where
  log : w'.log = (w.addMessages texts).log
  clock : w'.clock = (w.addMessages texts).clock

theorem Writes.refl (w : World) : w.Writes [] w := ⟨rfl, rfl⟩

theorem addMessage_writes (w : World) (text : Text) : w.Writes [text] (w.addMessage text) := ⟨rfl, rfl⟩

theorem Writes.trans {w w' w'' : World} {texts texts' : List Text} (h : w.Writes texts w') (h' : w'.Writes texts' w'') :
    w.Writes (texts ++ texts') w'' := by
  have happend : w.addMessages (texts ++ texts') = (w.addMessages texts).addMessages texts' := by
    simp [addMessages, List.foldl_append]
  obtain ⟨hlog, hclock⟩ := addMessages_congr h.log h.clock texts'
  rw [← happend] at hlog hclock
  exact ⟨h'.log.trans hlog, h'.clock.trans hclock⟩

/-! ## What is said of commands -/

/-- the lines for an order given to those in these slots: one for each of them -/
def reports (w : World) (order : Order) (keys : List Text) : List Text :=
  keys.filterMap fun key => (w.roster.find? key).map fun a => order.report a.name

/-- the lines name agents, and agents keep their names -/
theorem reports_congr {w w' : World} (h : Stays Agent.Same w w') (order : Order) (keys : List Text) :
    w'.reports order keys = w.reports order keys := by
  apply List.filterMap_congr
  intro key _
  cases ha : w.roster.find? key with
  | none =>
    have hnone : w'.roster.find? key = none := by
      rw [Roster.find?_eq_none] at ha ⊢
      rw [h.roster.keys_eq]
      exact ha
    rw [hnone]
  | some a =>
    obtain ⟨b, hb, hsame⟩ := h.roster.after ha
    rw [hb, Option.map_some, Option.map_some, hsame.name]

theorem give_writes (w : World) (order : Order) (key : Text) :
    (w.give order key).1 = .ok () ∧ w.Writes (w.reports order [key]) (w.give order key).2 ∨
      (∃ e, (w.give order key).1 = .error e) ∧ w.Writes [] (w.give order key).2 := by
  rcases w.give_cases order key with ⟨hnone, hg⟩ | ⟨a, e, -, -, hg⟩ | ⟨a, b, q, ha, -, hg⟩
  · left
    have hnothing : w.reports order [key] = [] := by simp [reports, hnone]
    rw [hg, hnothing]
    exact ⟨rfl, .refl w⟩
  · right
    rw [hg]
    exact ⟨⟨e, rfl⟩, ⟨rfl, rfl⟩⟩
  · left
    have hline : w.reports order [key] = [order.report a.name] := by simp [reports, ha]
    rw [hg, hline]
    exact ⟨rfl, ⟨rfl, rfl⟩⟩

/-- these lines are written, or if there is a fault the first of them -/
def WritesUpTo {α : Type} (w : World) (texts : List Text) (r : Except Fault α × World) : Prop :=
  ∃ said, said <+: texts ∧ w.Writes said r.2 ∧ ∀ a, r.1 = .ok a → said = texts

theorem giveAll_writes (order : Order) (keys : List Text) (w : World) :
    w.WritesUpTo (w.reports order keys) (giveAll order keys w) := by
  induction keys generalizing w with
  | nil => exact ⟨[], List.prefix_refl _, .refl w, fun _ _ => rfl⟩
  | cons key keys ih =>
    have hcons : w.reports order (key :: keys) = w.reports order [key] ++ w.reports order keys := by
      rw [reports, reports, reports, ← List.filterMap_append, List.singleton_append]
    have hsame := give_stays PutClosed.same w order key
    rw [giveAll, hcons]
    rcases w.give_writes order key with ⟨hok, hw⟩ | ⟨⟨e, he⟩, hw⟩
    · cases hg : w.give order key with
      | mk outcome w' =>
        rw [hg] at hok hw hsame
        cases hok
        obtain ⟨said, hsaid, hw', hall⟩ := ih w'
        rw [reports_congr hsame] at hsaid hall
        refine ⟨w.reports order [key] ++ said, List.prefix_append_right_inj _ |>.2 hsaid, hw.trans hw', ?_⟩
        intro a ha
        rw [hall a ha]
    · cases hg : w.give order key with
      | mk outcome w' =>
        rw [hg] at he hw
        cases he
        exact ⟨[], List.nil_prefix, hw, by rintro a ⟨⟩⟩

/-- what a command is to say: one line for each whom it means, in the order of the slots, or that there is nobody -/
def commandLines (w : World) (c : Command) : List Text :=
  match w.meant c.target with
  | [] => [notFound c.target]
  | told => told.map fun s => c.order.report s.2.name

/-- what a prompt is to say: nothing if it is blank, else its echo, and then what comes of it -/
def promptLines (w : World) (text : String) : List Text :=
  if Text.strip text = "" then []
  else
    echo text :: match Prompt.parse text with
      | .error _ => []
      | .ok none => [notUnderstood]
      | .ok (some c) => w.commandLines c

theorem reports_meant {w : World} (hw : w.roster.keys.Nodup) (c : Command) :
    w.reports c.order (w.addressed c.target) = (w.meant c.target).map fun s => c.order.report s.2.name := by
  rw [addressed_eq hw, reports, List.filterMap_map, ← List.filterMap_eq_map]
  apply List.filterMap_congr
  intro s hs
  simp [meant_found hw hs]

theorem dispatch_writes {w : World} (hw : w.roster.keys.Nodup) (c : Command) :
    w.WritesUpTo (w.commandLines c) (w.dispatch c) := by
  have hto := addressed_eq hw c.target
  rcases w.dispatch_cases c with ⟨hnobody, hd⟩ | ⟨hsomebody, names, hd⟩
  · have hnone : w.meant c.target = [] := List.map_eq_nil_iff.1 (hto.symm.trans hnobody)
    rw [hd, commandLines, hnone]
    exact ⟨_, List.prefix_refl _, addMessage_writes w _, fun _ _ => rfl⟩
  · have hlines : w.commandLines c = w.reports c.order (w.addressed c.target) := by
      rw [reports_meant hw, commandLines]
      split
      · rename_i hnone
        rw [hto, hnone] at hsomebody
        exact absurd rfl hsomebody
      · rfl
    obtain ⟨said, hsaid, hwrites, hall⟩ := giveAll_writes c.order (w.addressed c.target) w
    rw [hd, hlines]
    refine ⟨said, hsaid, hwrites, ?_⟩
    intro a ha
    cases hg : (giveAll c.order (w.addressed c.target) w).1 with
    | error e => rw [hg] at ha; cases ha
    | ok u => exact hall u hg

theorem prompt_writes {w : World} (hw : w.roster.keys.Nodup) (text : String) :
    w.WritesUpTo (w.promptLines text) (w.handlePrompt text) := by
  rcases w.handlePrompt_cases text with ⟨hblank, -, hp⟩ | ⟨hblank, ⟨e, hparse, hp⟩ | ⟨hparse, hp⟩ | ⟨c, hparse, hp⟩⟩
  · rw [hp, promptLines, if_pos hblank]
    exact ⟨[], List.prefix_refl _, .refl w, fun _ _ => rfl⟩
  · rw [hp, promptLines, if_neg hblank, hparse]
    exact ⟨_, List.prefix_refl _, addMessage_writes w _, fun _ _ => rfl⟩
  · rw [hp, promptLines, if_neg hblank, hparse]
    exact ⟨_, List.prefix_refl _, (addMessage_writes w _).trans (addMessage_writes _ _), fun _ _ => rfl⟩
  · rw [hp, promptLines, if_neg hblank, hparse]
    -- the echo names nobody: who is meant after it is who was meant before
    obtain ⟨said, hsaid, hwrites, hall⟩ := dispatch_writes (w := w.addMessage (echo text)) hw c
    refine ⟨echo text :: said, List.cons_prefix_cons.2 ⟨rfl, hsaid⟩, (addMessage_writes w _).trans hwrites, ?_⟩
    intro c? hok
    cases hd : ((w.addMessage (echo text)).dispatch c).1 with
    | error e => rw [hd] at hok; cases hok
    | ok names => rw [hall names hd]; rfl

/-! ## Calls -/

def lines (w : World) : Call → List Text
  | .prompt text => w.promptLines text
  | .command c => w.commandLines c
  | .message text => [text]
  | .change _ => []
  | .time _ => []

/-- the call comes to no fault; messages and changes of the roster leave none behind -/
def Returns (w : World) : Call → Prop
  | .prompt text => ∃ c?, (w.handlePrompt text).1 = .ok c?
  | .command c => ∃ names, (w.dispatch c).1 = .ok names
  | .message _ => True
  | .change _ => True
  | .time dt => (w.update dt).1 = .ok ()

theorem change_writes (w : World) (c : Change) : w.Writes [] (w.change c) := by
  rcases w.change_cases c with ⟨hc, -⟩ | ⟨a, ha⟩ | ⟨name, -, hc, -⟩
  · rw [hc]; exact .refl w
  · rw [ha.world]; exact ⟨rfl, rfl⟩
  · rw [hc]; exact ⟨rfl, rfl⟩

/-- a call says what it is to say, or if it comes to a fault the first part of it -/
theorem call_writes {w : World} (hw : w.roster.keys.Nodup) (c : Call) :
    ∃ said, said <+: w.lines c ∧ w.Writes said (w.call c) ∧ (w.Returns c → said = w.lines c) := by
  cases c with
  | prompt text =>
    obtain ⟨said, hsaid, hwrites, hall⟩ := prompt_writes hw text
    exact ⟨said, hsaid, hwrites, fun ⟨c?, hok⟩ => hall c? hok⟩
  | command c =>
    obtain ⟨said, hsaid, hwrites, hall⟩ := dispatch_writes hw c
    exact ⟨said, hsaid, hwrites, fun ⟨names, hok⟩ => hall names hok⟩
  | message text => exact ⟨[text], List.prefix_refl _, addMessage_writes w text, fun _ => rfl⟩
  | change c => exact ⟨[], List.prefix_refl _, w.change_writes c, fun _ => rfl⟩
  | time dt => exact ⟨[], List.prefix_refl _, ⟨rfl, rfl⟩, fun _ => rfl⟩

/-! ## The chronicle -/

/-- calls on a world, and what each of them added to the log -/
inductive Chronicle : World → List Call → List (List Text) → Prop
  | nil (w : World) : Chronicle w [] []
  | cons {w : World} {c : Call} {cs : List Call} {said : List Text} {rest : List (List Text)}
      (writes : w.Writes said (w.call c)) (part : said <+: w.lines c) (whole : w.Returns c → said = w.lines c)
      (later : Chronicle (w.call c) cs rest) : Chronicle w (c :: cs) (said :: rest)

theorem chronicle_exists {w : World} (hw : w.roster.keys.Nodup) (cs : List Call) : ∃ blocks, Chronicle w cs blocks := by
  induction cs generalizing w with
  | nil => exact ⟨[], .nil w⟩
  | cons c cs ih =>
    obtain ⟨said, hpart, hwrites, hwhole⟩ := call_writes hw c
    obtain ⟨rest, hrest⟩ := ih (call_nodup c hw)
    exact ⟨said :: rest, .cons hwrites hpart hwhole hrest⟩

theorem Chronicle.writes {w : World} {cs : List Call} {blocks : List (List Text)} (h : Chronicle w cs blocks) :
    w.Writes blocks.flatten (w.calls cs) := by
  induction h with
  | nil w => exact .refl w
  | cons hwrites _ _ _ ih => exact hwrites.trans ih

/-- where a line is written, there are no more than fifty from then on -/
theorem Writes.entries_cons {w w' : World} {text : Text} {texts : List Text} (h : w.Writes (text :: texts) w') :
    w'.log.entries = (w.log.entries ++ ⟨text, w.clock.now⟩ :: w.clock.next.stamps texts).rtake 50 := by
  have hfirst := w.addMessage_entries text
  have hrest := addMessages_entries hfirst texts
  rw [List.append_assoc] at hrest
  rw [h.log]
  exact hrest

theorem Writes.entries {w w' : World} {past : List Message} {texts : List Text} (h : w.Writes texts w')
    (hlog : w.log.entries = past.rtake 50) : w'.log.entries = (past ++ w.clock.stamps texts).rtake 50 := by
  rw [h.log]
  exact addMessages_entries hlog texts

end World

end TileCrew
