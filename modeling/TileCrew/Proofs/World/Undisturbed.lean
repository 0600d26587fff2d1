/-
Agents do not disturb each other. All that prompts do to one agent and to the generator that it shares with the others
is told by two lists: the prompts that are commands for it, and those that send somebody exploring.
- `hear`: a prompt as the agent of one slot and the generator have it, and `handleAll_hear`: no world does more to these
  two;
- `hear_bystander`, `hear_rng`, `drain_other`, `hear_other`: what of it depends on what;
- `foldl_hear`: prompts that are in neither list count for nothing, and what is in one of them only may come before or
  after what is in the other only;
- `undisturbed`: **two runs of one world in which an agent is told the same, and in which the same prompts send
  somebody exploring, show the same of that agent at every tick**.
-/
import TileCrew.Proofs.Crew.Hops
import TileCrew.Proofs.Outcomes
import TileCrew.Proofs.World.Runs

namespace TileCrew

/-! ## What prompts are about -/

/-- the prompt is a command for the agent of that name, or for all -/
def Prompt.concerns (name : Text) (text : String) : Bool :=
  match Prompt.parse text with
  | .ok (some c) => c.isBroadcast || Roster.keyOf c.target == Roster.keyOf name
  | _ => false

namespace World

/-- the prompt is a command to explore, and reaches somebody -/
def explores (w : World) (text : String) : Bool :=
  match Prompt.parse text with
  | .ok (some c) => c.order == .explore && !(w.addressed c.target).isEmpty
  | _ => false

/-! ## Prompts as one agent has them -/

/-- an order for some slot, as the agent of this slot and the generator have it -/
def overhear (key : Text) (order : Order) (s : Agent × Twister) (k : Text) : Agent × Twister :=
  (if k = key then s.1.after (.put (order.toPut s.2)) else s.1, order.spent s.2)

/-- a prompt, as the agent of this slot and the generator have it -/
def hear (w : World) (key : Text) (s : Agent × Twister) (text : String) : Agent × Twister :=
  match Prompt.parse text with
  | .ok (some c) => (w.addressed c.target).foldl (overhear key c.order) s
  | _ => s

/-- a prompt, as the generator has it -/
def drain (w : World) (g : Twister) (text : String) : Twister :=
  match Prompt.parse text with
  | .ok (some c) => (w.addressed c.target).foldl (fun g _ => c.order.spent g) g
  | _ => g

section

variable {key : Text} {order : Order}

theorem foldl_overhear_rng (ks : List Text) (s : Agent × Twister) :
    (ks.foldl (overhear key order) s).2 = ks.foldl (fun g _ => order.spent g) s.2 := by
  induction ks generalizing s with
  | nil => rfl
  | cons k ks ih => exact ih _

theorem foldl_overhear_bystander {ks : List Text} (h : key ∉ ks) (s : Agent × Twister) :
    (ks.foldl (overhear key order) s).1 = s.1 := by
  induction ks generalizing s with
  | nil => rfl
  | cons k ks ih =>
    rw [List.mem_cons, not_or] at h
    rw [List.foldl_cons, ih h.2, overhear, if_neg (Ne.symm h.1)]

theorem spent_other (h : order ≠ .explore) (g : Twister) : order.spent g = g := by
  cases order with
  | explore => exact absurd rfl h
  | _ => rfl

theorem toPut_other (h : order ≠ .explore) (g g' : Twister) : order.toPut g = order.toPut g' := by
  cases order with
  | explore => exact absurd rfl h
  | _ => rfl

theorem foldl_overhear_other (h : order ≠ .explore) (ks : List Text) (a : Agent) (g g' : Twister) :
    (ks.foldl (overhear key order) (a, g)).1 = (ks.foldl (overhear key order) (a, g')).1 := by
  induction ks generalizing a g g' with
  | nil => rfl
  | cons k ks ih =>
    rw [List.foldl_cons, List.foldl_cons, overhear, overhear, toPut_other h g g']
    exact ih _ _ _

end

/-- a prompt that does not concern the agent leaves it as it is -/
theorem hear_bystander {w : World} {name : Text} {text : String} (h : Prompt.concerns name text = false)
    (s : Agent × Twister) : (w.hear (Roster.keyOf name) s text).1 = s.1 := by
  unfold Prompt.concerns at h
  unfold hear
  split at h
  · rename_i c _
    rw [Bool.or_eq_false_iff, beq_eq_false_iff_ne] at h
    exact foldl_overhear_bystander (addressed_other h.1 h.2) s
  · rfl

theorem hear_rng (w : World) (key : Text) (s : Agent × Twister) (text : String) :
    (w.hear key s text).2 = w.drain s.2 text := by
  unfold hear drain
  split
  · exact foldl_overhear_rng _ s
  · rfl

/-- a prompt that sends nobody exploring leaves the generator as it is -/
theorem drain_other {w : World} {text : String} (h : w.explores text = false) (g : Twister) : w.drain g text = g := by
  unfold explores at h
  unfold drain
  split at h
  · rename_i c _
    generalize w.addressed c.target = ks at h ⊢
    induction ks with
    | nil => rfl
    | cons k ks ih =>
      have ho : c.order ≠ .explore := by simpa using h
      rw [List.foldl_cons, spent_other ho]
      exact ih (by simp [ho])
  · rfl

theorem hear_other {w : World} {text : String} (h : w.explores text = false) (key : Text) (a : Agent) (g g' : Twister) :
    (w.hear key (a, g) text).1 = (w.hear key (a, g') text).1 := by
  unfold explores at h
  unfold hear
  split at h
  · rename_i c _
    rw [Bool.and_eq_false_iff] at h
    rcases h with h | h
    · exact foldl_overhear_other (by simpa using h) _ a g g'
    · have hnobody : w.addressed c.target = [] := by simpa using h
      rw [hnobody]
      rfl
  · rfl

/-! ## The two lists -/

/-- the agent after prompts, by two lists: its own, and those that send somebody exploring. An own prompt of the second
kind stands in both; the generator is brought to it by those before it in the second list. -/
def attend (w : World) (name : Text) : List String → List String → Agent → Twister → Agent
  | [], _, a, _ => a
  | text :: own, roaming, a, g =>
    if w.explores text then
      let g := (roaming.takeWhile (!Prompt.concerns name ·)).foldl w.drain g
      attend w name own (roaming.dropWhile (!Prompt.concerns name ·)).tail
        (w.hear (Roster.keyOf name) (a, g) text).1 (w.drain g text)
    else attend w name own roaming (w.hear (Roster.keyOf name) (a, g) text).1 g

/-- a prompt that sends others exploring only brings the generator on -/
theorem attend_roaming {w : World} {name : Text} {text : String} (h : Prompt.concerns name text = false)
    (own roaming : List String) (a : Agent) (g : Twister) :
    w.attend name own (text :: roaming) a g = w.attend name own roaming a (w.drain g text) := by
  induction own generalizing a g with
  | nil => rfl
  | cons t own ih =>
    rw [attend, attend]
    split
    · rw [List.takeWhile_cons_of_pos (by rw [h]; rfl), List.dropWhile_cons_of_pos (by rw [h]; rfl)]
      rfl
    · rename_i ht
      rw [ih, hear_other (by simpa using ht) _ a g (w.drain g text)]

/-- **Prompts come to what the two lists of them say.** -/
theorem foldl_hear (w : World) (name : Text) (texts : List String) (a : Agent) (g : Twister) :
    texts.foldl (w.hear (Roster.keyOf name)) (a, g) =
      (w.attend name (texts.filter (Prompt.concerns name)) (texts.filter w.explores) a g,
        (texts.filter w.explores).foldl w.drain g) := by
  induction texts generalizing a g with
  | nil => rfl
  | cons text texts ih =>
    have hstep : w.hear (Roster.keyOf name) (a, g) text =
        ((w.hear (Roster.keyOf name) (a, g) text).1, w.drain g text) := Prod.ext rfl (hear_rng w _ (a, g) text)
    rw [List.foldl_cons, hstep, ih]
    -- whether the prompt stands in the first list, and whether in the second
    cases hc : Prompt.concerns name text with
    | false =>
      rw [hear_bystander hc, List.filter_cons_of_neg (by rw [hc]; decide)]
      cases he : w.explores text with
      | false => rw [List.filter_cons_of_neg (by rw [he]; decide), drain_other he]
      | true => rw [List.filter_cons_of_pos he, attend_roaming hc, List.foldl_cons]
    | true =>
      rw [List.filter_cons_of_pos hc, attend]
      cases he : w.explores text with
      | false => rw [List.filter_cons_of_neg (by rw [he]; decide), drain_other he]; rfl
      | true =>
        rw [List.filter_cons_of_pos he, List.takeWhile_cons_of_neg (by rw [hc]; decide),
          List.dropWhile_cons_of_neg (by rw [hc]; decide)]
        rfl

/-! ## Prompts as a world has them -/

/-- the world has the keys of the first, this agent in the slot and this generator -/
structure Slot (w₀ : World) (key : Text) (s : Agent × Twister) (w : World) : Prop where
  keys : w.roster.keys = w₀.roster.keys
  agent : w.roster.find? key = some s.1
  rng : w.rng = s.2

section

variable {w₀ w w' : World} {key : Text} {s : Agent × Twister}

theorem give_overhear {order : Order} {k : Text} (hk : k ∈ w₀.roster.keys) (hs : Slot w₀ key s w)
    (h : w.give order k = (.ok (), w')) : Slot w₀ key (overhear key order s k) w' := by
  rcases w.give_cases order k with ⟨hnone, -⟩ | ⟨a, e, -, -, hg⟩ | ⟨a, b, q, ha, hp, hg⟩
  · rw [Roster.find?_eq_none, hs.keys] at hnone
    exact absurd hk hnone
  · rw [hg] at h; cases h
  · rw [hg] at h
    cases h
    refine ⟨(Roster.keys_put_old b (Roster.mem_keys_of_find? ha)).trans hs.keys, ?_, congrArg order.spent hs.rng⟩
    simp only [overhear, addMessage]
    by_cases hkey : k = key
    · rw [if_pos hkey, hkey]
      rw [hkey, hs.agent] at ha
      cases ha
      rw [hs.rng] at hp
      simp only [Agent.after, hp]
      exact Roster.find?_put_self _ _ b
    · rw [if_neg hkey, Roster.find?_put_ne _ b (Ne.symm hkey)]
      exact hs.agent

theorem giveAll_overhear {order : Order} {ks : List Text} (hk : ∀ k ∈ ks, k ∈ w₀.roster.keys) (hs : Slot w₀ key s w)
    (h : giveAll order ks w = (.ok (), w')) : Slot w₀ key (ks.foldl (overhear key order) s) w' := by
  induction ks generalizing s w with
  | nil => cases h; exact hs
  | cons k ks ih =>
    rw [List.forall_mem_cons] at hk
    rw [giveAll] at h
    cases hg : w.give order k with
    | mk outcome w'' =>
      rw [hg] at h
      cases outcome with
      | error e => cases h
      | ok u => exact ih hk.2 (give_overhear hk.1 hs hg) h

theorem addMessage_slot (hs : Slot w₀ key s w) (text : Text) : Slot w₀ key s (w.addMessage text) :=
  ⟨hs.keys, hs.agent, hs.rng⟩

theorem dispatch_overhear {c : Command} {names : List Text} (hs : Slot w₀ key s w)
    (h : w.dispatch c = (.ok names, w')) :
    Slot w₀ key ((w₀.addressed c.target).foldl (overhear key c.order) s) w' := by
  have hto := addressed_congr hs.keys c.target
  rcases w.dispatch_cases c with ⟨hnobody, hd⟩ | ⟨-, names', hd⟩
  · rw [hd] at h
    cases h
    rw [← hto, hnobody]
    exact addMessage_slot hs _
  · rw [hd, hto] at h
    cases hg : giveAll c.order (w₀.addressed c.target) w with
    | mk outcome w'' =>
      rw [hg] at h
      cases outcome with
      | error e => cases h
      | ok u => cases h; exact giveAll_overhear (fun k hk => addressed_keys hk) hs hg

/-- a prompt that does not fail does to the slot and the generator what they hear of it -/
theorem handlePrompt_hear {text : String} {c? : Option Command} (hs : Slot w₀ key s w)
    (h : w.handlePrompt text = (.ok c?, w')) : Slot w₀ key (w₀.hear key s text) w' := by
  have hs' := addMessage_slot hs (echo text)
  rcases w.handlePrompt_cases text with ⟨-, hparse, hp⟩ | ⟨-, ⟨e, -, hp⟩ | ⟨hparse, hp⟩ | ⟨c, hparse, hp⟩⟩
  · rw [hp] at h
    cases h
    rw [hear, hparse]
    exact hs
  · rw [hp] at h
    cases h
  · rw [hp] at h
    cases h
    rw [hear, hparse]
    exact addMessage_slot hs' _
  · rw [hp] at h
    rw [hear, hparse]
    cases hd : (w.addMessage (echo text)).dispatch c with
    | mk outcome w'' =>
      rw [hd] at h
      cases outcome with
      | error e => cases h
      | ok names => cases h; exact dispatch_overhear hs' hd

theorem handleAll_hear {texts : List String} (hs : Slot w₀ key s w) (h : handleAll texts w = (.ok (), w')) :
    Slot w₀ key (texts.foldl (w₀.hear key) s) w' := by
  induction texts generalizing s w with
  | nil => cases h; exact hs
  | cons text texts ih =>
    rw [handleAll] at h
    cases hp : w.handlePrompt text with
    | mk outcome w'' =>
      rw [hp] at h
      cases outcome with
      | error e => cases h
      | ok c? => exact ih (handlePrompt_hear hs hp) h

end

/-! ## Ticks -/

theorem snapshot_view {w : World} {s : Snapshot} (h : w.snapshot = .ok s) {key : Text} {a : Agent}
    (ha : w.roster.find? key = some a) :
    ∃ v, a.view = .ok v ∧ s.scene.agents[w.roster.keys.idxOf key]? = some v := by
  rw [← Roster.agents_getElem?] at ha
  rw [snapshot] at h
  cases hm : w.roster.agents.mapM Agent.view with
  | error e => rw [hm] at h; cases h
  | ok views => rw [hm] at h; cases h; exact mapM_getElem? hm ha

theorem view_same {a : Agent} {v : AgentView} (h : a.view = .ok v) : v.id = a.id ∧ v.name = a.name := by
  rw [Agent.view] at h
  cases hs : a.status with
  | error e => rw [hs] at h; cases h
  | ok status => rw [hs] at h; cases h; exact ⟨rfl, rfl⟩

theorem update_ok {w w' : World} {dt : Float} (h : w.update dt = (.ok (), w')) :
    Roster.Kept (fun a b => a.update dt = .ok b) w.roster w'.roster ∧ w'.rng = w.rng := by
  cases hupdate : w.roster.update dt with
  | mk outcome roster =>
    simp only [update, hupdate] at h
    cases h
    exact ⟨Roster.update_all hupdate, rfl⟩

/-- a tick that does not fail, in one slot: its prompts are heard, the frame passes, and the agent is seen -/
theorem runTick_slot {w₀ w w' : World} {key : Text} {a : Agent} {g : Twister} {schedule : Schedule} {frame : Float}
    {s : Snapshot} (hs : Slot w₀ key (a, g) w) (h : w.runTick schedule frame = (.ok s, w')) :
    let told := (schedule.prompts (w.tick + 1)).foldl (w₀.hear key) (a, g)
    ∃ b v, told.1.update frame = .ok b ∧ b.view = .ok v ∧ a.Same b ∧
      s.scene.agents[w₀.roster.keys.idxOf key]? = some v ∧ Slot w₀ key (b, told.2) w' ∧ w'.tick = w.tick + 1 := by
  intro told
  obtain ⟨w₁, hall, hupdate, hsnap⟩ := runTick_ok h
  have hs₁ : Slot w₀ key told w₁ := handleAll_hear hs hall
  have hstays := handleAll_stays PutClosed.same (schedule.prompts (w.tick + 1)) w
  rw [hall] at hstays
  obtain ⟨c, hc, hsame⟩ := hstays.roster.after hs.agent
  cases hs₁.agent.symm.trans hc
  obtain ⟨hkept, hrng⟩ := update_ok hupdate
  obtain ⟨b, hb, hpass⟩ := hkept.after hs₁.agent
  obtain ⟨v, hv, hview⟩ := snapshot_view hsnap hb
  have hkeys : w'.roster.keys = w₀.roster.keys := hkept.keys_eq.trans hs₁.keys
  rw [hkeys] at hview
  obtain ⟨out, haged⟩ := Agent.passage_aged (Agent.update_passage hpass)
  exact ⟨b, v, hpass, hv, hsame.trans haged.same, hview, ⟨hkeys, hb, hrng.trans hs₁.rng⟩, (runTick_tick h).1⟩

/-- the schedules have the same prompts for the agent of that name, and the same that send somebody exploring -/
def Alike (w : World) (name : Text) (texts texts' : List String) : Prop :=
  texts.filter (Prompt.concerns name) = texts'.filter (Prompt.concerns name) ∧
    texts.filter w.explores = texts'.filter w.explores

/-- two runs from worlds that agree in one slot and in the generator -/
theorem ticks_undisturbed {w₀ : World} {name : Text} {schedule schedule' : Schedule} {frame : Float} (n : Nat)
    {w w' : World} {a : Agent} {g : Twister} (hs : Slot w₀ (Roster.keyOf name) (a, g) w)
    (hs' : Slot w₀ (Roster.keyOf name) (a, g) w') (htick : w'.tick = w.tick)
    (halike : ∀ t : Nat, w.tick < t → t ≤ w.tick + n → w₀.Alike name (schedule.prompts t) (schedule'.prompts t))
    (h : (Run.ticks schedule frame n w).fault = none) (h' : (Run.ticks schedule' frame n w').fault = none) :
    let place := w₀.roster.keys.idxOf (Roster.keyOf name)
    ∃ vs : List AgentView, vs.length = n ∧ (∀ v ∈ vs, v.id = a.id ∧ v.name = a.name) ∧
      (Run.ticks schedule frame n w).snapshots.map (·.scene.agents[place]?) = vs.map some ∧
      (Run.ticks schedule' frame n w').snapshots.map (·.scene.agents[place]?) = vs.map some := by
  intro place
  induction n generalizing w w' a g with
  | zero => exact ⟨[], rfl, by simp, rfl, rfl⟩
  | succ n ih =>
    obtain ⟨s, w₁, hrun, hfault, hcons⟩ := Run.ticks_cons h
    obtain ⟨s', w₁', hrun', hfault', hcons'⟩ := Run.ticks_cons h'
    obtain ⟨b, v, hb, hv, hsame, hview, hs₁, htick₁⟩ := runTick_slot hs hrun
    obtain ⟨b', v', hb', hv', -, hview', hs₁', htick₁'⟩ := runTick_slot hs' hrun'
    -- the prompts of this tick come to the same
    obtain ⟨hown, hroaming⟩ := halike (w.tick + 1) (by omega) (by omega)
    have htold : (schedule'.prompts (w'.tick + 1)).foldl (w₀.hear (Roster.keyOf name)) (a, g) =
        (schedule.prompts (w.tick + 1)).foldl (w₀.hear (Roster.keyOf name)) (a, g) := by
      rw [htick, foldl_hear, foldl_hear]
      simp only [Int.natCast_add, Int.cast_ofNat_Int] at hown hroaming
      rw [hown, hroaming]
    rw [htold] at hb' hs₁'
    cases hb.symm.trans hb'
    cases hv.symm.trans hv'
    obtain ⟨vs, hlength, hsame', hvs, hvs'⟩ := ih hs₁ hs₁' (by rw [htick₁', htick₁, htick])
      (fun t ht ht' => halike t (by omega) (by omega)) hfault hfault'
    obtain ⟨hid, hname⟩ := view_same hv
    refine ⟨v :: vs, by rw [List.length_cons, hlength], ?_, ?_, ?_⟩
    · rw [List.forall_mem_cons]
      refine ⟨⟨by rw [hid, hsame.id], by rw [hname, hsame.name]⟩, ?_⟩
      intro u hu
      obtain ⟨hid', hname'⟩ := hsame' u hu
      exact ⟨by rw [hid', hsame.id], by rw [hname', hsame.name]⟩
    · rw [hcons, List.map_cons, List.map_cons, hvs, hview]
    · rw [hcons', List.map_cons, List.map_cons, hvs', hview']

/-! ## Whole runs -/

/-- what is no command, or a command for nobody, or one for others than this agent that is not to explore, is in neither
list -/
theorem unheard {w : World} {name : Text} {text : String} {a : Agent} (ha : w.agent? name = some a)
    {c? : Option Command} (hp : Prompt.parse text = .ok c?)
    (hc : ∀ c ∈ c?, c.isBroadcast = false ∧
      (w.agent? c.target = none ∨ Roster.keyOf c.target ≠ Roster.keyOf name ∧ c.order ≠ .explore)) :
    Prompt.concerns name text = false ∧ w.explores text = false := by
  simp only [Prompt.concerns, explores, hp]
  cases c? with
  | none => exact ⟨rfl, rfl⟩
  | some c =>
    obtain ⟨hb, hnone | ⟨hk, ho⟩⟩ := hc c rfl
    · have hk : Roster.keyOf c.target ≠ Roster.keyOf name := fun hk => by
        rw [agent?, hk] at hnone
        cases ha.symm.trans hnone
      have hnobody : w.addressed c.target = [] := by
        rw [addressed, if_neg (by rw [← Command.isBroadcast, hb]; decide), hnone]
        rfl
      simp [hb, hk, hnobody]
    · simp [hb, hk, ho]

/-- **Agents are undisturbed by what others are told.** -/
theorem undisturbed {w : World} {name : Text} {a : Agent} (ha : w.agent? name = some a) (n : Nat) (dt : Float)
    {schedule schedule' : Schedule}
    (halike : ∀ t : Nat, w.tick < t → t ≤ w.tick + n → w.Alike name (schedule.prompts t) (schedule'.prompts t))
    (h : (w.run n dt schedule).fault = none) (h' : (w.run n dt schedule').fault = none) :
    let place := w.roster.keys.idxOf (Roster.keyOf name)
    (∃ vs : List AgentView, vs.length = n ∧ (∀ v ∈ vs, v.id = a.id ∧ v.name = a.name) ∧
      (w.run n dt schedule).snapshots.map (·.scene.agents[place]?) = vs.map some ∧
      (w.run n dt schedule').snapshots.map (·.scene.agents[place]?) = vs.map some) ∧
    ∀ text c?, Prompt.parse text = .ok c? →
      (∀ c ∈ c?, c.isBroadcast = false ∧
        (w.agent? c.target = none ∨ Roster.keyOf c.target ≠ Roster.keyOf name ∧ c.order ≠ .explore)) →
      Prompt.concerns name text = false ∧ w.explores text = false := by
  have hs : Slot w (Roster.keyOf name) (a, w.rng) w := ⟨rfl, ha, rfl⟩
  exact ⟨ticks_undisturbed n hs hs rfl halike h h', fun text c? hp hc => unheard ha hp hc⟩

/-- two agents, of whom the second is told to explore before or after the first is told its work -/
theorem undisturbed_pair :
    let w : World := { bare ⟨#[], 0⟩ 0.0 with
      roster := ⟨[("bot", { id := 1, name := "Bot" }), ("nova", { id := 2, name := "Nova" })]⟩ }
    let schedule : Schedule := ⟨[(1, ["Bot gather wood", "NOVA explore"]), (2, ["bot explore", "what?"])]⟩
    let schedule' : Schedule :=
      ⟨[(1, ["Nova explore twice", "NOVA explore", "Nova move to 3,4", "Bot gather wood"]),
        (2, ["Ghost say boo", "bot explore"])]⟩
    (w.agent? "bot").isSome ∧ (w.run 2 0.1 schedule).fault = none ∧ (w.run 2 0.1 schedule').fault = none ∧
      ∃ v v', (w.run 2 0.1 schedule).snapshots.map (·.scene.agents[0]?) = [some v, some v'] ∧
        (w.run 2 0.1 schedule').snapshots.map (·.scene.agents[0]?) = [some v, some v'] ∧
          v.name = ("Bot" : Text) := by
  intro w schedule schedule'
  have hfault : (w.run 2 0.1 schedule).fault = none := by rw [← Option.isNone_iff_eq_none]; decide +kernel
  have hfault' : (w.run 2 0.1 schedule').fault = none := by rw [← Option.isNone_iff_eq_none]; decide +kernel
  obtain ⟨a, ha⟩ : ∃ a, w.agent? "bot" = some a := ⟨_, rfl⟩
  have hname : a.name = "Bot" := by cases ha; rfl
  have halike (t : Nat) (h : w.tick < t) (ht : t ≤ w.tick + 2) :
      w.Alike "bot" (schedule.prompts t) (schedule'.prompts t) := by
    have htick : w.tick = 0 := rfl
    obtain rfl | rfl : t = 1 ∨ t = 2 := by omega
    · exact ⟨by decide +kernel, by decide +kernel⟩
    · exact ⟨by decide +kernel, by decide +kernel⟩
  obtain ⟨⟨vs, hlength, hsame, hvs, hvs'⟩, -⟩ := undisturbed ha 2 0.1 halike hfault hfault'
  obtain ⟨v, v', rfl⟩ := List.length_eq_two.1 hlength
  exact ⟨by rw [ha]; rfl, hfault, hfault', v, v', hvs, hvs', (hsame v List.mem_cons_self).2.trans hname⟩

end World

end TileCrew
