/-
Where explorers go in a world that lives on by calls.
- `call_agent`: who is found under a key after a call has just been added, or was there and has been told something, or
  time has passed for it;
- `Charted`: the tiles are as many as the map's size says, every agent knows that size, and every destination that it
  holds lies on the map. Built worlds are charted (`build_charted`), and every call keeps that (`call_charted`);
- `explorers_on_map`: **whoever explores in a world that was built and lived on goes to a tile of the map, and was sent
  there by a call from at most two columns and rows off**.
-/
import TileCrew.Proofs.Crew.Hops
import TileCrew.Proofs.Grid.Tile
import TileCrew.Proofs.Setup.WorldFile

namespace TileCrew

/-! ## What agents are told -/

namespace Agent

/-- values put at the back of the queue, with every destination among them in reach, and speech heard -/
def Told (a b : Agent) : Prop :=
  ∃ more heard, b = { a with queue := a.queue ++ more, lastMessage := heard } ∧
    ∀ x y, .action (.explore x y) ∈ more → a.Reach x y

theorem Told.refl (a : Agent) : a.Told a := ⟨[], a.lastMessage, by rw [List.append_nil], by simp⟩

theorem told_closed : World.PutClosed Told where
  refl := Told.refl
  trans := by
    rintro a b c ⟨more, heard, rfl, hreach⟩ ⟨more', heard', rfl, hreach'⟩
    refine ⟨more ++ more', heard', by rw [List.append_assoc], ?_⟩
    intro x y hm
    rcases List.mem_append.1 hm with hm | hm
    · exact hreach x y hm
    · -- place and bounds are those of `a`
      obtain ⟨hknown, hnear⟩ := hreach' x y hm
      exact ⟨hknown, hnear⟩
  put := by
    intro a b p q h
    refine ⟨[q], _, put_eq h, ?_⟩
    intro x y hm
    rw [← List.mem_singleton.1 hm] at h
    exact put_reach h

theorem Told.same {a b : Agent} (h : a.Told b) : a.Same b := by
  obtain ⟨more, heard, rfl, -⟩ := h
  exact ⟨rfl, rfl, rfl, rfl, rfl⟩

/-- a destination that is held is one that was held, or one of those put in -/
theorem Told.holds {a b : Agent} (h : a.Told b) {x y : Int} (hb : b.Holds x y) :
    a.Holds x y ∨ ∃ more, b.queue = a.queue ++ more ∧ .action (.explore x y) ∈ more := by
  obtain ⟨more, heard, rfl, -⟩ := h
  rcases hb with hb | hb
  · rcases List.mem_append.1 hb with hb | hb
    · exact .inl (.inl hb)
    · exact .inr ⟨more, rfl, hb⟩
  · exact .inl (.inr hb)

theorem Told.reach {a b : Agent} (h : a.Told b) {more : List Queued} (hq : b.queue = a.queue ++ more) {x y : Int}
    (hm : .action (.explore x y) ∈ more) : a.Reach x y := by
  obtain ⟨more', heard, rfl, hreach⟩ := h
  rw [← List.append_cancel_left hq] at hm
  exact hreach x y hm

/-- a new agent of a map: nothing to do yet, and that map's size known -/
structure New (width height : Int) (a : Agent) : Prop where
  queue : a.queue = []
  current : a.current = none
  mapWidth : a.mapWidth = width
  mapHeight : a.mapHeight = height

theorem New.holds {width height : Int} {a : Agent} (h : a.New width height) {x y : Int} : ¬a.Holds x y := by
  rintro (hq | hc)
  · rw [h.queue] at hq; cases hq
  · rw [h.current] at hc; cases hc

end Agent

namespace World

/-! ## One call -/

/-- who is found after a change was there before, or is new -/
theorem change_agent {w : World} {c : Change} {key : Text} {b : Agent} (h : (w.change c).roster.find? key = some b) :
    w.roster.find? key = some b ∨ b.New w.mapWidth w.mapHeight := by
  rcases w.change_cases c with ⟨hc, -⟩ | ⟨a, ha⟩ | ⟨name, -, hc, -⟩
  · rw [hc] at h
    exact .inl h
  · rw [ha.world] at h
    by_cases hk : key = Roster.keyOf a.name
    · rw [hk] at h
      cases (Roster.find?_put_self _ _ a).symm.trans h
      exact .inr ⟨ha.queue, ha.current, ha.mapWidth, ha.mapHeight⟩
    · exact .inl ((Roster.find?_put_ne _ a hk).symm.trans h)
  · rw [hc] at h
    by_cases hk : key = Roster.keyOf name
    · rw [hk] at h
      cases (Roster.find?_remove_self _ _).symm.trans h
    · exact .inl ((Roster.find?_remove_ne _ hk).symm.trans h)

/-- who is found after a tick had that span of time, or was left as it was -/
theorem update_agent {w : World} {dt : Float} {key : Text} {b : Agent}
    (h : (w.update dt).2.roster.find? key = some b) :
    ∃ a, w.roster.find? key = some a ∧ ∃ out, a.Aged b out := by
  obtain ⟨a, ha, hab⟩ := (w.roster.update_kept dt).before h
  refine ⟨a, ha, ?_⟩
  rcases hab with rfl | hab
  · exact ⟨[], .refl b, rfl, .inr (.inl rfl)⟩
  · exact Agent.passage_aged (Agent.update_passage hab)

/-- who is found after a call: someone new, or who was there and was told something, or for whom time has passed -/
theorem call_agent {w : World} {c : Call} {key : Text} {b : Agent} (h : (w.call c).roster.find? key = some b) :
    b.New w.mapWidth w.mapHeight ∨
      ∃ a, w.roster.find? key = some a ∧ (a.Told b ∨ ∃ out, a.Aged b out) := by
  rcases call_cases Agent.told_closed w c with hs | ⟨d, hd⟩ | ⟨dt, hdt⟩
  · obtain ⟨a, ha, hab⟩ := hs.roster.before h
    exact .inr ⟨a, ha, .inl hab⟩
  · rw [hd] at h
    rcases change_agent h with hold | hnew
    · exact .inr ⟨b, hold, .inl (.refl b)⟩
    · exact .inl hnew
  · rw [hdt] at h
    obtain ⟨a, ha, hab⟩ := update_agent h
    exact .inr ⟨a, ha, .inr hab⟩

/-- no call draws the map anew -/
theorem call_map (w : World) (c : Call) :
    (w.call c).tiles = w.tiles ∧ (w.call c).mapWidth = w.mapWidth ∧ (w.call c).mapHeight = w.mapHeight := by
  rcases call_cases Agent.told_closed w c with hs | ⟨d, hd⟩ | ⟨dt, hdt⟩
  · exact ⟨hs.tiles, hs.mapWidth, hs.mapHeight⟩
  · rw [hd]
    rcases w.change_cases d with ⟨h, -⟩ | ⟨a, ha⟩ | ⟨name, -, h, -⟩
    · rw [h]; exact ⟨rfl, rfl, rfl⟩
    · rw [ha.world]; exact ⟨rfl, rfl, rfl⟩
    · rw [h]; exact ⟨rfl, rfl, rfl⟩
  · rw [hdt]
    exact ⟨rfl, rfl, rfl⟩

theorem call_sound {w : World} (c : Call) (h : w.roster.Sound) : (w.call c).roster.Sound := by
  rcases call_cases Agent.told_closed w c with hs | ⟨d, hd⟩ | ⟨dt, hdt⟩
  · apply h.kept hs.roster
    intro a b hab
    exact hab.same.name
  · rw [hd]
    exact change_sound d h
  · rw [hdt]
    apply h.kept (w.roster.update_kept dt)
    intro a b hab
    rcases hab with rfl | hab
    · rfl
    · obtain ⟨out, haged⟩ := Agent.passage_aged (Agent.update_passage hab)
      exact haged.same.name

/-! ## Charted worlds -/

/-- the map has tiles, as many as its size says, and every agent knows that size and goes to tiles of the map only -/
structure Charted (w : World) : Prop where
  width : 0 < w.mapWidth
  height : 0 < w.mapHeight
  extent : w.tiles.Extent w.mapWidth.toNat w.mapHeight.toNat
  sound : w.roster.Sound
  bounds : ∀ {key a}, w.roster.find? key = some a → a.mapWidth = w.mapWidth ∧ a.mapHeight = w.mapHeight
  known : ∀ {key a x y}, w.roster.find? key = some a → a.Holds x y → a.Knows x y

/-- everything that agents are sent to explore by a call is in their reach -/
theorem call_reach {w : World} {c : Call} {key : Text} {a b : Agent} (ha : w.roster.find? key = some a)
    (hb : (w.call c).roster.find? key = some b) {more : List Queued} (hq : b.queue = a.queue ++ more) {x y : Int}
    (hm : .action (.explore x y) ∈ more) : a.Reach x y := by
  rcases call_agent hb with hnew | ⟨a', ha', htold | ⟨out, haged⟩⟩
  · rw [hnew.queue] at hq
    rw [(List.append_eq_nil_iff.1 hq.symm).2] at hm
    cases hm
  · cases ha.symm.trans ha'
    exact htold.reach hq hm
  · cases ha.symm.trans ha'
    -- nothing is put in while time passes
    have hlength := congrArg List.length hq
    rw [haged.queue, List.length_append, List.length_append] at hlength
    have hnone : more = [] := List.eq_nil_of_length_eq_zero (by omega)
    rw [hnone] at hm
    cases hm

/-- an agent after a call knows the map, and goes to tiles of it only -/
theorem call_known {w : World} {c : Call} {key : Text} {b : Agent} (h : w.Charted)
    (hb : (w.call c).roster.find? key = some b) :
    (b.mapWidth = w.mapWidth ∧ b.mapHeight = w.mapHeight) ∧ ∀ x y, b.Holds x y → b.Knows x y := by
  rcases call_agent hb with hnew | ⟨a, ha, hab⟩
  · refine ⟨⟨hnew.mapWidth, hnew.mapHeight⟩, ?_⟩
    intro x y hholds
    exact absurd hholds hnew.holds
  · obtain ⟨haw, hah⟩ := h.bounds ha
    have hsame : a.Same b := by
      rcases hab with htold | ⟨out, haged⟩
      · exact htold.same
      · exact haged.same
    refine ⟨⟨hsame.mapWidth.trans haw, hsame.mapHeight.trans hah⟩, ?_⟩
    intro x y hholds
    have hknows : a.Knows x y := by
      rcases hab with htold | ⟨out, haged⟩
      · rcases htold.holds hholds with hheld | ⟨more, hq, hm⟩
        · exact h.known ha hheld
        · exact (htold.reach hq hm).known (by rw [haw]; exact h.width) (by rw [hah]; exact h.height)
      · exact h.known ha (haged.holds hholds)
    rw [Agent.Knows, hsame.mapWidth, hsame.mapHeight]
    exact hknows

theorem call_charted {w : World} (c : Call) (h : w.Charted) : (w.call c).Charted := by
  obtain ⟨htiles, hwidth, hheight⟩ := w.call_map c
  constructor
  · rw [hwidth]
    exact h.width
  · rw [hheight]
    exact h.height
  · rw [htiles, hwidth, hheight]
    exact h.extent
  · exact call_sound c h.sound
  · intro key b hb
    rw [hwidth, hheight]
    exact (call_known h hb).1
  · intro key b x y hb hholds
    exact (call_known h hb).2 x y hholds

theorem calls_charted {w : World} (cs : List Call) (h : w.Charted) : (w.calls cs).Charted := by
  induction cs generalizing w with
  | nil => exact h
  | cons c cs ih => exact ih (call_charted c h)

/-! ## Worlds that are built -/

theorem generateMap_charted (rng : Twister) (clock : Float) {width height : Int} (hw : 0 < width) (hh : 0 < height) :
    ((bare rng clock).generateMap width height).Charted where
  width := hw
  height := hh
  extent := TileGrid.draw_extent width height rng
  sound := Roster.sound_empty
  bounds := fun h => by cases h
  known := fun h => by cases h

theorem changes_calls (w : World) (cs : List Change) : w.changes cs = w.calls (cs.map .change) := by
  rw [changes, calls, List.foldl_map]
  rfl

/-- every world that is built with tiles is charted, and nobody in it has anything to do -/
theorem build_charted {f : WorldFile} {rng : Twister} {clock : Float} {w : World} (hwidth : 0 < f.width)
    (hheight : 0 < f.height) (h : f.build rng clock = .ok w) : w.Charted := by
  have hdrawn := calls_charted ((additions f.agents).map .change) (generateMap_charted rng clock hwidth hheight)
  rw [← changes_calls] at hdrawn
  rcases build_eq h with rfl | ⟨text, rfl⟩
  · exact hdrawn
  · exact call_charted (.message text) hdrawn

theorem changes_idle {w : World} (hw : w.roster = {}) (cs : List Change) {key : Text} {a : Agent}
    (ha : (w.changes cs).roster.find? key = some a) {x y : Int} : ¬a.Holds x y := by
  induction cs using List.reverseRecOn with
  | nil => rw [show w.changes [] = w from rfl, hw] at ha; cases ha
  | append_singleton cs c ih =>
    rw [changes_append] at ha
    rcases change_agent ha with hold | hnew
    · exact ih hold
    · exact hnew.holds

theorem build_idle {f : WorldFile} {rng : Twister} {clock : Float} {w : World} (h : f.build rng clock = .ok w)
    {key : Text} {a : Agent} (ha : w.roster.find? key = some a) {x y : Int} : ¬a.Holds x y := by
  rcases build_eq h with rfl | ⟨text, rfl⟩
  · exact changes_idle rfl _ ha
  · -- the message changes nothing about the roster
    have ha' : (((bare rng clock).generateMap f.width f.height).changes (additions f.agents)).roster.find? key =
      some a := ha
    exact changes_idle rfl _ ha'

/-! ## Where destinations come from -/

/-- the call puts the destination into the queue of the agent with that id, in the slot of the key -/
def Sends (w : World) (c : Call) (key : Text) (id : Nat) (x y : Int) : Prop :=
  ∃ a b more, w.roster.find? key = some a ∧ (w.call c).roster.find? key = some b ∧ a.id = id ∧ b.id = id ∧
    b.queue = a.queue ++ more ∧ .action (.explore x y) ∈ more

/-- a destination that is held was put in by one of the calls, if it was not held before them -/
theorem calls_sent {w : World} (hw : ∀ {key a x y}, w.roster.find? key = some a → ¬a.Holds x y) (cs : List Call)
    {key : Text} {a : Agent} (ha : (w.calls cs).roster.find? key = some a) {x y : Int} (hholds : a.Holds x y) :
    ∃ before c after, cs = before ++ c :: after ∧ (w.calls before).Sends c key a.id x y := by
  induction cs using List.reverseRecOn generalizing a with
  | nil => exact absurd hholds (hw ha)
  | append_singleton cs c ih =>
    -- held before the last call by the same agent
    have earlier {a' : Agent} (ha' : (w.calls cs).roster.find? key = some a') (hid : a.id = a'.id)
        (hheld : a'.Holds x y) :
        ∃ before d after, cs ++ [c] = before ++ d :: after ∧ (w.calls before).Sends d key a.id x y := by
      obtain ⟨before, d, after, hcs, hsends⟩ := ih ha' hheld
      exact ⟨before, d, after ++ [c], by rw [hcs]; simp, by rw [hid]; exact hsends⟩
    rw [calls_append] at ha
    rcases call_agent ha with hnew | ⟨a', ha', htold | ⟨out, haged⟩⟩
    · exact absurd hholds hnew.holds
    · rcases htold.holds hholds with hheld | ⟨more, hq, hm⟩
      · exact earlier ha' htold.same.id hheld
      · exact ⟨cs, c, [], rfl, a', a, more, ha', ha, htold.same.id.symm, rfl, hq, hm⟩
    · exact earlier ha' haged.same.id (haged.holds hholds)

/-! ## Explorers stay on the map -/

/-- **Explorers stay on the map, and are sent two columns and rows at most.** -/
theorem explorers_on_map {f : WorldFile} (hwidth : 0 < f.width) (hheight : 0 < f.height) {rng : Twister}
    {clock : Float} {w₀ : World} (hbuild : f.build rng clock = .ok w₀) (cs : List Call) :
    let w := w₀.calls cs
    (∀ a ∈ w.roster.agents, ∀ x y, a.Holds x y →
      (0 ≤ x ∧ x < w.mapWidth ∧ 0 ≤ y ∧ y < w.mapHeight ∧ (w.tiles.tileAt x y).isSome) ∧
        ∃ before c after, cs = before ++ c :: after ∧
          (w₀.calls before).Sends c (Roster.keyOf a.name) a.id x y) ∧
    ∀ c key a b more, w.roster.find? key = some a → (w.call c).roster.find? key = some b → b.queue = a.queue ++ more →
      ∀ x y, .action (.explore x y) ∈ more → ∀ column row, a.tile = .ok (column, row) →
        0 ≤ column ∧ column < w.mapWidth ∧ 0 ≤ row ∧ row < w.mapHeight → |x - column| ≤ 2 ∧ |y - row| ≤ 2 := by
  intro w
  have hcharted : w.Charted := calls_charted cs (build_charted hwidth hheight hbuild)
  constructor
  · intro a ha x y hholds
    rw [hcharted.sound.mem_agents] at ha
    obtain ⟨haw, hah⟩ := hcharted.bounds ha
    obtain ⟨hx₀, hx, hy₀, hy⟩ := hcharted.known ha hholds
    rw [haw] at hx
    rw [hah] at hy
    have htile : (w.tiles.tileAt x y).isSome := by
      rw [hcharted.extent.tileAt_isSome]
      omega
    exact ⟨⟨hx₀, hx, hy₀, hy, htile⟩, calls_sent (fun h => build_idle hbuild h) cs ha hholds⟩
  · intro c key a b more ha hb hq x y hm column row htile hon
    obtain ⟨haw, hah⟩ := hcharted.bounds ha
    apply (call_reach ha hb hq hm).near column row htile
    rw [Agent.Knows, haw, hah]
    exact hon

/-- one agent in the corner of a small map, sent to explore and on its way -/
theorem explorers_on_map_corner :
    let f : WorldFile := ⟨2, 2, [⟨"Bot", .whole 0, .whole 1, "#fff"⟩], .null⟩
    let w₀ := ((bare ⟨#[], 0⟩ 0.0).generateMap 2 2).changes [.add "Bot" (.whole 0) (.whole 1) "#fff"]
    let cs : List Call := [.prompt "bot Explore", .time 0.1]
    let w := w₀.calls cs
    (0 < f.width ∧ 0 < f.height ∧ f.build ⟨#[], 0⟩ 0.0 = .ok w₀) ∧
      ∃ a ∈ w.roster.agents, a.current = some (.explore 0 0) ∧ (w.tiles.tileAt 0 0).isSome ∧
        ∃ before c after, cs = before ++ c :: after ∧ (w₀.calls before).Sends c (Roster.keyOf a.name) a.id 0 0 := by
  intro f w₀ cs w
  have hbuild : f.build ⟨#[], 0⟩ 0.0 = .ok w₀ := rfl
  obtain ⟨a, ha, hcurrent⟩ : ∃ a ∈ w.roster.agents, a.current = some (.explore 0 0) := by decide +kernel
  obtain ⟨⟨-, -, -, -, htile⟩, hsent⟩ :=
    (explorers_on_map (f := f) (by decide) (by decide) hbuild cs).1 a ha 0 0 (.inr hcurrent)
  exact ⟨⟨by decide, by decide, hbuild⟩, a, ha, hcurrent, htile, hsent⟩

end World

end TileCrew
