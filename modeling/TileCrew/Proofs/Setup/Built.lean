/-
What a loaded world file comes to: who is in the world that is built from it, whether there is such a world, and whether
it can be seen.
- `snapshot_idle`: a world of idle agents can be seen where each of them stands somewhere;
- `addAgents_crewed`: entries with different keys become new agents with ids in a row (`Crew`), behind those that are
  there;
- `build_crewed`: a built world has the crew of its file on a map of its size;
- `file_crews`: **everybody in a file is in the world under their own name, in the order of the file, and nobody else**;
- `file_usable`: **a file that is loaded may still have a welcome with which no world can be built, or an agent that
  stands nowhere, with which no world can be seen**.
-/
import TileCrew.Proofs.World.OnMap
import TileCrew.Proofs.World.Refusals

namespace TileCrew

/-! ## Entries -/

namespace AgentEntry

/-- both coordinates have doubles -/
def Definite (e : AgentEntry) : Prop := e.x.toFloat?.isSome ∧ e.y.toFloat?.isSome

/-- the entry gives a map of that size this agent under that id: a new one of that name and colour, at the coordinates -/
def Gives (e : AgentEntry) (width height : Int) (id : Nat) (a : Agent) : Prop :=
  ∃ x y, e.x.toFloat? = some x ∧ e.y.toFloat? = some y ∧
    a = { id, name := e.name, x, y, color := e.color, mapWidth := width, mapHeight := height }

/-- the point of the entry is one where agents can stand -/
def Stands (e : AgentEntry) : Prop :=
  ∃ x y, e.x.toFloat? = some x ∧ e.y.toFloat? = some y ∧ Binary64.isFinite x = true ∧ Binary64.isFinite y = true

/-- entries give agents in turn, whose ids count on from the first -/
inductive Crew (width height : Int) : Nat → List AgentEntry → List Agent → Prop
  | nil (id : Nat) : Crew width height id [] []
  | cons {id : Nat} {e : AgentEntry} {a : Agent} {es : List AgentEntry} {as : List Agent} :
      e.Gives width height id a → Crew width height (id + 1) es as → Crew width height id (e :: es) (a :: as)

section

variable {width height : Int} {id : Nat} {e : AgentEntry} {a : Agent} {es : List AgentEntry} {as : List Agent}

theorem Gives.name (h : e.Gives width height id a) : a.name = e.name := by
  obtain ⟨x, y, -, -, rfl⟩ := h
  rfl

theorem Gives.idle (h : e.Gives width height id a) : a.activity = .idle := by
  obtain ⟨x, y, -, -, rfl⟩ := h
  rfl

theorem Gives.placed (h : e.Gives width height id a) : a.Placed ↔ e.Stands := by
  obtain ⟨x, y, hx, hy, rfl⟩ := h
  constructor
  · exact fun ⟨hfx, hfy⟩ => ⟨x, y, hx, hy, hfx, hfy⟩
  · rintro ⟨x', y', hx', hy', hfx, hfy⟩
    cases hx.symm.trans hx'
    cases hy.symm.trans hy'
    exact ⟨hfx, hfy⟩

theorem Crew.length_eq (h : Crew width height id es as) : as.length = es.length := by
  induction h with
  | nil => rfl
  | cons _ _ ih => rw [List.length_cons, List.length_cons, ih]

/-- in each place of the list is what the entry in that place gives -/
theorem Crew.getElem? (h : Crew width height id es as) {i : Nat} (he : es[i]? = some e) :
    ∃ a, as[i]? = some a ∧ e.Gives width height (id + i) a := by
  induction h generalizing i with
  | nil => cases he
  | @cons id e' a es as ha _ ih =>
    cases i with
    | zero => cases he; exact ⟨a, rfl, ha⟩
    | succ i =>
      obtain ⟨b, hb, hgives⟩ := ih he
      exact ⟨b, hb, by rwa [Nat.add_assoc, Nat.add_comm 1 i] at hgives⟩

/-- every agent is what some entry gives -/
theorem Crew.of_mem (h : Crew width height id es as) (ha : a ∈ as) : ∃ i e, Gives e width height i a := by
  induction h with
  | nil => cases ha
  | cons hb _ ih =>
    rcases List.mem_cons.1 ha with rfl | ha
    · exact ⟨_, _, hb⟩
    · exact ih ha

theorem Crew.placed (h : Crew width height id es as) : (∀ a ∈ as, a.Placed) ↔ ∀ e ∈ es, e.Stands := by
  induction h with
  | nil => simp
  | cons ha _ ih => rw [List.forall_mem_cons, List.forall_mem_cons, ha.placed, ih]

end

end AgentEntry

/-! ## Being seen -/

/-- an agent that stands somewhere has a tile, and another has none -/
theorem Agent.tile_cases (a : Agent) :
    (a.Placed ∧ ∃ t, a.tile = .ok t) ∨ (¬a.Placed ∧ ∃ c, a.tile = .error (.notWhole c)) := by
  rw [Agent.tile]
  by_cases hx : Binary64.isFinite a.x = true
  · obtain ⟨column, hcolumn⟩ := nearestTile_ok hx
    by_cases hy : Binary64.isFinite a.y = true
    · obtain ⟨row, hrow⟩ := nearestTile_ok hy
      exact .inl ⟨⟨hx, hy⟩, (column, row), by rw [hcolumn, hrow]; rfl⟩
    · obtain ⟨c, hc⟩ := nearestTile_fails (Bool.eq_false_iff.2 hy)
      exact .inr ⟨fun h => hy h.2, c, by rw [hcolumn, hc]; rfl⟩
  · obtain ⟨c, hc⟩ := nearestTile_fails (Bool.eq_false_iff.2 hx)
    exact .inr ⟨fun h => hx h.1, c, by rw [hc]; rfl⟩

theorem Agent.view_cases {a : Agent} (h : a.activity = .idle) :
    (a.Placed ∧ ∃ v, a.view = .ok v) ∨ (¬a.Placed ∧ ∃ c, a.view = .error (.notWhole c)) := by
  have hstatus : a.status =
      a.tile.map fun t => a.name ++ " is idle at (" ++ toString t.1 ++ ", " ++ toString t.2 ++ ")" := by
    rw [Agent.status, h]
  rw [Agent.view, hstatus]
  rcases a.tile_cases with ⟨hplaced, t, ht⟩ | ⟨hnowhere, c, hc⟩
  · exact .inl ⟨hplaced, _, by rw [ht]; rfl⟩
  · exact .inr ⟨hnowhere, c, by rw [hc]; rfl⟩

/-- a world of idle agents is seen where all of them stand somewhere -/
theorem World.snapshot_idle {w : World} (h : ∀ a ∈ w.roster.agents, a.activity = .idle) :
    ((∃ p, w.snapshot = .ok p) ↔ ∀ a ∈ w.roster.agents, a.Placed) ∧
      ∀ e, w.snapshot = .error e → ∃ c, e = .notWhole c := by
  have hview (a : Agent) (ha : a ∈ w.roster.agents) : (∃ v, a.view = .ok v) ↔ a.Placed := by
    rcases Agent.view_cases (h a ha) with ⟨hplaced, hv⟩ | ⟨hnowhere, c, hc⟩
    · exact ⟨fun _ => hplaced, fun _ => hv⟩
    · exact ⟨fun ⟨v, hv⟩ => (by cases hc.symm.trans hv), fun hplaced => absurd hplaced hnowhere⟩
  constructor
  · rw [← forall₂_congr hview, ← mapM_any]
    constructor
    · rintro ⟨p, hp⟩
      obtain ⟨views, hviews, -⟩ := map_ok.1 hp
      exact ⟨views, hviews⟩
    · rintro ⟨views, hviews⟩
      exact ⟨_, map_ok.2 ⟨views, hviews, rfl⟩⟩
  · intro e he
    rw [snapshot] at he
    cases hviews : w.roster.agents.mapM Agent.view with
    | ok views => rw [hviews] at he; cases he
    | error e' =>
      rw [hviews] at he
      cases he
      obtain ⟨before, a, after, hagents, -, ha⟩ := mapM_error.1 hviews
      rcases Agent.view_cases (h a (by rw [hagents]; simp)) with ⟨-, v, hv⟩ | ⟨-, c, hc⟩
      · cases hv.symm.trans ha
      · cases hc.symm.trans ha
        exact ⟨c, rfl⟩

namespace WorldFile

open AgentEntry

/-! ## Loaded files -/

section

variable {s : Store} {p? : Option Path} {f : WorldFile}

theorem load_names (h : load s p? = .ok f) : (keysOf f.agents).Nodup := by
  rcases load_ok.1 h with ⟨-, rfl⟩ | ⟨p, cs, fields, -, -, -, hsaid⟩
  · decide +kernel
  · exact hsaid.names

theorem lists_definite {v : Json} {agents : List AgentEntry} (h : Lists v agents) : ∀ e ∈ agents, e.Definite := by
  cases h with
  | default =>
    unfold AgentEntry.Definite
    decide +kernel
  | items hitems hagents =>
    clear hitems
    induction hagents with
    | nil => simp
    | cons he _ ih =>
      cases he
      exact List.forall_mem_cons.2 ⟨⟨rfl, rfl⟩, ih⟩

theorem load_definite (h : load s p? = .ok f) : ∀ e ∈ f.agents, e.Definite := by
  rcases load_ok.1 h with ⟨-, rfl⟩ | ⟨p, cs, fields, -, -, -, hsaid⟩
  · exact lists_definite .default
  · exact lists_definite hsaid.agents

end

def pointed (name : Text) (x y : Float) : Json :=
  .object [("name", .text name), ("x", .float x), ("y", .float y)]

theorem pointed_legible {name : Text} (h : name.isWhole = true) (x y : Float) :
    Json.Legible 2 (pointed name x y) :=
  .object (by simp) (by simp) (by simp [Json.Legible.text h, Json.Legible.real, Json.float])

theorem pointed_describes (name : Text) (x y : Float) :
    Describes (pointed name x y) ⟨name, .real x, .real y, defaultColor⟩ :=
  @Describes.mk _ (.text name) x y rfl (.number rfl) (.number rfl)

/-! ## Agents added in turn -/

section

variable {entries : List AgentEntry} {w w' : World}

/-- **Entries with keys that are new become agents behind those that are there, and nothing else changes.** -/
theorem addAgents_crewed (h : addAgents entries w = .ok w') (hnames : (keysOf entries).Nodup)
    (hnew : ∀ key ∈ keysOf entries, key ∉ w.roster.keys) :
    ∃ made, Crew w.mapWidth w.mapHeight w.nextId entries made ∧
      w' = { w with
        nextId := w.nextId + entries.length
        roster := ⟨w.roster.slots ++ made.map fun a => (Roster.keyOf a.name, a)⟩ } := by
  induction entries generalizing w with
  | nil =>
    cases h
    exact ⟨[], .nil _, by simp⟩
  | cons e entries ih =>
    have hkeys : keysOf (e :: entries) = Roster.keyOf e.name :: keysOf entries := rfl
    rw [hkeys, List.nodup_cons] at hnames
    rw [hkeys, List.forall_mem_cons] at hnew
    rw [addAgents] at h
    rcases w.addAgent_cases e.name e.x e.y e.color with ⟨hfails, -⟩ | ⟨x, y, hx, hy, hadd⟩
    · rw [hfails] at h
      cases h
    · rw [hadd] at h
      obtain ⟨a, ha⟩ : ∃ a, w.newAgent e.name x y e.color = a := ⟨_, rfl⟩
      have hgives : e.Gives w.mapWidth w.mapHeight w.nextId a := ⟨x, y, hx, hy, ha.symm⟩
      have hfree : Roster.keyOf a.name ∉ w.roster.keys := by rw [hgives.name]; exact hnew.1
      have hslots : (w.roster.put (Roster.keyOf a.name) a).slots = w.roster.slots ++ [(Roster.keyOf a.name, a)] :=
        Roster.slots_put_new a hfree
      have hkeys : (w.enrol a).roster.keys = w.roster.keys ++ [Roster.keyOf e.name] := by
        rw [← hgives.name]
        exact Roster.keys_put_new a hfree
      rw [ha] at h
      have hrest : ∀ key ∈ keysOf entries, key ∉ (w.enrol a).roster.keys := by
        intro key hkey hold
        rw [hkeys, List.mem_append, List.mem_singleton] at hold
        rcases hold with hold | rfl
        · exact hnew.2 key hkey hold
        · exact hnames.1 hkey
      obtain ⟨made, hmade, hw'⟩ := ih h hnames.2 hrest
      refine ⟨a :: made, .cons hgives hmade, hw'.trans ?_⟩
      show World.mk _ _ _ _ _ _ _ _ _ = World.mk _ _ _ _ _ _ _ _ _
      simp only [World.enrol, hslots, List.length_cons, List.map_cons, List.append_assoc, List.singleton_append]
      congr 1
      omega

/-- agents are added where all their coordinates have doubles -/
theorem addAgents_definite (h : ∀ e ∈ entries, e.Definite) (w : World) : ∃ w', addAgents entries w = .ok w' := by
  induction entries generalizing w with
  | nil => exact ⟨w, rfl⟩
  | cons e entries ih =>
    rw [List.forall_mem_cons] at h
    rcases w.addAgent_cases e.name e.x e.y e.color with ⟨-, hn⟩ | ⟨x, y, -, -, hadd⟩
    · exact absurd h.1 hn
    · obtain ⟨w', hw'⟩ := ih h.2 (w.enrol (w.newAgent e.name x y e.color))
      exact ⟨w', by rw [addAgents, hadd]; exact hw'⟩

end

/-! ## Built worlds -/

section

variable {s : Store} {p? : Option Path} {f : WorldFile} {rng : Twister} {clock : Float} {w : World}

/-- all agents of a loaded file are added, and then it is welcome that decides -/
theorem build_greets (hload : load s p? = .ok f) (rng : Twister) (clock : Float) :
    ∃ w, addAgents f.agents ((World.bare rng clock).generateMap f.width f.height) = .ok w ∧
      f.build rng clock = greet f.welcome w := by
  obtain ⟨w, hadd⟩ := addAgents_definite (load_definite hload) ((World.bare rng clock).generateMap f.width f.height)
  exact ⟨w, hadd, by rw [build, hadd]; rfl⟩

/-- the world that is built from a loaded file has the crew of the file on a map of its size -/
theorem build_crewed (hload : load s p? = .ok f) (hbuild : f.build rng clock = .ok w) :
    w.mapWidth = f.width ∧ w.mapHeight = f.height ∧ ∃ made, Crew f.width f.height 1 f.agents made ∧
      w.roster.agents = made ∧ w.roster.slots = made.map fun a => (Roster.keyOf a.name, a) := by
  obtain ⟨w', hadd, hgreets⟩ := build_greets hload rng clock
  obtain ⟨made, hmade, hw'⟩ := addAgents_crewed hadd (load_names hload) (fun _ _ => List.not_mem_nil)
  have hslots : w'.roster.slots = made.map fun a => (Roster.keyOf a.name, a) := by rw [hw']; rfl
  have hagents : w'.roster.agents = made := by
    rw [Roster.agents, hslots, List.map_map]
    exact List.map_id made
  have hwidth : w'.mapWidth = f.width := by rw [hw']; rfl
  have hheight : w'.mapHeight = f.height := by rw [hw']; rfl
  -- welcome leaves map and crew as they are
  rw [hgreets] at hbuild
  obtain ⟨-, rfl | ⟨text, rfl⟩⟩ := greet_ok hbuild
  · exact ⟨hwidth, hheight, made, hmade, hagents, hslots⟩
  · exact ⟨hwidth, hheight, made, hmade, hagents, hslots⟩

/-- **The crew of a file is in the world: in its order, with ids from 1, each under their own name, and nobody else.** -/
theorem file_crews (hload : load s p? = .ok f) (hbuild : f.build rng clock = .ok w) :
    ((p? = none ∧ f = default) ∨ ∃ p cs fields, p? = some p ∧ s.readText p = .ok cs ∧
      Json.read (String.ofList cs) = .ok (.object fields) ∧ Says fields f) ∧
    (0 < f.width ∧ 0 < f.height ∧ w.mapWidth = f.width ∧ w.mapHeight = f.height ∧
      w.tiles.Extent f.width.toNat f.height.toNat) ∧
    w.roster.agents.length = f.agents.length ∧
    ∀ (i : Nat) (e : AgentEntry), f.agents[i]? = some e → ∃ a, w.roster.agents[i]? = some a ∧
      e.Gives f.width f.height (i + 1) a ∧ ∀ name, Roster.keyOf name = Roster.keyOf e.name → w.agent? name = some a := by
  obtain ⟨hwidth, hheight⟩ := load_sized hload
  obtain ⟨hmapWidth, hmapHeight, made, hmade, hagents, hslots⟩ := build_crewed hload hbuild
  refine ⟨load_ok.1 hload, ⟨hwidth, hheight, hmapWidth, hmapHeight, ?_⟩, ?_, ?_⟩
  · rw [← hmapWidth, ← hmapHeight]
    exact (World.build_charted hwidth hheight hbuild).extent
  · rw [hagents, hmade.length_eq]
  · intro i e he
    obtain ⟨a, ha, hgives⟩ := hmade.getElem? he
    refine ⟨a, by rw [hagents]; exact ha, by rwa [Nat.add_comm] at hgives, ?_⟩
    intro name hname
    have hslot : (Roster.keyOf a.name, a) ∈ w.roster.slots := by
      rw [hslots]
      exact List.mem_map_of_mem (List.mem_of_getElem? ha)
    have hfound := Roster.find?_of_mem_slots (World.build_fresh hbuild).2 hslot
    rw [World.agent?, hname, ← hgives.name]
    exact hfound

/-- two agents on two tiles, of whom one has two spellings -/
theorem file_crews_pair :
    let fields : List (Text × Json) :=
      [("map", .object [("width", .int 2), ("height", .int 1)]),
        ("agents", .list [pointed "Straße" 0.5 0.0, pointed "Nova" 1.0 0.25]), ("welcome", .null)]
    let p : Path := ⟨"", ["world.json"]⟩
    let s : Store := ⟨[(p, .file (Utf8.encode (Json.object fields).chars))]⟩
    let f : WorldFile :=
      ⟨2, 1, [⟨"Straße", .real 0.5, .real 0.0, defaultColor⟩, ⟨"Nova", .real 1.0, .real 0.25, defaultColor⟩], .null⟩
    let w := ((World.bare ⟨#[], 0⟩ 0.0).generateMap 2 1).changes (World.additions f.agents)
    (load s (some p) = .ok f ∧ f.build ⟨#[], 0⟩ 0.0 = .ok w) ∧
      w.roster.agents.length = 2 ∧ w.tiles.Extent 2 1 ∧
      ∃ a, w.roster.agents[0]? = some a ∧ a.id = 1 ∧ w.agent? "STRASSE" = some a := by
  intro fields p s f w
  have hwidth : Json.Legible 2 (.int 2) := .whole (by decide)
  have hheight : Json.Legible 2 (.int 1) := .whole (by decide)
  have hmap : Json.Legible 3 (.object [("width", .int 2), ("height", .int 1)]) :=
    .object (by decide) (by decide) (by simp [hwidth, hheight])
  have hagents : Json.Legible 3 (.list [pointed "Straße" 0.5 0.0, pointed "Nova" 1.0 0.25]) :=
    .list (by simp [pointed_legible])
  have hlegible : Json.Legible 4 (.object fields) :=
    .object (by decide) (by decide) (by simp [fields, hmap, hagents, Json.Legible.null])
  have hlists : Lists (fieldOr fields "agents" .null) f.agents :=
    .items rfl (.cons (pointed_describes _ _ _) (.cons (pointed_describes _ _ _) .nil))
  have hsaid : Says fields f := ⟨⟨⟨_, rfl, rfl, rfl⟩, by decide, by decide⟩, hlists, by decide +kernel, rfl⟩
  have hload : load s (some p) = .ok f := written_load ⟨p, by decide +kernel, rfl⟩ hlegible (by decide) hsaid
  have hbuild : f.build ⟨#[], 0⟩ 0.0 = .ok w := rfl
  obtain ⟨-, ⟨-, -, -, -, hextent⟩, hlength, hcrew⟩ := file_crews hload hbuild
  obtain ⟨a, ha, ⟨x, y, -, -, rfl⟩, hfound⟩ := hcrew 0 _ rfl
  exact ⟨⟨hload, hbuild⟩, hlength, hextent, _, ha, rfl, hfound "STRASSE" (by decide +kernel)⟩

/-- **A loaded file can be built unless its welcome is wordless, and be seen where all its agents stand somewhere.** -/
theorem file_usable (hload : load s p? = .ok f) (rng : Twister) (clock : Float) :
    ((∃ w, f.build rng clock = .ok w) ↔ ¬Wordless f.welcome) ∧
    (∀ e, f.build rng clock = .error e → e = noText) ∧
    ∀ w, f.build rng clock = .ok w →
      ((∃ p, w.snapshot = .ok p) ↔ ∀ e ∈ f.agents, e.Stands) ∧ ∀ e, w.snapshot = .error e → ∃ c, e = .notWhole c := by
  obtain ⟨w', -, hgreets⟩ := build_greets hload rng clock
  refine ⟨?_, ?_, ?_⟩
  · rw [hgreets]
    cases hw : greet f.welcome w' with
    | ok w => exact ⟨fun _ => (greet_ok hw).1, fun _ => ⟨w, rfl⟩⟩
    | error e => exact ⟨nofun, fun hword => absurd (greet_error.1 hw).1 hword⟩
  · intro e he
    rw [hgreets] at he
    exact (greet_error.1 he).2
  · intro w hbuild
    obtain ⟨-, -, made, hmade, hagents, -⟩ := build_crewed hload hbuild
    have hidle : ∀ a ∈ w.roster.agents, a.activity = .idle := by
      intro a ha
      rw [hagents] at ha
      obtain ⟨i, e, hgives⟩ := hmade.of_mem ha
      exact hgives.idle
    obtain ⟨hseen, hfault⟩ := World.snapshot_idle hidle
    refine ⟨?_, hfault⟩
    rw [hseen, hagents]
    exact hmade.placed

/-- an agent that stands nowhere, in a world that is built -/
theorem file_usable_nowhere :
    let fields : List (Text × Json) := [("agents", .list [pointed "Bot" Binary64.nan 0.0]), ("welcome", .null)]
    let p : Path := ⟨"", ["world.json"]⟩
    let s : Store := ⟨[(p, .file (Utf8.encode (Json.object fields).chars))]⟩
    let f : WorldFile := ⟨12, 12, [⟨"Bot", .real Binary64.nan, .real 0.0, defaultColor⟩], .null⟩
    load s (some p) = .ok f ∧ ∃ w, f.build ⟨#[], 0⟩ 0.0 = .ok w ∧ ¬∃ p, w.snapshot = .ok p := by
  intro fields p s f
  have hagents : Json.Legible 3 (.list [pointed "Bot" Binary64.nan 0.0]) := .list (by simp [pointed_legible])
  have hlegible : Json.Legible 4 (.object fields) :=
    .object (by decide) (by decide) (by simp [fields, hagents, Json.Legible.null])
  have hlists : Lists (fieldOr fields "agents" .null) f.agents := .items rfl (.cons (pointed_describes _ _ _) .nil)
  have hsaid : Says fields f := ⟨⟨⟨_, rfl, rfl, rfl⟩, by decide, by decide⟩, hlists, by decide +kernel, rfl⟩
  have hload : load s (some p) = .ok f := written_load ⟨p, by decide +kernel, rfl⟩ hlegible (by decide) hsaid
  have hnowhere : ¬∀ e ∈ f.agents, e.Stands := by
    intro h
    obtain ⟨x, y, hx, -, hfinite, -⟩ := h _ List.mem_cons_self
    cases hx
    revert hfinite
    decide +kernel
  obtain ⟨hbuilt, -, hseen⟩ := file_usable hload ⟨#[], 0⟩ 0.0
  obtain ⟨w, hw⟩ := hbuilt.2 fun h => by cases h.1
  exact ⟨hload, w, hw, fun h => hnowhere ((hseen w hw).1.1 h)⟩

/-- a number for a welcome is loaded, and no world is built with it -/
theorem welcome_fails :
    let fields : List (Text × Json) := [("welcome", .int 5)]
    let p : Path := ⟨"", ["world.json"]⟩
    let s : Store := ⟨[(p, .file (Utf8.encode (Json.object fields).chars))]⟩
    let f : WorldFile := ⟨12, 12, defaultAgents, .int 5⟩
    load s (some p) = .ok f ∧ ∀ rng clock, f.build rng clock = .error noText := by
  intro fields p s f
  have hfive : Json.Legible 1 (.int 5) := .whole (by decide)
  have hlegible : Json.Legible 2 (.object fields) := .object (by decide) (by decide) (by simp [fields, hfive])
  have hsaid : Says fields f := ⟨⟨⟨[], rfl, rfl, rfl⟩, by decide, by decide⟩, .default, by decide +kernel, rfl⟩
  have hload : load s (some p) = .ok f := written_load ⟨p, by decide +kernel, rfl⟩ hlegible (by decide) hsaid
  have hwordless : Wordless f.welcome := ⟨by decide, nofun⟩
  refine ⟨hload, ?_⟩
  intro rng clock
  obtain ⟨w, -, hgreets⟩ := build_greets hload rng clock
  rw [hgreets]
  exact greet_error.2 ⟨hwordless, rfl⟩

end

end WorldFile

end TileCrew
