/-
Worlds that are built from world files.
- `load_sized`: a world file that is loaded has a size of at least one tile;
- `greet_cases`: the welcome is said, or there is none, or it is no text and fails (`Wordless`);
- `build_eq`: a built world is a drawn map with the additions of the file and at most one message;
- `build_fresh`: no tick has passed in it, and no key has two slots.
-/
import TileCrew.Proofs.Setup.Entries
import TileCrew.Proofs.World.Calls

namespace TileCrew

namespace WorldFile

/-! ## Sizes -/

/-- a world file that is loaded, or the default, has a size of at least one tile -/
theorem load_sized {s : Store} {p? : Option Path} {f : WorldFile} (h : load s p? = .ok f) :
    0 < f.width ∧ 0 < f.height := by
  rcases load_ok.1 h with ⟨-, rfl⟩ | ⟨p, cs, fields, -, -, -, hsaid⟩
  · decide
  · exact ⟨hsaid.size.width_pos, hsaid.size.height_pos⟩

/-! ## Welcomes -/

/-- there is something to be said in welcome, and it is no text -/
def Wordless (welcome : Json) : Prop := welcome.isSubstantial = true ∧ ∀ text, welcome ≠ .text text

/-- the fault of a message that is no text -/
def noText : Fault := .record ⟨Message.title, [⟨[.field "text"], .notText⟩]⟩

theorem greet_cases (welcome : Json) (w : World) :
    (Wordless welcome ∧ greet welcome w = .error noText) ∨
      (¬Wordless welcome ∧ (greet welcome w = .ok w ∨ ∃ text, greet welcome w = .ok (w.addMessage text))) := by
  by_cases hsub : welcome.isSubstantial = true
  · cases welcome with
    | text t => exact .inr ⟨fun h => h.2 t rfl, .inr ⟨t, by rw [greet, if_pos hsub]; rfl⟩⟩
    | null => cases hsub
    | bool b => exact .inl ⟨⟨hsub, nofun⟩, by rw [greet, if_pos hsub]; rfl⟩
    | number n => exact .inl ⟨⟨hsub, nofun⟩, by rw [greet, if_pos hsub]; rfl⟩
    | list items => exact .inl ⟨⟨hsub, nofun⟩, by rw [greet, if_pos hsub]; rfl⟩
    | object fields => exact .inl ⟨⟨hsub, nofun⟩, by rw [greet, if_pos hsub]; rfl⟩
  · exact .inr ⟨fun h => hsub h.1, .inl (by rw [greet, if_neg hsub])⟩

theorem greet_error {welcome : Json} {w : World} {e : Fault} :
    greet welcome w = .error e ↔ Wordless welcome ∧ e = noText := by
  rcases greet_cases welcome w with ⟨hwordless, hfails⟩ | ⟨hword, hnone | ⟨text, hsaid⟩⟩
  · rw [hfails]
    exact ⟨fun h => ⟨hwordless, (Except.error.inj h).symm⟩, fun h => by rw [h.2]⟩
  · rw [hnone]
    exact ⟨nofun, fun h => absurd h.1 hword⟩
  · rw [hsaid]
    exact ⟨nofun, fun h => absurd h.1 hword⟩

theorem greet_ok {welcome : Json} {w w' : World} (h : greet welcome w = .ok w') :
    ¬Wordless welcome ∧ (w' = w ∨ ∃ text, w' = w.addMessage text) := by
  rcases greet_cases welcome w with ⟨-, hfails⟩ | ⟨hword, hnone | ⟨text, hsaid⟩⟩
  · cases hfails.symm.trans h
  · cases hnone.symm.trans h
    exact ⟨hword, .inl rfl⟩
  · cases hsaid.symm.trans h
    exact ⟨hword, .inr ⟨text, rfl⟩⟩

end WorldFile

/-! ## Built worlds -/

namespace World

def additions (entries : List AgentEntry) : List Change := entries.map fun e => .add e.name e.x e.y e.color

theorem addAgents_eq {entries : List AgentEntry} {w w' : World} (h : WorldFile.addAgents entries w = .ok w') :
    w' = w.changes (additions entries) := by
  induction entries generalizing w with
  | nil => cases h; rfl
  | cons e entries ih =>
    rw [WorldFile.addAgents] at h
    cases ha : w.addAgent e.name e.x e.y e.color with
    | error fault => rw [ha] at h; cases h
    | ok r =>
      rw [ha] at h
      have hstep : w.change (.add e.name e.x e.y e.color) = r.2 := by simp only [change, ha]
      rw [ih h, additions, additions, List.map_cons, changes, changes, List.foldl_cons, hstep]

/-- a built world is a drawn map with additions and at most one message -/
theorem build_eq {f : WorldFile} {rng : Twister} {clock : Float} {w : World} (h : f.build rng clock = .ok w) :
    let drawn := ((bare rng clock).generateMap f.width f.height).changes (additions f.agents)
    w = drawn ∨ ∃ text, w = drawn.addMessage text := by
  intro drawn
  simp only [WorldFile.build] at h
  cases ha : WorldFile.addAgents f.agents ((bare rng clock).generateMap f.width f.height) with
  | error fault => rw [ha] at h; cases h
  | ok w' =>
    rw [ha] at h
    have hw' : w' = drawn := addAgents_eq ha
    have hgreet : WorldFile.greet f.welcome w' = .ok w := h
    rw [← hw']
    exact (WorldFile.greet_ok hgreet).2

theorem change_tick (w : World) (c : Change) : (w.change c).tick = w.tick := by
  rcases w.change_cases c with ⟨hc, -⟩ | ⟨a, ha⟩ | ⟨name, -, hc, -⟩
  · rw [hc]
  · rw [ha.world]; rfl
  · rw [hc]; rfl

theorem changes_tick (w : World) (cs : List Change) : (w.changes cs).tick = w.tick := by
  induction cs generalizing w with
  | nil => rfl
  | cons c cs ih => exact (ih (w.change c)).trans (w.change_tick c)

/-- in a built world no tick has passed, and no key has two slots -/
theorem build_fresh {f : WorldFile} {rng : Twister} {clock : Float} {w : World} (h : f.build rng clock = .ok w) :
    w.tick = 0 ∧ w.roster.keys.Nodup := by
  have htick := changes_tick ((bare rng clock).generateMap f.width f.height) (additions f.agents)
  have hempty : ((bare rng clock).generateMap f.width f.height).roster.Sound := Roster.sound_empty
  have hkeys := (changes_sound (additions f.agents) hempty).nodup
  rcases build_eq h with rfl | ⟨text, rfl⟩
  · exact ⟨htick, hkeys⟩
  · exact ⟨htick, hkeys⟩

end World

end TileCrew
