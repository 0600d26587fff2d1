/-
What stays the same in everything that is seen. No prompt and no span of time brings anybody in or sends anybody away,
and none changes the map.
- `runTick_scenery`: a tick leaves the names of the agents, in the order of their slots, and the tiles;
- `run_scenery`: **every snapshot of a run, whether it ends in a fault or not, shows the names and the tiles of the world
  that it began in**.
-/
import TileCrew.Proofs.World.Undisturbed

namespace TileCrew

/-- what of a snapshot, or a world, is its scenery: the names of the agents in order, and the tiles -/
structure Scenery where
  names : List Text
  tiles : TileGrid

namespace World

def scenery (w : World) : Scenery := ⟨w.roster.agents.map Agent.name, w.tiles⟩

end World

def Snapshot.scenery (s : Snapshot) : Scenery := ⟨s.scene.agents.map AgentView.name, s.scene.tiles⟩

theorem Roster.Kept.names_eq {R : Agent → Agent → Prop} (hR : ∀ a b, R a b → b.name = a.name) {r r' : Roster}
    (h : Kept R r r') : r'.agents.map Agent.name = r.agents.map Agent.name := by
  simp only [Kept, agents] at *
  generalize r.slots = ss at *
  generalize r'.slots = ts at *
  induction h with
  | nil => rfl
  | cons hs _ ih =>
    simp only [List.map_cons, hR _ _ hs.2, ih]

namespace World

theorem snapshot_scenery {w : World} {s : Snapshot} (h : w.snapshot = .ok s) : s.scenery = w.scenery := by
  rw [snapshot] at h
  cases hm : w.roster.agents.mapM Agent.view with
  | error e => rw [hm] at h; cases h
  | ok views =>
    rw [hm] at h
    cases h
    rw [Snapshot.scenery, scenery, mapM_map (fun a v hv => (view_same hv).2) hm]

theorem Stays.scenery {w w' : World} (h : Stays Agent.Same w w') : w'.scenery = w.scenery := by
  rw [World.scenery, World.scenery, h.roster.names_eq fun _ _ hab => hab.name, h.tiles]

theorem update_scenery {w w' : World} {dt : Float} (h : w.update dt = (.ok (), w')) : w'.scenery = w.scenery := by
  have htiles : w'.tiles = w.tiles := by
    rw [← congrArg (·.2.tiles) h]
    rfl
  have hnames : w'.roster.agents.map Agent.name = w.roster.agents.map Agent.name := by
    refine (update_ok h).1.names_eq fun a b hab => ?_
    obtain ⟨out, haged⟩ := Agent.passage_aged (Agent.update_passage hab)
    exact haged.same.name
  rw [scenery, scenery, hnames, htiles]

/-- a tick that comes to no fault leaves the scenery as it is, and shows it -/
theorem runTick_scenery {w w' : World} {schedule : Schedule} {frame : Float} {s : Snapshot}
    (h : w.runTick schedule frame = (.ok s, w')) : w'.scenery = w.scenery ∧ s.scenery = w.scenery := by
  obtain ⟨w₁, hall, hupdate, hsnap⟩ := runTick_ok h
  have hstays := handleAll_stays PutClosed.same (schedule.prompts (w.tick + 1)) w
  rw [hall] at hstays
  have hw' : w'.scenery = w.scenery := (update_scenery hupdate).trans hstays.scenery
  exact ⟨hw', (snapshot_scenery hsnap).trans hw'⟩

theorem ticks_scenery {schedule : Schedule} {frame : Float} (n : Nat) (w : World) :
    ∀ s ∈ (Run.ticks schedule frame n w).snapshots, s.scenery = w.scenery := by
  induction n generalizing w with
  | zero => exact fun s hs => by cases hs
  | succ n ih =>
    rw [Run.ticks]
    cases ht : w.runTick schedule frame with
    | mk outcome w' =>
      cases outcome with
      | error e => exact fun s hs => by cases hs
      | ok s =>
        obtain ⟨hw', hs⟩ := runTick_scenery ht
        refine List.forall_mem_cons.2 ⟨hs, fun s' hs' => ?_⟩
        rw [ih w' s' hs', hw']

/-- **Every snapshot of a run shows the names and the tiles of the world that it began in.** -/
theorem run_scenery (w : World) (n : Nat) (dt : Float) (schedule : Schedule) :
    ∀ s ∈ (w.run n dt schedule).snapshots, s.scenery = w.scenery := ticks_scenery n w

end World

end TileCrew
