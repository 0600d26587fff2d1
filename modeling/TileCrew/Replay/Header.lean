/-
The header of a recorded run: the settings it was run with. Its JSON form has all fields, null for those that are unset.
-/
import TileCrew.Schema.Checked

namespace TileCrew

/-- what a run was recorded with -/
structure RunHeader where
  runId : Text
  createdAt : Text
  ticks : Option Int := none
  dt : Float
  seed : Option Int := none
  world : Option Text := none
  script : Option Text := none
  agents : List Text := []
  mapWidth : Int
  mapHeight : Int

namespace RunHeader

open Schema

def toJson (h : RunHeader) : Json :=
  .object [
    ("run_id", .text h.runId), ("created_at", .text h.createdAt), ("ticks", .int? h.ticks), ("dt", .float h.dt),
    ("seed", .int? h.seed), ("world", .text? h.world), ("script", .text? h.script),
    ("agents", .list (h.agents.map .text)), ("map_width", .int h.mapWidth), ("map_height", .int h.mapHeight)]

def fieldNames : List String :=
  ["run_id", "created_at", "ticks", "dt", "seed", "world", "script", "agents", "map_width", "map_height"]

def check : Json → Checked RunHeader :=
  record fun fields =>
    (fun runId createdAt ticks dt seed world script agents mapWidth mapHeight _ =>
      ⟨runId, createdAt, ticks, dt, seed, world, script, agents, mapWidth, mapHeight⟩) <$>
      required fields "run_id" text <*> required fields "created_at" text <*>
      optional fields "ticks" none (nullable integer) <*> required fields "dt" real <*>
      optional fields "seed" none (nullable integer) <*> optional fields "world" none (nullable text) <*>
      optional fields "script" none (nullable text) <*> optional fields "agents" [] (list text) <*>
      required fields "map_width" integer <*> required fields "map_height" integer <*> noOthers fields fieldNames

def title : String := "RunHeader"

end RunHeader

end TileCrew
