/-
The records of a log, as JSON and back. Of actions, messages, agents, tiles, scenes, snapshots and headers alike:
- `restores`: **the check of a record gives back what was written for it**;
- `regular`: what is written is in a form that can be read, so that only integers that are too long and lone halves of
  surrogate pairs stand against it.
-/
import TileCrew.Proofs.Json.Roundtrip
import TileCrew.Proofs.Schema.Checked
import TileCrew.Replay.Header
import TileCrew.World.Snapshot

namespace TileCrew

open Schema

/-! ## Actions -/

namespace Action

theorem verb_found (v : Verb) : Verb.byName.find? (·.1 == v.name) = some (v.name, v) := by
  cases v with
  | _ => rfl

theorem kindIs_valid (v : Verb) {fields : List (Text × Json)}
    (h : Json.lookup "kind" fields = some (.text v.name)) : kindIs v fields = .valid () := by
  have hword : Restores (word [(v.name, ())] .notLiteral) fun _ => .text v.name :=
    word_restores _ fun _ => by rw [List.find?_cons_of_pos]; exact beq_self_eq_true v.name
  exact hword.optional h

theorem check_kind (v : Verb) {fields : List (Text × Json)} (hnames : fields.all (·.1.isWhole) = true)
    (h : Json.lookup "kind" fields = some (.text v.name)) :
    check (.object fields) = (checkFields fields v).under (.field v.name) := by
  simp only [check, h, Text.ofString_beq, verb_found, record_whole hnames]

/-- **An action of any kind comes back.** -/
theorem restores : Restores check toJson := by
  intro a
  cases a with
  | move x y =>
    rw [toJson, check_kind .move rfl rfl, checkFields, kindIs_valid .move rfl, real_restores.required (a := x) rfl,
      real_restores.required (a := y) rfl, noOthers_valid rfl]
    rfl
  | explore x y =>
    rw [toJson, check_kind .explore rfl rfl, checkFields, kindIs_valid .explore rfl,
      integer_restores.required (a := x) rfl, integer_restores.required (a := y) rfl, noOthers_valid rfl]
    rfl
  | gather resource =>
    rw [toJson, check_kind .gather rfl rfl, checkFields, kindIs_valid .gather rfl,
      text_restores.required (a := resource) rfl, noOthers_valid rfl]
    rfl
  | build building =>
    rw [toJson, check_kind .build rfl rfl, checkFields, kindIs_valid .build rfl,
      text_restores.required (a := building) rfl, noOthers_valid rfl]
    rfl
  | say message =>
    rw [toJson, check_kind .say rfl rfl, checkFields, kindIs_valid .say rfl,
      text_restores.required (a := message) rfl, noOthers_valid rfl]
    rfl

theorem ne_null (a : Action) : a.toJson ≠ .null := by
  cases a with
  | _ => exact Json.noConfusion

theorem regular {k : ℕ} (a : Action) : (a.toJson).Regular (k + 1) := by
  cases a with
  | move x y => exact .object (of_decide_eq_true rfl) (by simp [Json.Regular.text, Json.Regular.float])
  | explore x y => exact .object (of_decide_eq_true rfl) (by simp [Json.Regular.text, Json.Regular.int])
  | gather resource => exact .object (of_decide_eq_true rfl) (by simp [Json.Regular.text])
  | build building => exact .object (of_decide_eq_true rfl) (by simp [Json.Regular.text])
  | say message => exact .object (of_decide_eq_true rfl) (by simp [Json.Regular.text])

end Action

/-! ## Messages -/

namespace Message

/-- **A message comes back.** -/
theorem restores : Restores check toJson := by
  intro m
  unfold check toJson
  rw [record_whole rfl, text_restores.required (a := m.text) rfl, real_restores.required (a := m.timestamp) rfl,
    noOthers_valid rfl]
  rfl

theorem regular {k : ℕ} (m : Message) : (m.toJson).Regular (k + 1) :=
  .object (of_decide_eq_true rfl) (by simp [Json.Regular.text, Json.Regular.float])

end Message

/-! ## Agents -/

namespace AgentView

theorem activity_restores : Restores (word Activity.byName .notWord) fun activity => .text activity.name := by
  refine word_restores _ fun activity => ?_
  cases activity with
  | _ => rfl

/-- **What is seen of an agent comes back.** -/
theorem restores : Restores check toJson := by
  intro a
  unfold check toJson
  rw [record_whole rfl, integer_restores.required (a := a.id) rfl, text_restores.required (a := a.name) rfl,
    real_restores.required (a := a.x) rfl, real_restores.required (a := a.y) rfl,
    text_restores.required (a := a.color) rfl, activity_restores.required (a := a.activity) rfl,
    (list_restores text_restores).optional (a := a.inventory) rfl,
    text_restores.optional (a := a.lastMessage) rfl,
    (nullable_restores Action.restores Action.ne_null).optional (a := a.current) rfl,
    integer_restores.optional (a := a.queued) rfl, text_restores.optional (a := a.status) rfl, noOthers_valid rfl]
  rfl

theorem regular {k : ℕ} (a : AgentView) : (a.toJson).Regular (k + 2) := by
  have hcurrent : ((a.current.map Action.toJson).getD .null).Regular (k + 1) := by
    cases a.current with
    | none => exact fun _ => .null
    | some action => exact Action.regular action
  refine .object (of_decide_eq_true rfl) ?_
  simp [Json.Regular.text, Json.Regular.float, Json.Regular.int, Json.Regular.list, hcurrent]

end AgentView

/-! ## Scenes -/

theorem Tile.restores : Restores (word Tile.byName .notWord) fun tile => .text tile.name := by
  refine word_restores _ fun tile => ?_
  cases tile with
  | _ => rfl

/-- **Rows of tiles come back, whatever their lengths.** -/
theorem TileGrid.restores : Restores TileGrid.check TileGrid.toJson := list_restores (list_restores Tile.restores)

theorem TileGrid.regular {k : ℕ} (tiles : TileGrid) : (tiles.toJson).Regular (k + 2) :=
  .list (fun row => .list (fun tile => .text tile.name) row) tiles

theorem TileGrid.isPrintable (tiles : TileGrid) : (tiles.toJson).isPrintable = true := by
  simp only [toJson, Json.isPrintable_list, List.forall_mem_map, Json.isPrintable_text, Text.ofString_isWhole,
    implies_true]

namespace Scene

/-- **What is seen of a world comes back.** -/
theorem restores : Restores check toJson := by
  intro s
  unfold check toJson
  rw [record_whole rfl, (list_restores AgentView.restores).optional (a := s.agents) rfl,
    TileGrid.restores.optional (a := s.tiles) rfl, (list_restores Message.restores).optional (a := s.messages) rfl,
    noOthers_valid rfl]
  rfl

theorem regular {k : ℕ} (s : Scene) : (s.toJson).Regular (k + 4) := by
  refine .object (of_decide_eq_true rfl) ?_
  simp [Json.Regular.list, AgentView.regular, TileGrid.regular, Message.regular]

end Scene

/-! ## Snapshots and headers -/

namespace Snapshot

/-- **A snapshot comes back.** -/
theorem restores : Restores check toJson := by
  intro s
  unfold check toJson
  rw [record_whole rfl, integer_restores.required (a := s.tick) rfl, Scene.restores.required (a := s.scene) rfl,
    noOthers_valid rfl]
  rfl

theorem regular {k : ℕ} (s : Snapshot) : (s.toJson).Regular (k + 5) :=
  .object (of_decide_eq_true rfl) (by simp [Json.Regular.int, Scene.regular])

/-- a snapshot can be put into a file where its tick, its agents and its messages can -/
theorem isPrintable_iff {s : Snapshot} : s.toJson.isPrintable = true ↔ (Json.int s.tick).isPrintable = true ∧
    (∀ a ∈ s.scene.agents, a.toJson.isPrintable = true) ∧ ∀ m ∈ s.scene.messages, m.toJson.isPrintable = true := by
  simp only [toJson, Scene.toJson, Json.isPrintable_object, Json.isPrintable_list, List.forall_mem_cons,
    List.forall_mem_map, Text.ofString_isWhole, TileGrid.isPrintable, true_and, List.not_mem_nil, false_implies,
    implies_true, and_true]

end Snapshot

namespace RunHeader

/-- **A header comes back.** -/
theorem restores : Restores check toJson := by
  intro h
  unfold check toJson
  rw [record_whole rfl, text_restores.required (a := h.runId) rfl, text_restores.required (a := h.createdAt) rfl,
    optionalInteger_restores.optional (a := h.ticks) rfl, real_restores.required (a := h.dt) rfl,
    optionalInteger_restores.optional (a := h.seed) rfl, optionalText_restores.optional (a := h.world) rfl,
    optionalText_restores.optional (a := h.script) rfl, (list_restores text_restores).optional (a := h.agents) rfl,
    integer_restores.required (a := h.mapWidth) rfl, integer_restores.required (a := h.mapHeight) rfl,
    noOthers_valid rfl]
  rfl

theorem regular {k : ℕ} (h : RunHeader) : (h.toJson).Regular (k + 2) := by
  refine .object (of_decide_eq_true rfl) ?_
  simp [Json.Regular.text, Json.Regular.float, Json.Regular.int, Json.Regular.int?, Json.Regular.text?,
    Json.Regular.list]

end RunHeader

end TileCrew
