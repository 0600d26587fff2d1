/-
What world files say, and what is wrong with those that say nothing. Of every item of a roster it is known whether it
describes an agent (`Describes`) or has a fault, and which (`Misdescribes`); the two conversions of the loader are said
by these alone.
- `coordinateOf_ok`, `coordinateOf_error`: a value gives a coordinate, or the fault that it gives instead;
- `agentEntryOf_ok`, `agentEntryOf_error`: the same for an item of a roster;
- `load_ok`: what is loaded is the default, or what the object in the file says (`Says`);
- `roster_judged`: **a roster of any items is loaded, or what is wrong with an item or a name is reported; but there is a
  fault of another kind where the first item that is wrong has a coordinate too large for a double**.
-/
import TileCrew.Proofs.Arithmetic.Overflow
import TileCrew.Proofs.Files.Store
import TileCrew.Proofs.Json.Roundtrip
import TileCrew.Proofs.Json.Visible
import TileCrew.Proofs.Outcomes
import TileCrew.Proofs.Text.Breaks
import TileCrew.Proofs.Text.Octets
import TileCrew.Setup.WorldFile

namespace TileCrew

namespace WorldFile

/-! ## Coordinates -/

/-- the value gives this coordinate -/
inductive Locates : Json → Float → Prop
  | number {n : Number} {x : Float} : n.toFloat? = some x → Locates (.number n) x
  | bool (b : Bool) : Locates (.bool b) (if b then 1 else 0)
  | text {t : Text} {x : Float} : Text.readReal? t.masked = some x → Locates (.text t) x

/-- the value gives no coordinate in that entry, but this fault: it is of a kind that has no number, it is a text that
spells none, or it is an integer too large for a double -/
inductive Misplaces (entry : Json) : Json → Fault → Prop
  | null : Misplaces entry .null (.agentEntry entry)
  | list (items : List Json) : Misplaces entry (.list items) (.agentEntry entry)
  | object (fields : List (Text × Json)) : Misplaces entry (.object fields) (.agentEntry entry)
  | text {t : Text} : Text.readReal? t.masked = none → Misplaces entry (.text t) (.realText t)
  | tooLarge {n : Int} : Binary64.beyond ≤ n.natAbs → Misplaces entry (.int n) .tooLargeForReal

theorem coordinateOf_ok {entry v : Json} {n : Number} :
    coordinateOf entry v = .ok n ↔ ∃ x, n = .real x ∧ Locates v x := by
  constructor
  · intro h
    unfold coordinateOf at h
    split at h
    · split at h
      · next hx => cases h; exact ⟨_, rfl, .number hx⟩
      · cases h
    · cases h; exact ⟨_, rfl, .bool _⟩
    · split at h
      · next hx => cases h; exact ⟨_, rfl, .text hx⟩
      · cases h
    · cases h
  · rintro ⟨x, rfl, hx⟩
    cases hx with
    | number hx => simp only [coordinateOf, hx]
    | bool b => rfl
    | text hx => simp only [coordinateOf, hx]

theorem coordinateOf_error {entry v : Json} {e : Fault} : coordinateOf entry v = .error e ↔ Misplaces entry v e := by
  constructor
  · intro h
    cases v with
    | null => cases h; exact .null
    | bool b => cases h
    | list items => cases h; exact .list items
    | object fields => cases h; exact .object fields
    | text t =>
      cases hx : Text.readReal? t.masked with
      | some x => simp only [coordinateOf, hx] at h; cases h
      | none => simp only [coordinateOf, hx] at h; cases h; exact .text hx
    | number n =>
      cases n with
      | real x => cases h
      | whole n =>
        cases hx : Binary64.ofInt? n with
        | some x => simp only [coordinateOf, Number.toFloat?, hx] at h; cases h
        | none =>
          simp only [coordinateOf, Number.toFloat?, hx] at h
          cases h
          exact .tooLarge (Binary64.ofInt?_eq_none.1 hx)
  · intro h
    cases h with
    | null => rfl
    | list items => rfl
    | object fields => rfl
    | text hx => simp only [coordinateOf, hx]
    | tooLarge hn => simp only [coordinateOf, Json.int, Number.toFloat?, Binary64.ofInt?_eq_none.2 hn]

/-! ## Items of a roster -/

/-- the item describes the agent: it is an object with a name, and with coordinates and a colour or without -/
inductive Describes : Json → AgentEntry → Prop
  | mk {fields : List (Text × Json)} {name : Json} {x y : Float} : Json.lookup "name" fields = some name →
      Locates (fieldOr fields "x" (.int 0)) x → Locates (fieldOr fields "y" (.int 0)) y →
      Describes (.object fields)
        ⟨name.plain, .real x, .real y, (fieldOr fields "color" (.text defaultColor)).plain⟩

/-- the item describes no agent, but gives this fault: it is no object, it has no name, or one of its coordinates has the
fault, the column's before the row's -/
inductive Misdescribes : Json → Fault → Prop
  | noObject {v : Json} : (∀ fields, v ≠ .object fields) → Misdescribes v (.agentEntry v)
  | nameless {fields : List (Text × Json)} : Json.lookup "name" fields = none →
      Misdescribes (.object fields) (.agentEntry (.object fields))
  | column {fields : List (Text × Json)} {name : Json} {e : Fault} : Json.lookup "name" fields = some name →
      Misplaces (.object fields) (fieldOr fields "x" (.int 0)) e → Misdescribes (.object fields) e
  | row {fields : List (Text × Json)} {name : Json} {x : Float} {e : Fault} : Json.lookup "name" fields = some name →
      Locates (fieldOr fields "x" (.int 0)) x → Misplaces (.object fields) (fieldOr fields "y" (.int 0)) e →
      Misdescribes (.object fields) e

theorem agentEntryOf_ok {v : Json} {a : AgentEntry} : agentEntryOf v = .ok a ↔ Describes v a := by
  constructor
  · intro h
    unfold agentEntryOf at h
    split at h
    · split at h
      · cases h
      · next hname =>
        obtain ⟨x, hx, h⟩ := bind_ok.1 h
        obtain ⟨y, hy, h⟩ := bind_ok.1 h
        cases h
        obtain ⟨x', rfl, hx'⟩ := coordinateOf_ok.1 hx
        obtain ⟨y', rfl, hy'⟩ := coordinateOf_ok.1 hy
        exact .mk hname hx' hy'
    · cases h
  · rintro ⟨hname, hx, hy⟩
    simp only [agentEntryOf, hname]
    exact bind_ok.2 ⟨_, coordinateOf_ok.2 ⟨_, rfl, hx⟩, bind_ok.2 ⟨_, coordinateOf_ok.2 ⟨_, rfl, hy⟩, rfl⟩⟩

theorem agentEntryOf_error {v : Json} {e : Fault} : agentEntryOf v = .error e ↔ Misdescribes v e := by
  constructor
  · intro h
    unfold agentEntryOf at h
    split at h
    · split at h
      · next hname => cases h; exact .nameless hname
      · next hname =>
        rcases bind_error.1 h with hx | ⟨x, hx, h⟩
        · exact .column hname (coordinateOf_error.1 hx)
        · obtain ⟨x', rfl, hx'⟩ := coordinateOf_ok.1 hx
          rcases bind_error.1 h with hy | ⟨y, -, h⟩
          · exact .row hname hx' (coordinateOf_error.1 hy)
          · cases h
    · next hobject => cases h; exact .noObject hobject
  · intro h
    cases h with
    | noObject hobject =>
      unfold agentEntryOf
      split
      · next fields => exact absurd rfl (hobject fields)
      · rfl
    | nameless hname => simp only [agentEntryOf, hname]
    | column hname hx =>
      simp only [agentEntryOf, hname]
      exact bind_error.2 (.inl (coordinateOf_error.2 hx))
    | row hname hx hy =>
      simp only [agentEntryOf, hname]
      exact bind_error.2 (.inr ⟨_, coordinateOf_ok.2 ⟨_, rfl, hx⟩, bind_error.2 (.inl (coordinateOf_error.2 hy))⟩)

/-! ## Rosters -/

def keysOf (agents : List AgentEntry) : List Text := agents.map fun a => Roster.keyOf a.name

theorem mapM_describes {items : List Json} {agents : List AgentEntry} :
    items.mapM agentEntryOf = .ok agents ↔ List.Forall₂ Describes items agents := by
  constructor
  · exact fun h => (mapM_ok h).imp fun _ _ => agentEntryOf_ok.1
  · exact fun h => mapM_all (h.imp fun _ _ => agentEntryOf_ok.2)

theorem mapM_misdescribes {items : List Json} {e : Fault} : items.mapM agentEntryOf = .error e ↔
    ∃ before v after, items = before ++ v :: after ∧ (∀ b ∈ before, ∃ a, Describes b a) ∧ Misdescribes v e := by
  simp only [mapM_error, agentEntryOf_ok, agentEntryOf_error]

/-- the value lists these agents: none are given, and they are those of such a world, or there is one for every item -/
inductive Lists : Json → List AgentEntry → Prop
  | default : Lists .null defaultAgents
  | items {v : Json} {items : List Json} {agents : List AgentEntry} : itemsOf v = .ok items →
      List.Forall₂ Describes items agents → Lists v agents

theorem agentsOf_ok {v : Json} {agents : List AgentEntry} : agentsOf v = .ok agents ↔ Lists v agents := by
  constructor
  · intro h
    unfold agentsOf at h
    split at h
    · cases h; exact .default
    · obtain ⟨items, hitems, h⟩ := bind_ok.1 h
      exact .items hitems (mapM_describes.1 h)
  · intro h
    cases h with
    | default => rfl
    | items hitems hagents =>
      unfold agentsOf
      split
      · cases hitems
      · exact bind_ok.2 ⟨_, hitems, mapM_describes.2 hagents⟩

/-- no agent is one too many exactly where no key comes twice, nor is among those seen before -/
theorem firstTwice?_none {seen : List Text} {agents : List AgentEntry} :
    firstTwice? seen agents = none ↔ (keysOf agents).Nodup ∧ ∀ key ∈ keysOf agents, key ∉ seen := by
  induction agents generalizing seen with
  | nil => simp [firstTwice?, keysOf]
  | cons a agents ih =>
    have hkeys : keysOf (a :: agents) = Roster.keyOf a.name :: keysOf agents := rfl
    rw [hkeys, List.nodup_cons, List.forall_mem_cons, firstTwice?]
    by_cases hseen : Roster.keyOf a.name ∈ seen
    · simp [hseen]
    · simp only [List.contains_eq_mem, hseen, decide_false, Bool.false_eq_true, if_false, ih, not_false_eq_true,
        true_and, List.mem_cons, not_or]
      constructor
      · rintro ⟨hnodup, hnew⟩
        exact ⟨⟨fun hm => (hnew _ hm).1 rfl, hnodup⟩, fun key hm => (hnew key hm).2⟩
      · rintro ⟨⟨ha, hnodup⟩, hnew⟩
        exact ⟨hnodup, fun key hm => ⟨fun heq => ha (heq ▸ hm), hnew key hm⟩⟩

theorem firstTwice?_mem {seen : List Text} {agents : List AgentEntry} {a : AgentEntry}
    (h : firstTwice? seen agents = some a) : a ∈ agents := by
  induction agents generalizing seen with
  | nil => cases h
  | cons b agents ih =>
    rw [firstTwice?] at h
    split at h
    · cases h; exact List.mem_cons_self
    · exact List.mem_cons_of_mem b (ih h)

theorem checkNames_ok {agents : List AgentEntry} {u : Unit} : checkNames agents = .ok u ↔ (keysOf agents).Nodup := by
  have hnone : firstTwice? [] agents = none ↔ (keysOf agents).Nodup := by simp [firstTwice?_none]
  rw [← hnone, checkNames]
  cases firstTwice? [] agents with
  | none => exact ⟨fun _ => rfl, fun _ => rfl⟩
  | some a => exact ⟨fun h => (by cases h), fun h => (by cases h)⟩

theorem checkNames_error {agents : List AgentEntry} {e : Fault} (h : checkNames agents = .error e) :
    ¬(keysOf agents).Nodup ∧ ∃ a ∈ agents, e = .nameTwice a.name := by
  constructor
  · intro hnodup
    rw [checkNames_ok (u := ()).2 hnodup] at h
    cases h
  · unfold checkNames at h
    split at h
    · next a ha => cases h; exact ⟨a, firstTwice?_mem ha, rfl⟩
    · cases h

/-! ## World files -/

/-- an object gives a map this size, of at least one tile -/
structure Sizes (fields : List (Text × Json)) (width height : Int) : Prop where
  given : ∃ size, fieldsOf (fieldOr fields "map" (.object [])) = .ok size ∧
    integerOf (fieldOr size "width" (.int defaultSize)) = .ok width ∧
    integerOf (fieldOr size "height" (.int defaultSize)) = .ok height
  width_pos : 0 < width
  height_pos : 0 < height

/-- what an object says as a world file -/
structure Says (fields : List (Text × Json)) (f : WorldFile) : Prop where
  size : Sizes fields f.width f.height
  agents : Lists (fieldOr fields "agents" .null) f.agents
  names : (keysOf f.agents).Nodup
  welcome : f.welcome = fieldOr fields "welcome" (.text defaultWelcome)

theorem checkSize_ok {width height : Int} {u : Unit} : checkSize width height = .ok u ↔ 0 < width ∧ 0 < height := by
  unfold checkSize
  split
  · exact ⟨fun h => (by cases h), fun h => (by omega)⟩
  · exact ⟨fun _ => (by omega), fun _ => rfl⟩

/-- with a size that is given, it is the roster that decides -/
theorem ofJson_sizes {fields : List (Text × Json)} {width height : Int} (h : Sizes fields width height) :
    ofJson (.object fields) = (do
      let agents ← agentsOf (fieldOr fields "agents" .null)
      checkNames agents
      return ⟨width, height, agents, fieldOr fields "welcome" (.text defaultWelcome)⟩) := by
  obtain ⟨size, hsize, hwidth, hheight⟩ := h.given
  have hcheck := checkSize_ok (u := ()).2 ⟨h.width_pos, h.height_pos⟩
  simp only [ofJson, fieldsOf, bind, Except.bind] at hsize hwidth hheight ⊢
  simp only [hsize, hwidth, hheight, hcheck]

theorem ofJson_ok {v : Json} {f : WorldFile} : ofJson v = .ok f ↔ ∃ fields, v = .object fields ∧ Says fields f := by
  constructor
  · intro h
    unfold ofJson at h
    simp only [bind_ok] at h
    obtain ⟨fields, hfields, size, hsize, width, hwidth, height, hheight, u, hcheck, agents, hagents, u', hnames, hf⟩ := h
    cases hf
    cases v <;> cases hfields
    obtain ⟨hwidth₀, hheight₀⟩ := checkSize_ok.1 hcheck
    exact ⟨_, rfl, ⟨⟨_, hsize, hwidth, hheight⟩, hwidth₀, hheight₀⟩, agentsOf_ok.1 hagents, checkNames_ok.1 hnames, rfl⟩
  · rintro ⟨fields, rfl, h⟩
    rw [ofJson_sizes h.size]
    refine bind_ok.2 ⟨_, agentsOf_ok.2 h.agents, bind_ok.2 ⟨(), checkNames_ok.2 h.names, ?_⟩⟩
    rw [← h.welcome]
    rfl

/-- what is loaded is the default, or what the object in the file says -/
theorem load_ok {s : Store} {p? : Option Path} {f : WorldFile} : load s p? = .ok f ↔
    (p? = none ∧ f = default) ∨ ∃ p cs fields, p? = some p ∧ s.readText p = .ok cs ∧
      Json.read (String.ofList cs) = .ok (.object fields) ∧ Says fields f := by
  cases p? with
  | none => simp [load, eq_comm]
  | some p =>
    simp only [reduceCtorEq, false_and, false_or, Option.some.injEq]
    rw [load]
    cases hcs : s.readText p with
    | error e =>
      constructor
      · intro h
        split at h
        · next heq => cases heq
        · cases h
        · cases h
      · rintro ⟨p', cs, fields, rfl, hcs', -⟩
        rw [hcs] at hcs'
        cases hcs'
    | ok cs =>
      dsimp only
      unfold ofText
      constructor
      · intro h
        obtain ⟨v, hv, h⟩ := bind_ok.1 h
        obtain ⟨fields, rfl, hsaid⟩ := ofJson_ok.1 h
        cases hread : Json.read (String.ofList cs) with
        | error e => rw [hread] at hv; cases hv
        | ok v' => rw [hread] at hv; cases hv; exact ⟨p, cs, fields, rfl, hcs, hread, hsaid⟩
      · rintro ⟨p', cs', fields, rfl, hcs', hread, hsaid⟩
        rw [hcs] at hcs'
        cases hcs'
        rw [hread]
        exact ofJson_ok.2 ⟨fields, rfl, hsaid⟩

/-- what is loaded from a file with a JSON text is what its value gives -/
theorem load_text {s : Store} {p : Path} {cs : List Char} {v : Json} (hfile : s.readText p = .ok cs)
    (hjson : Json.read (String.ofList cs) = .ok v) : load s (some p) = ofJson v := by
  rw [load, hfile]
  dsimp only
  rw [ofText, hjson]
  rfl

theorem written_read {s : Store} {p : Path} {k : Nat} {v : Json} (h : s.Holds p (Utf8.encode v.chars))
    (hv : Json.Legible k v) (hk : k ≤ Json.depthLimit) :
    s.readText p = .ok v.chars ∧ Json.read (String.ofList v.chars) = .ok v := by
  refine ⟨?_, Json.read_chars hv hk⟩
  rw [Store.readText, h.read]
  dsimp only
  rw [textOfOctets, Utf8.decode_encode]
  exact congrArg Except.ok (Text.unifyNewlines_eq (Json.chars_visible v).noReturn)

theorem written_load {s : Store} {p : Path} {k : Nat} {fields : List (Text × Json)} {f : WorldFile}
    (h : s.Holds p (Utf8.encode (Json.object fields).chars)) (hv : Json.Legible k (.object fields))
    (hk : k ≤ Json.depthLimit) (hsaid : Says fields f) : load s (some p) = .ok f := by
  obtain ⟨hfile, hjson⟩ := written_read h hv hk
  exact load_ok.2 (.inr ⟨p, _, fields, rfl, hfile, hjson, hsaid⟩)

/-! ## Rosters of any items -/

/-- what a roster of these items is reported for: an item that describes nobody, a text in it that is no number, or a name
with the folding of an earlier one -/
inductive Reported (items : List Json) : Fault → Prop
  | item {v : Json} : v ∈ items → Misdescribes v (.agentEntry v) → Reported items (.agentEntry v)
  | text {v : Json} {t : Text} : v ∈ items → Misdescribes v (.realText t) → Reported items (.realText t)
  | name {agents : List AgentEntry} {a : AgentEntry} : List.Forall₂ Describes items agents → ¬(keysOf agents).Nodup →
      a ∈ agents → Reported items (.nameTwice a.name)

/-- of the items that are wrong the first has a coordinate too large for a double -/
def TooFar (items : List Json) : Prop :=
  ∃ before v after, items = before ++ v :: after ∧ (∀ b ∈ before, ∃ a, Describes b a) ∧
    Misdescribes v .tooLargeForReal

/-- an item that is wrong is reported itself, or a text in it, or a coordinate is too large -/
theorem misdescribes_cases {v : Json} {e : Fault} (h : Misdescribes v e) :
    e = .agentEntry v ∨ (∃ s, e = .realText s) ∨ e = .tooLargeForReal := by
  have placed {entry u : Json} (hu : Misplaces entry u e) :
      e = .agentEntry entry ∨ (∃ s, e = .realText s) ∨ e = .tooLargeForReal := by
    cases hu with
    | null => exact .inl rfl
    | list items => exact .inl rfl
    | object fields => exact .inl rfl
    | text _ => exact .inr (.inl ⟨_, rfl⟩)
    | tooLarge _ => exact .inr (.inr rfl)
  cases h with
  | noObject _ => exact .inl rfl
  | nameless _ => exact .inl rfl
  | column _ hx => exact placed hx
  | row _ _ hy => exact placed hy

theorem load_items {s : Store} {p : Path} {cs : List Char} {fields : List (Text × Json)} {width height : Int}
    {items : List Json} (hfile : s.readText p = .ok cs) (hjson : Json.read (String.ofList cs) = .ok (.object fields))
    (hsizes : Sizes fields width height) (hitems : Json.lookup "agents" fields = some (.list items)) :
    load s (some p) = (do
      let agents ← items.mapM agentEntryOf
      checkNames agents
      return ⟨width, height, agents, fieldOr fields "welcome" (.text defaultWelcome)⟩) := by
  rw [load_text hfile hjson, ofJson_sizes hsizes, fieldOr, hitems]
  rfl

/-- **A roster of any items is loaded or reported, if no coordinate in the first item that is wrong is too large.** -/
theorem roster_judged {s : Store} {p : Path} {cs : List Char} {fields : List (Text × Json)} {width height : Int}
    {items : List Json} (hfile : s.readText p = .ok cs) (hjson : Json.read (String.ofList cs) = .ok (.object fields))
    (hsizes : Sizes fields width height) (hitems : Json.lookup "agents" fields = some (.list items)) :
    ((∃ f, load s (some p) = .ok f ∧ List.Forall₂ Describes items f.agents ∧ (keysOf f.agents).Nodup) ∨
      (∃ e, load s (some p) = .error e ∧ Reported items e) ∨ load s (some p) = .error .tooLargeForReal) ∧
    (load s (some p) = .error .tooLargeForReal ↔ TooFar items) := by
  rw [load_items hfile hjson hsizes hitems]
  constructor
  · cases hmap : items.mapM agentEntryOf with
    | ok agents =>
      have hagents := mapM_describes.1 hmap
      cases hnames : checkNames agents with
      | ok u =>
        refine .inl ⟨_, bind_ok.2 ⟨agents, rfl, bind_ok.2 ⟨u, hnames, rfl⟩⟩, hagents, checkNames_ok.1 hnames⟩
      | error e =>
        obtain ⟨htwice, a, ha, rfl⟩ := checkNames_error hnames
        exact .inr (.inl ⟨_, bind_error.2 (.inr ⟨agents, rfl, bind_error.2 (.inl hnames)⟩), .name hagents htwice ha⟩)
    | error e =>
      obtain ⟨before, v, after, rfl, -, hv⟩ := mapM_misdescribes.1 hmap
      have hmem : v ∈ before ++ v :: after := by simp
      rcases misdescribes_cases hv with rfl | ⟨text, rfl⟩ | rfl
      · exact .inr (.inl ⟨_, rfl, .item hmem hv⟩)
      · exact .inr (.inl ⟨_, rfl, .text hmem hv⟩)
      · exact .inr (.inr rfl)
  · rw [TooFar, ← mapM_misdescribes, bind_error]
    refine ⟨fun h => h.resolve_right ?_, .inl⟩
    -- names are reported in another way
    rintro ⟨agents, -, h⟩
    rcases bind_error.1 h with h | ⟨u, -, h⟩
    · obtain ⟨-, a, -, he⟩ := checkNames_error h
      cases he
    · cases h

/-- a coordinate as text, and a list in place of one -/
theorem roster_judged_list :
    let bot : Json := .object [("name", .text "Bot"), ("x", .text "1.5")]
    let nova : Json := .object [("name", .text "Nova"), ("y", .list [])]
    let fields : List (Text × Json) := [("agents", .list [bot, nova])]
    let p : Path := ⟨"", ["world.json"]⟩
    let s : Store := ⟨[(p, .file (Utf8.encode (Json.object fields).chars))]⟩
    (s.readText p = .ok (Json.object fields).chars ∧
      Json.read (String.ofList (Json.object fields).chars) = .ok (.object fields) ∧
      Sizes fields 12 12 ∧ Json.lookup "agents" fields = some (.list [bot, nova])) ∧
    ((∃ f, load s (some p) = .ok f ∧ List.Forall₂ Describes [bot, nova] f.agents ∧ (keysOf f.agents).Nodup) ∨
      (∃ e, load s (some p) = .error e ∧ Reported [bot, nova] e) ∨ load s (some p) = .error .tooLargeForReal) ∧
    (load s (some p) = .error .tooLargeForReal ↔ TooFar [bot, nova]) := by
  intro bot nova fields p s
  have hbot : Json.Legible 2 bot := .object (by decide) (by decide) (by simp [Json.Legible.text])
  have hnova : Json.Legible 2 nova := .object (by decide) (by decide) (by simp [Json.Legible.text, Json.Legible.list])
  have hlegible : Json.Legible 4 (.object fields) :=
    .object (by decide) (by decide) (by simp [fields, Json.Legible.list, hbot, hnova])
  have hholds : s.Holds p (Utf8.encode (Json.object fields).chars) := ⟨p, by decide +kernel, rfl⟩
  obtain ⟨hfile, hjson⟩ := written_read hholds hlegible (by decide)
  have hsizes : Sizes fields 12 12 := ⟨⟨[], rfl, rfl, rfl⟩, by decide, by decide⟩
  exact ⟨⟨hfile, hjson, hsizes, rfl⟩, roster_judged hfile hjson hsizes rfl⟩

/-- a column too large for a double is not reported -/
theorem roster_fails :
    let bot : Json := .object [("name", .text "Bot"), ("x", .int (10 ^ 309))]
    let fields : List (Text × Json) := [("agents", .list [bot])]
    let p : Path := ⟨"", ["world.json"]⟩
    let s : Store := ⟨[(p, .file (Utf8.encode (Json.object fields).chars))]⟩
    (s.readText p = .ok (Json.object fields).chars ∧
      Json.read (String.ofList (Json.object fields).chars) = .ok (.object fields) ∧
      Sizes fields 12 12 ∧ Json.lookup "agents" fields = some (.list [bot])) ∧
    load s (some p) = .error .tooLargeForReal ∧ ¬Reported [bot] .tooLargeForReal := by
  intro bot fields p s
  have hwhole : Json.Legible 1 (.int (10 ^ 309)) := .whole (by decide +kernel)
  have hbot : Json.Legible 2 bot :=
    .object (by decide) (by decide) (List.forall_mem_cons.2 ⟨.text rfl, List.forall_mem_singleton.2 hwhole⟩)
  have hlegible : Json.Legible 4 (.object fields) :=
    .object (by decide) (by decide) (by simp [fields, Json.Legible.list, hbot])
  have hholds : s.Holds p (Utf8.encode (Json.object fields).chars) := ⟨p, by decide +kernel, rfl⟩
  obtain ⟨hfile, hjson⟩ := written_read hholds hlegible (by decide)
  have hsizes : Sizes fields 12 12 := ⟨⟨[], rfl, rfl, rfl⟩, by decide, by decide⟩
  have hfar : Misdescribes bot .tooLargeForReal := .column rfl (.tooLarge (by decide +kernel))
  refine ⟨⟨hfile, hjson, hsizes, rfl⟩, ?_, nofun⟩
  rw [load_items hfile hjson hsizes rfl]
  exact bind_error.2 (.inl (mapM_misdescribes.2 ⟨[], bot, [], rfl, by simp, hfar⟩))

end WorldFile

end TileCrew
