/-
What a log tells, whatever else is in it. The lines of a log that is a text are read one by one (`readingOf_cons`): a line
tells of a snapshot if it is a tick record of the current version the body of which is one (`Tells`); every other line is
passed over, with one exception: an integer that has too many digits ends the reading.
- `malformed_skipped`: **of any text all snapshots are read that are told in it up to a line with such an integer, in their
  order and nothing else, and other lines put anywhere make no difference**;
- `numeral_fails`: a line of 4301 digits is such a line.
-/
import TileCrew.Proofs.Json.Rest
import TileCrew.Proofs.Replay.Roundtrip

namespace TileCrew.RunLog

open Json Text

/-! ## Lines -/

/-- the lines of a text, the last of which need not be ended -/
def linesIn (cs : List Char) : List (List Char) :=
  let pieces := splitFeeds (unifyNewlines cs)
  if pieces.getLast? = some [] then pieces.dropLast else pieces

theorem decodeBlocks_text {octets : List UInt8} {cs : List Char} (h : Utf8.decode octets = .ok cs) :
    decodeBlocks octets = (cs, none) := by
  unfold Utf8.decode at h
  split at h
  · cases h
  · next s hrun =>
    split at h
    · cases h
    · next hcut =>
      unfold decodeBlocks
      rw [hrun]
      simp only [hcut, Option.map_none, Except.ok.inj h]

theorem linesOf_text {octets : List UInt8} {cs : List Char} (h : Utf8.decode octets = .ok cs) :
    linesOf octets = (linesIn cs, none) := by
  unfold linesOf
  rw [decodeBlocks_text h]
  rfl

/-- the line is a tick record of the current version, the body of which is the snapshot -/
def Tells (l : List Char) (p : Snapshot) : Prop :=
  ∃ fields n body, Json.read (String.ofList l) = .ok (.object fields) ∧ lookup "type" fields = some (.text "tick") ∧
    lookup "schema_version" fields = some (.number n) ∧ n.equals 2 = true ∧
    lookup "body" fields = some (.object body) ∧ Snapshot.check (.object body) = .valid p

def told? (l : List Char) : Option Snapshot :=
  match bodyOfLine .tick l with
  | .ok (some body) => snapshotOf? body
  | _ => none

/-- how many digits the integer has at which reading the line ends, if it has too many -/
def tooLong? (l : List Char) : Option ℕ :=
  match Json.read (String.ofList l) with
  | .error (.tooLong n) => some n
  | _ => none

/-- reading the line ends at a list or an object that lies too deep -/
def isTooDeep (l : List Char) : Bool :=
  match Json.read (String.ofList l) with
  | .error (.tooDeep _) => true
  | _ => false

theorem snapshotOf_iff {body : Json} {p : Snapshot} : snapshotOf? body = some p ↔ Snapshot.check body = .valid p := by
  unfold snapshotOf?
  cases hcheck : Snapshot.check body with
  | valid s => simp
  | invalid e => simp

theorem isKind_iff {kind : RecordKind} {v? : Option Json} : isKind kind v? = true ↔ v? = some (.text kind.name) := by
  unfold isKind
  split
  · next t => simp
  · next h => exact iff_of_false (fun hc => by cases hc) fun hv => h kind.name hv

theorem isVersion_iff {v? : Option Json} :
    isVersion v? = true ↔ ∃ n, v? = some (.number n) ∧ n.equals version = true := by
  unfold isVersion
  split
  · next n => simp
  · next h => exact iff_of_false (fun hc => by cases hc) fun ⟨n, hv, _⟩ => h n hv

/-- a record has a body of a kind just if it is an object with that kind, the current version and an object as body -/
theorem bodyOfRecord_iff {kind : RecordKind} {v b : Json} :
    bodyOfRecord kind v = some b ↔
      ∃ fields, v = .object fields ∧ lookup "type" fields = some (.text kind.name) ∧
        (∃ n, lookup "schema_version" fields = some (.number n) ∧ n.equals version = true) ∧
        ∃ body, lookup "body" fields = some (.object body) ∧ b = .object body := by
  constructor
  · intro h
    unfold bodyOfRecord at h
    split at h
    · next fields =>
      split at h
      · next htag =>
        obtain ⟨hkind, hversion⟩ := Bool.and_eq_true_iff.1 htag
        refine ⟨fields, rfl, isKind_iff.1 hkind, isVersion_iff.1 hversion, ?_⟩
        split at h
        · next body hbody => exact ⟨body, hbody, (Option.some.inj h).symm⟩
        · cases h
      · cases h
    · cases h
  · rintro ⟨fields, rfl, hkind, hversion, body, hbody, rfl⟩
    rw [bodyOfRecord, isKind_iff.2 hkind, isVersion_iff.2 hversion, hbody]
    rfl

theorem told_iff {l : List Char} {p : Snapshot} : told? l = some p ↔ Tells l p := by
  constructor
  · intro h
    unfold told? at h
    split at h
    · next b hbody =>
      unfold bodyOfLine at hbody
      split at hbody
      · next v hread =>
        obtain ⟨fields, rfl, hkind, ⟨n, hversion, hn⟩, body, hlookup, rfl⟩ := bodyOfRecord_iff.1 (Except.ok.inj hbody)
        exact ⟨fields, n, body, hread, hkind, hversion, hn, hlookup, snapshotOf_iff.1 h⟩
      · cases Except.ok.inj hbody
      · cases hbody
    · cases h
  · rintro ⟨fields, n, body, hread, hkind, hversion, hn, hlookup, hcheck⟩
    have hbody : bodyOfRecord .tick (.object fields) = some (.object body) :=
      bodyOfRecord_iff.2 ⟨fields, rfl, hkind, ⟨n, hversion, hn⟩, body, hlookup, rfl⟩
    rw [told?, bodyOfLine, hread]
    simp only [hbody]
    exact snapshotOf_iff.2 hcheck

/-! ## Logs -/

def readingOf (ls : List (List Char)) : Reading Snapshot :=
  let r := bodiesOfLines .tick none ls
  ⟨r.items.filterMap snapshotOf?, r.fault⟩

theorem readingOf_cons {l : List Char} (ls : List (List Char)) (hlong : tooLong? l = none) (hdeep : isTooDeep l = false) :
    readingOf (l :: ls) = ⟨(told? l).toList ++ (readingOf ls).items, (readingOf ls).fault⟩ := by
  have hbody : ∃ b?, bodyOfLine .tick l = .ok b? := by
    unfold bodyOfLine
    unfold tooLong? at hlong
    unfold isTooDeep at hdeep
    cases hread : Json.read (String.ofList l) with
    | ok v => exact ⟨_, rfl⟩
    | error e =>
      rw [hread] at hlong hdeep
      cases e with
      | malformed c line column position => exact ⟨_, rfl⟩
      | tooLong n => cases hlong
      | tooDeep c => cases hdeep
  obtain ⟨b?, hbody⟩ := hbody
  rw [readingOf, bodiesOfLines, hbody, told?, hbody]
  cases b? with
  | none => rfl
  | some b =>
    dsimp only
    rw [List.filterMap_append]
    cases hb : snapshotOf? b with
    | none => simp [hb, readingOf]
    | some p => simp [hb, readingOf]

theorem readingOf_long {l : List Char} (ls : List (List Char)) {n : ℕ} (hlong : tooLong? l = some n) :
    readingOf (l :: ls) = ⟨[], some (.longNumeral n)⟩ := by
  unfold tooLong? at hlong
  split at hlong
  · next m hread =>
    obtain rfl : m = n := Option.some.inj hlong
    rw [readingOf, bodiesOfLines, bodyOfLine, hread]
    rfl
  · cases hlong

/-- **Read of lines is what they tell up to the first that has an integer with too many digits.** -/
theorem readingOf_eq {ls : List (List Char)} (hdeep : ∀ l ∈ ls, isTooDeep l = false) :
    readingOf ls =
      ⟨(ls.takeWhile fun l => (tooLong? l).isNone).filterMap told?, (ls.findSome? tooLong?).map .longNumeral⟩ := by
  induction ls with
  | nil => rfl
  | cons l ls ih =>
    obtain ⟨hl, hls⟩ := List.forall_mem_cons.1 hdeep
    cases hlong : tooLong? l with
    | none =>
      rw [readingOf_cons ls hlong hl, ih hls]
      cases htold : told? l with
      | none => simp [hlong, htold]
      | some p => simp [hlong, htold]
    | some n =>
      rw [readingOf_long ls hlong]
      simp [hlong]

theorem tooLong_run {l : List Char} {n : ℕ} (h : tooLong? l = some n) : LongRun n l := by
  unfold tooLong? at h
  split at h
  · next m hread =>
    obtain rfl : m = n := Option.some.inj h
    have hrun := read_tooLong hread
    rwa [String.toList_ofList] at hrun
  · cases h

/-- lines put anywhere among others -/
inductive Inserted (extra : List Char → Prop) : List (List Char) → List (List Char) → Prop where
  | nil : Inserted extra [] []
  | keep {ls ls' : List (List Char)} (l : List Char) : Inserted extra ls ls' → Inserted extra (l :: ls) (l :: ls')
  | add {l : List Char} {ls ls' : List (List Char)} : extra l → Inserted extra ls ls' → Inserted extra ls (l :: ls')

/-- a line that tells nothing and does not end the reading -/
def Silent (l : List Char) : Prop := told? l = none ∧ tooLong? l = none ∧ isTooDeep l = false

/-- **Lines that tell nothing make no difference**, wherever they are put. -/
theorem readingOf_inserted {ls ls' : List (List Char)} (h : Inserted Silent ls ls')
    (hdeep : ∀ l ∈ ls, isTooDeep l = false) : readingOf ls' = readingOf ls := by
  induction h with
  | nil => rfl
  | keep l hins ih =>
    obtain ⟨hl, hls⟩ := List.forall_mem_cons.1 hdeep
    cases hlong : tooLong? l with
    | none => rw [readingOf_cons _ hlong hl, readingOf_cons _ hlong hl, ih hls]
    | some n => rw [readingOf_long _ hlong, readingOf_long _ hlong]
  | add hextra hins ih =>
    obtain ⟨htold, hlong, hl⟩ := hextra
    rw [readingOf_cons _ hlong hl, htold, ih hdeep]
    rfl

section

variable {s : Store} {folder : Path} {octets : List UInt8} {cs : List Char}

theorem snapshots_text (hholds : s.Holds (pathIn folder) octets) (htext : Utf8.decode octets = .ok cs) :
    snapshots folder s = readingOf (linesIn cs) := by
  rw [snapshots, bodies, hholds.read]
  simp only [bodiesOf, linesOf_text htext, Option.map_none]
  rfl

/-- **What is malformed is skipped.** Let the log of a folder be a text, in no line of which a list or an object lies too
deep. Then the snapshots read from it are, in the order of the lines, those that the lines tell (`Tells`), up to the first
line with an integer of too many digits; this is the fault in which the reading ends, and the only one. Where no line has
such a run of digits (`LongRun`) there is none, and all is read. Lines that tell nothing, put anywhere in the log, make no
difference. -/
theorem malformed_skipped (hholds : s.Holds (pathIn folder) octets) (htext : Utf8.decode octets = .ok cs)
    (hdeep : ∀ l ∈ linesIn cs, isTooDeep l = false) :
    (∀ l p, told? l = some p ↔ Tells l p) ∧ (∀ l n, tooLong? l = some n → LongRun n l) ∧
      snapshots folder s =
        ⟨((linesIn cs).takeWhile fun l => (tooLong? l).isNone).filterMap told?,
          ((linesIn cs).findSome? tooLong?).map .longNumeral⟩ ∧
      ((∀ l ∈ linesIn cs, tooLong? l = none) → snapshots folder s = ⟨(linesIn cs).filterMap told?, none⟩) ∧
      ∀ (s' : Store) (folder' : Path) (octets' : List UInt8) (cs' : List Char), s'.Holds (pathIn folder') octets' →
        Utf8.decode octets' = .ok cs' → Inserted Silent (linesIn cs) (linesIn cs') →
        snapshots folder' s' = snapshots folder s := by
  have hread := (snapshots_text hholds htext).trans (readingOf_eq hdeep)
  refine ⟨fun l p => told_iff, fun l n => tooLong_run, hread, fun hshort => ?_, ?_⟩
  · have hall : (linesIn cs).takeWhile (fun l => (tooLong? l).isNone) = linesIn cs :=
      List.takeWhile_eq_self_iff.2 fun l hl => Option.isNone_iff_eq_none.2 (hshort l hl)
    rw [hread, hall, List.findSome?_eq_none_iff.2 hshort]
    rfl
  · intro s' folder' octets' cs' hholds' htext' hins
    rw [snapshots_text hholds' htext', snapshots_text hholds htext, readingOf_inserted hins hdeep]

end

/-- a log with a line that is no JSON, one that is no record, and a tick record that is not ended -/
theorem malformed_skipped_garbage :
    let folder : Path := ⟨"", ["runs"]⟩
    let cs := textOf ["\x7b".toList, "[1, 2]".toList] (tickRecord ⟨1, {}⟩).chars
    let s : Store := ⟨[(folder, .folder), (pathIn folder, .file (Utf8.encode cs))]⟩
    (s.Holds (pathIn folder) (Utf8.encode cs) ∧ Utf8.decode (Utf8.encode cs) = .ok cs ∧
      ∀ l ∈ linesIn cs, isTooDeep l = false) ∧
    (∀ l p, told? l = some p ↔ Tells l p) ∧ (∀ l n, tooLong? l = some n → LongRun n l) ∧
      snapshots folder s =
        ⟨((linesIn cs).takeWhile fun l => (tooLong? l).isNone).filterMap told?,
          ((linesIn cs).findSome? tooLong?).map .longNumeral⟩ ∧
      ((∀ l ∈ linesIn cs, tooLong? l = none) → snapshots folder s = ⟨(linesIn cs).filterMap told?, none⟩) ∧
      ∀ (s' : Store) (folder' : Path) (octets' : List UInt8) (cs' : List Char), s'.Holds (pathIn folder') octets' →
        Utf8.decode octets' = .ok cs' → Inserted Silent (linesIn cs) (linesIn cs') →
        snapshots folder' s' = snapshots folder s := by
  intro folder cs s
  have hplace : s.locate (pathIn folder) = .ok (pathIn folder) := by decide +kernel
  have hholds : s.Holds (pathIn folder) (Utf8.encode cs) := ⟨pathIn folder, hplace, rfl⟩
  have hdeep : ∀ l ∈ linesIn cs, isTooDeep l = false := by
    have hall : ((linesIn cs).all fun l => !isTooDeep l) = true := by decide +kernel
    simpa using hall
  exact ⟨⟨hholds, Utf8.decode_encode cs, hdeep⟩, malformed_skipped hholds (Utf8.decode_encode cs) hdeep⟩

theorem read_digits {ds : List Char} (hds : IsWhole ds) (hlong : digitLimit < ds.length) :
    Json.read (String.ofList ds) = .error (.tooLong ds.length) := by
  have hnone : AreDigits [] := List.forall_mem_nil _
  have hnumber : readNumber ds = .error (.tooLong ds.length) := by
    have hnil : Stops goesOn [] := stops_nil goesOn
    have h := readNumber_eq false none hds hnone hnil
    have halone : signChars false ++ (ds ++ (pointChars [] ++ (exponentText none ++ []))) = ds := by
      simp [signChars, pointChars, exponentText]
    rw [halone] at h
    exact h.trans ((if_pos rfl).trans (if_pos hlong))
  have hscalar : readScalar ds = .error (.tooLong ds.length) := by
    have h := readScalar_numeral false [] hds
    rw [signChars, if_neg Bool.false_ne_true, List.nil_append, List.append_nil] at h
    rw [h, hnumber]
  obtain ⟨d, rest, rfl⟩ := List.exists_cons_of_ne_nil hds.ne_nil
  have hdigit : isAsciiDigit d = true := hds.1 d List.mem_cons_self
  have hstart : isScalarStart d = true := by rw [isScalarStart, hdigit, Bool.true_or]
  have hany : isStart d = true := by rw [isStart, hstart, Bool.true_or]
  have hgap : skipGap (d :: rest) = d :: rest := List.dropWhile_cons_of_neg (by rw [isStart_gap hany]; decide)
  have hchars : readChars (d :: rest) = .error (.tooLong (d :: rest).length) := by
    unfold readChars
    split
    · next heq => exact absurd (List.cons.inj heq).1 (isStart_ne hany rfl)
    · rw [hgap, readValue_scalar hstart, hscalar]
  unfold Json.read
  rw [String.toList_ofList, hchars]

theorem linesIn_textOf {ls : List (List Char)} (h : ∀ l ∈ ls, Visible l) : linesIn (textOf ls []) = ls := by
  have hlines := (linesOf_text (Utf8.decode_encode (textOf ls []))).symm.trans (linesOf_open h .nil)
  rw [if_pos rfl] at hlines
  exact (Prod.mk.inj hlines).1

theorem tickRecord_told {p : Snapshot} (hp : p.toJson.isPrintable = true) : told? (tickRecord p).chars = some p := by
  rw [told?, bodyOfLine_chars (tickRecord_sound hp)]
  exact snapshotOf_iff.2 (Snapshot.restores p)

/-- **A line of too many digits is not skipped**: the tick record behind it is not read. -/
theorem numeral_fails :
    let folder : Path := ⟨"", ["runs"]⟩
    let nines := List.replicate 4301 '9'
    let seen : Snapshot := ⟨1, {}⟩
    let cs := textOf [nines, (tickRecord seen).chars] []
    let s : Store := ⟨[(folder, .folder), (pathIn folder, .file (Utf8.encode cs))]⟩
    s.Holds (pathIn folder) (Utf8.encode cs) ∧ Utf8.decode (Utf8.encode cs) = .ok cs ∧
      linesIn cs = [nines, (tickRecord seen).chars] ∧ (∀ l ∈ linesIn cs, isTooDeep l = false) ∧
      (∀ p, ¬Tells nines p) ∧ Tells (tickRecord seen).chars seen ∧
      snapshots folder s = ⟨[], some (.longNumeral 4301)⟩ := by
  intro folder nines seen cs s
  have hplace : s.locate (pathIn folder) = .ok (pathIn folder) := by decide +kernel
  have hholds : s.Holds (pathIn folder) (Utf8.encode cs) := ⟨pathIn folder, hplace, rfl⟩
  have hnine : ∀ c ∈ nines, c = '9' := fun c hc => List.eq_of_mem_replicate hc
  have hlength : nines.length = 4301 := List.length_replicate
  have hwhole : IsWhole nines :=
    ⟨fun c hc => by rw [hnine c hc]; rfl, .inr ⟨List.cons_ne_nil _ _, stops_cons.2 rfl⟩⟩
  have hread : Json.read (String.ofList nines) = .error (.tooLong 4301) := by
    have h := read_digits hwhole (by rw [hlength]; decide)
    rwa [hlength] at h
  have hvisible : ∀ l ∈ [nines, (tickRecord seen).chars], Visible l := by
    simp only [List.forall_mem_cons]
    exact ⟨fun c hc => by rw [hnine c hc]; decide, chars_visible _, List.forall_mem_nil _⟩
  have hlines : linesIn cs = [nines, (tickRecord seen).chars] := linesIn_textOf hvisible
  have htold : told? (tickRecord seen).chars = some seen := tickRecord_told (by decide +kernel)
  have hlong : tooLong? nines = some 4301 := by rw [tooLong?, hread]
  refine ⟨hholds, Utf8.decode_encode cs, hlines, ?_, ?_, told_iff.1 htold, ?_⟩
  · rw [hlines]
    simp only [List.forall_mem_cons]
    exact ⟨by rw [isTooDeep, hread], by decide +kernel, List.forall_mem_nil _⟩
  · rintro p ⟨fields, n, body, hok, -⟩
    rw [hread] at hok
    cases hok
  · rw [snapshots_text hholds (Utf8.decode_encode cs), hlines, readingOf_long _ hlong]

end TileCrew.RunLog
