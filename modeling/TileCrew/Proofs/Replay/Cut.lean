/-
Logs that are cut short. The octets of a log end anywhere: what is left are whole records, and the start of a further one
(`take_octets`). Since no part of a record is a JSON text (`read_torn`), the start of a record says nothing; but octets
that end within a character are no text, and this is a fault.
- `bodiesOf_remains`: the bodies in what is left are those of the whole records; there is no fault if it is a text;
- `cut_replays`: **of a log that is cut behind its header the header is read, and all snapshots whose records are complete;
  the reading ends in a fault just if the cut is within a character.**
-/
import TileCrew.Proofs.Json.Torn
import TileCrew.Proofs.Replay.Roundtrip

namespace TileCrew.RunLog

open Json Text

/-! ## What is left -/

/-- what is left of the octets of records: whole records, and the start of the text of a further one, or a further one
that lacks nothing but its line feed -/
inductive Remains (rs : List Record) : List UInt8 → List Record → Prop where
  | torn {whole : List Record} {start : List Char} {part : List UInt8} :
      (start = [] ∨ ∃ r ∈ rs, ∃ t, t ≠ [] ∧ r.chars = start ++ t) → (part = [] ∨ Utf8.Torn part) →
      Remains rs (octetsOf whole ++ (Utf8.encode start ++ part)) whole
  | unfed {whole : List Record} {r : Record} : r ∈ rs →
      Remains rs (octetsOf whole ++ Utf8.encode r.chars) (whole ++ [r])

variable {r : Record} {rs whole : List Record} {octets : List UInt8}

theorem octetsOf_cons (r : Record) (rs : List Record) : octetsOf (r :: rs) = r.line ++ octetsOf rs := rfl

theorem Remains.cons (h : Remains rs octets whole) (r : Record) : Remains (r :: rs) (r.line ++ octets) (r :: whole) := by
  cases h with
  | torn hstart hpart =>
    rw [← List.append_assoc, ← octetsOf_cons]
    refine .torn (hstart.imp id ?_) hpart
    rintro ⟨r', hr', hcut⟩
    exact ⟨r', List.mem_cons_of_mem r hr', hcut⟩
  | unfed hr' =>
    rw [← List.append_assoc, ← octetsOf_cons]
    exact .unfed (List.mem_cons_of_mem r hr')

theorem line_eq (r : Record) : r.line = Utf8.encode r.chars ++ Utf8.encode ['\n'] := Utf8.encode_append _ _

theorem line_length (r : Record) : r.line.length = (Utf8.encode r.chars).length + 1 := by
  rw [line_eq, List.length_append]
  rfl

theorem Remains.empty (rs : List Record) : Remains rs [] [] := by
  have h : Remains rs (octetsOf [] ++ (Utf8.encode [] ++ [])) [] := .torn (.inl rfl) (.inl rfl)
  exact h

theorem remains_start (hr : r ∈ rs) {k : ℕ} (hk : k < (Utf8.encode r.chars).length) :
    Remains rs ((Utf8.encode r.chars).take k) [] := by
  obtain ⟨start, t, part, hchars, htake, hpart⟩ := Utf8.take_encode r.chars k
  have hstart : t ≠ [] := by
    rintro rfl
    have hlen := congrArg List.length htake
    rw [List.append_nil] at hchars
    rw [hchars] at hlen hk
    rw [List.length_take, List.length_append] at hlen
    omega
  have h : Remains rs (octetsOf [] ++ (Utf8.encode start ++ part)) [] := .torn (.inr ⟨r, hr, t, hstart, hchars⟩) hpart
  rw [htake]
  exact h

theorem octetsOf_take_one (r : Record) (rs : List Record) : octetsOf ((r :: rs).take 1) = r.line := by
  rw [List.take_succ_cons, List.take_zero, octetsOf_cons]
  exact List.append_nil _

/-- **A log that is cut anywhere** is left with the records that are complete before the cut, a line feed at their end
aside, and with no further one. -/
theorem take_octets (rs : List Record) (k : ℕ) :
    ∃ n ≤ rs.length, (octetsOf (rs.take n)).length ≤ k + 1 ∧
      (n < rs.length → k + 1 < (octetsOf (rs.take (n + 1))).length) ∧ Remains rs ((octetsOf rs).take k) (rs.take n) := by
  induction rs generalizing k with
  | nil =>
    have hnil : (octetsOf []).take k = [] := List.take_nil
    refine ⟨0, Nat.le_refl 0, Nat.zero_le _, fun h => absurd h (Nat.lt_irrefl 0), ?_⟩
    rw [hnil]
    exact .empty []
  | cons r rs ih =>
    have hfeed := line_length r
    rcases Nat.lt_or_ge k r.line.length with hk | hk
    · rcases Nat.lt_or_ge (k + 1) r.line.length with hk' | hk'
      · -- within the first record
        refine ⟨0, Nat.zero_le _, Nat.zero_le _, fun _ => by rw [octetsOf_take_one]; exact hk', ?_⟩
        rw [octetsOf_cons, line_eq, List.append_assoc, List.take_append_of_le_length (by omega)]
        exact remains_start List.mem_cons_self (by omega)
      · -- before its line feed
        refine ⟨1, Nat.succ_le_succ (Nat.zero_le _), by rw [octetsOf_take_one]; omega, fun hmore => ?_, ?_⟩
        · cases rs with
          | nil => exact absurd hmore (Nat.lt_irrefl 1)
          | cons r' rs =>
            have hfeed' := line_length r'
            rw [List.take_succ_cons, octetsOf_cons, List.length_append, octetsOf_take_one]
            omega
        · have hexact : k = (Utf8.encode r.chars).length := by omega
          have h : Remains (r :: rs) (octetsOf [] ++ Utf8.encode r.chars) ([] ++ [r]) := .unfed List.mem_cons_self
          rw [octetsOf_cons, line_eq, List.append_assoc, hexact, List.take_left, List.take_succ_cons, List.take_zero]
          exact h
    · obtain ⟨n, hn, hsize, hnext, hremains⟩ := ih (k - r.line.length)
      refine ⟨n + 1, Nat.succ_le_succ hn, ?_, fun hmore => ?_, ?_⟩
      · rw [List.take_succ_cons, octetsOf_cons, List.length_append]
        omega
      · have hsize' := hnext (Nat.lt_of_succ_lt_succ hmore)
        rw [List.take_succ_cons, octetsOf_cons, List.length_append]
        omega
      · rw [octetsOf_cons, List.take_append, List.take_of_length_le hk, List.take_succ_cons]
        exact hremains.cons r

/-! ## Reading what is left -/

theorem decodeBlocks_torn (cs : List Char) {part : List UInt8} (h : Utf8.Torn part) :
    ∃ m, decodeBlocks (Utf8.encode cs ++ part) = (cs, some m) ∧ m.reason = .cutOff := by
  obtain ⟨c, t, hc, hpart, ht⟩ := h
  obtain ⟨j, p, hrun⟩ := Utf8.run_torn (cs.reverse ++ []) (0 + (Utf8.encode cs).length) hc hpart ht
  refine ⟨inBlock ⟨cs.reverse ++ [], j, some p⟩ ⟨j - p.seen.length, j, p.seen.getLastD 0, .cutOff⟩, ?_, rfl⟩
  unfold decodeBlocks Utf8.State.empty
  rw [Utf8.run_append (Utf8.run_encode [] 0 cs), hrun]
  simp only [Utf8.State.cutOff?, List.append_nil, List.reverse_reverse, Option.map_some]

theorem torn_noText (cs : List Char) {part : List UInt8} (h : Utf8.Torn part) (ds : List Char) :
    Utf8.encode cs ++ part ≠ Utf8.encode ds := by
  intro heq
  obtain ⟨m, hdecode, -⟩ := decodeBlocks_torn cs h
  rw [heq, decodeBlocks_encode] at hdecode
  cases (Prod.mk.inj hdecode).2

/-- of a text that ends within a character the lines are read that are ended -/
theorem linesOf_torn {ls : List (List Char)} (h : ∀ l ∈ ls, Visible l) {last : List Char} (hlast : Visible last)
    {part : List UInt8} (hpart : Utf8.Torn part) :
    ∃ m, linesOf (Utf8.encode (textOf ls last) ++ part) = (ls, some m) ∧ m.reason = .cutOff := by
  obtain ⟨m, hdecode, hreason⟩ := decodeBlocks_torn (textOf ls last) hpart
  have hreturn : (textOf ls last).getLast? ≠ some '\r' :=
    fun hc => textOf_noReturn h hlast (List.mem_of_getLast? hc)
  refine ⟨m, ?_, hreason⟩
  unfold linesOf
  simp only [hdecode, dropOpenReturn, if_neg hreturn, pieces_textOf h hlast, List.dropLast_concat]

theorem octetsOf_text (whole : List Record) (start : List Char) :
    octetsOf whole ++ Utf8.encode start = Utf8.encode (textOf (whole.map Record.chars) start) := by
  rw [octetsOf_eq, textOf, Utf8.encode_append]

theorem bodyOfLine_start {start t : List Char} (h : r.Sound) (ht : t ≠ []) (hstart : r.chars = start ++ t)
    (kind : RecordKind) : bodyOfLine kind start = .ok none := by
  obtain ⟨k, hk, hlegible⟩ := h.legible
  obtain ⟨c, l, column, position, hread⟩ := read_torn hlegible hk hstart ht
  rw [bodyOfLine, hread]

theorem record_visible (r : Record) : Visible r.chars := chars_visible _

theorem records_visible (rs : List Record) : ∀ l ∈ rs.map Record.chars, Visible l := by
  intro l hl
  obtain ⟨r, -, rfl⟩ := List.mem_map.1 hl
  exact record_visible r

theorem start_visible {start : List Char} (h : start = [] ∨ ∃ r ∈ rs, ∃ t, t ≠ [] ∧ r.chars = start ++ t) :
    Visible start := by
  rcases h with rfl | ⟨r, -, t, -, hchars⟩
  · exact .nil
  · exact fun c hc => record_visible r c (by rw [hchars]; exact List.mem_append_left t hc)

/-- whole records and a line that is not ended are read as lines -/
theorem bodiesOf_open (whole : List Record) {last : List Char} (hlast : Visible last) (kind : RecordKind) :
    bodiesOf kind (octetsOf whole ++ Utf8.encode last) =
      bodiesOfLines kind none (if last = [] then whole.map Record.chars else whole.map Record.chars ++ [last]) := by
  rw [octetsOf_text, bodiesOf, linesOf_open (records_visible whole) hlast]
  rfl

theorem bodiesOf_start {start : List Char} (hrs : ∀ r ∈ rs, r.Sound) (hwhole : ∀ r ∈ whole, r.Sound)
    (h : start = [] ∨ ∃ r ∈ rs, ∃ t, t ≠ [] ∧ r.chars = start ++ t) (kind : RecordKind) :
    bodiesOf kind (octetsOf whole ++ Utf8.encode start) = ⟨(whole.filter (·.kind = kind)).map Record.body, none⟩ := by
  rw [bodiesOf_open whole (start_visible h)]
  split
  · exact bodiesOfLines_chars hwhole kind none
  · next hne =>
    obtain ⟨r, hr, t, ht, hchars⟩ := h.resolve_left hne
    have hlast : bodiesOfLines kind none [start] = ⟨[], none⟩ := by
      simp only [bodiesOfLines, bodyOfLine_start (hrs r hr) ht hchars]
      rfl
    rw [bodiesOfLines_append hwhole, hlast, List.append_nil]

/-- a record is read without its line feed -/
theorem bodiesOf_unfed (hwhole : ∀ e ∈ whole ++ [r], e.Sound) (kind : RecordKind) :
    bodiesOf kind (octetsOf whole ++ Utf8.encode r.chars) =
      ⟨((whole ++ [r]).filter (·.kind = kind)).map Record.body, none⟩ := by
  have hne : r.chars ≠ [] := by
    obtain ⟨c, cs, hchars, -⟩ := chars_start (recordOf r.kind r.body)
    exact fun hnil => List.cons_ne_nil c cs (hchars.symm.trans hnil)
  have hlines : whole.map Record.chars ++ [r.chars] = (whole ++ [r]).map Record.chars := by
    rw [List.map_append]
    rfl
  rw [bodiesOf_open whole (record_visible r), if_neg hne, hlines]
  exact bodiesOfLines_chars hwhole kind none

/-- behind whole records a further one that breaks off within a character is a fault -/
theorem bodiesOf_torn {start : List Char} {part : List UInt8} (hwhole : ∀ r ∈ whole, r.Sound) (hstart : Visible start)
    (hpart : Utf8.Torn part) (kind : RecordKind) :
    ∃ m, bodiesOf kind (octetsOf whole ++ (Utf8.encode start ++ part)) =
      ⟨(whole.filter (·.kind = kind)).map Record.body, some (.octets m)⟩ ∧ m.reason = .cutOff := by
  obtain ⟨m, hlines, hreason⟩ := linesOf_torn (records_visible whole) hstart hpart
  refine ⟨m, ?_, hreason⟩
  rw [← List.append_assoc, octetsOf_text, bodiesOf, hlines]
  exact bodiesOfLines_chars hwhole kind _

/-- how the reading of octets ends that were cut off: without fault if they are a text, else with a character that breaks
off -/
def Ends (octets : List UInt8) (fault : Option Fault) : Prop :=
  (fault = none ↔ ∃ cs, octets = Utf8.encode cs) ∧ ∀ e, fault = some e → ∃ m, e = .octets m ∧ m.reason = .cutOff

theorem ends_text (cs : List Char) : Ends (Utf8.encode cs) none := ⟨iff_of_true rfl ⟨cs, rfl⟩, fun _ h => by cases h⟩

theorem ends_torn (cs : List Char) {part : List UInt8} (hpart : Utf8.Torn part) {m : Utf8.Malformed}
    (hm : m.reason = .cutOff) : Ends (Utf8.encode cs ++ part) (some (.octets m)) :=
  ⟨iff_of_false (fun h => by cases h) fun ⟨ds, hds⟩ => torn_noText cs hpart ds hds,
    fun _ h => ⟨m, (Option.some.inj h).symm, hm⟩⟩

/-- **Of what is left of records, the bodies of the whole ones are read.** -/
theorem bodiesOf_remains (h : Remains rs octets whole) (hrs : ∀ r ∈ rs, r.Sound) (hwhole : ∀ r ∈ whole, r.Sound)
    (kind : RecordKind) :
    ∃ fault, bodiesOf kind octets = ⟨(whole.filter (·.kind = kind)).map Record.body, fault⟩ ∧ Ends octets fault := by
  cases h with
  | @torn _ start part hstart hpart =>
    rcases hpart with rfl | hpart
    · rw [List.append_nil]
      refine ⟨none, bodiesOf_start hrs hwhole hstart kind, ?_⟩
      rw [octetsOf_text]
      exact ends_text _
    · obtain ⟨m, hbodies, hm⟩ := bodiesOf_torn hwhole (start_visible hstart) hpart kind
      refine ⟨_, hbodies, ?_⟩
      rw [← List.append_assoc, octetsOf_text]
      exact ends_torn _ hpart hm
  | unfed hr =>
    refine ⟨none, bodiesOf_unfed hwhole kind, ?_⟩
    rw [octetsOf_text]
    exact ends_text _

/-! ## Logs of runs -/

theorem take_recordsOf (h : RunHeader) (snapshots : List Snapshot) (n : ℕ) :
    (recordsOf h snapshots).take (n + 1) = recordsOf h (snapshots.take n) := by
  rw [recordsOf, recordsOf, List.take_succ_cons, List.map_take]

variable {s s' : Store} {folder : Path} {h : RunHeader} {r : Run} {k : ℕ}

/-- what is read of the log of a run that is cut behind its header -/
theorem cut_recorded {snapshots : List Snapshot} (hh : h.toJson.isPrintable = true)
    (hs : ∀ p ∈ snapshots, p.toJson.isPrintable = true) (hk : (headerRecord h).line.length ≤ k + 1)
    (hcut : s'.Holds (pathIn folder) ((octetsOf (recordsOf h snapshots)).take k)) :
    header folder s' = .ok h ∧
      ∃ n ≤ snapshots.length, ∃ fault, RunLog.snapshots folder s' = ⟨snapshots.take n, fault⟩ ∧
        Ends ((octetsOf (recordsOf h snapshots)).take k) fault ∧
        (octetsOf (recordsOf h (snapshots.take n))).length ≤ k + 1 ∧
        (n < snapshots.length → k + 1 < (octetsOf (recordsOf h (snapshots.take (n + 1)))).length) := by
  obtain ⟨n, hn, hsize, hnext, hremains⟩ := take_octets (recordsOf h snapshots) k
  have hlength : (recordsOf h snapshots).length = snapshots.length + 1 := by
    rw [recordsOf, List.length_cons, List.length_map]
  cases n with
  | zero =>
    have hheader := hnext (by omega)
    rw [recordsOf, octetsOf_take_one] at hheader
    omega
  | succ n =>
    rw [take_recordsOf] at hsize hnext hremains
    have hwhole : ∀ r ∈ recordsOf h (snapshots.take n), r.Sound :=
      recordsOf_sound hh fun p hp => hs p (List.mem_of_mem_take hp)
    have hbodies (kind : RecordKind) := bodiesOf_remains hremains (recordsOf_sound hh hs) hwhole kind
    have hread (kind : RecordKind) : bodies kind (pathIn folder) s' =
        bodiesOf kind ((octetsOf (recordsOf h snapshots)).take k) := by rw [bodies, hcut.read]
    obtain ⟨_, hheaders, -⟩ := hbodies .header
    obtain ⟨fault, hticks, hends⟩ := hbodies .tick
    rw [← hread, recordsOf_headers] at hheaders
    rw [← hread, recordsOf_ticks] at hticks
    exact ⟨header_first hcut (congrArg Reading.items hheaders),
      n, by omega, fault, snapshots_restored hticks, hends, hsize, fun hmore => hnext (by omega)⟩

/-- **A log that is cut short still replays, up to the cut.** A run is recorded in a folder that has no log, and of its log
only the first octets are kept, the text of the header among them. Then the header is read, and of the snapshots that were
written the first `n`: those the records of which are complete before the cut, a line feed at the end aside. The reading
ends without fault just if what is left is a text; if the cut is within a character, it ends with the fault that the octets
break off there. -/
theorem cut_replays (hfolder : s.isFolder folder = true) (habsent : s.isPresent (pathIn folder) = .ok false)
    (hh : h.toJson.isPrintable = true) (hk : (headerRecord h).line.length ≤ k + 1)
    (hcut : s'.Holds (pathIn folder) ((octetsOf (recordsOf h (written r.snapshots))).take k)) :
    let octets := octetsOf (recordsOf h (written r.snapshots))
    (record folder h r s).2.Holds (pathIn folder) octets ∧ header folder s' = .ok h ∧
      (∃ n ≤ (written r.snapshots).length, (snapshots folder s').items = (written r.snapshots).take n ∧
        (octetsOf (recordsOf h ((written r.snapshots).take n))).length ≤ k + 1 ∧
        (n < (written r.snapshots).length →
          k + 1 < (octetsOf (recordsOf h ((written r.snapshots).take (n + 1)))).length)) ∧
      ((snapshots folder s').fault = none ↔ ∃ cs, octets.take k = Utf8.encode cs) ∧
      ∀ e, (snapshots folder s').fault = some e → ∃ m, e = .octets m ∧ m.reason = .cutOff := by
  obtain ⟨opened, hopen, hempty⟩ := openLog_holds hfolder habsent
  have hholds := record_appends (r := r) hopen hempty hh
  obtain ⟨hheader, n, hn, fault, hsnapshots, hends, hsize⟩ := cut_recorded hh written_printable hk hcut
  rw [hsnapshots]
  exact ⟨hholds, hheader, ⟨n, hn, rfl, hsize⟩, hends⟩

/-- a run of two ticks, cut in the record of the second -/
theorem cut_replays_second :
    let folder : Path := ⟨"", ["runs"]⟩
    let s : Store := ⟨[(folder, .folder)]⟩
    let h : RunHeader := { runId := "a", createdAt := "", dt := 0.25, mapWidth := 2, mapHeight := 1 }
    let first : Snapshot := ⟨1, { messages := [⟨"caf\u00e9", 0⟩] }⟩
    let r : Run := ⟨[first, ⟨2, {}⟩], none, .bare ⟨#[], 0⟩ 0⟩
    let octets := octetsOf (recordsOf h (written r.snapshots))
    let k := (octetsOf (recordsOf h [first])).length + 5
    let s' := s.put (pathIn folder) (.file (octets.take k))
    (s.isFolder folder = true ∧ s.isPresent (pathIn folder) = .ok false ∧ h.toJson.isPrintable = true ∧
      (headerRecord h).line.length ≤ k + 1 ∧ s'.Holds (pathIn folder) (octets.take k)) ∧
    (record folder h r s).2.Holds (pathIn folder) octets ∧ header folder s' = .ok h ∧
      (∃ n ≤ (written r.snapshots).length, (snapshots folder s').items = (written r.snapshots).take n ∧
        (octetsOf (recordsOf h ((written r.snapshots).take n))).length ≤ k + 1 ∧
        (n < (written r.snapshots).length →
          k + 1 < (octetsOf (recordsOf h ((written r.snapshots).take (n + 1)))).length)) ∧
      ((snapshots folder s').fault = none ↔ ∃ cs, octets.take k = Utf8.encode cs) ∧
      ∀ e, (snapshots folder s').fault = some e → ∃ m, e = .octets m ∧ m.reason = .cutOff := by
  intro folder s h first r octets k s'
  have hfolder : s.isFolder folder = true := by decide +kernel
  have habsent : s.isPresent (pathIn folder) = .ok false := by decide +kernel
  have hh : h.toJson.isPrintable = true := by decide +kernel
  have hk : (headerRecord h).line.length ≤ k + 1 := by
    show (headerRecord h).line.length ≤ (octetsOf (recordsOf h [first])).length + 5 + 1
    rw [octetsOf_recordsOf, List.length_append]
    omega
  have hplace : s.locate (pathIn folder) = .ok (pathIn folder) := by decide +kernel
  have hcut : s'.Holds (pathIn folder) (octets.take k) :=
    Store.put_holds hplace (by decide +kernel) (octets.take k)
  exact ⟨⟨hfolder, habsent, hh, hk, hcut⟩, cut_replays hfolder habsent hh hk hcut⟩

theorem take_within {e : Record} {start rest : List Char} {c : Char} {part t : List UInt8}
    (hchars : e.chars = start ++ c :: rest) (hc : String.utf8EncodeChar c = part ++ t) (before after : List UInt8) :
    (before ++ (e.line ++ after)).take (before.length + ((Utf8.encode start).length + part.length)) =
      before ++ (Utf8.encode start ++ part) := by
  have hsplit : Utf8.encode (c :: rest) = String.utf8EncodeChar c ++ Utf8.encode rest := List.flatMap_cons
  rw [line_eq, hchars, Utf8.encode_append, hsplit, hc, List.take_length_add_append, List.append_assoc,
    List.append_assoc, List.take_length_add_append, List.append_assoc, List.append_assoc, List.take_left]

/-- **Within a character a cut is a fault**: of the text of a message the last letter takes two octets, and the log ends
with the first of them. -/
theorem cut_fails :
    let folder : Path := ⟨"", ["runs"]⟩
    let s : Store := ⟨[(folder, .folder)]⟩
    let h : RunHeader := { runId := "a", createdAt := "", dt := 0.25, mapWidth := 2, mapHeight := 1 }
    let r : Run := ⟨[⟨1, { messages := [⟨"caf\u00e9", 0⟩] }⟩], none, .bare ⟨#[], 0⟩ 0⟩
    let octets := octetsOf (recordsOf h r.snapshots)
    ∃ k, let s' := s.put (pathIn folder) (.file (octets.take k))
      (headerRecord h).line.length ≤ k ∧ (record folder h r s).2.Holds (pathIn folder) octets ∧
      s'.Holds (pathIn folder) (octets.take k) ∧
      ∃ m, (snapshots folder s').fault = some (.octets m) ∧ m.reason = .cutOff := by
  intro folder s h r octets
  let seen : Snapshot := ⟨1, { messages := [⟨"caf\u00e9", 0⟩] }⟩
  have hletter : '\u00e9' ∈ (tickRecord seen).chars := by
    simp [seen, tickRecord, Record.chars, recordOf, Snapshot.toJson, Scene.toJson, Message.toJson, chars_object,
      fieldChars_cons, moreFieldChars_cons, chars_list, itemChars_cons, chars_text, stringChars, escapedChar]
  obtain ⟨start, rest, hchars⟩ := List.append_of_mem hletter
  have hc : String.utf8EncodeChar '\u00e9' = [0xc3] ++ [0xa9] := rfl
  have hsplit : octets = (headerRecord h).line ++ ((tickRecord seen).line ++ []) := octetsOf_recordsOf h [seen]
  let k := (headerRecord h).line.length + ((Utf8.encode start).length + 1)
  have htake : octets.take k = (headerRecord h).line ++ (Utf8.encode start ++ [0xc3]) := by
    rw [hsplit]
    exact take_within hchars hc (headerRecord h).line []
  have hh : h.toJson.isPrintable = true := by decide +kernel
  have hs : ∀ p ∈ r.snapshots, p.toJson.isPrintable = true := by decide +kernel
  have hplace : s.locate (pathIn folder) = .ok (pathIn folder) := by decide +kernel
  have hcut : (s.put (pathIn folder) (.file (octets.take k))).Holds (pathIn folder) (octets.take k) :=
    Store.put_holds hplace (by decide +kernel) (octets.take k)
  refine ⟨k, Nat.le_add_right _ _, (record_holds (by decide +kernel) (by decide +kernel) hh hs).2, hcut, ?_⟩
  have hwhole : octetsOf [headerRecord h] = (headerRecord h).line := List.append_nil _
  rw [← hwhole] at htake
  have hvisible : Visible start :=
    fun c hc => record_visible (tickRecord seen) c (by rw [hchars]; exact List.mem_append_left _ hc)
  obtain ⟨m, hbodies, hm⟩ := bodiesOf_torn (List.forall_mem_singleton.2 (headerRecord_sound hh)) hvisible
    ⟨_, _, hc, by decide, by decide⟩ .tick
  have hread : bodies .tick (pathIn folder) (s.put (pathIn folder) (.file (octets.take k))) =
      ⟨[], some (.octets m)⟩ := by
    rw [bodies, hcut.read]
    show bodiesOf .tick (octets.take k) = _
    rw [htake, hbodies]
    rfl
  exact ⟨m, by rw [snapshots, hread], hm⟩

end TileCrew.RunLog
