/-
Logs as lines. The octets of a log are those of one line for each record; since a record is written on one line
(`Json.chars_visible`), the lines of the log are the texts of its records (`linesOf_octets`), each of which is read as that
record (`read_record`). Hence `bodiesOf_octets`: **read from a log are the bodies of the records of the kind that is asked
for, in their order, and no fault.**
-/
import TileCrew.Proofs.Json.Roundtrip
import TileCrew.Proofs.Json.Visible
import TileCrew.Proofs.Text.Breaks
import TileCrew.Proofs.Text.Octets
import TileCrew.Replay.Reader

namespace TileCrew.RunLog

open Json Text

/-! ## Octets -/

/-- octets that were written for a text are decoded, in however many blocks -/
theorem decodeBlocks_encode (cs : List Char) : decodeBlocks (Utf8.encode cs) = (cs, none) := by
  have hrun := Utf8.run_encode [] 0 cs
  unfold decodeBlocks Utf8.State.empty
  simp only [hrun, Utf8.State.cutOff?, List.append_nil, List.reverse_reverse, Option.map_none]

/-- the text of lines, the last of which is not ended -/
def textOf (ls : List (List Char)) (last : List Char) : List Char := ls.flatMap (· ++ ['\n']) ++ last

theorem textOf_noReturn {ls : List (List Char)} (h : ∀ l ∈ ls, Visible l) {last : List Char} (hlast : Visible last) :
    '\r' ∉ textOf ls last := by
  intro hr
  rcases List.mem_append.1 hr with hr | hr
  · obtain ⟨l, hl, hmem⟩ := List.mem_flatMap.1 hr
    rcases List.mem_append.1 hmem with hmem | hmem
    · exact (h l hl).noReturn hmem
    · cases List.mem_singleton.1 hmem
  · exact hlast.noReturn hr

/-- lines without control characters are the pieces of their text -/
theorem pieces_textOf {ls : List (List Char)} (h : ∀ l ∈ ls, Visible l) {last : List Char} (hlast : Visible last) :
    splitFeeds (unifyNewlines (textOf ls last)) = ls ++ [last] := by
  rw [unifyNewlines_eq (textOf_noReturn h hlast)]
  exact splitFeeds_open (fun l hl => (h l hl).noFeed) hlast.noFeed

/-- lines without control characters are the lines of their text; where nothing stands behind the last feed, there is no
further line -/
theorem linesOf_open {ls : List (List Char)} (h : ∀ l ∈ ls, Visible l) {last : List Char} (hlast : Visible last) :
    linesOf (Utf8.encode (textOf ls last)) = (if last = [] then ls else ls ++ [last], none) := by
  unfold linesOf
  simp only [decodeBlocks_encode, pieces_textOf h hlast, List.getLast?_concat, Option.some.injEq, List.dropLast_concat]

theorem linesOf_encode {ls : List (List Char)} (h : ∀ l ∈ ls, Visible l) :
    linesOf (Utf8.encode (ls.flatMap (· ++ ['\n']))) = (ls, none) := by
  have hopen := linesOf_open h (List.forall_mem_nil _)
  rwa [textOf, List.append_nil, if_pos rfl] at hopen

/-! ## Records -/

/-- what one line of a log says -/
structure Record where
  kind : RecordKind
  body : Json

namespace Record

def chars (r : Record) : List Char := (recordOf r.kind r.body).chars

def line (r : Record) : List UInt8 := RunLog.line r.kind r.body

/-- an object that can be read within a record -/
def Sound (r : Record) : Prop := (∃ fields, r.body = .object fields) ∧ ∃ k < depthLimit, Legible k r.body

end Record

def octetsOf (rs : List Record) : List UInt8 := (rs.map Record.line).flatten

theorem octetsOf_append (rs rs' : List Record) : octetsOf (rs ++ rs') = octetsOf rs ++ octetsOf rs' := by
  rw [octetsOf, List.map_append, List.flatten_append]
  rfl

theorem octetsOf_eq (rs : List Record) :
    octetsOf rs = Utf8.encode ((rs.map Record.chars).flatMap (· ++ ['\n'])) := by
  induction rs with
  | nil => rfl
  | cons r rs ih =>
    rw [octetsOf, List.map_cons, List.flatten_cons, List.map_cons, List.flatMap_cons, Utf8.encode_append]
    exact congrArg (r.line ++ ·) ih

/-- the lines of a log are the texts of its records -/
theorem linesOf_octets (rs : List Record) : linesOf (octetsOf rs) = (rs.map Record.chars, none) := by
  rw [octetsOf_eq]
  refine linesOf_encode fun l hl => ?_
  obtain ⟨r, -, rfl⟩ := List.mem_map.1 hl
  exact chars_visible _

theorem Record.Sound.legible {r : Record} (h : r.Sound) : ∃ k ≤ depthLimit, Legible k (recordOf r.kind r.body) := by
  obtain ⟨-, k, hk, hbody⟩ := h
  have hversion : Legible k (.int version) := .whole (of_decide_eq_true rfl)
  refine ⟨k + 1, hk, .object (of_decide_eq_true rfl) (of_decide_eq_true rfl) ?_⟩
  simp only [List.forall_mem_cons]
  exact ⟨.text (Text.ofString_isWhole _), hversion, hbody, List.forall_mem_nil _⟩

theorem read_record {r : Record} (h : r.Sound) : Json.read (String.ofList r.chars) = .ok (recordOf r.kind r.body) := by
  obtain ⟨k, hk, hrecord⟩ := h.legible
  exact read_chars hrecord hk

theorem bodyOfRecord_record {r : Record} (h : ∃ fields, r.body = .object fields) (kind : RecordKind) :
    bodyOfRecord kind (recordOf r.kind r.body) = if r.kind = kind then some r.body else none := by
  obtain ⟨kind', body⟩ := r
  obtain ⟨fields, hbody⟩ := h
  simp only at hbody
  subst hbody
  have htype : isKind kind (some (.text kind'.name)) = decide (kind' = kind) := by
    cases kind with
    | header =>
      cases kind' with
      | header => rfl
      | tick => rfl
    | tick =>
      cases kind' with
      | header => rfl
      | tick => rfl
  show (if isKind kind (some (.text kind'.name)) && true then some (Json.object fields) else (none : Option Json)) = _
  rw [htype, Bool.and_true]
  simp only [decide_eq_true_eq]

theorem bodyOfLine_chars {r : Record} (h : r.Sound) (kind : RecordKind) :
    bodyOfLine kind r.chars = .ok (if r.kind = kind then some r.body else none) := by
  rw [bodyOfLine, read_record h]
  simp only [bodyOfRecord_record h.1]

/-! ## Logs -/

/-- the bodies of records come before those of the lines behind them -/
theorem bodiesOfLines_append {rs : List Record} (h : ∀ r ∈ rs, r.Sound) (kind : RecordKind) (fault : Option Fault)
    (rest : List (List Char)) :
    bodiesOfLines kind fault (rs.map Record.chars ++ rest) =
      ⟨(rs.filter (·.kind = kind)).map Record.body ++ (bodiesOfLines kind fault rest).items,
        (bodiesOfLines kind fault rest).fault⟩ := by
  induction rs with
  | nil => rfl
  | cons r rs ih =>
    obtain ⟨hr, hrs⟩ := List.forall_mem_cons.1 h
    rw [List.map_cons, List.cons_append, bodiesOfLines, bodyOfLine_chars hr, ih hrs]
    by_cases hkind : r.kind = kind
    · simp [hkind]
    · simp [hkind]

theorem bodiesOfLines_chars {rs : List Record} (h : ∀ r ∈ rs, r.Sound) (kind : RecordKind) (fault : Option Fault) :
    bodiesOfLines kind fault (rs.map Record.chars) = ⟨(rs.filter (·.kind = kind)).map Record.body, fault⟩ := by
  have happend := bodiesOfLines_append h kind fault []
  rwa [List.append_nil, bodiesOfLines, List.append_nil] at happend

/-- **Read from a log are the bodies of the records of one kind, in their order, and no fault.** -/
theorem bodiesOf_octets {rs : List Record} (h : ∀ r ∈ rs, r.Sound) (kind : RecordKind) :
    bodiesOf kind (octetsOf rs) = ⟨(rs.filter (·.kind = kind)).map Record.body, none⟩ := by
  rw [bodiesOf, linesOf_octets]
  exact bodiesOfLines_chars h kind none

end TileCrew.RunLog
