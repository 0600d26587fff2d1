/-
Files that are written to. An entry put at one place leaves all others as they are (`entry_put_ne`), and no way through
the store is lost as long as no folder is (`walk_extends`). So a file that is there stays there:
- `locate_child`: a name that is not present in a folder leads to a place without an entry;
- `touch_holds`: a file made at such a place holds nothing;
- `append_holds`: **what is appended to a file stands behind what it held.**
-/
import TileCrew.Files.Store

namespace TileCrew.Store

open Files

/-! ## Entries -/

theorem find_putEntry_self (place : Path) (e : Entry) (entries : List (Path × Entry)) :
    (putEntry place e entries).find? (·.1 == place) = some (place, e) := by
  induction entries with
  | nil => exact List.find?_cons_of_pos (beq_self_eq_true place)
  | cons f fs ih =>
    rw [putEntry]
    split
    · exact List.find?_cons_of_pos (beq_self_eq_true place)
    · next hf => rw [List.find?_cons_of_neg (by simpa using hf), ih]

theorem find_putEntry_ne {place q : Path} (h : place ≠ q) (e : Entry) (entries : List (Path × Entry)) :
    (putEntry place e entries).find? (·.1 == q) = entries.find? (·.1 == q) := by
  induction entries with
  | nil => exact List.find?_cons_of_neg (by simpa using h)
  | cons f fs ih =>
    rw [putEntry]
    split
    · next hf => rw [List.find?_cons_of_neg (by simpa using h), List.find?_cons_of_neg (by simpa [hf] using h)]
    · by_cases hq : f.1 = q
      · rw [List.find?_cons_of_pos (by simpa using hq), List.find?_cons_of_pos (by simpa using hq)]
      · rw [List.find?_cons_of_neg (by simpa using hq), List.find?_cons_of_neg (by simpa using hq), ih]

theorem entry_put_self (s : Store) {place : Path} (h : place.names ≠ []) (e : Entry) :
    entry? (s.put place e) place = some e := by
  unfold entry?
  rw [if_neg (by simpa using h), put, find_putEntry_self]
  rfl

theorem entry_put_ne (s : Store) {place q : Path} (h : place ≠ q) (e : Entry) :
    entry? (s.put place e) q = s.entry? q := by
  unfold entry?
  rw [put, find_putEntry_ne h]

/-- the roots are folders -/
theorem names_ne_nil {s : Store} {place : Path} (h : s.entry? place ≠ some .folder) : place.names ≠ [] := by
  intro hroot
  unfold entry? at h
  rw [hroot] at h
  exact h rfl

/-! ## Ways -/

theorem walk_append (s : Store) (place : Path) (ns ms : List String) :
    s.walk place (ns ++ ms) = (s.walk place ns).bind fun q => s.walk q ms := by
  induction ns generalizing place with
  | nil => rfl
  | cons n ns ih =>
    rw [List.cons_append, walk, walk]
    cases s.entry? place with
    | none => rfl
    | some e =>
      cases e with
      | file octets => rfl
      | folder =>
        simp only
        split
        · exact ih _
        · split
          · rfl
          · exact ih _

/-- no folder of the one store is lost in the other -/
def Extends (s t : Store) : Prop := ∀ q, s.entry? q = some .folder → t.entry? q = some .folder

theorem extends_put {s : Store} {place : Path} (h : s.entry? place ≠ some .folder) (e : Entry) :
    Extends s (s.put place e) := by
  intro q hq
  have hne : place ≠ q := fun heq => h (by rw [heq, hq])
  rw [entry_put_ne s hne, hq]

/-- a way that can be gone can still be gone while no folder is lost -/
theorem walk_extends {s t : Store} (h : Extends s t) {p q : Path} {ns : List String} (hwalk : s.walk p ns = .ok q) :
    t.walk p ns = .ok q := by
  induction ns generalizing p with
  | nil => exact hwalk
  | cons n ns ih =>
    rw [walk] at hwalk ⊢
    cases hentry : s.entry? p with
    | none =>
      rw [hentry] at hwalk
      cases hwalk
    | some entry =>
      rw [hentry] at hwalk
      cases entry with
      | file octets => cases hwalk
      | folder =>
        -- every place on the way is a folder, so it has stayed one
        rw [h p hentry]
        simp only at hwalk ⊢
        split at hwalk
        · next hn =>
          rw [if_pos hn]
          exact ih hwalk
        · next hn =>
          rw [if_neg hn]
          split at hwalk
          · cases hwalk
          · next hlen =>
            rw [if_neg hlen]
            exact ih hwalk

/-- a path has led somewhere: no NUL in it, not too long, and its names can be followed -/
theorem locate_ok {s : Store} {p place : Path} (h : s.locate p = .ok place) :
    '\x00' ∉ p.text.toList ∧ p.text.utf8ByteSize ≤ pathLimit ∧ s.walk ⟨p.start, []⟩ p.names = .ok place := by
  unfold locate at h
  split at h
  · cases h
  · next hnul =>
    split at h
    · cases h
    · next hlen => exact ⟨by simpa using hnul, Nat.le_of_not_lt hlen, h⟩

theorem locate_of {s : Store} {p place : Path} (hnul : '\x00' ∉ p.text.toList)
    (hlen : p.text.utf8ByteSize ≤ pathLimit) (h : s.walk ⟨p.start, []⟩ p.names = .ok place) :
    s.locate p = .ok place := by
  rw [locate, if_neg (by simpa using hnul), if_neg (Nat.not_lt.2 hlen), h]

theorem locate_extends {s t : Store} (h : Extends s t) {p q : Path} (hp : s.locate p = .ok q) : t.locate p = .ok q := by
  obtain ⟨hnul, hlen, hwalk⟩ := locate_ok hp
  exact locate_of hnul hlen (walk_extends h hwalk)

theorem locate_put {s : Store} {place : Path} (h : s.entry? place ≠ some .folder) (e : Entry) {p q : Path}
    (hp : s.locate p = .ok q) : (s.put place e).locate p = .ok q := locate_extends (extends_put h e) hp

/-- what is in the text of an entry of a folder is in that of the folder, the slash between them or the name -/
theorem mem_text_child {folder : Path} {name : String} {c : Char} (h : c ∈ (folder.child name).text.toList) :
    c ∈ folder.text.toList ∨ c = '/' ∨ c ∈ name.toList := by
  obtain ⟨start, names⟩ := folder
  have htext : (Path.child ⟨start, names⟩ name).text = start ++ "/".intercalate (names ++ [name]) := by
    simp [Path.child, Path.text]
  rw [htext, String.toList_append, List.mem_append] at h
  by_cases hnames : names = []
  · rw [hnames, List.nil_append, String.intercalate_singleton] at h
    rcases h with h | h
    · refine .inl ?_
      have hstart : start ≠ "" := by
        rintro rfl
        cases h
      simpa [Path.text, hnames, hstart] using h
    · exact .inr (.inr h)
  · rw [String.intercalate_append_of_ne_nil hnames (List.cons_ne_nil _ _), String.intercalate_singleton] at h
    simp only [String.toList_append, List.mem_append] at h
    have hfolder : (Path.text ⟨start, names⟩).toList = start.toList ++ ("/".intercalate names).toList := by
      simp [Path.text, hnames]
    rw [hfolder, List.mem_append]
    rcases h with h | (h | h) | h
    · exact .inl (.inl h)
    · exact .inl (.inr h)
    · exact .inr (.inl (List.mem_singleton.1 h))
    · exact .inr (.inr h)

/-- the text of an entry of a named folder goes on that of the folder -/
theorem text_child_size {folder : Path} (hnames : folder.names ≠ []) (name : String) :
    folder.text.utf8ByteSize ≤ (folder.child name).text.utf8ByteSize := by
  obtain ⟨start, names⟩ := folder
  have hfolder : Path.text ⟨start, names⟩ = start ++ "/".intercalate names := by
    have hsome : names ≠ [] := hnames
    simp [Path.text, hsome]
  have hchild : (Path.child ⟨start, names⟩ name).text = start ++ "/".intercalate (names ++ [name]) := by
    simp [Path.child, Path.text]
  rw [hfolder, hchild, String.intercalate_append_of_ne_nil hnames (List.cons_ne_nil _ _)]
  simp only [String.utf8ByteSize_append]
  omega

/-- a way without steps back leads to where it names -/
theorem walk_forth {s : Store} {p q : Path} {ns : List String} (hns : ".." ∉ ns) (h : s.walk p ns = .ok q) :
    q = ⟨p.start, p.names ++ ns⟩ := by
  induction ns generalizing p with
  | nil =>
    rw [List.append_nil]
    exact (Except.ok.inj h).symm
  | cons n ns ih =>
    have hn : n ≠ ".." := fun hn => hns (by rw [hn]; exact List.mem_cons_self)
    unfold walk at h
    split at h
    · cases h
    · cases h
    · rw [if_neg hn] at h
      split at h
      · cases h
      · rw [ih (fun hm => hns (List.mem_cons_of_mem n hm)) h]
        simp [Path.child]

/-! ## Folders -/

theorem isFolder_cases {s : Store} {p : Path} (h : s.isFolder p = true) :
    ∃ place, s.locate p = .ok place ∧ s.entry? place = some .folder := by
  unfold isFolder find at h
  cases hp : s.locate p with
  | error c =>
    rw [hp] at h
    cases h
  | ok place =>
    refine ⟨place, rfl, ?_⟩
    rw [hp] at h
    simp only [Except.map] at h
    split at h
    · next heq => simpa using (Prod.mk.inj (Except.ok.inj heq)).2
    · cases h

theorem makeFolders_folder {s : Store} {p : Path} (h : s.isFolder p = true) : s.makeFolders p = (.ok (), s) := by
  obtain ⟨place, hplace, hentry⟩ := isFolder_cases h
  have hmake : s.makeFolder p = .error .present := by
    simp only [makeFolder, find, hplace, Except.map, hentry]
  unfold makeFolders makeFoldersTo
  simp only [hmake, h, if_true]

theorem child_clean {folder : Path} {name : String} (hfolder : '\x00' ∉ folder.text.toList) (hname : '\x00' ∉ name.toList) :
    '\x00' ∉ (folder.child name).text.toList := by
  intro hmem
  rcases mem_text_child hmem with h | h | h
  · exact hfolder h
  · cases h
  · exact hname h

/-- an entry of a folder is found by its name -/
theorem locate_entry {s : Store} {folder place : Path} {name : String} (hname : name ≠ "..")
    (hnul : '\x00' ∉ name.toList) (hlen : name.utf8ByteSize ≤ nameLimit) (hplace : s.locate folder = .ok place)
    (hentry : s.entry? place = some .folder) (hshort : (folder.child name).text.utf8ByteSize ≤ pathLimit) :
    s.locate (folder.child name) = .ok (place.child name) := by
  obtain ⟨hclean, -, hwalk⟩ := locate_ok hplace
  have hway : s.walk ⟨folder.start, []⟩ (folder.names ++ [name]) = .ok (place.child name) := by
    rw [walk_append, hwalk]
    show s.walk place [name] = .ok (place.child name)
    simp only [walk, hentry, if_neg hname, if_neg (Nat.not_lt.2 hlen)]
  exact locate_of (child_clean hclean hnul) hshort hway

theorem locate_child_cases {s : Store} {folder place : Path} {name : String} (hname : name ≠ "..")
    (h : s.locate (folder.child name) = .ok place) : ∃ d, s.walk ⟨folder.start, []⟩ folder.names = .ok d ∧
      place = d.child name := by
  obtain ⟨-, -, hwalk⟩ := locate_ok h
  have hsplit : s.walk ⟨folder.start, []⟩ (folder.names ++ [name]) = .ok place := hwalk
  rw [walk_append] at hsplit
  cases hd : s.walk ⟨folder.start, []⟩ folder.names with
  | error c =>
    rw [hd] at hsplit
    cases hsplit
  | ok d =>
    rw [hd] at hsplit
    have hlast : s.walk d [name] = .ok place := hsplit
    unfold walk at hlast
    split at hlast
    · cases hlast
    · cases hlast
    · rw [if_neg hname] at hlast
      split at hlast
      · cases hlast
      · exact ⟨d, rfl, (Except.ok.inj hlast).symm⟩

/-- **A name that is not present in a folder leads to a place without an entry.** -/
theorem locate_child {s : Store} {folder : Path} {name : String} (hname : name ≠ "..") (hnul : '\x00' ∉ name.toList)
    (hlen : name.utf8ByteSize ≤ nameLimit) (hfolder : s.isFolder folder = true)
    (habsent : s.isPresent (folder.child name) = .ok false) :
    ∃ place, s.locate (folder.child name) = .ok place ∧ s.entry? place = none := by
  obtain ⟨dir, hdir, hentry⟩ := isFolder_cases hfolder
  by_cases hshort : (folder.child name).text.utf8ByteSize ≤ pathLimit
  · have hlocate := locate_entry hname hnul hlen hdir hentry hshort
    refine ⟨dir.child name, hlocate, ?_⟩
    simp only [isPresent, find, hlocate, Except.map, Except.ok.injEq] at habsent
    simpa using habsent
  · have hclean := child_clean (locate_ok hdir).1 hnul
    have hlong : s.locate (folder.child name) = .error .tooLong := by
      rw [locate, if_neg (by simpa using hclean), if_pos (Nat.lt_of_not_le hshort)]
    simp [isPresent, find, hlong, Except.map] at habsent

/-! ## Files -/

/-- the path leads to a file of these octets -/
def Holds (s : Store) (p : Path) (octets : List UInt8) : Prop :=
  ∃ place, s.locate p = .ok place ∧ s.entry? place = some (.file octets)

theorem put_holds {s : Store} {p place : Path} (hp : s.locate p = .ok place) (h : s.entry? place ≠ some .folder)
    (octets : List UInt8) : (s.put place (.file octets)).Holds p octets :=
  ⟨place, locate_put h _ hp, entry_put_self s (names_ne_nil h) _⟩

theorem touch_holds {s : Store} {p place : Path} (hp : s.locate p = .ok place) (h : s.entry? place = none) :
    ∃ s', s.touch p = .ok s' ∧ s'.Holds p [] := by
  have hput : s.touch p = .ok (s.put place (.file [])) := by
    simp only [touch, find, hp, Except.map, h]
  exact ⟨_, hput, put_holds hp (by simp [h]) []⟩

theorem touch_file {s : Store} {p place : Path} {old : List UInt8} (hp : s.locate p = .ok place)
    (h : s.entry? place = some (.file old)) : s.touch p = .ok s := by
  simp only [touch, find, hp, Except.map, h]

/-- what is appended stands in the file that is told, and nowhere else -/
theorem append_entry {s : Store} {p place : Path} (hp : s.locate p = .ok place) {old : List UInt8}
    (h : s.entry? place = some (.file old)) (octets : List UInt8) :
    Store.entry? (s.append p octets) place = some (.file (old ++ octets)) ∧
      (∀ q, place ≠ q → Store.entry? (s.append p octets) q = s.entry? q) ∧ (s.append p octets).locate p = .ok place := by
  have hput : s.append p octets = s.put place (.file (old ++ octets)) := by
    simp only [append, find, hp, Except.map, h]
  have hne : s.entry? place ≠ some .folder := by simp [h]
  rw [hput]
  exact ⟨entry_put_self s (names_ne_nil hne) _, fun q hq => entry_put_ne s hq _, locate_put hne _ hp⟩

/-- **What is appended to a file stands behind what it held.** -/
theorem append_holds {s : Store} {p : Path} {old : List UInt8} (h : s.Holds p old) (octets : List UInt8) :
    (s.append p octets).Holds p (old ++ octets) := by
  obtain ⟨place, hp, hentry⟩ := h
  obtain ⟨happended, -, hplace⟩ := append_entry hp hentry octets
  exact ⟨place, hplace, happended⟩

theorem Holds.read {s : Store} {p : Path} {octets : List UInt8} (h : s.Holds p octets) : s.read p = .ok octets := by
  obtain ⟨place, hp, hentry⟩ := h
  simp only [Store.read, find, hp, Except.map, hentry]

theorem Holds.isPresent {s : Store} {p : Path} {octets : List UInt8} (h : s.Holds p octets) :
    s.isPresent p = .ok true := by
  obtain ⟨place, hp, hentry⟩ := h
  simp only [Store.isPresent, find, hp, Except.map, hentry, Option.isSome_some]

end TileCrew.Store
