/-
Files and folders as a value. A store holds an entry, folder or file, for some places; a place is a path without `..`,
and the places without names are folders that are always there. `walk` follows a path through the store; a path with a
NUL in it leads nowhere. Reading, appending and making folders fail for a `Cause`; a failed operation changes nothing but
the folders already made.
-/
import TileCrew.Files.Path
import TileCrew.Text.Quoted

namespace TileCrew

namespace Files

inductive Cause where
  | missing
  | present
  | notFolder
  | isFolder
  | tooLong
  | nul
deriving DecidableEq, Repr

/-- the number of a cause; a path with a NUL is refused before it gets one -/
def Cause.number? : Cause → Option Nat
  | .missing => some 2
  | .present => some 17
  | .notFolder => some 20
  | .isFolder => some 21
  | .tooLong => some 36
  | .nul => none

def Cause.wording : Cause → String
  | .missing => "No such file or directory"
  | .present => "File exists"
  | .notFolder => "Not a directory"
  | .isFolder => "Is a directory"
  | .tooLong => "File name too long"
  | .nul => "embedded null byte"

/-- an operation on a path that failed -/
structure Refusal where
  cause : Cause
  path : Path
deriving DecidableEq, Repr

/-- the wording of a failure: number, wording and path; of a cause without number its wording alone -/
def Refusal.message (r : Refusal) : String :=
  match r.cause.number? with
  | some n => "[Errno " ++ toString n ++ "] " ++ r.cause.wording ++ ": " ++ Text.quoted r.path.text
  | none => r.cause.wording

end Files

/-- what a place holds -/
inductive Entry where
  | folder
  | file (octets : List UInt8)
deriving DecidableEq, Repr

structure Store where
  entries : List (Path × Entry)
deriving Repr

namespace Store

open Files

/-- no files and no folders but the roots -/
def empty : Store := ⟨[]⟩

def entry? (s : Store) (place : Path) : Option Entry :=
  if place.names.isEmpty then some .folder else (s.entries.find? (·.1 == place)).map (·.2)

/-- entries with one set: in place where there is one, else at the end -/
def putEntry (place : Path) (e : Entry) : List (Path × Entry) → List (Path × Entry)
  | [] => [(place, e)]
  | f :: fs => if f.1 = place then (place, e) :: fs else f :: putEntry place e fs

def put (s : Store) (place : Path) (e : Entry) : Store := ⟨putEntry place e s.entries⟩

/-! ## Following paths -/

/-- the longest name an entry may have, in octets -/
def nameLimit : Nat := 255

/-- the longest path that is followed, in octets -/
def pathLimit : Nat := 4095

/-- the place that names lead to; every place on the way has to be a folder, the last may be empty -/
def walk (s : Store) (place : Path) : List String → Except Cause Path
  | [] => .ok place
  | n :: ns =>
    match s.entry? place with
    | none => .error .missing
    | some (.file _) => .error .notFolder
    | some .folder =>
      if n = ".." then s.walk place.parent ns
      else if nameLimit < n.utf8ByteSize then .error .tooLong
      else s.walk (place.child n) ns

def locate (s : Store) (p : Path) : Except Cause Path :=
  if p.text.toList.contains '\x00' then .error .nul
  else if pathLimit < p.text.utf8ByteSize then .error .tooLong
  else s.walk ⟨p.start, []⟩ p.names

/-- the place of a path and the entry there -/
def find (s : Store) (p : Path) : Except Cause (Path × Option Entry) :=
  (s.locate p).map fun place => (place, s.entry? place)

/-! ## Operations -/

/-- the path leads to a file or a folder; a name that is too long is refused -/
def isPresent (s : Store) (p : Path) : Except Refusal Bool :=
  match s.find p with
  | .ok (_, e) => .ok e.isSome
  | .error .tooLong => .error ⟨.tooLong, p⟩
  | .error _ => .ok false

def isFolder (s : Store) (p : Path) : Bool :=
  match s.find p with
  | .ok (_, some .folder) => true
  | _ => false

def read (s : Store) (p : Path) : Except Refusal (List UInt8) :=
  match s.find p with
  | .error c => .error ⟨c, p⟩
  | .ok (_, none) => .error ⟨.missing, p⟩
  | .ok (_, some .folder) => .error ⟨.isFolder, p⟩
  | .ok (_, some (.file octets)) => .ok octets

def makeFolder (s : Store) (p : Path) : Except Cause Store :=
  match s.find p with
  | .error c => .error c
  | .ok (_, some _) => .error .present
  | .ok (place, none) => .ok (s.put place .folder)

/-- a folder made if it is not there, and before it the folders that lead to it; `depth` bounds how many -/
def makeFoldersTo (p : Path) : Nat → Store → Except Refusal Unit × Store
  | depth, s =>
    match s.makeFolder p with
    | .ok s => (.ok (), s)
    | .error .missing =>
      match depth with
      | 0 => (.error ⟨.missing, p⟩, s)
      | depth + 1 =>
        match makeFoldersTo p.parent depth s with
        | (.error e, s) => (.error e, s)
        | (.ok (), s) =>
          match s.makeFolder p with
          | .ok s => (.ok (), s)
          | .error c => if s.isFolder p then (.ok (), s) else (.error ⟨c, p⟩, s)
    | .error c => if s.isFolder p then (.ok (), s) else (.error ⟨c, p⟩, s)

/-- a folder with all folders that lead to it -/
def makeFolders (s : Store) (p : Path) : Except Refusal Unit × Store := makeFoldersTo p p.names.length s

/-- a file that is there to be appended to: made empty if there is none -/
def touch (s : Store) (p : Path) : Except Refusal Store :=
  match s.find p with
  | .error c => .error ⟨c, p⟩
  | .ok (place, none) => .ok (s.put place (.file []))
  | .ok (_, some .folder) => .error ⟨.isFolder, p⟩
  | .ok (_, some (.file _)) => .ok s

/-- octets appended to a file; nothing where there is no file -/
def append (s : Store) (p : Path) (octets : List UInt8) : Store :=
  match s.find p with
  | .ok (place, some (.file old)) => s.put place (.file (old ++ octets))
  | _ => s

/-- a file with its octets, and the folders that lead to it -/
def addFile (s : Store) (p : Path) (octets : List UInt8) : Store :=
  match (s.makeFolders p.parent).2.locate p with
  | .ok place => (s.makeFolders p.parent).2.put place (.file octets)
  | .error _ => s

def files (s : Store) : List (Path × List UInt8) :=
  s.entries.filterMap fun e =>
    match e.2 with
    | .file octets => some (e.1, octets)
    | .folder => none

end Store

end TileCrew
