/-
UTF-8 as a machine that takes one octet at a time.
A lead octet tells how many tail octets are owed and in which range the first of them lies; every further tail lies in
80-BF. The machine refuses at the first octet that no character can hold there, and reports the span from the lead octet
up to it. A character cut off by the end of the input is kept (`owed`): the next octets of a stream may complete it, the
end of a file makes it a fault.
Every character has octets, a lone half of a surrogate pair has none (`Unencodable`).
-/
import TileCrew.Text.Quoted

namespace TileCrew.Utf8

/-- why octets are no text -/
inductive Reason where
  | startOctet
  | continuation
  | cutOff
deriving DecidableEq, Repr

/-- a refused span of octets, `stop` exclusive, with its first octet -/
structure Malformed where
  start : Nat
  stop : Nat
  first : UInt8
  reason : Reason
deriving DecidableEq, Repr

/-- a character under way: its octets so far, last first, the tails owed, the range of the next, the code point so far -/
structure Partial where
  seen : List UInt8
  owed : Nat
  low : UInt8
  high : UInt8
  code : Nat
deriving Repr

/-- the character that a lead octet begins -/
def Partial.ofLead? (b : UInt8) : Option Partial :=
  let begin (owed : Nat) (low high : UInt8) (bits : Nat) : Option Partial := some ⟨[b], owed, low, high, bits⟩
  let n := b.toNat
  if 0xc2 ≤ n ∧ n ≤ 0xdf then begin 1 0x80 0xbf (n - 0xc0)
  else if n = 0xe0 then begin 2 0xa0 0xbf 0
  else if n = 0xed then begin 2 0x80 0x9f 0xd
  else if 0xe1 ≤ n ∧ n ≤ 0xef then begin 2 0x80 0xbf (n - 0xe0)
  else if n = 0xf0 then begin 3 0x90 0xbf 0
  else if 0xf1 ≤ n ∧ n ≤ 0xf3 then begin 3 0x80 0xbf (n - 0xf0)
  else if n = 0xf4 then begin 3 0x80 0x8f 4
  else none

/-- what has been read: the characters, last first, the number of octets, the character under way -/
structure State where
  done : List Char
  position : Nat
  pending : Option Partial
deriving Repr

def State.empty : State := ⟨[], 0, none⟩

def State.step (s : State) (b : UInt8) : Except Malformed State :=
  match s.pending with
  | none =>
    if b < 0x80 then .ok ⟨Char.ofNat b.toNat :: s.done, s.position + 1, none⟩
    else
      match Partial.ofLead? b with
      | some p => .ok ⟨s.done, s.position + 1, some p⟩
      | none => .error ⟨s.position, s.position + 1, b, .startOctet⟩
  | some p =>
    if p.low ≤ b ∧ b ≤ p.high then
      let code := p.code * 64 + (b.toNat - 0x80)
      if p.owed ≤ 1 then .ok ⟨Char.ofNat code :: s.done, s.position + 1, none⟩
      else .ok ⟨s.done, s.position + 1, some ⟨b :: p.seen, p.owed - 1, 0x80, 0xbf, code⟩⟩
    else .error ⟨s.position - p.seen.length, s.position, p.seen.getLastD b, .continuation⟩

/-- octets one after the other, up to the first that is refused; the state before it is kept -/
def State.run (s : State) : List UInt8 → State × Option Malformed
  | [] => (s, none)
  | b :: bs =>
    match s.step b with
    | .ok t => t.run bs
    | .error e => (s, some e)

/-- the fault of ending here, if a character is under way -/
def State.cutOff? (s : State) : Option Malformed :=
  s.pending.map fun p => ⟨s.position - p.seen.length, s.position, p.seen.getLastD 0, .cutOff⟩

def decode (bs : List UInt8) : Except Malformed (List Char) :=
  match State.empty.run bs with
  | (_, some e) => .error e
  | (s, none) =>
    match s.cutOff? with
    | some e => .error e
    | none => .ok s.done.reverse

/-- the characters that octets stand for, each refused span as one replacement character; `fuel` bounds the spans -/
def decodeLossy : Nat → List UInt8 → List Char
  | 0, _ => []
  | fuel + 1, bs =>
    match State.empty.run bs with
    | (s, some e) => s.done.reverse ++ Char.ofNat 0xfffd :: decodeLossy fuel (bs.drop e.stop)
    | (s, none) => s.done.reverse ++ (if s.pending.isSome then [Char.ofNat 0xfffd] else [])

def encode (cs : List Char) : List UInt8 := cs.flatMap String.utf8EncodeChar

/-- halves of surrogate pairs that stand one behind the other in a text, `stop` exclusive, and the first of them -/
structure Unencodable where
  start : Nat
  stop : Nat
  first : Fin 0x800
deriving DecidableEq, Repr

/-- the first lone halves among letters -/
def firstHalves? (ls : List Letter) : Option Unencodable :=
  match ls.dropWhile fun l => !l.isHalf with
  | .half n :: rest =>
    let start := (ls.takeWhile fun l => !l.isHalf).length
    some ⟨start, start + 1 + (rest.takeWhile Letter.isHalf).length, n⟩
  | _ => none

def Reason.message : Reason → String
  | .startOctet => "invalid start byte"
  | .continuation => "invalid continuation byte"
  | .cutOff => "unexpected end of data"

def octetText (b : UInt8) : String := String.ofList ((Nat.toDigits 16 b.toNat).leftpad 2 '0')

/-- the wording of a refusal: one octet is named, a longer span is given by its first and last position -/
def Malformed.message (m : Malformed) : String :=
  let place :=
    if m.stop = m.start + 1 then "byte 0x" ++ octetText m.first ++ " in position " ++ toString m.start
    else "bytes in position " ++ toString m.start ++ "-" ++ toString (m.stop - 1)
  "'utf-8' codec can't decode " ++ place ++ ": " ++ m.reason.message

/-- the wording where halves have no octets: one is named, more are given by the first and the last position -/
def Unencodable.message (u : Unencodable) : String :=
  let place :=
    if u.stop = u.start + 1 then
      "character '" ++ String.ofList (Text.codeEscape (Letter.half u.first).code) ++ "' in position " ++
        toString u.start
    else "characters in position " ++ toString u.start ++ "-" ++ toString (u.stop - 1)
  "'utf-8' codec can't encode " ++ place ++ ": surrogates not allowed"

end TileCrew.Utf8
