/-
The Mersenne Twister MT19937 as a value: 624 words and the place of the next one. A generator is seeded with the 32-bit
words of an integer's magnitude, least significant first. It gives words (`next`), reals in [0, 1) with 53 bits
(`nextReal`) and offsets in [-2, 2] (`nextOffset`); every draw returns the generator that follows.
-/
namespace TileCrew

/-- 624 words of state and the index of the next one; at 624 the block is renewed first -/
structure Twister where
  words : Array UInt32
  index : Nat

namespace Twister

def size : Nat := 624

/-! ## Seeding -/

/-- the state filled from one word -/
def fillFrom (seed : UInt32) : Array UInt32 :=
  (List.range (size - 1)).foldl
    (fun (ws : Array UInt32) (i : Nat) =>
      let w : UInt32 := ws.getD i 0
      ws.push ((1812433253 : UInt32) * (w ^^^ (w >>> 30)) + UInt32.ofNat (i + 1)))
    #[seed]

/-- the base-2^32 digits of a natural, least significant first, at most `fuel` of them -/
def wordDigits : Nat → Nat → List UInt32
  | 0, _ => []
  | fuel + 1, n => if n = 0 then [] else UInt32.ofNat n :: wordDigits fuel (n / 2 ^ 32)

/-- the seeding key of an integer: the words of its magnitude, one zero word for zero -/
def key (seed : Int) : Array UInt32 :=
  let n := seed.natAbs
  if n = 0 then #[0] else (wordDigits (n.log2 / 32 + 1) n).toArray

/-- a walk over the state: place i, where place 0 is first given the word of the last place -/
structure Walk where
  words : Array UInt32
  place : Nat

/-- place i is given `mix`, and the walk goes on, over the end back to place 1 -/
def Walk.put (w : Walk) (v : UInt32) : Walk :=
  let words := w.words.setIfInBounds w.place v
  if w.place + 1 < size then ⟨words, w.place + 1⟩ else ⟨words.setIfInBounds 0 (words.getD (size - 1) 0), 1⟩

/-- the scrambled word before a place -/
def Walk.before (w : Walk) (factor : UInt32) : UInt32 :=
  let p := w.words.getD (w.place - 1) 0
  (p ^^^ (p >>> 30)) * factor

/-- a generator for a seed: the filled state, stirred with the key and once more without it -/
def ofSeed (seed : Int) : Twister :=
  let key := key seed
  let stirred := (List.range (max size key.size)).foldl
    (fun (w : Walk) (k : Nat) =>
      let j := k % key.size
      w.put ((w.words.getD w.place 0 ^^^ w.before 1664525) + key.getD j 0 + UInt32.ofNat j))
    (Walk.mk (fillFrom 19650218) 1)
  let settled := (List.range (size - 1)).foldl
    (fun (w : Walk) _ => w.put ((w.words.getD w.place 0 ^^^ w.before 1566083941) - UInt32.ofNat w.place))
    stirred
  ⟨settled.words.setIfInBounds 0 0x80000000, size⟩

/-! ## Draws -/

/-- one word of the next block, from its neighbours in the running one -/
def renewWord (ws : Array UInt32) (i : Nat) : Array UInt32 :=
  let y := (ws.getD i 0 &&& 0x80000000) ||| (ws.getD ((i + 1) % size) 0 &&& 0x7fffffff)
  let v := ws.getD ((i + 397) % size) 0 ^^^ (y >>> 1)
  ws.setIfInBounds i (if y &&& 1 = 0 then v else v ^^^ 0x9908b0df)

def renew (ws : Array UInt32) : Array UInt32 := (List.range size).foldl renewWord ws

/-- the output form of a word -/
def temper (y : UInt32) : UInt32 :=
  let y := y ^^^ (y >>> 11)
  let y := y ^^^ ((y <<< 7) &&& 0x9d2c5680)
  let y := y ^^^ ((y <<< 15) &&& 0xefc60000)
  y ^^^ (y >>> 18)

def next (g : Twister) : UInt32 × Twister :=
  if g.index < size then (temper (g.words.getD g.index 0), { g with index := g.index + 1 })
  else
    let ws := renew g.words
    (temper (ws.getD 0 0), ⟨ws, 1⟩)

/-- the next real in [0, 1): 27 bits of one word and 26 of the following make its 53 bits -/
def nextReal (g : Twister) : Float × Twister :=
  let (a, g) := g.next
  let (b, g) := g.next
  let roll : Float := ((a >>> 5).toFloat * 67108864.0 + (b >>> 6).toFloat) / 9007199254740992.0
  (roll, g)

/-- the first of the following words whose top three bits are below five gives them, at most `fuel` words being passed
    over; then zero -/
def nextBelowFive : Nat → Twister → Nat × Twister
  | 0, g => (0, g)
  | fuel + 1, g =>
    let (w, g) := g.next
    let k := (w >>> 29).toNat
    if k < 5 then (k, g) else nextBelowFive fuel g

/-- the next offset in [-2, 2], all equally likely. A period of the generator has no run of words as long as the bound. -/
def nextOffset (g : Twister) : Int × Twister :=
  let (k, g) := nextBelowFive 100000 g
  ((k : Int) - 2, g)

end Twister

end TileCrew
