/-
Tiles and the tile grid.
A map is drawn row by row, one real per tile: `Tile.ofRoll` splits [0, 1) into grass, sand, stone and water. Coordinates
are rounded to the tile they lie on, halves up (`nearestTile`); `tileAt` looks a tile up and is none outside the grid,
which may be ragged.
-/
import TileCrew.Arithmetic.Binary64
import TileCrew.Random.Twister

namespace TileCrew

/-- what a map square is made of -/
inductive Tile where
  | grass
  | sand
  | stone
  | water
deriving DecidableEq, Repr

namespace Tile

def name : Tile → String
  | .grass => "grass"
  | .sand => "sand"
  | .stone => "stone"
  | .water => "water"

def byName : List (String × Tile) := [("grass", .grass), ("sand", .sand), ("stone", .stone), ("water", .water)]

/-- the tile for a roll: the first whose bound lies above it, else water -/
def ofRoll (roll : Float) : Tile :=
  if roll < 0.60 then .grass else if roll < 0.75 then .sand else if roll < 0.88 then .stone else .water

end Tile

/-- rows of tiles, from the top; rows may differ in length -/
abbrev TileGrid := List (List Tile)

namespace TileGrid

/-- the next `n` tiles -/
def drawRow : Nat → Twister → List Tile × Twister
  | 0, g => ([], g)
  | n + 1, g =>
    let (roll, g) := g.nextReal
    let (row, g) := drawRow n g
    (Tile.ofRoll roll :: row, g)

/-- the next `h` rows of `w` tiles -/
def drawRows (w : Nat) : Nat → Twister → TileGrid × Twister
  | 0, g => ([], g)
  | h + 1, g =>
    let (row, g) := drawRow w g
    let (rows, g) := drawRows w h g
    (row :: rows, g)

/-- a map of the given size; a negative size counts as zero -/
def draw (width height : Int) (g : Twister) : TileGrid × Twister := drawRows width.toNat height.toNat g

/-- the tile at column x of row y -/
def tileAt (tiles : TileGrid) (x y : Int) : Option Tile :=
  if x < 0 ∨ y < 0 then none else (tiles[y.toNat]?).bind (·[x.toNat]?)

end TileGrid

/-- the tile index that a coordinate lies on: the nearest integer, a half going up -/
def nearestTile (v : Float) : Except Binary64.NotWhole Int := Binary64.floor (v + 0.5)

end TileCrew
