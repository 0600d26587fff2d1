/-
The map as lines of glyphs. Every tile has a glyph and a style; an agent stands over the tile that its rounded position
lies on, with its initial in upper case and the style of its colour. Of several on one tile the last is seen, agents off
the map are not.
-/
import TileCrew.View.Style
import TileCrew.View.Tree
import TileCrew.World.Snapshot

namespace TileCrew

/-- what is seen in one place of the map -/
structure Cell where
  glyph : Text
  style : Text
deriving DecidableEq, Repr

namespace MapLines

def ofTile : Tile → Cell
  | .grass => ⟨",", "green3"⟩
  | .sand => ⟨".", "yellow"⟩
  | .stone => ⟨"^", "grey50"⟩
  | .water => ⟨"~", "blue"⟩

/-- the column and the row of the tile that an agent stands on -/
def cellOf (a : AgentView) : Except Fault (Int × Int) :=
  let place : Except Binary64.NotWhole (Int × Int) := do
    let x ← nearestTile a.x
    let y ← nearestTile a.y
    return (x, y)
  place.mapError .notWhole

/-- the tile that an agent stands on, none off the map -/
def tileUnder (tiles : TileGrid) (a : AgentView) : Except Fault (Option Tile) :=
  (cellOf a).map fun p => tiles.tileAt p.1 p.2

/-- the glyph of an agent: its initial in upper case, an at sign for one without a name -/
def initial (name : Text) : Text :=
  match name.letters with
  | [] => "@"
  | l :: _ => ⟨l.image Text.upperChar⟩

abbrev Grid := List (List Cell)

def Grid.holds (g : Grid) (x y : Int) : Bool :=
  0 ≤ x && 0 ≤ y && ((g[y.toNat]?).bind (·[x.toNat]?)).isSome

/-- a cell put in place of another -/
def Grid.put (g : Grid) (x y : Nat) (c : Cell) : Grid := g.modify y fun (row : List Cell) => row.set x c

/-- an agent put over the tile that it stands on, if it is on the grid -/
def overlay (g : Grid) (a : AgentView) : Except Fault Grid := do
  let (x, y) ← cellOf a
  if g.holds x y then
    let style ← Style.agentStyle a.color
    return g.put x.toNat y.toNat ⟨initial a.name, style⟩
  else return g

/-- the map with its agents on it -/
def grid (tiles : TileGrid) (agents : List AgentView) : Except Fault Grid :=
  agents.foldlM overlay (tiles.map fun (row : List Tile) => row.map ofTile)

def lineOf (row : List Cell) : StyledText := row.foldl (fun (t : StyledText) c => t.append c.glyph c.style) ⟨"", "", []⟩

def render (tiles : TileGrid) (agents : List AgentView) : Except Fault (List StyledText) :=
  (grid tiles agents).map fun g => g.map lineOf

end MapLines

end TileCrew
