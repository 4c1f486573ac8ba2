import Boardcraft.Game.Status
import Boardcraft.Text.Case

/-!
# Pieces in play

Bringing pieces into a game and taking them out of it.  A piece that comes into play lets its
abilities listen; one that leaves takes them, and those of the effects on it, away again.
-/

namespace Boardcraft

namespace Game

/-! ## Entering -/

def slug (name : Text) : Text := name.lower.replace ' ' '_'

/-- The offsets of a shape for a team: black faces south. -/
def orient (team : Team) (offsets : List Square) : List Square :=
  match team with
  | .white => offsets
  | .black => Offsets.flipVertical offsets

def compileShape (source : ShapeSource) : GameM (List Square) :=
  match source.read with
  | .ok shape => pure shape.compile
  | .error e => throw (.badShape e)

/-- Makes a piece from a blueprint, for the team that a value names.  The piece is numbered only
once everything it is made of is sound. -/
def makePiece (blueprint : Blueprint) (team : Value) : GameM PieceNumber := do
  match Team.ofValue? team with
  | none => throw (.badTeam team)
  | some team =>
      let movement ← compileShape blueprint.movement
      let attack ← compileShape blueprint.attack
      let n := (← get).pieceCount + 1
      let abilities ← makeAbilities n blueprint.abilities
      let id := team.word ++ "-" ++ slug blueprint.name ++ "-" ++ toString n
      let piece : Piece :=
        { id, name := blueprint.name, emoji := blueprint.emoji, team,
          movement := orient team movement, attack := orient team attack, abilities }
      modify fun g => { g with pieces := g.pieces.insert n piece, pieceCount := n }
      return n

def addPiece (blueprint : Blueprint) (team : Value) (square : Square) : GameM PieceNumber := do
  let n ← makePiece blueprint team
  place n square
  modify fun g =>
    let g := g.subscribeAll (g.piece n).abilities
    { g with roster := g.roster.insert (g.piece n).id n }
  return n

/-- An entry of a layout as it is asked for: the team may turn out to be none. -/
structure Entry where
  blueprint : Text
  team : Value
  square : Square

def Entry.ofPlacement (p : Placement) : Entry := ⟨p.blueprint, .str p.team.word, p.square⟩

def setup (blueprints : Table Text Blueprint) : List Entry → GameM Unit
  | [] => pure ()
  | e :: rest => do
      match blueprints.find? e.blueprint with
      | none => throw (.unknownBlueprint e.blueprint)
      | some blueprint =>
          let _ ← addPiece blueprint e.team e.square
          setup blueprints rest

def setupNamed (blueprints : Table Text Blueprint) (layout : LayoutName) : GameM Unit := do
  let b := (← get).board
  match layout.placements b.width b.height with
  | .ok placements => setup blueprints (placements.map .ofPlacement)
  | .error e => throw (.smallBoard e)

/-! ## Leaving -/

/-- Takes the piece with an id out of play, whose square is cleared. -/
def removePiece (id : Text) : GameM PieceNumber := do
  let n ← require id
  modify fun g =>
    let g := { g with roster := g.roster.erase id }
    (g.unsubscribeAll (g.piece n).abilities).clearStatuses n
  let _ ← clearSquare ((← get).squareOf n)
  return n

end Game

end Boardcraft
