import Boardcraft.Ability.Basic
import Boardcraft.Grid.Square
import Boardcraft.Team

/-!
# Pieces

What a piece is and stays from the moment it is made.  Where it stands is known to the board, and
which effects it is under to the game.
-/

namespace Boardcraft

structure Piece where
  id : Text
  name : Text := ""
  emoji : Text := ""
  team : Team := .white
  /-- What abilities call the team in their notes.  A piece that takes part in no game may bear any
  mark in place of the word for its team. -/
  teamMark : Value := .str team.word
  /-- The offsets of the squares to which the piece may move. -/
  movement : List Square := []
  /-- The offsets of the squares upon which the piece may act. -/
  attack : List Square := []
  abilities : List Ability := []
  deriving Inhabited

namespace Piece

def text (p : Piece) (square : Square) : String :=
  "Piece(" ++ p.id.quoted ++ ", " ++ p.name.quoted ++ ", team=" ++
    Text.quoted p.team.word ++ ", at=" ++ square.text ++ ")"

end Piece

end Boardcraft
