import Boardcraft.Drawing
import Boardcraft.Game.Command

/-!
# What a session shows

The lines, panels and prompts that a session puts on the screen, as data with markup, and the form
in which outcomes, boards and patterns are shown.
-/

namespace Boardcraft

/-- What a panel holds: text with markup, or text to be shown as it is. -/
inductive Body where
  | markup (text : Text)
  | plain (text : Text)
  deriving DecidableEq, Repr

def Body.text : Body → Text
  | markup text => text
  | plain text => text

/-- The control codes on which a screen would act instead of showing them: bell, backspace,
vertical tab, form feed and carriage return. -/
def Body.controlCodes : List CodePoint := ['\x07', '\x08', '\x0b', '\x0c', '\r']

/-- What a panel holds that shows a text as it is.  Control codes are left out. -/
def Body.ofText (text : Text) : Body :=
  .plain ⟨text.points.filter fun c => !controlCodes.contains c⟩

structure Panel where
  body : Body
  title : Option Text := none
  subtitle : Option Text := none
  borderStyle : String
  expand : Bool := false
  deriving DecidableEq, Repr

inductive Item where
  | line (markup : Text)
  | panel (panel : Panel)
  | prompt (markup : Text)
  deriving DecidableEq, Repr

namespace Screen

/-! ## Messages -/

def error (message : Text) : Item := .line ("[red]Error:[/] " ++ message)

def commandHelp : String :=
  "move <x1> <y1> <x2> <y2> | attack <x1> <y1> <x2> <y2> | " ++
    "showmove <x> <y> | showattack <x> <y> | legal <x> <y> | pattern <x> <y> | exit"

def help : Item := .line ("[yellow]Commands:[/] " ++ commandHelp)

/-! ## Boards -/

def view (g : Game) (marked : List Square) (marker : Text) (selected : Option Square) :
    Drawing.View :=
  { width := g.board.width, height := g.board.height,
    emoji := fun s => (g.board.pieceAt s).map fun n => (g.piece n).emoji,
    marked := .ofList marked, marker, selected }

def drawBoard (g : Game) (marked : List Square := []) (marker : Text := "M")
    (selected : Option Square := none) : Text :=
  Drawing.board (view g marked marker selected)

/-- The board, and whose turn it is once the game has begun. -/
def board (g : Game) : List Item :=
  .panel { body := .ofText (drawBoard g), borderStyle := "dim" } ::
    match g.toMove with
    | some team =>
        [.line ("[dim]Turn " ++ toString g.turn ++ ":[/] [bold]" ++ team.word ++ "[/] to move")]
    | none => []

inductive Pattern where
  | movement
  | attack
  deriving DecidableEq, Repr

def Pattern.marker : Pattern → String
  | movement => "M"
  | attack => "A"

def Pattern.word : Pattern → String
  | movement => "movement"
  | attack => "attack"

def pattern (g : Game) (n : PieceNumber) (targets : List Square) (p : Pattern) : Item :=
  .panel
    { body := .ofText (drawBoard g targets p.marker (some (g.squareOf n))),
      title := some ("[bold]" ++ (g.piece n).name ++ "[/] " ++ p.word ++ " pattern"),
      subtitle := some ("[dim]" ++ p.marker ++ "=target  X=selected[/]"), borderStyle := "cyan" }

def offsetPanel (piece : Piece) (p : Pattern) (offsets : List Square) : Item :=
  .panel
    { body := .ofText (Drawing.offsets offsets),
      title := some ("[bold]" ++ piece.name ++ "[/] " ++ p.word ++ " offsets"),
      subtitle := some "[dim]X=piece  ■=offset[/]", borderStyle := "magenta" }

def offsets (piece : Piece) : List Item :=
  [offsetPanel piece .movement piece.movement, offsetPanel piece .attack piece.attack]

/-! ## Outcomes -/

/-- The form of an outcome.  The time at which a game begins is given as text. -/
def outcome (time : Text) : Outcome → List Item
  | .started first count =>
      [.panel
        { body := .markup (toString count ++ " pieces on the board, [bold]" ++ first.word ++
            "[/] moves first\n[dim]" ++ time ++ "[/]"),
          title := some "[bold green] Chess Playground [/]", borderStyle := "green" }]
  | .moved id name _ origin destination _ =>
      [.line ("  [green]✓[/] " ++ name ++ " [dim](" ++ id ++ ")[/] " ++ origin.text ++
        " → [bold]" ++ destination.text ++ "[/]")]
  | .acted id action target targetId captured _ =>
      [.line ("  [green]✓[/] " ++ id ++ " " ++ action ++ " → " ++ target.text ++ " [dim](" ++
        targetId.getD "empty square" ++ ")[/]" ++
        (if captured then "  [bold red]captured![/]" else ""))]
  | .refused command _ target refusal =>
      [.line ("  [red]✗[/] " ++ command.word ++ " to " ++ target.text ++ " rejected: [yellow]" ++
        (refusal.reason : Text).replace '_' ' ' ++ "[/] [dim]— " ++ refusal.detail ++ "[/]")]
  | .over winner loser turn =>
      [.line "",
       .panel
        { body := .markup ("Winner: [bold]" ++ winner.word ++ "[/]\n[dim]" ++ loser.plain ++
            " lost their king on turn " ++ toString turn ++ "[/]"),
          title := some "[bold]Game Over[/]", borderStyle := "yellow" }]

end Screen

end Boardcraft
