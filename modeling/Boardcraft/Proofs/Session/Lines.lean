import Boardcraft.Proofs.Game.Agreement
import Boardcraft.Proofs.Game.Alternation
import Boardcraft.Proofs.Game.Victory
import Boardcraft.Proofs.Text.Numeral
import Boardcraft.Session.Command

/-!
# What a line does to a game

A line of a session is an order to a piece if it says so, in words that all have a meaning, and a
piece stands on its first square.  Every other line leaves the game as it was: it asks something,
leaves the session or cannot be understood.

With built-in rules an order is carried out or refused, and its refusal names squares that the line
has named, or squares between them.  So handling a line fails in one way only: a question about legal
squares has every refusal put into words, and a square off the board may have a coordinate with more
digits than can be written.

## Main statements

* `after_handle_of_order` and `after_handle_of_no_order` say what becomes of the game;
* `handle_eq_error_iff` says when handling a line fails.
-/

namespace Boardcraft
namespace Session

variable {line : Text} {g : Game}

/-!
## What a line says
-/

/-- A line begins with a word, whatever its case, and goes on with numerals for some numbers. -/
def Says (line : Text) (word : String) (numbers : List Int) : Prop :=
  ∃ first args, line.words = first :: args ∧ first.lower = word ∧
    args.mapM Text.readInt? = some numbers

def Leaves (line : Text) : Prop :=
  ∃ first args, line.words = first :: args ∧ (first.lower = "exit" ∨ first.lower = "quit")

theorem isWritable_of_mapM_readInt? {args : List Text} {numbers : List Int}
    (h : args.mapM Text.readInt? = some numbers) : ∀ n ∈ numbers, Text.isWritable n = true := by
  induction args generalizing numbers with
  | nil =>
      cases h
      exact List.forall_mem_nil _
  | cons first rest ih =>
      rw [List.mapM_cons] at h
      rcases Option.bind_eq_some_iff.1 h with ⟨n, hfirst, h⟩
      rcases Option.bind_eq_some_iff.1 h with ⟨others, hrest, h⟩
      cases h
      exact List.forall_mem_cons.2 ⟨Text.isWritable_of_readInt? hfirst, ih hrest⟩

theorem Says.isWritable {word : String} {numbers : List Int} (h : Says line word numbers) :
    ∀ n ∈ numbers, Text.isWritable n = true := by
  rcases h with ⟨_, _, _, _, hread⟩
  exact isWritable_of_mapM_readInt? hread

theorem Says.squares_isWritable {word : String} {x y x' y' : Int}
    (h : Says line word [x, y, x', y']) :
    (⟨x, y⟩ : Square).isWritable = true ∧ (⟨x', y'⟩ : Square).isWritable = true := by
  have hall := h.isWritable
  simp only [List.forall_mem_cons] at hall
  rcases hall with ⟨hx, hy, hx', hy', _⟩
  exact ⟨Bool.and_eq_true_iff.2 ⟨hx, hy⟩, Bool.and_eq_true_iff.2 ⟨hx', hy'⟩⟩

theorem ofTwo_eq_of_read {make : Square → Square → LineCommand} {args : List Text}
    {x y x' y' : Int} (h : args.mapM Text.readInt? = some [x, y, x', y']) :
    LineCommand.ofTwo make args = make ⟨x, y⟩ ⟨x', y'⟩ := by
  unfold LineCommand.ofTwo LineCommand.twoSquares?
  rw [h]

theorem ofTwo_cases (make : Square → Square → LineCommand) (args : List Text) :
    (∃ x y x' y', args.mapM Text.readInt? = some [x, y, x', y'] ∧
      LineCommand.ofTwo make args = make ⟨x, y⟩ ⟨x', y'⟩) ∨
    LineCommand.ofTwo make args = .help := by
  unfold LineCommand.ofTwo LineCommand.twoSquares?
  split
  · next origin target h =>
      split at h
      · next x y x' y' hread =>
          cases h
          exact Or.inl ⟨x, y, x', y', hread, rfl⟩
      · cases h
  · exact Or.inr rfl

theorem ofOne_eq_of_read {make : Square → LineCommand} {args : List Text} {x y : Int}
    (h : args.mapM Text.readInt? = some [x, y]) : LineCommand.ofOne make args = make ⟨x, y⟩ := by
  unfold LineCommand.ofOne LineCommand.oneSquare?
  rw [h]

theorem ofOne_cases (make : Square → LineCommand) (args : List Text) :
    (∃ x y, args.mapM Text.readInt? = some [x, y] ∧
      LineCommand.ofOne make args = make ⟨x, y⟩) ∨ LineCommand.ofOne make args = .help := by
  unfold LineCommand.ofOne LineCommand.oneSquare?
  split
  · next square h =>
      split at h
      · next x y hread =>
          cases h
          exact Or.inl ⟨x, y, hread, rfl⟩
      · cases h
  · exact Or.inr rfl

/-- What can be read from a line, and what the line says then. -/
inductive Reads (line : Text) : LineCommand → Prop
  | blank : Reads line .blank
  | exit (leaves : Leaves line) : Reads line .exit
  | help : Reads line .help
  | move {x y x' y' : Int} (said : Says line "move" [x, y, x', y']) :
      Reads line (.move ⟨x, y⟩ ⟨x', y'⟩)
  | attack {x y x' y' : Int} (said : Says line "attack" [x, y, x', y']) :
      Reads line (.attack ⟨x, y⟩ ⟨x', y'⟩)
  | showMoves (s : Square) : Reads line (.showMoves s)
  | showAttacks (s : Square) : Reads line (.showAttacks s)
  | showLegal {x y : Int} (said : Says line "legal" [x, y]) : Reads line (.showLegal ⟨x, y⟩)
  | showOffsets (s : Square) : Reads line (.showOffsets s)

theorem reads_ofTwo {make : Square → Square → LineCommand} {word : String} {first : Text}
    {args : List Text} (hwords : line.words = first :: args) (hfirst : first.lower = word)
    (h : ∀ x y x' y', Says line word [x, y, x', y'] → Reads line (make ⟨x, y⟩ ⟨x', y'⟩)) :
    Reads line (LineCommand.ofTwo make args) := by
  rcases ofTwo_cases make args with ⟨x, y, x', y', hread, heq⟩ | heq
  · rw [heq]
    exact h x y x' y' ⟨first, args, hwords, hfirst, hread⟩
  · rw [heq]
    exact .help

theorem reads_ofOne {make : Square → LineCommand} {word : String} {first : Text}
    {args : List Text} (hwords : line.words = first :: args) (hfirst : first.lower = word)
    (h : ∀ x y, Says line word [x, y] → Reads line (make ⟨x, y⟩)) :
    Reads line (LineCommand.ofOne make args) := by
  rcases ofOne_cases make args with ⟨x, y, hread, heq⟩ | heq
  · rw [heq]
    exact h x y ⟨first, args, hwords, hfirst, hread⟩
  · rw [heq]
    exact .help

theorem reads_ofLine (line : Text) : Reads line (.ofLine line) := by
  unfold LineCommand.ofLine
  split
  · exact .blank
  · next first args hwords =>
      split
      · next hfirst =>
          exact .exit ⟨first, args, hwords, Or.inl (Text.string?_eq_some_iff.1 hfirst)⟩
      · next hfirst =>
          exact .exit ⟨first, args, hwords, Or.inr (Text.string?_eq_some_iff.1 hfirst)⟩
      · next hfirst =>
          exact reads_ofTwo hwords (Text.string?_eq_some_iff.1 hfirst) fun _ _ _ _ => .move
      · next hfirst =>
          exact reads_ofTwo hwords (Text.string?_eq_some_iff.1 hfirst) fun _ _ _ _ => .attack
      · next hfirst =>
          exact reads_ofOne hwords (Text.string?_eq_some_iff.1 hfirst) fun _ _ _ => .showMoves _
      · next hfirst =>
          exact reads_ofOne hwords (Text.string?_eq_some_iff.1 hfirst) fun _ _ _ => .showAttacks _
      · next hfirst =>
          exact reads_ofOne hwords (Text.string?_eq_some_iff.1 hfirst) fun _ _ => .showLegal
      · next hfirst =>
          exact reads_ofOne hwords (Text.string?_eq_some_iff.1 hfirst) fun _ _ _ => .showOffsets _
      · exact .help

theorem ofLine_of_move {x y x' y' : Int} (h : Says line "move" [x, y, x', y']) :
    LineCommand.ofLine line = .move ⟨x, y⟩ ⟨x', y'⟩ := by
  rcases h with ⟨first, args, hwords, hfirst, hread⟩
  simp only [LineCommand.ofLine, hwords, hfirst, Text.string?_ofString]
  exact ofTwo_eq_of_read hread

theorem ofLine_of_attack {x y x' y' : Int} (h : Says line "attack" [x, y, x', y']) :
    LineCommand.ofLine line = .attack ⟨x, y⟩ ⟨x', y'⟩ := by
  rcases h with ⟨first, args, hwords, hfirst, hread⟩
  simp only [LineCommand.ofLine, hwords, hfirst, Text.string?_ofString]
  exact ofTwo_eq_of_read hread

theorem ofLine_of_legal {x y : Int} (h : Says line "legal" [x, y]) :
    LineCommand.ofLine line = .showLegal ⟨x, y⟩ := by
  rcases h with ⟨first, args, hwords, hfirst, hread⟩
  simp only [LineCommand.ofLine, hwords, hfirst, Text.string?_ofString]
  exact ofOne_eq_of_read hread

theorem ofLine_of_leaves (h : Leaves line) : LineCommand.ofLine line = .exit := by
  rcases h with ⟨first, args, hwords, hfirst | hfirst⟩
  · simp only [LineCommand.ofLine, hwords, hfirst, Text.string?_ofString]
  · simp only [LineCommand.ofLine, hwords, hfirst, Text.string?_ofString]

/-!
## What a line asks for
-/

/-- A line orders the piece on its first square to move to its second or to attack it. -/
inductive Orders (g : Game) (line : Text) : PieceOrder → Prop
  | move {x y x' y' : Int} {n : PieceNumber} (said : Says line "move" [x, y, x', y'])
      (stands : g.board.pieceAt ⟨x, y⟩ = some n) : Orders g line (.move (g.piece n).id ⟨x', y'⟩)
  | attack {x y x' y' : Int} {n : PieceNumber} (said : Says line "attack" [x, y, x', y'])
      (stands : g.board.pieceAt ⟨x, y⟩ = some n) :
      Orders g line (.act (g.piece n).id ⟨x', y'⟩ "attack")

/-- A line asks for the legal squares of a piece, one of whose moves or attacks is refused without
words. -/
def AsksTooMuch (g : Game) (line : Text) : Prop :=
  ∃ x y n, Says line "legal" [x, y] ∧ g.board.pieceAt ⟨x, y⟩ = some n ∧
    (g.movesTellable n && g.targetsTellable n) = false

/-!
## Orders
-/

section Orders

variable {square : Square} {n : PieceNumber}

theorem showingFailures_of_ok {m : GameM Answer} {answer : Answer} {g' : Game}
    (h : m g = .ok answer g') : showingFailures m g = .ok answer g' := by
  unfold showingFailures
  rw [h]

theorem order_of_vacant (h : g.board.pieceAt square = none)
    (command : Text → GameM (List Outcome)) :
    Session.order square command g = .ok (noPiece square) g := by
  unfold Session.order
  rw [Game.get_bind, h]
  rfl

theorem order_of_ok (make : Text → PieceOrder) {outcomes : List Outcome} {g' : Game}
    (stands : g.board.pieceAt square = some n)
    (hrun : (make (g.piece n).id).carryOut g = .ok outcomes g') :
    Session.order square (fun id => (make id).carryOut) g =
      .ok (outcomes.flatMap (Screen.outcome "") ++ Screen.board g', true) g' := by
  unfold Session.order
  rw [Game.get_bind, stands]
  exact showingFailures_of_ok (Game.bind_of_eq_ok _ hrun)

theorem isTellable_of_moveRefusal {target : Square} {refusal : Refusal}
    (hrefusal : g.moveRefusal n target = some refusal)
    (horigin : (g.squareOf n).isWritable = true) (htarget : target.isWritable = true) :
    refusal.isTellable = true := by
  refine Game.isTellable_of_squares fun s hs => ?_
  rcases Game.mem_squares_of_moveRefusal hrefusal hs with rfl | ⟨hbetween, _⟩
  · exact htarget
  · exact Square.isWritable_of_mem_between horigin htarget hbetween

theorem isTellable_of_actionRefusal {target : Square} {action : Text} {refusal : Refusal}
    (hrefusal : g.actionRefusal n target action = some refusal)
    (htarget : target.isWritable = true) : refusal.isTellable = true := by
  refine Game.isTellable_of_squares fun s hs => ?_
  rw [Game.mem_squares_of_actionRefusal hrefusal hs]
  exact htarget

theorem carryOut_eq_ok (h : Game.NeatlyReached g) {order : PieceOrder}
    (hline : Orders g line order) : ∃ outcomes g', order.carryOut g = .ok outcomes g' := by
  have haccount := h.plainly.accounted
  have hbuiltIn := h.plainly.builtIn
  have hgrounded := h.plainly.grounded
  cases hline with
  | @move x y x' y' n said stands =>
      have hfind := haccount.numbered.find?_id (hgrounded.inPlay _ n stands)
      rcases Game.move_of_builtIn haccount hbuiltIn (g.piece n).id ⟨x', y'⟩ with
        ⟨refusal, hrun⟩ | ⟨m, refusal, hordered, hrefusal, huntold, _⟩ |
          ⟨m, hordered, hlegal, hrun⟩
      · exact ⟨_, _, hrun⟩
      · rw [hfind] at hordered
        cases hordered
        rcases said.squares_isWritable with ⟨horigin, htarget⟩
        rw [← hgrounded.square _ n stands] at horigin
        rw [isTellable_of_moveRefusal hrefusal horigin htarget] at huntold
        cases huntold
      · have hheld := h.settled.held m (Game.mem_inPlay_iff.2 ⟨_, hordered⟩)
        exact ⟨_, _, hrun.trans (Game.carryOutMove_of_builtIn haccount hbuiltIn m hheld
          (Game.holds_of_moveRefusal hlegal))⟩
  | @attack x y x' y' n said stands =>
      have hends := Game.actEnds h.plainly (g.piece n).id ⟨x', y'⟩ "attack"
      change ∃ outcomes g', Game.act (g.piece n).id ⟨x', y'⟩ "attack" g = .ok outcomes g'
      generalize Game.act (g.piece n).id ⟨x', y'⟩ "attack" g = result at hends ⊢
      cases hends with
      | untold _ hrefusal huntold =>
          rw [isTellable_of_actionRefusal hrefusal said.squares_isWritable.2] at huntold
          cases huntold
      | forbidden | refused | spared | captured | won => exact ⟨_, _, rfl⟩

theorem handle_of_order (h : Game.NeatlyReached g) {order : PieceOrder}
    (hline : Orders g line order) :
    ∃ items outcomes g', order.carryOut g = .ok outcomes g' ∧
      handle line g = .ok (items, true) g' := by
  rcases carryOut_eq_ok h hline with ⟨outcomes, g', hrun⟩
  refine ⟨outcomes.flatMap (Screen.outcome "") ++ Screen.board g', outcomes, g', hrun, ?_⟩
  unfold handle
  cases hline with
  | @move x y x' y' n said stands =>
      rw [ofLine_of_move said]
      exact order_of_ok (.move · ⟨x', y'⟩) stands hrun
  | @attack x y x' y' n said stands =>
      rw [ofLine_of_attack said]
      exact order_of_ok (.act · ⟨x', y'⟩ "attack") stands hrun

end Orders

/-!
## Questions
-/

section Questions

variable {square : Square} {n : PieceNumber}

theorem inspect_of_vacant (h : g.board.pieceAt square = none)
    (look : Game → PieceNumber → GameM (List Item)) :
    inspect square look g = .ok (noPiece square) g := by
  unfold inspect
  rw [Game.get_bind, h]
  rfl

theorem inspect_of_ok {look : Game → PieceNumber → GameM (List Item)} {items : List Item}
    (stands : g.board.pieceAt square = some n) (hlook : look g n g = .ok items g) :
    inspect square look g = .ok (items, true) g := by
  unfold inspect
  rw [Game.get_bind, stands]
  exact showingFailures_of_ok (Game.bind_of_eq_ok _ hlook)

theorem inspect_of_oversized {look : Game → PieceNumber → GameM (List Item)}
    (stands : g.board.pieceAt square = some n) (hlook : look g n g = .error .oversizedNumber g) :
    inspect square look g = .error .oversizedNumber g := by
  have hrun : (look g n >>= fun items => pure (items, true) : GameM Answer) g =
      .error .oversizedNumber g := Game.bind_of_eq_error _ hlook
  unfold inspect
  rw [Game.get_bind, stands]
  show showingFailures _ g = _
  unfold showingFailures
  rw [hrun]

theorem showLegal_eq (h : Game.PlainlyReached g) (hn : n ∈ g.inPlay) :
    showLegal n g =
      if g.movesTellable n && g.targetsTellable n then
        .ok [Screen.pattern g n (g.reachable n) .movement,
          Screen.pattern g n (g.targetable n) .attack] g
      else .error .oversizedNumber g := by
  have hmoves := Game.legalMoves_of_builtIn h.accounted h.builtIn hn
  have htargets := Game.legalTargets_of_builtIn h.accounted h.builtIn hn Game.usualAction
  unfold showLegal
  cases htold : g.movesTellable n with
  | false =>
      rw [htold, if_neg Bool.false_ne_true] at hmoves
      exact Game.bind_of_eq_error _ hmoves
  | true =>
      rw [htold, if_pos rfl] at hmoves
      rw [Game.bind_of_eq_ok _ hmoves, Bool.true_and]
      cases htold' : g.targetsTellable n with
      | false =>
          rw [htold', if_neg Bool.false_ne_true] at htargets
          exact Game.bind_of_eq_error _ htargets
      | true =>
          rw [htold', if_pos rfl] at htargets
          rw [Game.bind_of_eq_ok _ htargets]
          rfl

theorem handle_of_asksTooMuch (h : Game.PlainlyReached g) (hline : AsksTooMuch g line) :
    handle line g = .error .oversizedNumber g := by
  rcases hline with ⟨x, y, n, said, stands, hdumb⟩
  have hrun := showLegal_eq h (h.grounded.inPlay _ n stands)
  rw [hdumb, if_neg Bool.false_ne_true] at hrun
  unfold handle
  rw [ofLine_of_legal said]
  exact inspect_of_oversized stands hrun

end Questions

theorem handle_of_leaves (h : Leaves line) (g : Game) : handle line g = .ok ([], false) g := by
  unfold handle
  rw [ofLine_of_leaves h]
  rfl

/-!
## All lines
-/

/-- What a line that leaves the game alone may have for an answer. -/
inductive Tells (g : Game) : List Item → Prop
  | nothing : Tells g []
  | help : Tells g [Screen.help]
  | vacant (s : Square) : Tells g (noPiece s).1
  | pattern {n : PieceNumber} (inPlay : n ∈ g.inPlay) (targets : List Square)
      (p : Screen.Pattern) : Tells g [Screen.pattern g n targets p]
  | legal {n : PieceNumber} (inPlay : n ∈ g.inPlay) (moves targets : List Square) :
      Tells g [Screen.pattern g n moves .movement, Screen.pattern g n targets .attack]
  | offsets {n : PieceNumber} (inPlay : n ∈ g.inPlay) : Tells g (Screen.offsets (g.piece n))

inductive LineEnds (g : Game) (line : Text) : EStateM.Result GameError Game Answer → Prop
  | left (leaves : Leaves line) : LineEnds g line (.ok ([], false) g)
  | ordered {order : PieceOrder} {outcomes : List Outcome} {g' : Game}
      (ordered : Orders g line order) (carriedOut : order.carryOut g = .ok outcomes g') :
      LineEnds g line (.ok (outcomes.flatMap (Screen.outcome "") ++ Screen.board g', true) g')
  | told {items : List Item} (tells : Tells g items) : LineEnds g line (.ok (items, true) g)
  | overwhelmed (asks : AsksTooMuch g line) : LineEnds g line (.error .oversizedNumber g)

theorem lineEnds_order (h : Game.NeatlyReached g) {square : Square} (make : Text → PieceOrder)
    (hline : ∀ n, g.board.pieceAt square = some n → Orders g line (make (g.piece n).id)) :
    LineEnds g line (Session.order square (fun id => (make id).carryOut) g) := by
  cases stands : g.board.pieceAt square with
  | none =>
      rw [order_of_vacant stands]
      exact .told (.vacant square)
  | some n =>
      rcases carryOut_eq_ok h (hline n stands) with ⟨outcomes, g', hrun⟩
      rw [order_of_ok make stands hrun]
      exact .ordered (hline n stands) hrun

theorem lineEnds_shown (h : Game.PlainlyReached g) (square : Square)
    (items : Game → PieceNumber → List Item)
    (hitems : ∀ n ∈ g.inPlay, Tells g (items g n)) :
    LineEnds g line (inspect square (fun g n => pure (items g n)) g) := by
  cases stands : g.board.pieceAt square with
  | none =>
      rw [inspect_of_vacant stands]
      exact .told (.vacant square)
  | some n =>
      rw [inspect_of_ok stands rfl]
      exact .told (hitems n (h.grounded.inPlay square n stands))

theorem lineEnds_showLegal (h : Game.PlainlyReached g) {x y : Int}
    (said : Says line "legal" [x, y]) :
    LineEnds g line (inspect ⟨x, y⟩ (fun _ n => showLegal n) g) := by
  cases stands : g.board.pieceAt ⟨x, y⟩ with
  | none =>
      rw [inspect_of_vacant stands]
      exact .told (.vacant ⟨x, y⟩)
  | some n =>
      have hn := h.grounded.inPlay _ n stands
      have hrun := showLegal_eq h hn
      cases htold : g.movesTellable n && g.targetsTellable n with
      | true =>
          rw [htold, if_pos rfl] at hrun
          rw [inspect_of_ok stands hrun]
          exact .told (.legal hn _ _)
      | false =>
          rw [htold, if_neg Bool.false_ne_true] at hrun
          rw [inspect_of_oversized stands hrun]
          exact .overwhelmed ⟨x, y, n, said, stands, htold⟩

theorem lineEnds (h : Game.NeatlyReached g) (line : Text) : LineEnds g line (handle line g) := by
  have hreads := reads_ofLine line
  unfold handle
  generalize LineCommand.ofLine line = command at hreads
  cases hreads with
  | blank => exact .told .nothing
  | exit leaves => exact .left leaves
  | help => exact .told .help
  | @move x y x' y' said =>
      exact lineEnds_order h (.move · ⟨x', y'⟩) fun _ stands => .move said stands
  | @attack x y x' y' said =>
      exact lineEnds_order h (.act · ⟨x', y'⟩ "attack") fun _ stands => .attack said stands
  | showLegal said => exact lineEnds_showLegal h.plainly said
  | showMoves s => exact lineEnds_shown h.plainly s _ fun _ hn => .pattern hn _ .movement
  | showAttacks s => exact lineEnds_shown h.plainly s _ fun _ hn => .pattern hn _ .attack
  | showOffsets s => exact lineEnds_shown h.plainly s _ fun _ hn => .offsets hn

/-- Handling a line fails only if the line asks for squares that cannot be told, and then leaves the
game as it was. -/
theorem handle_eq_error_iff (h : Game.NeatlyReached g) {e : GameError} {g' : Game} :
    handle line g = .error e g' ↔ AsksTooMuch g line ∧ e = .oversizedNumber ∧ g' = g := by
  constructor
  · intro hrun
    have hends := lineEnds h line
    rw [hrun] at hends
    cases hends with
    | overwhelmed asks => exact ⟨asks, rfl, rfl⟩
  · rintro ⟨asks, rfl, rfl⟩
    exact handle_of_asksTooMuch h.plainly asks

theorem goesOn_eq_false_iff (h : Game.NeatlyReached g) {items : List Item} {goesOn : Bool}
    {g' : Game} (hrun : handle line g = .ok (items, goesOn) g') :
    goesOn = false ↔ Leaves line := by
  constructor
  · intro hstop
    have hends := lineEnds h line
    rw [hrun, hstop] at hends
    cases hends with
    | left leaves => exact leaves
  · intro leaves
    rw [handle_of_leaves leaves] at hrun
    cases hrun
    rfl

/-- An order changes the game as the one call does that carries it out. -/
theorem after_handle_of_order (h : Game.NeatlyReached g) {order : PieceOrder}
    (hline : Orders g line order) :
    ∃ outcomes, order.carryOut g = .ok outcomes (g.after (handle line)) := by
  rcases handle_of_order h hline with ⟨items, outcomes, g', hrun, heq⟩
  rw [Game.after_of_eq_ok heq]
  exact ⟨outcomes, hrun⟩

/-- A line that is no order to a piece leaves the game as it was. -/
theorem after_handle_of_no_order (h : Game.NeatlyReached g)
    (hline : ∀ order, ¬ Orders g line order) : g.after (handle line) = g := by
  have hends := lineEnds h line
  generalize hrun : handle line g = result at hends
  cases hends with
  | left _ => exact Game.after_of_eq_ok hrun
  | ordered ordered _ => exact absurd ordered (hline _)
  | told _ => exact Game.after_of_eq_ok hrun
  | overwhelmed _ => exact Game.after_of_eq_error hrun

theorem neatlyReached_after_handle (h : Game.NeatlyReached g) (line : Text) :
    Game.NeatlyReached (g.after (handle line)) := by
  by_cases hline : ∃ order, Orders g line order
  · rcases hline with ⟨order, hline⟩
    rcases after_handle_of_order h hline with ⟨outcomes, hrun⟩
    rw [← Game.after_of_eq_ok hrun, ← Game.after_order]
    apply h.perform
    cases order <;> exact trivial
  · rw [after_handle_of_no_order h fun order hordered => hline ⟨order, hordered⟩]
    exact h

end Session
end Boardcraft
