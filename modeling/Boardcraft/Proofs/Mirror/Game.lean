import Boardcraft.Proofs.Game.Changes
import Boardcraft.Proofs.Mirror.Board
import Mathlib.Data.List.Basic

/-!
# Games in the mirror

The image of a game under which the board is turned upside down and the teams trade places.  A piece
keeps its number, and with it everything that goes by number: the abilities, the effects, and who
listens to what.  Ids begin with the word for the team, which is replaced.

## Contents

The images of everything that enters a game or comes out of it, and `Game.Mirrors`, which says that
a computation does in the image what another one does in the game.
-/

namespace Boardcraft

/-!
## Teams and ids
-/

namespace Team

def mark (t : Team) : Text := t.word ++ "-"

theorem other_inj {t t' : Team} : t.other = t'.other ↔ t = t' := by
  cases t <;> cases t' <;> decide

end Team

namespace Text

/-- The id of the piece that corresponds to that of an id.  A text that is no id of either team
corresponds to itself. -/
def mirror (id : Text) : Text :=
  match id.points.dropPrefix? Team.white.mark.points with
  | some rest => Team.black.mark ++ ⟨rest⟩
  | none =>
      match id.points.dropPrefix? Team.black.mark.points with
      | some rest => Team.white.mark ++ ⟨rest⟩
      | none => id

theorem mirror_mark_append (t : Team) (rest : Text) :
    (t.mark ++ rest).mirror = t.other.mark ++ rest := by
  have hdrop : ∀ l : List CodePoint, (l ++ rest.points).dropPrefix? l = some rest.points :=
    fun l => List.dropPrefix?_append_of_beq rest.points (beq_self_eq_true l)
  unfold mirror
  rw [points_append]
  cases t with
  | white => rw [hdrop]; rfl
  | black =>
      have hnone : (Team.black.mark.points ++ rest.points).dropPrefix? Team.white.mark.points =
          none := rfl
      rw [hnone, hdrop]
      rfl

theorem mirror_id (t : Team) (stem number : Text) :
    (t.word ++ "-" ++ stem ++ "-" ++ number : Text).mirror =
      t.other.word ++ "-" ++ stem ++ "-" ++ number := by
  have hmark : ∀ t : Team, (t.word ++ "-" ++ stem ++ "-" ++ number : Text) =
      t.mark ++ (stem ++ "-" ++ number) := by
    intro t
    apply Text.ext
    simp only [Team.mark, points_append, List.append_assoc]
  rw [hmark, hmark, mirror_mark_append]

theorem eq_append_of_dropPrefix? {t mark : Text} {rest : List CodePoint}
    (h : t.points.dropPrefix? mark.points = some rest) : t = mark ++ ⟨rest⟩ := by
  rcases List.dropPrefix?_eq_some_iff.1 h with ⟨front, hpoints, hfront⟩
  rw [eq_of_beq hfront] at hpoints
  exact Text.ext hpoints

@[simp] theorem mirror_mirror (id : Text) : id.mirror.mirror = id := by
  cases hwhite : id.points.dropPrefix? Team.white.mark.points with
  | some rest =>
      rw [eq_append_of_dropPrefix? hwhite, mirror_mark_append, mirror_mark_append, Team.other_other]
  | none =>
      cases hblack : id.points.dropPrefix? Team.black.mark.points with
      | some rest =>
          rw [eq_append_of_dropPrefix? hblack, mirror_mark_append, mirror_mark_append,
            Team.other_other]
      | none =>
          have hself : id.mirror = id := by
            unfold mirror
            rw [hwhite, hblack]
          rw [hself, hself]

theorem mirror_injective : Function.Injective mirror :=
  Function.LeftInverse.injective mirror_mirror

end Text

/-- The value that names the other team, if a value names a team. -/
def Value.mirror (v : Value) : Value :=
  match Team.ofValue? v with
  | some t => .str t.other.word
  | none => v

namespace Team

theorem mirror_word (t : Team) : (Value.str t.word).mirror = .str t.other.word := by
  have hvalue : ofValue? (.str t.word) = some t := ofWord?_word t
  unfold Value.mirror
  rw [hvalue]

theorem ofValue?_mirror (v : Value) : ofValue? v.mirror = (ofValue? v).map other := by
  cases h : ofValue? v with
  | some t =>
      unfold Value.mirror
      rw [h]
      exact ofWord?_word t.other
  | none =>
      unfold Value.mirror
      rw [h]
      exact h

theorem eq_word_of_ofValue? {v : Value} {t : Team} (h : ofValue? v = some t) :
    v = .str t.word := by
  cases v with
  | str s =>
      have hword : (t.word == s) = true := List.find?_some (p := fun t : Team => t.word == s) h
      rw [eq_of_beq hword]
  | _ => cases h

theorem against_mirror (t : Team) :
    against (Value.str t.word).mirror = (against (.str t.word)).other := by
  rw [mirror_word]
  cases t <;> decide

end Team

/-!
## What a game is made of
-/

theorem Offsets.flipVertical_flipVertical (offsets : List Square) :
    Offsets.flipVertical (Offsets.flipVertical offsets) = offsets := by
  unfold Offsets.flipVertical
  rw [List.map_map]
  exact List.map_id'' Square.flipY_flipY offsets

def Piece.mirror (p : Piece) : Piece :=
  { p with
    id := p.id.mirror
    team := p.team.other
    teamMark := p.teamMark.mirror
    movement := Offsets.flipVertical p.movement
    attack := Offsets.flipVertical p.attack }

def Context.mirror (height : Int) (c : Context) : Context :=
  { c with
    origin := c.origin.map (Square.mirror height)
    destination := c.destination.map (Square.mirror height)
    payload := c.payload.mapValues Value.mirror }

namespace Context

variable (height : Int) (c : Context)

theorem source_mirror : (c.mirror height).source = c.source := rfl

theorem cancelled_mirror : (c.mirror height).cancelled = c.cancelled := rfl

theorem flagIsSet_mirror (name : Text) :
    (c.mirror height).flagIsSet name = c.flagIsSet name := rfl

theorem find?_payload_mirror (key : Text) :
    (c.mirror height).payload.find? key = (c.payload.find? key).map Value.mirror :=
  Table.find?_mapValues Value.mirror c.payload key

end Context

namespace Game

def mirror (height : Int) (g : Game) : Game :=
  { g with
    board := g.board.mirror height
    pieces := g.pieces.mapValues Piece.mirror
    roster := g.roster.mapKeys Text.mirror Text.mirror_injective
    toMove := g.toMove.map Team.other
    winner := g.winner.map Team.other }

section Queries

variable (height : Int) (g : Game)

theorem board_mirror : (g.mirror height).board = g.board.mirror height := rfl

theorem toMove_mirror : (g.mirror height).toMove = g.toMove.map Team.other := rfl

theorem winner_mirror : (g.mirror height).winner = g.winner.map Team.other := rfl

theorem find?_mirror (id : Text) : (g.mirror height).find? id.mirror = g.find? id :=
  Table.find?_mapKeys Text.mirror_injective _ id

theorem inPlay_mirror : (g.mirror height).inPlay = g.inPlay :=
  Table.values_mapKeys Text.mirror_injective _

theorem pieces_mirror (n : PieceNumber) :
    (g.mirror height).pieces.find? n = (g.pieces.find? n).map Piece.mirror :=
  Table.find?_mapValues Piece.mirror g.pieces n

/-- A piece that was never made bears no team, and nothing else tells it from its image. -/
theorem piece_mirror_cases (n : PieceNumber) :
    (g.mirror height).piece n = (g.piece n).mirror ∨
      g.piece n = { id := "" } ∧ (g.mirror height).piece n = { id := "" } := by
  unfold piece
  rw [pieces_mirror]
  cases g.pieces.find? n with
  | some p => exact Or.inl rfl
  | none => exact Or.inr ⟨rfl, rfl⟩

theorem id_mirror (n : PieceNumber) :
    ((g.mirror height).piece n).id = (g.piece n).id.mirror := by
  rcases piece_mirror_cases height g n with h | ⟨h, h'⟩
  · rw [h]
    rfl
  · rw [h, h']
    rfl

theorem name_mirror (n : PieceNumber) : ((g.mirror height).piece n).name = (g.piece n).name := by
  rcases piece_mirror_cases height g n with h | ⟨h, h'⟩
  · rw [h]
    rfl
  · rw [h, h']

theorem abilities_mirror (n : PieceNumber) :
    ((g.mirror height).piece n).abilities = (g.piece n).abilities := by
  rcases piece_mirror_cases height g n with h | ⟨h, h'⟩
  · rw [h]
    rfl
  · rw [h, h']

theorem movement_mirror (n : PieceNumber) :
    ((g.mirror height).piece n).movement = Offsets.flipVertical (g.piece n).movement := by
  rcases piece_mirror_cases height g n with h | ⟨h, h'⟩
  · rw [h]
    rfl
  · rw [h, h']
    rfl

theorem attack_mirror (n : PieceNumber) :
    ((g.mirror height).piece n).attack = Offsets.flipVertical (g.piece n).attack := by
  rcases piece_mirror_cases height g n with h | ⟨h, h'⟩
  · rw [h]
    rfl
  · rw [h, h']
    rfl

variable {height g}

theorem piece_mirror {n : PieceNumber} {p : Piece} (h : g.pieces.find? n = some p) :
    (g.mirror height).piece n = (g.piece n).mirror := by
  unfold piece
  rw [pieces_mirror, h]
  rfl

end Queries

end Game

/-!
## What goes in and what comes out
-/

def Refusal.mirror (height : Int) : Refusal → Refusal
  | unknownPiece id => unknownPiece id.mirror
  | gameOver winner => gameOver winner.other
  | notStarted => notStarted
  | notYourTurn toMove => notYourTurn toMove.other
  | offBoard target => offBoard (target.mirror height)
  | sameSquare target => sameSquare (target.mirror height)
  | notInShape target name shape => notInShape (target.mirror height) name shape
  | moveCancelled id => moveCancelled id.mirror
  | actionCancelled action id => actionCancelled action id.mirror
  | pathBlocked square => pathBlocked (square.mirror height)
  | occupied target => occupied (target.mirror height)
  | ownSquareEmpty id => ownSquareEmpty id.mirror
  | emptyTarget target => emptyTarget (target.mirror height)
  | selfTarget id action => selfTarget id.mirror action
  | allyTarget id action other => allyTarget id.mirror action other.mirror
  | enemyTarget id action other => enemyTarget id.mirror action other.mirror

theorem Refusal.reason_mirror (height : Int) (r : Refusal) : (r.mirror height).reason = r.reason := by
  cases r <;> rfl

theorem Refusal.squares_mirror (height : Int) (r : Refusal) :
    (r.mirror height).squares = r.squares.map (Square.mirror height) := by
  cases r <;> rfl

def Outcome.mirror (height : Int) : Outcome → Outcome
  | .started firstTeam pieceCount => .started firstTeam.other pieceCount
  | .moved id name team origin destination turn =>
      .moved id.mirror name team.other (origin.mirror height) (destination.mirror height) turn
  | .acted id action target targetId captured turn =>
      .acted id.mirror action (target.mirror height) (targetId.map Text.mirror) captured turn
  | .refused command id target refusal =>
      .refused command id.mirror (target.mirror height) (refusal.mirror height)
  | .over winner loser turn => .over winner.other loser.mirror turn

def GameError.mirror (height : Int) : GameError → GameError
  | badTeam given => badTeam given.mirror
  | badFirstTeam given => badFirstTeam given.mirror
  | badSquare fault => badSquare (fault.mirror height)
  | unknownPiece id => unknownPiece id.mirror
  | abilityFailed kind event cause => abilityFailed kind event (cause.mirror height)
  | error => error

def Answer.mirror (height : Int) : Answer → Answer
  | outcomes reports => outcomes (reports.map (Outcome.mirror height))
  | squares targets => squares (targets.map (Square.mirror height))
  | verdict refusal => verdict (refusal.map (Refusal.mirror height))
  | answer => answer

def Game.Entry.mirror (height : Int) (e : Game.Entry) : Game.Entry :=
  { e with team := e.team.mirror, square := e.square.mirror height }

/-- The corresponding operation: the teams are swapped, squares are mirrored, and ids are those of
the corresponding pieces. -/
def Operation.mirror (height : Int) : Operation → Operation
  | add blueprint team square => add blueprint team.mirror (square.mirror height)
  | setup blueprints entries => setup blueprints (entries.map (Game.Entry.mirror height))
  | remove id => remove id.mirror
  | start first => start first.mirror
  | move id target => move id.mirror (target.mirror height)
  | act id target action => act id.mirror (target.mirror height) action
  | applyStatus id definition => applyStatus id.mirror definition
  | endTurn => endTurn
  | legalMoves n => legalMoves n
  | legalTargets n action => legalTargets n action
  | checkMove n target => checkMove n (target.mirror height)
  | checkAction n target action => checkAction n (target.mirror height) action

/-!
## Computations
-/

namespace Game

variable {α β γ δ : Type}

/-- A result in the mirror: the answer is translated, and so are the error and the game. -/
def mirrorResult (height : Int) (f : α → β) :
    EStateM.Result GameError Game α → EStateM.Result GameError Game β
  | .ok a g => .ok (f a) (g.mirror height)
  | .error e g => .error (e.mirror height) (g.mirror height)

/-- From the image of a game, a computation leads to the image of what another leads to from the
game itself. -/
def Mirrors (height : Int) (f : α → β) (g : Game) (m : GameM α) (m' : GameM β) : Prop :=
  m' (g.mirror height) = mirrorResult height f (m g)

namespace Mirrors

variable {height : Int} {g : Game}

theorem bind {f : α → β} {f' : γ → δ} {m : GameM α} {m' : GameM β} {k : α → GameM γ}
    {k' : β → GameM δ} (hm : Mirrors height f g m m')
    (hk : ∀ a g', m g = .ok a g' → Mirrors height f' g' (k a) (k' (f a))) :
    Mirrors height f' g (m >>= k) (m' >>= k') := by
  unfold Mirrors at hm ⊢
  cases h : m g with
  | ok a g' =>
      rw [h] at hm
      rw [bind_of_eq_ok k h, bind_of_eq_ok k' hm]
      exact hk a g' h
  | error e g' =>
      rw [h] at hm
      rw [bind_of_eq_error k h, bind_of_eq_error k' hm]
      rfl

theorem bind_of_eq_ok {f : α → β} {f' : γ → δ} {m : GameM α} {m' : GameM β} {k : α → GameM γ}
    {k' : β → GameM δ} {a : α} (hrun : m g = .ok a g) (hm : Mirrors height f g m m')
    (hk : Mirrors height f' g (k a) (k' (f a))) : Mirrors height f' g (m >>= k) (m' >>= k') := by
  refine bind hm ?_
  intro b g' hrun'
  rw [hrun] at hrun'
  cases hrun'
  exact hk

theorem get_bind {f : γ → δ} {k : Game → GameM γ} {k' : Game → GameM δ}
    (h : Mirrors height f g (k g) (k' (g.mirror height))) :
    Mirrors height f g ((get : GameM Game) >>= k) ((get : GameM Game) >>= k') := h

theorem modify_bind {f : γ → δ} {change change' : Game → Game} {k : PUnit → GameM γ}
    {k' : PUnit → GameM δ} (hchange : change' (g.mirror height) = (change g).mirror height)
    (h : Mirrors height f (change g) (k ⟨⟩) (k' ⟨⟩)) :
    Mirrors height f g ((modify change : GameM PUnit) >>= k)
      ((modify change' : GameM PUnit) >>= k') := by
  unfold Mirrors at h ⊢
  show k' ⟨⟩ (change' (g.mirror height)) = _
  rw [hchange, h]
  rfl

theorem map {f : α → β} {f' : γ → δ} {m : GameM α} {m' : GameM β} (k : α → γ) (k' : β → δ)
    (hk : ∀ a, k' (f a) = f' (k a)) (hm : Mirrors height f g m m') :
    Mirrors height f' g (k <$> m) (k' <$> m') := by
  unfold Mirrors at hm ⊢
  show EStateM.map k' m' (g.mirror height) = mirrorResult height f' (EStateM.map k m g)
  unfold EStateM.map
  rw [hm]
  cases m g with
  | ok a g' => exact congrArg (EStateM.Result.ok · _) (hk a)
  | error e g' => rfl

theorem changeBoard {change change' : BoardM α}
    (h : change' (g.board.mirror height) = Board.mirrorResult height (change g.board)) :
    Mirrors height (fun a => a) g (Game.changeBoard change) (Game.changeBoard change') := by
  unfold Mirrors
  cases hrun : change g.board with
  | ok a board =>
      rw [hrun] at h
      rw [changeBoard_eq_ok hrun, changeBoard_eq_ok h]
      rfl
  | error fault board =>
      rw [hrun] at h
      rw [changeBoard_eq_error hrun, changeBoard_eq_error h]
      rfl

theorem after {f : α → β} {m : GameM α} {m' : GameM β} (h : Mirrors height f g m m') :
    (g.mirror height).after m' = (g.after m).mirror height := by
  unfold Mirrors at h
  unfold Game.after
  rw [h]
  cases m g <;> rfl

end Mirrors

def FailsToTell (m : GameM α) (g : Game) : Prop := ∃ g', m g = .error .oversizedNumber g'

theorem FailsToTell.bind_of_eq_ok {m : GameM α} {k : α → GameM β} {g g' : Game} {a : α}
    (hrun : m g = .ok a g') (h : FailsToTell (k a) g') : FailsToTell (m >>= k) g := by
  rcases h with ⟨g'', h⟩
  exact ⟨g'', (Game.bind_of_eq_ok k hrun).trans h⟩

/-- From the image of a game, a computation leads to the image of the game to which another leads.
What they return is the same in the mirror as well, unless one of them ends because a number cannot
be written, and under a condition always. -/
structure MirrorsIf (even : Prop) (height : Int) (f : α → β) (g : Game) (m : GameM α)
    (m' : GameM β) : Prop where
  left : (g.mirror height).after m' = (g.after m).mirror height
  alike : Mirrors height f g m m' ∨ FailsToTell m g ∨ FailsToTell m' (g.mirror height)
  faithful : even → Mirrors height f g m m'

namespace MirrorsIf

variable {even : Prop} {height : Int} {g : Game}

theorem of_mirrors {f : α → β} {m : GameM α} {m' : GameM β} (h : Mirrors height f g m m') :
    MirrorsIf even height f g m m' :=
  ⟨h.after, Or.inl h, fun _ => h⟩

theorem bind {f : α → β} {f' : γ → δ} {m : GameM α} {m' : GameM β} {k : α → GameM γ}
    {k' : β → GameM δ} (hm : Mirrors height f g m m')
    (hk : ∀ a g', m g = .ok a g' → MirrorsIf even height f' g' (k a) (k' (f a))) :
    MirrorsIf even height f' g (m >>= k) (m' >>= k') := by
  cases hrun : m g with
  | error e g' =>
      refine of_mirrors (Mirrors.bind hm fun a g'' hrun' => ?_)
      rw [hrun] at hrun'
      cases hrun'
  | ok a g' =>
      have hrun' : m' (g.mirror height) = .ok (f a) (g'.mirror height) := by
        unfold Mirrors at hm
        rw [hm, hrun]
        rfl
      have hrest := hk a g' hrun
      have hbind : Mirrors height f' g' (k a) (k' (f a)) →
          Mirrors height f' g (m >>= k) (m' >>= k') := by
        intro h
        refine Mirrors.bind hm fun b g'' hrun'' => ?_
        rw [hrun] at hrun''
        cases hrun''
        exact h
      refine ⟨?_, ?_, fun heven => hbind (hrest.faithful heven)⟩
      · rw [after_bind_of_eq_ok _ hrun, after_bind_of_eq_ok _ hrun', hrest.left]
      · exact hrest.alike.imp hbind (Or.imp (.bind_of_eq_ok hrun) (.bind_of_eq_ok hrun'))

theorem get_bind {f : γ → δ} {k : Game → GameM γ} {k' : Game → GameM δ}
    (h : MirrorsIf even height f g (k g) (k' (g.mirror height))) :
    MirrorsIf even height f g ((get : GameM Game) >>= k) ((get : GameM Game) >>= k') :=
  ⟨h.left, h.alike, h.faithful⟩

theorem map {f : α → β} {f' : γ → δ} {m : GameM α} {m' : GameM β} (k : α → γ) (k' : β → δ)
    (hk : ∀ a, k' (f a) = f' (k a)) (hm : MirrorsIf even height f g m m') :
    MirrorsIf even height f' g (k <$> m) (k' <$> m') := by
  have hmap : ∀ {ε ζ : Type} {m : GameM ε} {g : Game} (k : ε → ζ), FailsToTell m g →
      FailsToTell (k <$> m) g := by
    intro _ _ m g k h
    rcases h with ⟨g', h⟩
    exact ⟨g', map_of_eq_error k h⟩
  refine ⟨?_, ?_, fun heven => Mirrors.map k k' hk (hm.faithful heven)⟩
  · rw [after_map, after_map, hm.left]
  · exact hm.alike.imp (Mirrors.map k k' hk) (Or.imp (hmap k) (hmap k'))

/-- Two computations that change nothing and return the same in the mirror, each provided that it can
be told. -/
theorem of_told {f : α → β} {m : GameM α} {m' : GameM β} {told told' : Bool} {a : α}
    (hm : m g = if told then .ok a g else .error .oversizedNumber g)
    (hm' : m' (g.mirror height) =
      if told' then .ok (f a) (g.mirror height) else .error .oversizedNumber (g.mirror height))
    (heven : even → told' = told) : MirrorsIf even height f g m m' := by
  have halike : told' = told → Mirrors height f g m m' := by
    intro hsame
    unfold Mirrors
    rw [hm, hm', hsame]
    cases told <;> rfl
  refine ⟨?_, ?_, halike ∘ heven⟩
  · unfold Game.after
    rw [hm, hm']
    cases told <;> cases told' <;> rfl
  · cases told with
    | false => exact Or.inr (Or.inl ⟨g, hm⟩)
    | true =>
        cases told' with
        | false => exact Or.inr (Or.inr ⟨_, hm'⟩)
        | true => exact Or.inl (halike rfl)

end MirrorsIf

end Game

end Boardcraft
