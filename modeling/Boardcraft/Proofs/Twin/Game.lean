import Boardcraft.Proofs.Game.BuiltIn
import Boardcraft.Proofs.Game.Orders
import Mathlib.Data.List.Perm.Basic

/-!
# Twin games

Two games in which the same pieces stand on the same squares under the same effects, although the
pieces came in another order.  They then bear other numbers and other ids, they are listed in another
order, and their abilities listen in another order.

A renaming takes the numbers and ids of one game to those of the other.  `Game.Twins` says that two
games agree in everything but that.

## Main statements

* `Twins.find?_id` and `Twins.commanded` say that ids reach corresponding pieces;
* `Twins.hasAbility` says that corresponding pieces have abilities of the same rules.
-/

namespace Boardcraft

/-!
## Renaming
-/

/-- What takes the numbers and ids of pieces in one game to those of another. -/
structure Renaming where
  number : PieceNumber → PieceNumber
  id : Text → Text

def Refusal.rename (c : Renaming) : Refusal → Refusal
  | unknownPiece id => unknownPiece (c.id id)
  | moveCancelled id => moveCancelled (c.id id)
  | actionCancelled action id => actionCancelled action (c.id id)
  | ownSquareEmpty id => ownSquareEmpty (c.id id)
  | selfTarget id action => selfTarget (c.id id) action
  | allyTarget id action other => allyTarget (c.id id) action (c.id other)
  | enemyTarget id action other => enemyTarget (c.id id) action (c.id other)
  | refusal => refusal

theorem Refusal.isTellable_rename (c : Renaming) (r : Refusal) :
    (r.rename c).isTellable = r.isTellable := by
  cases r <;> rfl

def Outcome.rename (c : Renaming) : Outcome → Outcome
  | moved id name team origin destination turn =>
      moved (c.id id) name team origin destination turn
  | acted id action target targetId captured turn =>
      acted (c.id id) action target (targetId.map c.id) captured turn
  | refused command id target refusal => refused command (c.id id) target (refusal.rename c)
  | outcome => outcome

def GameError.rename (c : Renaming) : GameError → GameError
  | unknownPiece id => unknownPiece (c.id id)
  | abilityFailed kind event cause => abilityFailed kind event (cause.rename c)
  | error => error

def Answer.rename (c : Renaming) : Answer → Answer
  | piece n => piece (c.number n)
  | outcomes reports => outcomes (reports.map (Outcome.rename c))
  | verdict refusal => verdict (refusal.map (Refusal.rename c))
  | answer => answer

def Operation.rename (c : Renaming) : Operation → Operation
  | remove id => remove (c.id id)
  | move id target => move (c.id id) target
  | act id target action => act (c.id id) target action
  | applyStatus id definition => applyStatus (c.id id) definition
  | legalMoves n => legalMoves (c.number n)
  | legalTargets n action => legalTargets (c.number n) action
  | checkMove n target => checkMove (c.number n) target
  | checkAction n target action => checkAction (c.number n) target action
  | op => op

/-!
## Effects and abilities apart from numbers
-/

def Effect.bare (e : Effect) : Effect :=
  { e with host := 0, children := e.children.map Ability.bare }

theorem Effect.lent_bare (e : Effect) : e.bare.lent = e.lent.map Ability.bare := by
  cases hactive : e.active with
  | true =>
      unfold bare lent
      rw [hactive]
      rfl
  | false =>
      unfold bare lent
      rw [hactive]
      rfl

theorem any_kind_bare (l : List Ability) (kind : Text) :
    (l.map Ability.bare).any (fun a => a.kind == kind) = l.any fun a => a.kind == kind :=
  List.any_map

namespace Game

/-!
## Twins
-/

def Made (g : Game) (n : PieceNumber) : Prop := ∃ p, g.pieces.find? n = some p

def Names (g : Game) (id : Text) : Prop := ∃ n, g.Made n ∧ (g.piece n).id = id

/-- Two games in which pieces have been made alike, whatever has become of them since. -/
structure MadeAlike (c : Renaming) (g g' : Game) : Prop where
  registry : g'.registry = g.registry
  made : ∀ n p, g.pieces.find? n = some p →
    ∃ p', g'.pieces.find? (c.number n) = some p' ∧ p'.id = c.id p.id ∧ p'.bare = p.bare
  apart : ∀ n m, g.Made n → g.Made m → c.number n = c.number m → n = m

/-- Two games that agree in everything but the order of the pieces. -/
structure Twins (c : Renaming) (g g' : Game) : Prop extends MadeAlike c g g' where
  inPlay : g'.inPlay.Perm (g.inPlay.map c.number)
  width : g'.board.width = g.board.width
  height : g'.board.height = g.board.height
  held : ∀ s, g'.board.pieceAt s = (g.board.pieceAt s).map c.number
  square : ∀ n, g.Made n → g'.squareOf (c.number n) = g.squareOf n
  effectCount : g'.effectCount = g.effectCount
  statuses : ∀ n, g.Made n → g'.statusesOf (c.number n) = g.statusesOf n
  effects : ∀ n, g.Made n → ∀ e ∈ g.statusesOf n,
    (g'.effect? e).map Effect.bare = (g.effect? e).map Effect.bare
  turn : SameTurn g g'

theorem SamePieces.made_iff {g g' : Game} (same : SamePieces g g') {n : PieceNumber} :
    g'.Made n ↔ g.Made n := by
  unfold Made
  rw [same.pieces]

theorem Numbered.made {g : Game} (hg : Numbered g) {n : PieceNumber} (hn : n ∈ g.inPlay) :
    g.Made n :=
  ⟨g.piece n, hg.find?_piece hn⟩

theorem Numbered.names {g : Game} (hg : Numbered g) {id : Text} {n : PieceNumber}
    (hfind : g.find? id = some n) : g.Names id :=
  ⟨n, hg.made (mem_inPlay_iff.2 ⟨id, hfind⟩), hg.id_eq hfind⟩

theorem Numbered.number_eq {g : Game} (hg : Numbered g) {n m : PieceNumber} (hn : g.Made n)
    (hm : g.Made m) (hid : (g.piece n).id = (g.piece m).id) : n = m := by
  rcases hn with ⟨p, hp⟩
  rcases hm with ⟨q, hq⟩
  rw [piece_of_find? hp, piece_of_find? hq] at hid
  rcases hg.ends n p hp with ⟨stem, hstem⟩
  rcases hg.ends m q hq with ⟨stem', hstem'⟩
  rw [hstem, hstem'] at hid
  exact Text.eq_of_append_numeral hid

theorem MadeAlike.of_samePieces {c : Renaming} {g g' k k' : Game} (h : MadeAlike c g g')
    (same : SamePieces g k) (same' : SamePieces g' k') : MadeAlike c k k' := by
  refine ⟨?_, ?_, ?_⟩
  · rw [same.registry, same'.registry, h.registry]
  · rw [same.pieces, same'.pieces]
    exact h.made
  · intro n m hn hm
    exact h.apart n m (same.made_iff.1 hn) (same.made_iff.1 hm)

namespace Twins

variable {c : Renaming} {g g' : Game} (h : Twins c g g')

include h

/-!
## Pieces
-/

theorem made_number {n : PieceNumber} (hn : g.Made n) : g'.Made (c.number n) := by
  rcases hn with ⟨p, hp⟩
  rcases h.made n p hp with ⟨p', hp', -⟩
  exact ⟨p', hp'⟩

theorem number_inj {n m : PieceNumber} (hn : g.Made n) (hm : g.Made m) :
    c.number n = c.number m ↔ n = m :=
  ⟨h.apart n m hn hm, congrArg c.number⟩

theorem id {n : PieceNumber} (hn : g.Made n) :
    (g'.piece (c.number n)).id = c.id (g.piece n).id := by
  rcases hn with ⟨p, hp⟩
  rcases h.made n p hp with ⟨p', hp', hid, -⟩
  rw [piece_of_find? hp, piece_of_find? hp', hid]

theorem piece {n : PieceNumber} (hn : g.Made n) :
    (g'.piece (c.number n)).bare = (g.piece n).bare := by
  rcases hn with ⟨p, hp⟩
  rcases h.made n p hp with ⟨p', hp', -, hbare⟩
  rw [piece_of_find? hp, piece_of_find? hp', hbare]

theorem name {n : PieceNumber} (hn : g.Made n) :
    (g'.piece (c.number n)).name = (g.piece n).name := by
  have hsame := congrArg Piece.name (h.piece hn)
  exact hsame

theorem team {n : PieceNumber} (hn : g.Made n) :
    (g'.piece (c.number n)).team = (g.piece n).team := by
  have hsame := congrArg Piece.team (h.piece hn)
  exact hsame

theorem teamMark {n : PieceNumber} (hn : g.Made n) :
    (g'.piece (c.number n)).teamMark = (g.piece n).teamMark := by
  have hsame := congrArg Piece.teamMark (h.piece hn)
  exact hsame

theorem movementTargets {n : PieceNumber} (hn : g.Made n) :
    g'.movementTargets (c.number n) = g.movementTargets n := by
  have hmovement : (g'.piece (c.number n)).movement = (g.piece n).movement := by
    have hsame := congrArg Piece.movement (h.piece hn)
    exact hsame
  unfold Game.movementTargets
  rw [hmovement, h.square n hn]

theorem attackTargets {n : PieceNumber} (hn : g.Made n) :
    g'.attackTargets (c.number n) = g.attackTargets n := by
  have hattack : (g'.piece (c.number n)).attack = (g.piece n).attack := by
    have hsame := congrArg Piece.attack (h.piece hn)
    exact hsame
  unfold Game.attackTargets
  rw [hattack, h.square n hn]

/-!
## Who is in play
-/

theorem mem_inPlay {n : PieceNumber} (hn : n ∈ g.inPlay) : c.number n ∈ g'.inPlay :=
  h.inPlay.mem_iff.2 (List.mem_map_of_mem hn)

theorem exists_of_mem_inPlay {n' : PieceNumber} (hn' : n' ∈ g'.inPlay) :
    ∃ n ∈ g.inPlay, c.number n = n' :=
  List.mem_map.1 (h.inPlay.mem_iff.1 hn')

theorem mem_inPlay_iff (hg : Numbered g) {n : PieceNumber} (hn : g.Made n) :
    c.number n ∈ g'.inPlay ↔ n ∈ g.inPlay := by
  constructor
  · intro hn'
    rcases h.exists_of_mem_inPlay hn' with ⟨m, hm, heq⟩
    rw [← (h.number_inj (hg.made hm) hn).1 heq]
    exact hm
  · exact h.mem_inPlay

/-- An id reaches the counterpart of the piece that the corresponding id reaches, and none if that
one reaches none. -/
theorem find?_id (hg : Numbered g) (hg' : Numbered g') {id : Text} (hid : g.Names id) :
    g'.find? (c.id id) = (g.find? id).map c.number := by
  rcases hid with ⟨n, hn, rfl⟩
  rw [← h.id hn]
  by_cases hplay : n ∈ g.inPlay
  · rw [hg.find?_id hplay, hg'.find?_id (h.mem_inPlay hplay), Option.map_some]
  · have hgone : ∀ (k : Game) (m : PieceNumber), Numbered k → k.Made m → m ∉ k.inPlay →
        k.find? (k.piece m).id = none := by
      intro k m hk hm hnot
      cases hfind : k.find? (k.piece m).id with
      | none => rfl
      | some other =>
          have hother := Game.mem_inPlay_iff.2 ⟨_, hfind⟩
          exact absurd (hk.number_eq (hk.made hother) hm (hk.id_eq hfind) ▸ hother) hnot
    rw [hgone g n hg hn hplay, hgone g' _ hg' (h.made_number hn)
      (fun hplay' => hplay ((h.mem_inPlay_iff hg hn).1 hplay')), Option.map_none]

theorem commanded (hg : Numbered g) (hg' : Numbered g') {id : Text} (hid : g.Names id) :
    g'.commanded (c.id id) =
      match g.commanded id with
      | .ok n => .ok (c.number n)
      | .error refusal => .error (refusal.rename c) := by
  unfold Game.commanded
  rw [h.find?_id hg hg' hid, h.turn.winner, h.turn.toMove]
  cases hfind : g.find? id with
  | none => rfl
  | some n =>
      have hn := hg.made (Game.mem_inPlay_iff.2 ⟨id, hfind⟩)
      rw [Option.map_some]
      dsimp only
      rw [h.team hn]
      cases g.winner with
      | some winner => rfl
      | none =>
          cases g.toMove with
          | none => rfl
          | some team =>
              dsimp only
              split <;> rfl

/-!
## The board
-/

theorem isOccupied (s : Square) : g'.board.isOccupied s = g.board.isOccupied s := by
  rw [Bool.eq_iff_iff, ← not_iff_not, Bool.not_eq_true, Bool.not_eq_true,
    Board.isOccupied_eq_false_iff, Board.isOccupied_eq_false_iff, h.held, Option.map_eq_none_iff]

theorem holds (s : Square) : g'.board.Holds s ↔ g.board.Holds s := by
  unfold Board.Holds
  rw [h.width, h.height]

/-!
## Abilities
-/

theorem lentBy {n : PieceNumber} (hn : g.Made n) {e : EffectNumber} (he : e ∈ g.statusesOf n) :
    (g'.lentBy e).map Ability.bare = (g.lentBy e).map Ability.bare := by
  have hlent : ∀ k : Game, (k.lentBy e).map Ability.bare =
      (((k.effect? e).map Effect.bare).map Effect.lent).getD [] := by
    intro k
    unfold Game.lentBy
    cases k.effect? e with
    | none => rfl
    | some effect => exact effect.lent_bare.symm
  rw [hlent, hlent, h.effects n hn e he]

theorem abilitiesOf {n : PieceNumber} (hn : g.Made n) :
    (g'.abilitiesOf (c.number n)).map Ability.bare = (g.abilitiesOf n).map Ability.bare := by
  have hown : (g'.piece (c.number n)).abilities.map Ability.bare =
      (g.piece n).abilities.map Ability.bare :=
    congrArg Piece.abilities (h.piece hn)
  rw [abilitiesOf_eq, abilitiesOf_eq, List.map_append, List.map_append, hown, h.statuses n hn,
    List.map_flatMap, List.map_flatMap, List.flatMap_congr fun e he => h.lentBy hn he]

theorem hasAbility {n : PieceNumber} (hn : g.Made n) (kind : Text) :
    g'.hasAbility (c.number n) kind = g.hasAbility n kind := by
  unfold Game.hasAbility
  rw [← any_kind_bare (g.abilitiesOf n), ← any_kind_bare, h.abilitiesOf hn]

end Twins

/-!
## Results
-/

/-- Two computations end alike: both succeed or both fail, what comes out of them corresponds, and
the games that they leave behind are twins. -/
inductive EndsAlike (c : Renaming) {α β : Type} (f : α → β) :
    EStateM.Result GameError Game α → EStateM.Result GameError Game β → Prop where
  | ok {a : α} {g g' : Game} (twins : Twins c g g') : EndsAlike c f (.ok a g) (.ok (f a) g')
  | error {e : GameError} {g g' : Game} (twins : Twins c g g') :
      EndsAlike c f (.error e g) (.error (e.rename c) g')

theorem EndsAlike.map {c : Renaming} {α β α' β' : Type} {f : α → β} {f' : α' → β'} (k : α → α')
    (k' : β → β') (hcommutes : ∀ a, k' (f a) = f' (k a)) {g g' : Game} {m : GameM α} {m' : GameM β}
    (h : EndsAlike c f (m g) (m' g')) : EndsAlike c f' ((k <$> m) g) ((k' <$> m') g') := by
  show EndsAlike c f' (EStateM.map k m g) (EStateM.map k' m' g')
  unfold EStateM.map
  generalize m g = result, m' g' = result' at h
  cases h with
  | ok twins =>
      dsimp only
      rw [hcommutes]
      exact .ok twins
  | error twins => exact .error twins

end Game
end Boardcraft
