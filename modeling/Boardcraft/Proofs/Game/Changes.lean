import Boardcraft.Proofs.Board
import Boardcraft.Proofs.Game.CountDown
import Boardcraft.Proofs.Game.Making

/-!
# What changes of a game leave behind

Case by case, the game after a piece was brought into play, taken out of play or shifted, and an
effect applied.  Each change is described by an inductive relation with one constructor for every way
in which it can end, and a theorem says that it ends in one of them.  Proofs about runs split on these
cases and never open the computations.
-/

namespace Boardcraft
namespace Game

/-!
## Entering
-/

def withPieceOn (g : Game) (p : Piece) (square : Square) : Game :=
  { g with
    board := g.board.put (g.pieceCount + 1) square
    dispatcher := p.abilities.foldl Dispatcher.subscribeAbility g.dispatcher
    pieces := g.pieces.insert (g.pieceCount + 1) p
    pieceCount := g.pieceCount + 1
    roster := g.roster.insert p.id (g.pieceCount + 1)
    abilityCount := g.abilityCount + p.abilities.length }

theorem changeBoard_eq_ok {α : Type} {change : BoardM α} {g : Game} {a : α} {board : Board}
    (h : change g.board = .ok a board) : changeBoard change g = .ok a { g with board } := by
  unfold changeBoard
  rw [h]

theorem changeBoard_eq_error {α : Type} {change : BoardM α} {g : Game} {fault : Board.Fault}
    {board : Board} (h : change g.board = .error fault board) :
    changeBoard change g = .error (.badSquare fault) { g with board } := by
  unfold changeBoard
  rw [h]

inductive Adds (g : Game) (blueprint : Blueprint) (team : Value) (square : Square) :
    Game → Prop where
  | unmade (k : Nat) : Adds g blueprint team square (g.withSerials k)
  | offBoard {p : Piece} (made : MakesPiece g blueprint team p)
      (off : ¬ g.board.Holds square) : Adds g blueprint team square (g.withPiece p)
  | placed {p : Piece} (made : MakesPiece g blueprint team p) (on : g.board.Holds square) :
      Adds g blueprint team square (g.withPieceOn p square)

theorem piece_withPiece_self (g : Game) (p : Piece) :
    (g.withPiece p).piece (g.pieceCount + 1) = p := by
  unfold piece withPiece
  rw [Table.find?_insert_self]
  rfl

theorem addPiece_of_holds {g : Game} {blueprint : Blueprint} {team : Value} {p : Piece}
    {square : Square}
    (hmade : makePiece blueprint team g = .ok (g.pieceCount + 1) (g.withPiece p))
    (hon : g.board.Holds square) :
    addPiece blueprint team square g = .ok (g.pieceCount + 1) (g.withPieceOn p square) := by
  have hplace : place (g.pieceCount + 1) square (g.withPiece p) =
      .ok () { g.withPiece p with board := g.board.put (g.pieceCount + 1) square } :=
    changeBoard_eq_ok (Board.place_of_holds hon (g.pieceCount + 1))
  have henlist : ∀ g' : Game, g'.piece (g.pieceCount + 1) = p →
      { g'.subscribeAll (g'.piece (g.pieceCount + 1)).abilities with
        roster := g'.roster.insert (g'.piece (g.pieceCount + 1)).id (g.pieceCount + 1) } =
      { g'.subscribeAll p.abilities with
        roster := g'.roster.insert p.id (g.pieceCount + 1) } := by
    intro g' hp
    rw [hp]
  have hpiece := piece_withPiece_self g p
  unfold addPiece
  rw [bind_of_eq_ok _ hmade, bind_of_eq_ok _ hplace]
  exact congrArg (EStateM.Result.ok (g.pieceCount + 1)) (henlist
    { g.withPiece p with board := g.board.put (g.pieceCount + 1) square } hpiece)

theorem addPiece_of_not_holds {g : Game} {blueprint : Blueprint} {team : Value} {p : Piece}
    {square : Square}
    (hmade : makePiece blueprint team g = .ok (g.pieceCount + 1) (g.withPiece p))
    (hoff : ¬ g.board.Holds square) :
    addPiece blueprint team square g =
      .error (.badSquare (g.board.offBoardFault .place square)) (g.withPiece p) := by
  have hplace : place (g.pieceCount + 1) square (g.withPiece p) =
      .error (.badSquare (g.board.offBoardFault .place square)) (g.withPiece p) :=
    changeBoard_eq_error (Board.place_of_not_holds hoff (g.pieceCount + 1))
  unfold addPiece
  rw [bind_of_eq_ok _ hmade, bind_of_eq_error _ hplace]

theorem addPiece_of_unmade {g g' : Game} {blueprint : Blueprint} {team : Value} {e : GameError}
    (hunmade : makePiece blueprint team g = .error e g') (square : Square) :
    addPiece blueprint team square g = .error e g' := by
  unfold addPiece
  exact bind_of_eq_error _ hunmade

theorem addPiece_cases (g : Game) (blueprint : Blueprint) (team : Value) (square : Square) :
    (∃ p, MakesPiece g blueprint team p ∧ g.board.Holds square ∧
      addPiece blueprint team square g = .ok (g.pieceCount + 1) (g.withPieceOn p square)) ∨
    (∃ p e, MakesPiece g blueprint team p ∧ ¬ g.board.Holds square ∧
      addPiece blueprint team square g = .error e (g.withPiece p)) ∨
    ∃ e k, addPiece blueprint team square g = .error e (g.withSerials k) := by
  rcases makePiece_cases blueprint team g with ⟨p, hmade, hrun⟩ | ⟨e, k, hrun⟩
  · by_cases hon : g.board.Holds square
    · exact Or.inl ⟨p, hmade, hon, addPiece_of_holds hrun hon⟩
    · exact Or.inr (Or.inl ⟨p, _, hmade, hon, addPiece_of_not_holds hrun hon⟩)
  · exact Or.inr (Or.inr ⟨e, k, addPiece_of_unmade hrun square⟩)

theorem adds_after (g : Game) (blueprint : Blueprint) (team : Value) (square : Square) :
    Adds g blueprint team square (g.after (addPiece blueprint team square)) := by
  rcases addPiece_cases g blueprint team square with
    ⟨p, hmade, hon, hrun⟩ | ⟨p, e, hmade, hoff, hrun⟩ | ⟨e, k, hrun⟩
  · rw [after_of_eq_ok hrun]
    exact Adds.placed hmade hon
  · rw [after_of_eq_error hrun]
    exact Adds.offBoard hmade hoff
  · rw [after_of_eq_error hrun]
    exact Adds.unmade k

/-!
## Leaving
-/

theorem require_of_find?_none {g : Game} {id : Text} (h : g.find? id = none) :
    require id g = .error (.unknownPiece id) g := by
  unfold require
  rw [get_bind, h]
  rfl

theorem require_of_find?_some {g : Game} {id : Text} {n : PieceNumber}
    (h : g.find? id = some n) : require id g = .ok n g := by
  unfold require
  rw [get_bind, h]
  rfl

/-- The game in which a piece is out of play while its square is not yet cleared. -/
def withoutPiece (g : Game) (id : Text) (n : PieceNumber) : Game :=
  ({ g with roster := g.roster.erase id }.unsubscribeAll (g.piece n).abilities).clearStatuses n

theorem withoutPiece_eq (g : Game) (id : Text) (n : PieceNumber) :
    ∃ dispatcher effects, g.withoutPiece id n =
      { g with dispatcher, effects, statuses := g.statuses.insert n [],
               roster := g.roster.erase id } := by
  unfold withoutPiece
  rcases clearStatuses_eq
    ({ g with roster := g.roster.erase id }.unsubscribeAll (g.piece n).abilities) n with
    ⟨dispatcher, effects, h⟩
  rw [h]
  exact ⟨dispatcher, effects, rfl⟩

@[simp] theorem board_withoutPiece (g : Game) (id : Text) (n : PieceNumber) :
    (g.withoutPiece id n).board = g.board := by
  rcases withoutPiece_eq g id n with ⟨dispatcher, effects, h⟩
  rw [h]

theorem removePiece_of_find?_none {g : Game} {id : Text} (h : g.find? id = none) :
    removePiece id g = .error (.unknownPiece id) g := by
  unfold removePiece
  exact bind_of_eq_error _ (require_of_find?_none h)

theorem removePiece_of_find?_some {g : Game} {id : Text} {n : PieceNumber}
    (h : g.find? id = some n) :
    removePiece id g =
      (clearSquare ((g.withoutPiece id n).squareOf n) >>= fun _ => pure n)
        (g.withoutPiece id n) := by
  unfold removePiece
  rw [bind_of_eq_ok _ (require_of_find?_some h)]
  rfl

theorem removePiece_of_holds {g : Game} {id : Text} {n : PieceNumber}
    (h : g.find? id = some n) (on : g.board.Holds (g.squareOf n)) :
    removePiece id g =
      .ok n { g.withoutPiece id n with board := g.board.clear (g.squareOf n) } := by
  have hsquare : (g.withoutPiece id n).squareOf n = g.squareOf n := by
    unfold squareOf
    rw [board_withoutPiece]
  have hclear : clearSquare (g.squareOf n) (g.withoutPiece id n) =
      .ok (g.board.pieceAt (g.squareOf n))
        { g.withoutPiece id n with board := g.board.clear (g.squareOf n) } := by
    rw [← board_withoutPiece g id n] at on ⊢
    exact changeBoard_eq_ok (Board.remove_of_holds on)
  rw [removePiece_of_find?_some h, hsquare, bind_of_eq_ok _ hclear]
  rfl

theorem removePiece_of_not_holds {g : Game} {id : Text} {n : PieceNumber}
    (h : g.find? id = some n) (off : ¬ g.board.Holds (g.squareOf n)) :
    removePiece id g = .error (.badSquare (g.board.offBoardFault .remove (g.squareOf n)))
      (g.withoutPiece id n) := by
  have hsquare : (g.withoutPiece id n).squareOf n = g.squareOf n := by
    unfold squareOf
    rw [board_withoutPiece]
  have hclear : clearSquare (g.squareOf n) (g.withoutPiece id n) =
      .error (.badSquare (g.board.offBoardFault .remove (g.squareOf n)))
        (g.withoutPiece id n) := by
    rw [← board_withoutPiece g id n] at off ⊢
    exact changeBoard_eq_error (Board.remove_of_not_holds off)
  rw [removePiece_of_find?_some h, hsquare, bind_of_eq_error _ hclear]

inductive Removes (g : Game) (id : Text) : Game → Prop where
  | absent (h : g.find? id = none) : Removes g id g
  | offBoard {n : PieceNumber} (h : g.find? id = some n)
      (off : ¬ g.board.Holds (g.squareOf n)) : Removes g id (g.withoutPiece id n)
  | cleared {n : PieceNumber} (h : g.find? id = some n) (on : g.board.Holds (g.squareOf n)) :
      Removes g id { g.withoutPiece id n with board := g.board.clear (g.squareOf n) }

theorem removes_after (g : Game) (id : Text) : Removes g id (g.after (removePiece id)) := by
  cases h : g.find? id with
  | none =>
      rw [after_of_eq_error (removePiece_of_find?_none h)]
      exact Removes.absent h
  | some n =>
      by_cases on : g.board.Holds (g.squareOf n)
      · rw [after_of_eq_ok (removePiece_of_holds h on)]
        exact Removes.cleared h on
      · rw [after_of_eq_error (removePiece_of_not_holds h on)]
        exact Removes.offBoard h on

/-!
## Shifting
-/

inductive Shifts (g : Game) (origin target : Square) : Game → Prop where
  | unmoved : Shifts g origin target g
  | moved {n : PieceNumber} (h : g.board.pieceAt origin = some n)
      (on : g.board.Holds target) :
      Shifts g origin target { g with board := (g.board.clear origin).put n target }

theorem shift_of_pieceAt {g : Game} {origin target : Square} {n : PieceNumber}
    (h : g.board.pieceAt origin = some n) (on : g.board.Holds target) :
    shift origin target g = .ok () { g with board := (g.board.clear origin).put n target } :=
  changeBoard_eq_ok (Board.move_of_pieceAt h on)

theorem shift_of_vacant {g : Game} {origin : Square} (h : g.board.pieceAt origin = none)
    (target : Square) :
    shift origin target g = .error (.badSquare (.nothingToMove origin)) g :=
  changeBoard_eq_error (Board.move_of_vacant h target)

theorem shift_of_not_holds {g : Game} {origin target : Square} {n : PieceNumber}
    (h : g.board.pieceAt origin = some n) (off : ¬ g.board.Holds target) :
    shift origin target g = .error (.badSquare (g.board.offBoardFault .move target)) g :=
  changeBoard_eq_error (Board.move_of_not_holds h off)

theorem shifts_after (g : Game) (origin target : Square) :
    Shifts g origin target (g.after (shift origin target)) := by
  cases h : g.board.pieceAt origin with
  | none =>
      rw [after_of_eq_error (shift_of_vacant h target)]
      exact Shifts.unmoved
  | some n =>
      by_cases on : g.board.Holds target
      · rw [after_of_eq_ok (shift_of_pieceAt h on)]
        exact Shifts.moved h on
      · rw [after_of_eq_error (shift_of_not_holds h on)]
        exact Shifts.unmoved

/-!
## Effects
-/

def withEffect (g : Game) (definition : StatusDefinition) (host : PieceNumber) : Game :=
  { g.setEffect g.effectCount (.make definition host) with effectCount := g.effectCount + 1 }

/-- The game in which the effect with the next number is in force on a host and lends abilities
that have been made for it. -/
def withEffectInForce (g : Game) (definition : StatusDefinition) (host : PieceNumber)
    (children : List Ability) : Game :=
  { g with
    dispatcher := children.foldl Dispatcher.subscribeAbility g.dispatcher
    effects := (g.effects.insert g.effectCount (.make definition host)).insert g.effectCount
      { Effect.make definition host with children, active := true }
    effectCount := g.effectCount + 1
    statuses := g.statuses.insert host (g.statusesOf host ++ [g.effectCount])
    abilityCount := g.abilityCount + children.length }

inductive Afflicts (g : Game) (id : Text) (definition : StatusDefinition) : Game → Prop where
  | absent (h : g.find? id = none) : Afflicts g id definition g
  | unmade {host : PieceNumber} (h : g.find? id = some host)
      (unforced : (g.withEffect definition host).inForce? host definition.name = none) (k : Nat) :
      Afflicts g id definition ((g.withEffect definition host).withSerials k)
  | begun {host : PieceNumber} {children : List Ability} (h : g.find? id = some host)
      (unforced : (g.withEffect definition host).inForce? host definition.name = none)
      (made : Makes g host children) :
      Afflicts g id definition (g.withEffectInForce definition host children)
  | stacked {host : PieceNumber} {n : EffectNumber} {e : Effect} (h : g.find? id = some host)
      (forced : (g.withEffect definition host).inForce? host definition.name = some n)
      (found : (g.withEffect definition host).effect? n = some e) :
      Afflicts g id definition ((g.withEffect definition host).setEffect n (e.stack definition))

theorem effect?_withEffect_self (g : Game) (definition : StatusDefinition)
    (host : PieceNumber) :
    (g.withEffect definition host).effect? g.effectCount = some (.make definition host) :=
  Table.find?_insert_self _ _ _

theorem makeEffect_eq (g : Game) (definition : StatusDefinition) (host : PieceNumber) :
    makeEffect definition host g = .ok g.effectCount (g.withEffect definition host) := rfl

theorem activate_of_active {g : Game} {n : EffectNumber} {e : Effect} (found : g.effect? n = some e)
    (h : e.active = true) : activate n g = .ok () g := by
  unfold activate
  rw [get_bind, found]
  dsimp only
  rw [h]
  rfl

theorem activate_of_inactive {g : Game} {n : EffectNumber} {e : Effect}
    (found : g.effect? n = some e) (h : e.active = false) :
    activate n g =
      (makeAbilities e.host e.definition.abilities >>= fun children => modify fun g' =>
        (g'.subscribeAll children).setEffect n { e with children, active := true }) g := by
  unfold activate
  rw [get_bind, found]
  dsimp only
  rw [h]
  rfl

theorem applyEffect_of_unforced {g : Game} {n : EffectNumber} {e : Effect}
    (found : g.effect? n = some e) (h : g.inForce? e.host e.name = none) :
    applyEffect n g =
      (activate n >>= fun _ => (modify fun g' =>
        g'.setStatuses e.host (g'.statusesOf e.host ++ [n])) >>= fun _ => pure n) g := by
  unfold applyEffect
  rw [get_bind, found]
  dsimp only
  rw [h]

theorem applyEffect_of_forced {g : Game} {n m : EffectNumber} {e existing : Effect}
    (found : g.effect? n = some e) (h : g.inForce? e.host e.name = some m)
    (again : g.effect? m = some existing) :
    applyEffect n g = .ok m (g.setEffect m (existing.stack e.definition)) := by
  unfold applyEffect
  rw [get_bind, found]
  dsimp only
  rw [h]
  dsimp only
  rw [again]
  rfl

theorem applyEffect_of_unmade {g g' : Game} {definition : StatusDefinition} {host : PieceNumber}
    {e : GameError} (h : (g.withEffect definition host).inForce? host definition.name = none)
    (hmade : makeAbilities host definition.abilities (g.withEffect definition host) =
      .error e g') :
    applyEffect g.effectCount (g.withEffect definition host) = .error e g' := by
  have found := effect?_withEffect_self g definition host
  have hactivate := (activate_of_inactive found rfl).trans (bind_of_eq_error _ hmade)
  rw [applyEffect_of_unforced found h, bind_of_eq_error _ hactivate]

theorem applyEffect_of_made {g : Game} {definition : StatusDefinition} {host : PieceNumber}
    {children : List Ability}
    (h : (g.withEffect definition host).inForce? host definition.name = none)
    (hmade : makeAbilities host definition.abilities (g.withEffect definition host) =
      .ok children ((g.withEffect definition host).withSerials children.length)) :
    applyEffect g.effectCount (g.withEffect definition host) =
      .ok g.effectCount (g.withEffectInForce definition host children) := by
  have found := effect?_withEffect_self g definition host
  have hactivate := (activate_of_inactive found rfl).trans (bind_of_eq_ok _ hmade)
  rw [applyEffect_of_unforced found h, bind_of_eq_ok _ hactivate]
  rfl

theorem inForce?_eq_some {g : Game} {host : PieceNumber} {name : Text} {n : EffectNumber}
    (h : g.inForce? host name = some n) :
    n ∈ g.statusesOf host ∧ ∃ e, g.effect? n = some e ∧ e.active = true ∧ e.name = name := by
  unfold inForce? at h
  refine ⟨List.mem_of_find?_eq_some h, ?_⟩
  have hforced := List.find?_some h
  cases heffect : g.effect? n with
  | none =>
      rw [heffect] at hforced
      cases hforced
  | some e =>
      rw [heffect] at hforced
      simp only [Bool.and_eq_true, beq_iff_eq] at hforced
      exact ⟨e, rfl, hforced.1, hforced.2⟩

theorem applyStatus_of_find?_none {g : Game} {id : Text} (h : g.find? id = none)
    (definition : StatusDefinition) :
    applyStatus id definition g = .error (.unknownPiece id) g := by
  unfold applyStatus
  exact bind_of_eq_error _ (require_of_find?_none h)

theorem applyStatus_of_find?_some {g : Game} {id : Text} {host : PieceNumber}
    (h : g.find? id = some host) (definition : StatusDefinition) :
    applyStatus id definition g = applyEffect g.effectCount (g.withEffect definition host) := by
  unfold applyStatus
  rw [bind_of_eq_ok _ (require_of_find?_some h), bind_of_eq_ok _ (makeEffect_eq g definition host)]

theorem applyStatus_cases {g : Game} {id : Text} {host : PieceNumber} (h : g.find? id = some host)
    (definition : StatusDefinition) :
    (∃ n e, (g.withEffect definition host).inForce? host definition.name = some n ∧
      (g.withEffect definition host).effect? n = some e ∧
      applyStatus id definition g =
        .ok n ((g.withEffect definition host).setEffect n (e.stack definition))) ∨
    (∃ children, (g.withEffect definition host).inForce? host definition.name = none ∧
      Makes g host children ∧
      List.Forall₂ (g.registry.Makes host) definition.abilities children ∧
      applyStatus id definition g =
        .ok g.effectCount (g.withEffectInForce definition host children)) ∨
    ∃ e k, (g.withEffect definition host).inForce? host definition.name = none ∧
      definition.abilities.all g.registry.canMake = false ∧
      applyStatus id definition g = .error e ((g.withEffect definition host).withSerials k) := by
  rw [applyStatus_of_find?_some h]
  cases hforce : (g.withEffect definition host).inForce? host definition.name with
  | some n =>
      rcases (inForce?_eq_some hforce).2 with ⟨e, found, -⟩
      have hmade := effect?_withEffect_self g definition host
      exact Or.inl ⟨n, e, rfl, found, applyEffect_of_forced hmade hforce found⟩
  | none =>
      cases hmade : makeAbilities host definition.abilities (g.withEffect definition host) with
      | error e g' =>
          rcases makeAbilities_eq_error hmade with ⟨⟨k, rfl⟩, hunmade⟩
          exact Or.inr (Or.inr ⟨e, k, rfl, hunmade, applyEffect_of_unmade hforce hmade⟩)
      | ok children g' =>
          rcases makeAbilities_eq_ok hmade with ⟨rfl, hserials, hmakes⟩
          exact Or.inr (Or.inl ⟨children, rfl, ⟨hserials.serials, hserials.hosts, hserials.rules⟩,
            hmakes, applyEffect_of_made hforce hmade⟩)

theorem afflicts_after (g : Game) (id : Text) (definition : StatusDefinition) :
    Afflicts g id definition (g.after (applyStatus id definition)) := by
  cases h : g.find? id with
  | none =>
      rw [after_of_eq_error (applyStatus_of_find?_none h definition)]
      exact Afflicts.absent h
  | some host =>
      rcases applyStatus_cases h definition with
        ⟨n, e, hforce, found, hrun⟩ | ⟨children, hforce, hmade, -, hrun⟩ | ⟨e, k, hforce, -, hrun⟩
      · rw [after_of_eq_ok hrun]
        exact Afflicts.stacked h hforce found
      · rw [after_of_eq_ok hrun]
        exact Afflicts.begun h hforce hmade
      · rw [after_of_eq_error hrun]
        exact Afflicts.unmade h hforce k

end Game
end Boardcraft
