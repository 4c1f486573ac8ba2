import Boardcraft.Proofs.Game.Orders

/-!
# What operations leave of the turn

Whose turn it is, which turn it is and who has won concern the beginning of a game, the end of a turn
and the capture of a piece.  Everything else leaves them alone.

## Main statements

* `sameTurn_perform` says so of operations that bring pieces into play, take them out of it or put
  them under effects;
* `winner_perform` says that only the beginning of a game and an action can change who has won;
* `orders_refused_of_over` says that a game that is won takes no more orders.
-/

namespace Boardcraft

namespace Operation

def Begins : Operation → Prop
  | start _ => True
  | _ => False

def Acts : Operation → Prop
  | act _ _ _ => True
  | _ => False

/-- Whether an operation brings pieces into play, takes one out of it or puts one under an effect,
which announces no event. -/
def Arranges : Operation → Prop
  | add _ _ _ | setup _ _ | remove _ | applyStatus _ _ => True
  | _ => False

def Asks : Operation → Prop
  | legalMoves _ | legalTargets _ _ | checkMove _ _ | checkAction _ _ _ => True
  | _ => False

end Operation

namespace Game

theorem SameTurn.refl (g : Game) : SameTurn g g := ⟨rfl, rfl, rfl⟩

/-!
## Pieces and effects
-/

theorem sameTurn_add (g : Game) (blueprint : Blueprint) (team : Value) (square : Square) :
    SameTurn g (g.after (addPiece blueprint team square)) := by
  have hadd := adds_after g blueprint team square
  generalize g.after (addPiece blueprint team square) = g' at hadd ⊢
  cases hadd <;> exact ⟨rfl, rfl, rfl⟩

theorem sameTurn_setup (blueprints : Table Text Blueprint) (entries : List Entry) (g : Game) :
    SameTurn g (g.after (setup blueprints entries)) := by
  induction entries generalizing g with
  | nil => exact .refl g
  | cons e rest ih =>
      rcases after_setup_cons g blueprints e rest with heq | ⟨blueprint, _, heq | heq⟩
      · rw [heq]
        exact .refl g
      · rw [heq]
        exact sameTurn_add g blueprint e.team e.square
      · rw [heq]
        exact (sameTurn_add g blueprint e.team e.square).trans (ih _)

theorem sameTurn_remove (g : Game) (id : Text) : SameTurn g (g.after (removePiece id)) := by
  have hremove := removes_after g id
  generalize g.after (removePiece id) = g' at hremove ⊢
  have hwithout : ∀ n, SameTurn g (g.withoutPiece id n) := by
    intro n
    rcases withoutPiece_eq g id n with ⟨dispatcher, effects, heq⟩
    rw [heq]
    exact ⟨rfl, rfl, rfl⟩
  cases hremove with
  | absent _ => exact .refl g
  | offBoard _ _ => exact hwithout _
  | cleared _ _ => exact (hwithout _).trans ⟨rfl, rfl, rfl⟩

theorem sameTurn_afflict (g : Game) (id : Text) (definition : StatusDefinition) :
    SameTurn g (g.after (applyStatus id definition)) := by
  have hafflict := afflicts_after g id definition
  generalize g.after (applyStatus id definition) = g' at hafflict ⊢
  cases hafflict <;> exact ⟨rfl, rfl, rfl⟩

theorem sameTurn_perform {op : Operation} (hop : op.Arranges) (g : Game) :
    SameTurn g (g.after op.perform) := by
  cases op with
  | add blueprint team square =>
      rw [Operation.perform, after_map]
      exact sameTurn_add g blueprint team square
  | setup blueprints entries =>
      rw [Operation.perform, after_map]
      exact sameTurn_setup blueprints entries g
  | remove id =>
      rw [Operation.perform, after_map]
      exact sameTurn_remove g id
  | applyStatus id definition =>
      rw [Operation.perform, after_map]
      exact sameTurn_afflict g id definition
  | _ => cases hop

/-!
## Questions
-/

theorem Chronicle.question {R : Game → List Deed → Game → Prop}
    (h : Chronicle (fun _ => True) R) {op : Operation} (hop : op.Asks) (g : Game) :
    R g (op.deeds g) (g.after op.perform) := by
  cases op with
  | legalMoves n =>
      rw [Operation.perform, after_map]
      exact h.legalMoves n g
  | legalTargets n action =>
      rw [Operation.perform, after_map]
      exact h.legalTargets n action g
  | checkMove n target =>
      rw [Operation.perform, after_map]
      exact h.checkMove n target g
  | checkAction n target action =>
      rw [Operation.perform, after_map]
      exact h.checkAction n target action g
  | _ => cases hop

/-!
## Who has won
-/

/-- Whatever listeners do, none of them can make anybody win. -/
theorem chronicle_winner :
    Chronicle (fun _ => True) fun g _ g' => g'.winner = g.winner where
  still _ := rfl
  chain h h' := h'.trans h
  sight _ _ := rfl
  subscribe _ _ _ _ _ _ _ _ := rfl
  unsubscribe _ _ _ _ _ _ _ := rfl
  afflict g _ _ id definition _ := (sameTurn_afflict g id definition).winner
  remove g _ id _ := (sameTurn_remove g id).winner
  turn _ g := (turnPassed_turn g).winner

def KeepsWinner {α : Type} (m : GameM α) : Prop := ∀ g : Game, (g.after m).winner = g.winner

namespace KeepsWinner

variable {α β : Type}

theorem pure (a : α) : KeepsWinner (Pure.pure a : GameM α) := fun _ => rfl

theorem bind {m : GameM α} {f : α → GameM β} (hm : KeepsWinner m) (hf : ∀ a, KeepsWinner (f a)) :
    KeepsWinner (m >>= f) := by
  intro g
  have hfirst := hm g
  cases hrun : m g with
  | ok a g' =>
      rw [after_of_eq_ok hrun] at hfirst
      rw [after_bind_of_eq_ok f hrun, hf a g', hfirst]
  | error e g' =>
      rw [after_of_eq_error hrun] at hfirst
      rw [after_bind_of_eq_error f hrun, hfirst]

theorem get_bind {f : Game → GameM α} (hf : ∀ g, KeepsWinner (f g)) :
    KeepsWinner ((get : GameM Game) >>= f) := fun g => hf g g

theorem announce (c : Context) : KeepsWinner (Game.announce c) := chronicle_winner.announce c

theorem endTurn : KeepsWinner Game.endTurn := chronicle_winner.endTurn

theorem shift (origin target : Square) : KeepsWinner (Game.shift origin target) := by
  intro g
  have hshifts := shifts_after g origin target
  generalize g.after (Game.shift origin target) = g' at hshifts ⊢
  cases hshifts <;> rfl

theorem carryOutMove (n : PieceNumber) (origin target : Square) :
    KeepsWinner (Game.carryOutMove n origin target) := by
  rw [carryOutMove_eq]
  exact bind (shift origin target) fun _ => bind (announce _) fun _ => get_bind fun _ =>
    bind endTurn fun _ => pure _

theorem move (id : Text) (target : Square) : KeepsWinner (Game.move id target) := by
  refine get_bind fun g => ?_
  split
  · exact pure _
  · refine bind (announce _) fun context => ?_
    split
    · exact pure _
    · refine bind (chronicle_winner.checkMove _ target) fun refusal => ?_
      cases refusal with
      | some refusal => exact pure _
      | none => exact carryOutMove _ _ target

end KeepsWinner

/-- Only the beginning of a game and an action can change who has won. -/
theorem winner_perform {op : Operation} (hbegins : ¬ op.Begins) (hacts : ¬ op.Acts) (g : Game) :
    (g.after op.perform).winner = g.winner := by
  by_cases harranges : op.Arranges
  · exact (sameTurn_perform harranges g).winner
  by_cases hasks : op.Asks
  · exact chronicle_winner.question hasks g
  cases op with
  | start first => exact absurd trivial hbegins
  | act id target action => exact absurd trivial hacts
  | move id target =>
      rw [Operation.perform, after_map]
      exact KeepsWinner.move id target g
  | endTurn =>
      rw [Operation.perform, after_map]
      exact KeepsWinner.endTurn g
  | _ => first | exact absurd trivial harranges | exact absurd trivial hasks

/-- When a game begins nobody has won it, and if it cannot begin nothing has changed. -/
theorem winner_start (first : Value) (g : Game) :
    (g.after (start first)).winner = none ∨ g.after (start first) = g := by
  unfold start
  cases Team.ofValue? first with
  | none => exact Or.inr rfl
  | some team =>
      apply Or.inl
      dsimp only
      rw [after_modify_bind]
      have hevents : KeepsWinner (announce { event := .gameStart } >>= fun _ =>
          announce { event := .turnStart } >>= fun _ => get >>= fun g' =>
            pure (Outcome.started team g'.roster.size)) :=
        .bind (.announce _) fun _ => .bind (.announce _) fun _ => .get_bind fun _ => .pure _
      exact hevents (g.begun team)

theorem winner_perform_of_open {op : Operation} (hacts : ¬ op.Acts) {g : Game}
    (h : g.winner = none) : (g.after op.perform).winner = none := by
  by_cases hbegins : op.Begins
  · cases op with
    | start first =>
        rw [Operation.perform, after_map]
        rcases winner_start first g with hnone | hsame
        · exact hnone
        · rw [hsame, h]
    | _ => cases hbegins
  · rw [winner_perform hbegins hacts g, h]

/-!
## Games that are over
-/

/-- The refusal of any order to the piece with an id when the game is won. -/
def refusalWhenOver (g : Game) (winner : Team) (id : Text) : Refusal :=
  if g.find? id = none then .unknownPiece id else .gameOver winner

theorem commanded_of_over {g : Game} {winner : Team} (h : g.winner = some winner) (id : Text) :
    g.commanded id = .error (g.refusalWhenOver winner id) := by
  unfold commanded refusalWhenOver
  cases g.find? id with
  | none => simp
  | some n => simp [h]

theorem orders_refused_of_over {g : Game} {winner : Team} (h : g.winner = some winner)
    (order : PieceOrder) :
    order.carryOut g = .ok [order.refused (g.refusalWhenOver winner order.id)] g :=
  carryOut_of_not_commanded (commanded_of_over h order.id)

/-- A game that is won stays won by the same team until it begins again. -/
theorem winner_run_of_over {ops : List Operation} (hops : ∀ op ∈ ops, ¬ op.Begins) {g : Game}
    {winner : Team} (h : g.winner = some winner) : (g.run ops).winner = some winner := by
  induction ops generalizing g with
  | nil => exact h
  | cons op rest ih =>
      apply ih fun op' hop' => hops op' (List.mem_cons_of_mem op hop')
      show (g.after op.perform).winner = some winner
      by_cases hacts : op.Acts
      · cases op with
        | act id target action =>
            have hsame : g.after (act id target action) = g :=
              after_of_eq_ok (orders_refused_of_over h (.act id target action))
            rw [Operation.perform, after_map, hsame]
            exact h
        | _ => cases hacts
      · exact (winner_perform (hops op List.mem_cons_self) hacts g).trans h

end Game
end Boardcraft
