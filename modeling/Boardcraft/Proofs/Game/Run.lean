import Boardcraft.Game.Command

/-!
# Runs of a game

A run is a list of operations that are performed one after the other on a game, each whether or not
those before it have failed.  This module says what a computation leaves behind, lists the
operations, and says what a fresh game is.

## Contents

`Game.after` is the game that one computation leaves behind, with an equation for each way to build
a computation; `Operation` holds the operations as data, and `Game.run` performs a list of them.
-/

namespace Boardcraft
namespace Game

variable {α β : Type}

/-!
## What a computation leaves behind
-/

def after (g : Game) (m : GameM α) : Game :=
  match m g with
  | .ok _ g' => g'
  | .error _ g' => g'

theorem after_of_eq_ok {g g' : Game} {m : GameM α} {a : α} (h : m g = .ok a g') :
    g.after m = g' := by
  rw [after, h]

theorem after_of_eq_error {g g' : Game} {m : GameM α} {e : GameError} (h : m g = .error e g') :
    g.after m = g' := by
  rw [after, h]

theorem bind_of_eq_ok {g g' : Game} {m : GameM α} {a : α} (f : α → GameM β)
    (h : m g = .ok a g') : (m >>= f) g = f a g' := by
  show EStateM.bind m f g = _
  rw [EStateM.bind, h]

theorem bind_of_eq_error {g g' : Game} {m : GameM α} {e : GameError} (f : α → GameM β)
    (h : m g = .error e g') : (m >>= f) g = .error e g' := by
  show EStateM.bind m f g = _
  rw [EStateM.bind, h]

theorem map_of_eq_ok {g g' : Game} {m : GameM α} {a : α} (f : α → β) (h : m g = .ok a g') :
    (f <$> m) g = .ok (f a) g' := by
  show EStateM.map f m g = _
  rw [EStateM.map, h]

theorem map_of_eq_error {g g' : Game} {m : GameM α} {e : GameError} (f : α → β)
    (h : m g = .error e g') : (f <$> m) g = .error e g' := by
  show EStateM.map f m g = _
  rw [EStateM.map, h]

/-- What fails in a row fails in the first part or in what comes after it. -/
theorem bind_eq_error {g g' : Game} {m : GameM α} {f : α → GameM β} {e : GameError}
    (h : (m >>= f) g = .error e g') :
    m g = .error e g' ∨ ∃ a g₁, m g = .ok a g₁ ∧ f a g₁ = .error e g' := by
  cases hrun : m g with
  | ok a g₁ =>
      rw [bind_of_eq_ok f hrun] at h
      exact Or.inr ⟨a, g₁, rfl, h⟩
  | error e' g₁ =>
      rw [bind_of_eq_error f hrun] at h
      cases h
      exact Or.inl rfl

theorem bind_of_run_eq {g g' : Game} {m m' : GameM α} (f : α → GameM β) (h : m g = m' g') :
    (m >>= f) g = (m' >>= f) g' := by
  show EStateM.bind m f g = EStateM.bind m' f g'
  rw [EStateM.bind, EStateM.bind, h]

theorem get_bind (g : Game) (f : Game → GameM α) : ((get : GameM Game) >>= f) g = f g g := rfl

theorem after_bind_of_eq_ok {g g' : Game} {m : GameM α} {a : α} (f : α → GameM β)
    (h : m g = .ok a g') : g.after (m >>= f) = g'.after (f a) := by
  rw [after, bind_of_eq_ok f h, after]

theorem after_bind_of_eq_error {g g' : Game} {m : GameM α} {e : GameError} (f : α → GameM β)
    (h : m g = .error e g') : g.after (m >>= f) = g' := by
  rw [after, bind_of_eq_error f h]

theorem after_congr {g : Game} {m m' : GameM α} (h : m g = m' g) : g.after m = g.after m' := by
  rw [after, after, h]

@[simp] theorem after_pure (g : Game) (a : α) : g.after (pure a : GameM α) = g := rfl

theorem after_bind_pure (g : Game) (m : GameM α) (f : α → β) :
    g.after (m >>= fun a => pure (f a)) = g.after m := by
  cases h : m g with
  | ok a g' => rw [after_bind_of_eq_ok _ h, after_of_eq_ok h, after_pure]
  | error e g' => rw [after_bind_of_eq_error _ h, after_of_eq_error h]

theorem after_bind_get_pure (g : Game) (m : GameM α) (f : α → Game → β) :
    g.after (m >>= fun a => (get : GameM Game) >>= fun g' => pure (f a g')) = g.after m := by
  cases h : m g with
  | ok a g' => rw [after_bind_of_eq_ok _ h, after_of_eq_ok h]; rfl
  | error e g' => rw [after_bind_of_eq_error _ h, after_of_eq_error h]

theorem after_get_bind (g : Game) (f : Game → GameM α) :
    g.after ((get : GameM Game) >>= f) = g.after (f g) := rfl

theorem after_modify_bind (g : Game) (change : Game → Game) (f : PUnit → GameM α) :
    g.after ((modify change : GameM PUnit) >>= f) = (change g).after (f ⟨⟩) := rfl

end Game

/-!
## Operations
-/

inductive Operation where
  | add (blueprint : Blueprint) (team : Value) (square : Square)
  | setup (blueprints : Table Text Blueprint) (entries : List Game.Entry)
  | remove (id : Text)
  | start (first : Value)
  | move (id : Text) (target : Square)
  | act (id : Text) (target : Square) (action : Text)
  | applyStatus (id : Text) (definition : StatusDefinition)
  | endTurn
  | legalMoves (n : PieceNumber)
  | legalTargets (n : PieceNumber) (action : Text)
  | checkMove (n : PieceNumber) (target : Square)
  | checkAction (n : PieceNumber) (target : Square) (action : Text)

inductive Answer where
  | nothing
  | piece (n : PieceNumber)
  | effect (n : EffectNumber)
  | outcomes (reports : List Outcome)
  | squares (targets : List Square)
  | verdict (refusal : Option Refusal)

def Operation.perform : Operation → GameM Answer
  | add blueprint team square => .piece <$> Game.addPiece blueprint team square
  | setup blueprints entries => (fun _ => .nothing) <$> Game.setup blueprints entries
  | remove id => .piece <$> Game.removePiece id
  | start first => (fun outcome => .outcomes [outcome]) <$> Game.start first
  | move id target => .outcomes <$> Game.move id target
  | act id target action => .outcomes <$> Game.act id target action
  | applyStatus id definition => .effect <$> Game.applyStatus id definition
  | endTurn => (fun _ => .nothing) <$> Game.endTurn
  | legalMoves n => .squares <$> Game.legalMoves n
  | legalTargets n action => .squares <$> Game.legalTargets n action
  | checkMove n target => .verdict <$> Game.checkMove n target
  | checkAction n target action => .verdict <$> Game.checkAction n target action

namespace Game

theorem after_map (g : Game) (f : α → β) (m : GameM α) : g.after (f <$> m) = g.after m := by
  show g.after (EStateM.map f m) = g.after m
  unfold after EStateM.map
  cases m g <;> rfl

def run (g : Game) (ops : List Operation) : Game :=
  ops.foldl (fun g op => g.after op.perform) g

def answer (g : Game) (op : Operation) : Except GameError Answer :=
  match op.perform g with
  | .ok a _ => .ok a
  | .error e _ => .error e

def answers (g : Game) : List Operation → List (Except GameError Answer)
  | [] => []
  | op :: rest => g.answer op :: (g.after op.perform).answers rest

/-- A game in which nothing has happened yet: an empty board and a registry of rules. -/
def fresh (board : Board) (registry : Registry) : Game := { board, registry }

/-- A game as it is made for a board of some size. -/
def Fresh (g : Game) : Prop :=
  ∃ (width height : Int) (board : Board) (registry : Registry),
    Board.make width height = .ok board ∧ g = fresh board registry

def Reached (g : Game) : Prop :=
  ∃ (start : Game) (ops : List Operation), Fresh start ∧ g = start.run ops

/-- A property that every operation keeps is kept by a run. -/
theorem run_induction {P : Game → Prop}
    (step : ∀ (g : Game) (op : Operation), P g → P (g.after op.perform))
    {g : Game} (h : P g) (ops : List Operation) : P (g.run ops) := by
  induction ops generalizing g with
  | nil => exact h
  | cons op rest ih => exact ih (step g op h)

/-!
## A small game

Games that show what a statement says are played on the usual board by pieces that take single
steps.
-/

def walker (abilities : List AbilitySpec) : Blueprint :=
  { name := "Walker", emoji := "W", movement := .object step, attack := .object step, abilities }
where
  step : Fields := [("kind", .str "square"), ("size", .int 1)]

def lending (kind : Text) (more : Nat) : StatusDefinition :=
  { name := kind, duration := more + 1, abilities := [{ name := kind }],
    duration_pos := Int.le_add_of_nonneg_left (Int.natCast_nonneg more) }

def usual (registry : Registry) : Game :=
  fresh { width := Board.usualSize, height := Board.usualSize } registry

theorem fresh_usual (registry : Registry) : Fresh (usual registry) :=
  ⟨Board.usualSize, Board.usualSize, _, registry, rfl, rfl⟩

end Game
end Boardcraft
