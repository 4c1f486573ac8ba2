import Boardcraft.Proofs.Game.Operations
import Mathlib.Logic.Relation

/-!
# Steps of a game

Whatever abilities do while events are announced, and whatever a command does in between, a game
only ever changes by steps of a few kinds.  `Step` lists them, and `Becomes` is any number of them.
Any number of steps is a chronicle, so each operation only takes such steps, whether it succeeds or
fails.  Bringing pieces into play is not among the steps: what it keeps is shown apart.

An invariant of runs is thus shown by one case for each kind of step, and nothing about
announcements has to be opened again.
-/

namespace Boardcraft
namespace Game

/-- One change of a game in which all pieces have been made.  Pieces only move to squares that
are empty. -/
inductive Step : Game → Game → Prop where
  | sight (g : Game) (seen : Sighting) : Step g { g with journal := g.journal ++ [seen] }
  | subscribe (g : Game) {name : Text} {a : Ability} (cast : g.cast.find? name = some a)
      (event : Event) (priority : Int) :
      Step g (g.withDispatcher fun d => d.subscribe event a priority)
  | unsubscribe (g : Game) {name : Text} {a : Ability} (cast : g.cast.find? name = some a)
      (event : Event) : Step g (g.withDispatcher fun d => d.unsubscribe event a)
  | afflict (g : Game) (id : Text) (definition : StatusDefinition) :
      Step g (g.after (applyStatus id definition))
  | remove (g : Game) (id : Text) : Step g (g.after (removePiece id))
  | turn (g : Game) : Step g g.tickAll.nextTurn
  | begin (g : Game) (team : Team) :
      Step g { g with toMove := some team, turn := 1, winner := none }
  | shift (g : Game) {target : Square} (empty : g.board.isOccupied target = false)
      (origin : Square) : Step g (g.after (shift origin target))
  | win (g : Game) (team : Team) : Step g { g with winner := some team }

def Becomes : Game → Game → Prop := Relation.ReflTransGen Step

namespace Becomes

theorem refl (g : Game) : Becomes g g := Relation.ReflTransGen.refl

theorem step {g g' : Game} (h : Step g g') : Becomes g g' := Relation.ReflTransGen.single h

theorem trans {g g' g'' : Game} (h : Becomes g g') (h' : Becomes g' g'') : Becomes g g'' :=
  Relation.ReflTransGen.trans h h'

theorem induction {P : Game → Prop} (step : ∀ g g', Step g g' → P g → P g') {g g' : Game}
    (h : Becomes g g') (hg : P g) : P g' := by
  induction h with
  | refl => exact hg
  | tail _ hstep ih => exact step _ _ hstep ih

end Becomes

/-!
## Computations that only take steps
-/

/-- A computation that only takes steps, from whatever game it starts. -/
def Stepwise {α : Type} (m : GameM α) : Prop := ∀ g : Game, Becomes g (g.after m)

/-- Whatever its deeds are, a game only changes by steps. -/
theorem fullChronicle_becomes : FullChronicle fun g _ g' => Becomes g g' where
  still := Becomes.refl
  chain := Becomes.trans
  sight g seen := Becomes.step (Step.sight g seen)
  subscribe g _ _ priority event _ _ cast := Becomes.step (Step.subscribe g cast event priority)
  unsubscribe g _ _ event _ _ cast := Becomes.step (Step.unsubscribe g cast event)
  afflict g _ _ id definition _ := Becomes.step (Step.afflict g id definition)
  remove g _ id _ := Becomes.step (Step.remove g id)
  turn _ g := Becomes.step (Step.turn g)
  begin g team := Becomes.step (Step.begin g team)
  shift g origin _ empty := Becomes.step (Step.shift g empty origin)
  win g team := Becomes.step (Step.win g team)

theorem stepwise_removePiece (id : Text) : Stepwise (removePiece id) := by
  intro g
  exact Becomes.step (Step.remove g id)

theorem stepwise_capture (attacker captured : PieceNumber) :
    Stepwise (capture attacker captured) :=
  fullChronicle_becomes.capture attacker captured

/-!
## Runs
-/

theorem stepwise_operation (op : Operation) :
    (∃ blueprint team square, op = .add blueprint team square) ∨
      (∃ blueprints entries, op = .setup blueprints entries) ∨ Stepwise op.perform := by
  by_cases hop : op.Recruits
  · cases op with
    | add blueprint team square => exact Or.inl ⟨blueprint, team, square, rfl⟩
    | setup blueprints entries => exact Or.inr (Or.inl ⟨blueprints, entries, rfl⟩)
    | _ => cases hop
  · exact Or.inr (Or.inr (fullChronicle_becomes.operation hop))

/-- A layout is brought into play piece by piece, up to the first that fails. -/
theorem after_setup_cons (g : Game) (blueprints : Table Text Blueprint) (e : Entry)
    (rest : List Entry) :
    g.after (setup blueprints (e :: rest)) = g ∨
      ∃ blueprint, blueprints.find? e.blueprint = some blueprint ∧
        (g.after (setup blueprints (e :: rest)) = g.after (addPiece blueprint e.team e.square) ∨
          g.after (setup blueprints (e :: rest)) =
            (g.after (addPiece blueprint e.team e.square)).after (setup blueprints rest)) := by
  rw [setup]
  cases hfind : blueprints.find? e.blueprint with
  | none => exact Or.inl rfl
  | some blueprint =>
      refine Or.inr ⟨blueprint, rfl, ?_⟩
      dsimp only
      cases hadd : addPiece blueprint e.team e.square g with
      | ok n g' =>
          apply Or.inr
          rw [after_bind_of_eq_ok _ hadd, after_of_eq_ok hadd]
      | error fault g' =>
          apply Or.inl
          rw [after_bind_of_eq_error _ hadd, after_of_eq_error hadd]

/-- A property that each step keeps, and so does bringing a piece into play, is kept by a run. -/
theorem run_keeps {P : Game → Prop} (hstep : ∀ g g', Step g g' → P g → P g')
    (hadd : ∀ (g : Game) blueprint team square, P g →
      P (g.after (addPiece blueprint team square)))
    {g : Game} (h : P g) (ops : List Operation) : P (g.run ops) := by
  have hsetup : ∀ (blueprints : Table Text Blueprint) (entries : List Entry) (g : Game), P g →
      P (g.after (setup blueprints entries)) := by
    intro blueprints entries
    induction entries with
    | nil => exact fun _ hg => hg
    | cons e rest ih =>
        intro g hg
        rcases after_setup_cons g blueprints e rest with heq | ⟨blueprint, _, heq | heq⟩
        · rw [heq]
          exact hg
        · rw [heq]
          exact hadd g blueprint _ _ hg
        · rw [heq]
          exact ih _ (hadd g blueprint _ _ hg)
  refine run_induction (fun g op hg => ?_) h ops
  rcases stepwise_operation op with ⟨blueprint, team, square, rfl⟩ | ⟨blueprints, entries, rfl⟩ | ht
  · rw [Operation.perform, after_map]
    exact hadd g blueprint team square hg
  · rw [Operation.perform, after_map]
    exact hsetup blueprints entries g hg
  · exact (ht g).induction hstep hg

end Game
end Boardcraft
