import Boardcraft.Proofs.Game.ActionTargets

/-!
# Checks

A check of a move and a check of an action take the same course.  The first gates are those of the
board and of the shape.  Behind them the abilities are asked, and then a verdict is given.  Both are
cases of an `Inquiry` here, so that what holds of their course is stated once.

## Main statements

* `Inquiry.check_of_precheck_some` and `Inquiry.check_of_precheck_none` follow a check;
* `Inquiry.check_eq_error` and `Inquiry.check_of_refuses` say when a check fails although no ability
  does: it comes to a refusal for which there are no words.
-/

namespace Boardcraft
namespace Game

/-- What may be asked about a piece: whether it may move to a square, or act upon it. -/
inductive Inquiry where
  | move (n : PieceNumber) (target : Square)
  | act (n : PieceNumber) (target : Square) (action : Text)

namespace Inquiry

def check : Inquiry → GameM (Option Refusal)
  | move n target => checkMove n target
  | act n target action => checkAction n target action

def target : Inquiry → Square
  | move _ target => target
  | act _ target _ => target

def event : Inquiry → Event
  | move _ _ => .moveValidate
  | act _ _ _ => .actionValidate

def precheck (g : Game) : Inquiry → Option Refusal
  | move n target => g.movePrecheck n target
  | act n target action => g.actionPrecheck n target action

def question (g : Game) : Inquiry → Context
  | move n target => g.moveQuestion n target
  | act n target action => g.actionQuestion n target action

def verdict (g g' : Game) (context : Context) : Inquiry → Option Refusal
  | move n target => g'.moveVerdict context n (g.squareOf n) target
  | act n target action => g'.actionVerdict context n target (g.board.pieceAt target) action

/-- A check comes to a refusal, either at its first gates or once the abilities have been asked. -/
inductive Refuses (g : Game) (i : Inquiry) : Refusal → Prop where
  | atOnce {refusal : Refusal} (gate : i.precheck g = some refusal) : Refuses g i refusal
  | asked {refusal : Refusal} {context : Context} {g' : Game} (gates : i.precheck g = none)
      (answered : announce (i.question g) g = .ok context g')
      (refused : i.verdict g g' context = some refusal) : Refuses g i refusal

variable {i : Inquiry} {g g' : Game}

@[simp] theorem event_question (i : Inquiry) (g : Game) : (i.question g).event = i.event := by
  cases i <;> rfl

@[simp] theorem cancelled_question (i : Inquiry) (g : Game) : (i.question g).cancelled = false := by
  cases i <;> rfl

/-!
## The course of a check
-/

theorem check_of_precheck_some {refusal : Refusal} (h : i.precheck g = some refusal) :
    i.check g = give (some refusal) g := by
  cases i with
  | move n target => exact checkMove_of_movePrecheck_some h
  | act n target action => exact checkAction_of_actionPrecheck_some h

theorem check_of_precheck_none (h : i.precheck g = none) :
    i.check g =
      (announce (i.question g) >>= fun context => get >>= fun g' =>
        give (i.verdict g g' context)) g := by
  cases i with
  | move n target => exact checkMove_of_movePrecheck_none h
  | act n target action => exact checkAction_of_actionPrecheck_none h

theorem check_of_announce (h : i.precheck g = none) {context : Context}
    (hrun : announce (i.question g) g = .ok context g') :
    i.check g = give (i.verdict g g' context) g' := by
  rw [check_of_precheck_none h, bind_of_eq_ok _ hrun, get_bind]

theorem precheck_of_check (h : i.check g = .ok none g') : i.precheck g = none := by
  cases i with
  | move n target => exact movePrecheck_of_checkMove h
  | act n target action => exact actionPrecheck_of_checkAction h

/-!
## Checks that fail
-/

/-- A check fails because an ability does when it is asked, or because there are no words for the
refusal that it comes to. -/
theorem check_eq_error {e : GameError} (h : i.check g = .error e g') :
    announce (i.question g) g = .error e g' ∨
      e = .oversizedNumber ∧ ∃ refusal, i.Refuses g refusal ∧ refusal.isTellable = false := by
  cases hpre : i.precheck g with
  | some refusal =>
      rw [check_of_precheck_some hpre] at h
      rcases give_eq_error h with ⟨he, _, hrefusal, huntold⟩
      exact Or.inr ⟨he, _, .atOnce (hpre.trans hrefusal), huntold⟩
  | none =>
      cases hrun : announce (i.question g) g with
      | error e' g'' =>
          rw [check_of_precheck_none hpre, bind_of_eq_error _ hrun] at h
          cases h
          exact Or.inl rfl
      | ok context g'' =>
          rw [check_of_announce hpre hrun] at h
          rcases give_eq_error h with ⟨he, _, hrefusal, huntold⟩
          exact Or.inr ⟨he, _, .asked hpre hrun hrefusal, huntold⟩

theorem check_of_refuses {refusal : Refusal} (h : i.Refuses g refusal)
    (huntold : refusal.isTellable = false) : ∃ g', i.check g = .error .oversizedNumber g' := by
  have hgive : ∀ g' : Game, give (some refusal) g' = .error .oversizedNumber g' := by
    intro g'
    rw [give_some, huntold, if_neg Bool.false_ne_true]
  cases h with
  | atOnce gate => exact ⟨g, (check_of_precheck_some gate).trans (hgive g)⟩
  | @asked context g' gates answered refused =>
      refine ⟨g', ?_⟩
      rw [check_of_announce gates answered, refused, hgive]

/-!
## Words for refusals
-/

theorem precheck_of_offBoard (h : ¬ g.board.Holds i.target) :
    i.precheck g = some (.offBoard i.target) := by
  cases i with
  | move n target => exact if_pos h
  | act n target action => exact if_pos h

theorem mem_squares_of_precheck {refusal : Refusal} (h : i.precheck g = some refusal) {s : Square}
    (hs : s ∈ refusal.squares) : s = i.target := by
  cases i with
  | move n target => exact mem_squares_of_movePrecheck h hs
  | act n target action => exact mem_squares_of_actionPrecheck h hs

/-- A verdict names the target, or a square that is taken when it is given. -/
theorem mem_squares_of_verdict {context : Context} {refusal : Refusal}
    (h : i.verdict g g' context = some refusal) {s : Square} (hs : s ∈ refusal.squares) :
    s = i.target ∨ g'.board.isOccupied s = true := by
  cases i with
  | act n target action => exact Or.inl (mem_squares_of_actionVerdict h hs)
  | move n target =>
      change g'.moveVerdict context n (g.squareOf n) target = some refusal at h
      rw [moveVerdict_eq] at h
      split at h
      · cases h
        cases hs
      · exact (mem_squares_of_obstacle h hs).imp_right And.right

end Inquiry

end Game
end Boardcraft
