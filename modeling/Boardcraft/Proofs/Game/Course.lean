import Boardcraft.Proofs.Game.Inquiry

/-!
# The course of an order

An order to move a piece and an order to act with it take the same course.  First it is asked who has
the move, then the start of the order is announced, and then it is checked.  At each of these stages it
may be refused, and listeners may make it fail from the second on.  What passes the check is carried
out.  Both orders are cases of a `PieceOrder` here, so that what holds of their course is stated once.

## Main statements

* `proceeds` lists the ways that an order can take;
* `Begins.carryOut_of_error` and `Begins.carryOut_of_allowed` follow an order that has come to its
  check.
-/

namespace Boardcraft

/-- An order to the piece with an id: to move to a square, or to act upon one. -/
inductive PieceOrder where
  | move (id : Text) (target : Square)
  | act (id : Text) (target : Square) (action : Text)

namespace PieceOrder

def id : PieceOrder → Text
  | move id _ => id
  | act id _ _ => id

def target : PieceOrder → Square
  | move _ target => target
  | act _ target _ => target

def carryOut : PieceOrder → GameM (List Outcome)
  | move id target => Game.move id target
  | act id target action => Game.act id target action

def start (g : Game) (n : PieceNumber) : PieceOrder → Context
  | move _ target => g.moveStart n target
  | act _ target action => g.actionStart n target action

def inquiry (n : PieceNumber) : PieceOrder → Game.Inquiry
  | move _ target => .move n target
  | act _ target action => .act n target action

/-- What is done for an order given in the game `g` to the piece `n`, once it is allowed. -/
def execute (g : Game) (n : PieceNumber) : PieceOrder → GameM (List Outcome)
  | move _ target => Game.carryOutMove n (g.squareOf n) target
  | act _ target action =>
      Game.carryOutAction n (g.squareOf n) target (g.board.pieceAt target) action

def refused : PieceOrder → Refusal → Outcome
  | move id target, refusal => .refused .move id target refusal
  | act id target _, refusal => .refused .action id target refusal

/-- The refusal of an order whose start has been cancelled. -/
def cancelled : PieceOrder → Refusal
  | move id _ => .moveCancelled id
  | act id _ action => .actionCancelled action id

/-- What follows the check of an order. -/
def settle (g : Game) (n : PieceNumber) (order : PieceOrder) : Option Refusal → GameM (List Outcome)
  | some refusal => pure [order.refused refusal]
  | none => order.execute g n

theorem target_inquiry (n : PieceNumber) (order : PieceOrder) :
    (order.inquiry n).target = order.target := by
  cases order <;> rfl

end PieceOrder

namespace Game

variable {g g₁ g₂ : Game} {order : PieceOrder} {n : PieceNumber}

theorem carryOut_of_not_commanded {refusal : Refusal}
    (h : g.commanded order.id = .error refusal) :
    order.carryOut g = .ok [order.refused refusal] g := by
  cases order with
  | move id target => exact move_of_not_commanded h target
  | act id target action => exact act_of_not_commanded h target action

theorem carryOut_of_commanded (h : g.commanded order.id = .ok n) :
    order.carryOut g =
      (announce (order.start g n) >>= fun context =>
        if context.cancelled then pure [order.refused order.cancelled]
        else (order.inquiry n).check >>= order.settle g n) g := by
  cases order with
  | move id target => exact move_of_ok h target
  | act id target action => exact act_of_ok h target action

/-!
## Orders that come to their check
-/

/-- An order may be given to a piece, and its start is announced and not cancelled.  Then it comes to
its check in another game. -/
structure Begins (g : Game) (order : PieceOrder) (n : PieceNumber) (g₁ : Game) : Prop where
  commanded : g.commanded order.id = .ok n
  announced : ∃ context, announce (order.start g n) g = .ok context g₁ ∧ context.cancelled = false

namespace Begins

theorem carryOut_eq (h : Begins g order n g₁) :
    order.carryOut g = ((order.inquiry n).check >>= order.settle g n) g₁ := by
  rcases h.announced with ⟨context, hrun, hgoing⟩
  rw [carryOut_of_commanded h.commanded, bind_of_eq_ok _ hrun]
  exact congrFun (if_neg (Bool.eq_false_iff.1 hgoing)) g₁

theorem carryOut_of_error (h : Begins g order n g₁) {e : GameError}
    (hcheck : (order.inquiry n).check g₁ = .error e g₂) : order.carryOut g = .error e g₂ :=
  h.carryOut_eq.trans (bind_of_eq_error _ hcheck)

theorem carryOut_of_refused (h : Begins g order n g₁) {refusal : Refusal}
    (hcheck : (order.inquiry n).check g₁ = .ok (some refusal) g₂) :
    order.carryOut g = .ok [order.refused refusal] g₂ :=
  h.carryOut_eq.trans (bind_of_eq_ok _ hcheck)

theorem carryOut_of_allowed (h : Begins g order n g₁)
    (hcheck : (order.inquiry n).check g₁ = .ok none g₂) :
    order.carryOut g = order.execute g n g₂ :=
  h.carryOut_eq.trans (bind_of_eq_ok _ hcheck)

end Begins

/-!
## All orders
-/

/-- The ways that an order can take, each with its result. -/
inductive Proceeds (g : Game) (order : PieceOrder) :
    EStateM.Result GameError Game (List Outcome) → Prop where
  | forbidden {refusal : Refusal} (gate : g.commanded order.id = .error refusal) :
      Proceeds g order (.ok [order.refused refusal] g)
  | unannounced {n : PieceNumber} {e : GameError} {g₁ : Game}
      (commanded : g.commanded order.id = .ok n)
      (failed : announce (order.start g n) g = .error e g₁) : Proceeds g order (.error e g₁)
  | cancelled {n : PieceNumber} {context : Context} {g₁ : Game}
      (commanded : g.commanded order.id = .ok n)
      (announced : announce (order.start g n) g = .ok context g₁)
      (cancelled : context.cancelled = true) :
      Proceeds g order (.ok [order.refused order.cancelled] g₁)
  | unchecked {n : PieceNumber} {e : GameError} {g₁ g₂ : Game} (begins : Begins g order n g₁)
      (failed : (order.inquiry n).check g₁ = .error e g₂) : Proceeds g order (.error e g₂)
  | refused {n : PieceNumber} {refusal : Refusal} {g₁ g₂ : Game} (begins : Begins g order n g₁)
      (checked : (order.inquiry n).check g₁ = .ok (some refusal) g₂) :
      Proceeds g order (.ok [order.refused refusal] g₂)
  | executed {n : PieceNumber} {g₁ g₂ : Game}
      {result : EStateM.Result GameError Game (List Outcome)} (begins : Begins g order n g₁)
      (allowed : (order.inquiry n).check g₁ = .ok none g₂)
      (run : order.execute g n g₂ = result) : Proceeds g order result

theorem proceeds (g : Game) (order : PieceOrder) : Proceeds g order (order.carryOut g) := by
  cases hgate : g.commanded order.id with
  | error refusal =>
      rw [carryOut_of_not_commanded hgate]
      exact .forbidden hgate
  | ok n =>
      cases hrun : announce (order.start g n) g with
      | error e g₁ =>
          rw [carryOut_of_commanded hgate, bind_of_eq_error _ hrun]
          exact .unannounced hgate hrun
      | ok context g₁ =>
          cases hcancelled : context.cancelled with
          | true =>
              rw [carryOut_of_commanded hgate, bind_of_eq_ok _ hrun, if_pos hcancelled]
              exact .cancelled hgate hrun hcancelled
          | false =>
              have hbegins : Begins g order n g₁ := ⟨hgate, context, hrun, hcancelled⟩
              cases hcheck : (order.inquiry n).check g₁ with
              | error e g₂ =>
                  rw [hbegins.carryOut_of_error hcheck]
                  exact .unchecked hbegins hcheck
              | ok verdict g₂ =>
                  cases verdict with
                  | some refusal =>
                      rw [hbegins.carryOut_of_refused hcheck]
                      exact .refused hbegins hcheck
                  | none => exact .executed hbegins hcheck (hbegins.carryOut_of_allowed hcheck).symm

end Game
end Boardcraft
