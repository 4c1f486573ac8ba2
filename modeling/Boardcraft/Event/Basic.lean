import Boardcraft.Data.Literal

/-!
# Events

The moments of a game at which abilities may step in, and the flags that a legality check reads
once the abilities have had their say.
-/

namespace Boardcraft

inductive Event where
  | moveStart
  | moveEnd
  | moveValidate
  | capture
  | actionStart
  | actionEnd
  | actionValidate
  | gameStart
  | gameOver
  | turnStart
  deriving DecidableEq, Inhabited, Repr

namespace Event

def all : List Event :=
  [moveStart, moveEnd, moveValidate, capture, actionStart, actionEnd, actionValidate, gameStart,
   gameOver, turnStart]

theorem mem_all (e : Event) : e ∈ all := by
  cases e <;> decide

def name : Event → String
  | moveStart => "on_move_start"
  | moveEnd => "on_move_end"
  | moveValidate => "on_move_validate"
  | capture => "on_capture"
  | actionStart => "on_action_start"
  | actionEnd => "on_action_end"
  | actionValidate => "on_action_validate"
  | gameStart => "on_game_start"
  | gameOver => "on_game_over"
  | turnStart => "on_turn_start"

def ofName? (name : Text) : Option Event := all.find? fun e => e.name == name

end Event

structure UnknownEvent where
  given : Value

def UnknownEvent.message (e : UnknownEvent) : String :=
  e.given.literal ++ " is not a valid GameEventType"

namespace Event

def ofValue : Value → Except UnknownEvent Event
  | .str name =>
      match ofName? name with
      | some e => .ok e
      | none => .error ⟨.str name⟩
  | given => .error ⟨given⟩

@[simp] theorem ofName?_name (e : Event) : ofName? e.name = some e := by
  cases e <;> cbv

@[simp] theorem ofValue_name (e : Event) : ofValue (.str e.name) = .ok e := by
  simp [ofValue]

theorem mapM_ofValue_name (es : List Event) :
    (es.map fun e => Value.str e.name).mapM ofValue = .ok es := by
  induction es with
  | nil => rfl
  | cons e rest ih =>
      rw [List.map_cons, List.mapM_cons, ih, ofValue_name]
      rfl

end Event

/-! ## Flags -/

namespace Flag

def ignorePathBlocking : Text := "ignore_path_blocking"

def allowTargetSelf : Text := "allow_target_self"

def allowTargetAlly : Text := "allow_target_ally"

def allowTargetEnemy : Text := "allow_target_enemy"

def ignoreTargetingRules : Text := "ignore_targeting_rules"

end Flag

/-- The flags with which an event starts.  Only the two checks have any. -/
def Event.defaultFlags : Event → Table Text Value
  | moveValidate => .ofList [(Flag.ignorePathBlocking, .bool false)]
  | actionValidate =>
      .ofList [(Flag.allowTargetSelf, .bool false), (Flag.allowTargetAlly, .bool false),
        (Flag.allowTargetEnemy, .bool true), (Flag.ignoreTargetingRules, .bool false)]
  | _ => .empty

end Boardcraft
