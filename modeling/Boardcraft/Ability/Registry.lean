import Boardcraft.Ability.Basic
import Boardcraft.Data.Params

/-!
# The registry of abilities

The table from the names that blueprints and status effects use to the rules behind them.  What is
registered is the draft of a rule, which is checked when an ability is made from it.
-/

namespace Boardcraft

structure Registry where
  drafts : Table Text Rule.Draft := .empty
  deriving Inhabited

/-- A name under which no rule is registered, with the names that are in use. -/
structure NotRegistered where
  name : Text
  known : List Text
  deriving DecidableEq, Repr

/-- The message for a name that is not in use.  Known names that make up no text at all count as
none. -/
def NotRegistered.message (e : NotRegistered) : Text :=
  let known := Text.intercalate ", " e.known
  "Ability \"" ++ e.name ++ "\" is not registered. Known abilities: " ++
    (if known.isEmpty then ("none" : Text) else known)

/-- Why no ability can be made. -/
inductive MakingFault where
  | notRegistered (error : NotRegistered)
  | badParams (fault : Params.Fault)
  | unknownEvent (error : UnknownEvent)

def MakingFault.message : MakingFault → Text
  | notRegistered error => error.message
  | badParams fault => fault.message
  | unknownEvent error => error.message

/-- The ability that a draft describes, made with a serial number from what is given as its
parameters.  These are read before the rule is checked. -/
def Rule.Draft.make (d : Rule.Draft) (params : Value) (serial : Nat) (host : Option PieceNumber) :
    Except MakingFault Ability := do
  let params ← (Params.ofValue params).mapError .badParams
  let rule ← d.check.mapError .unknownEvent
  return { serial, rule, params, host }

namespace Registry

def register (r : Registry) (name : Text) (rule : Rule.Draft) : Registry :=
  ⟨r.drafts.insert name rule⟩

def contains (r : Registry) (name : Text) : Bool := r.drafts.contains name

def names (r : Registry) : List Text :=
  r.drafts.keys.mergeSort Text.le

def draft (r : Registry) (name : Text) : Except NotRegistered Rule.Draft :=
  match r.drafts.find? name with
  | some draft => .ok draft
  | none => .error ⟨name, r.names⟩

def make (r : Registry) (name : Text) (params : Value) (serial : Nat) (host : Option PieceNumber) :
    Except MakingFault Ability := do
  let draft ← (r.draft name).mapError .notRegistered
  draft.make params serial host

def standard : Registry :=
  Rule.builtin.foldl (fun r rule => r.register rule.kind rule.draft) {}

end Registry

end Boardcraft
