import Boardcraft.Proofs.Game.Deeds
import Mathlib.Data.List.Nodup

/-!
# Timers

What becomes of the effects on pieces, told without abilities, listeners and numbers of effects.
Each piece in play has a list of timers, at most one of each name.  Another application of an effect
starts a timer or changes the one that runs, and the end of a turn lets all of them count down.

A countdown gives the timers of each piece in play by its id.  `Countdown.told` says what a deed does
to it.
-/

namespace Boardcraft

/-- A running effect: the definition that it was made from, and the turns that are left. -/
structure Timer where
  definition : StatusDefinition
  remaining : Int

namespace Timer

def name (t : Timer) : Text := t.definition.name

def start (definition : StatusDefinition) : Timer := ⟨definition, definition.duration⟩

/-- A timer after another application of an effect of its name, under the rule of that one. -/
def again (definition : StatusDefinition) (t : Timer) : Timer :=
  match definition.stacking with
  | .refresh => { t with remaining := definition.duration }
  | .extend => { t with remaining := t.remaining + definition.duration }
  | .ignore => t

def less (t : Timer) : Timer := { t with remaining := t.remaining - 1 }

@[simp] theorem definition_again (definition : StatusDefinition) (t : Timer) :
    (t.again definition).definition = t.definition := by
  unfold again
  cases definition.stacking <;> rfl

@[simp] theorem name_again (definition : StatusDefinition) (t : Timer) :
    (t.again definition).name = t.name := by
  unfold name
  rw [definition_again]

theorem remaining_again_pos (definition : StatusDefinition) {t : Timer} (h : 1 ≤ t.remaining) :
    1 ≤ (t.again definition).remaining := by
  have hduration := definition.duration_pos
  unfold again
  cases definition.stacking with
  | refresh => exact hduration
  | extend =>
      dsimp only
      omega
  | ignore => exact h

/-!
## The timers of one piece
-/

def runs (name : Text) (timers : List Timer) : Bool := timers.any fun t => t.name == name

/-- The timers after an effect has been applied.  One that is not running yet starts if the abilities
that it lends can be made. -/
def apply (makes : AbilitySpec → Bool) (definition : StatusDefinition) (timers : List Timer) :
    List Timer :=
  if runs definition.name timers then
    timers.map fun t => if t.name == definition.name then t.again definition else t
  else if definition.abilities.all makes then timers ++ [start definition]
  else timers

/-- The timers when a turn has passed: those that are over are gone. -/
def countDown (timers : List Timer) : List Timer :=
  (timers.map less).filter fun t => decide (0 < t.remaining)

/-- Every timer has a turn left, and no two have one name. -/
structure Sound (timers : List Timer) : Prop where
  left : ∀ t ∈ timers, 1 ≤ t.remaining
  names : (timers.map name).Nodup

theorem runs_eq_true_iff {name : Text} {timers : List Timer} :
    runs name timers = true ↔ name ∈ timers.map Timer.name := by
  unfold runs
  rw [List.any_eq_true, List.mem_map]
  simp only [beq_iff_eq]

theorem sound_nil : Sound [] :=
  ⟨fun _ ht => absurd ht List.not_mem_nil, List.nodup_nil⟩

theorem sound_apply (makes : AbilitySpec → Bool) (definition : StatusDefinition)
    {timers : List Timer} (h : Sound timers) : Sound (apply makes definition timers) := by
  unfold apply
  by_cases hruns : runs definition.name timers = true
  · rw [if_pos hruns]
    constructor
    · intro t ht
      rcases List.mem_map.1 ht with ⟨t', ht', rfl⟩
      split
      · exact remaining_again_pos definition (h.left t' ht')
      · exact h.left t' ht'
    · have hnames : (timers.map fun t => if t.name == definition.name then t.again definition
          else t).map name = timers.map name := by
        rw [List.map_map]
        apply List.map_congr_left
        intro t _
        rw [Function.comp_apply]
        split
        · exact name_again definition t
        · rfl
      rw [hnames]
      exact h.names
  · rw [if_neg hruns]
    split
    · constructor
      · intro t ht
        rcases List.mem_append.1 ht with ht | ht
        · exact h.left t ht
        · rw [List.mem_singleton.1 ht]
          exact definition.duration_pos
      · rw [List.map_append, List.nodup_append]
        refine ⟨h.names, List.nodup_singleton _, ?_⟩
        intro name hname name' hname' heq
        rw [List.map_singleton, List.mem_singleton] at hname'
        subst heq
        rw [hname'] at hname
        exact hruns (runs_eq_true_iff.2 hname)
    · exact h

theorem sound_countDown {timers : List Timer} (h : Sound timers) : Sound (countDown timers) := by
  unfold countDown
  constructor
  · intro t ht
    have hleft := of_decide_eq_true (List.mem_filter.1 ht).2
    omega
  · have hnames : (timers.map less).map name = timers.map name := by
      rw [List.map_map]
      rfl
    have hall : ((timers.map less).map name).Nodup := hnames ▸ h.names
    exact hall.sublist (List.filter_sublist.map name)

end Timer

/-!
## The timers of all pieces
-/

/-- The timers of each piece in play, by its id. -/
abbrev Countdown := Text → Option (List Timer)

namespace Countdown

def empty : Countdown := fun _ => none

def told (makes : AbilitySpec → Bool) (T : Countdown) : Deed → Countdown
  | .enter id => Function.update T id (some [])
  | .leave id => Function.update T id none
  | .afflict id definition => Function.update T id ((T id).map (Timer.apply makes definition))
  | .turn => fun id => (T id).map Timer.countDown

def Sound (T : Countdown) : Prop := ∀ id timers, T id = some timers → Timer.Sound timers

theorem sound_empty : Sound empty := by
  intro id timers h
  cases h

theorem Sound.update {T : Countdown} (h : Sound T) (id : Text) {timers : Option (List Timer)}
    (hnew : ∀ l, timers = some l → Timer.Sound l) : Sound (Function.update T id timers) := by
  intro id' l hl
  by_cases heq : id' = id
  · subst heq
    rw [Function.update_self] at hl
    exact hnew l hl
  · rw [Function.update_of_ne heq] at hl
    exact h id' l hl

theorem sound_told (makes : AbilitySpec → Bool) {T : Countdown} (h : Sound T) (deed : Deed) :
    Sound (T.told makes deed) := by
  cases deed with
  | enter id =>
      refine h.update id ?_
      intro l hl
      injection hl with hl
      exact hl ▸ Timer.sound_nil
  | leave id =>
      refine h.update id ?_
      intro l hl
      cases hl
  | afflict id definition =>
      refine h.update id ?_
      intro l hl
      rcases Option.map_eq_some_iff.1 hl with ⟨timers, htimers, rfl⟩
      exact Timer.sound_apply makes definition (h id timers htimers)
  | turn =>
      intro id l hl
      rcases Option.map_eq_some_iff.1 hl with ⟨timers, htimers, rfl⟩
      exact Timer.sound_countDown (h id timers htimers)

theorem sound_foldl_told (makes : AbilitySpec → Bool) {T : Countdown} (h : Sound T)
    (deeds : List Deed) : Sound (deeds.foldl (told makes) T) := by
  induction deeds generalizing T with
  | nil => exact h
  | cons deed rest ih => exact ih (sound_told makes h deed)

end Countdown
end Boardcraft
