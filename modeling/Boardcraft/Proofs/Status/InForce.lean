import Boardcraft.Proofs.Status.Shown

/-!
# Effects really in force

Effects can be handled one by one: made, activated, counted down, ended and applied in any order,
between turns that pass for all effects on a piece.  An effect that is applied is active then and
stands on the list of its piece.  It is really in force if it has a turn left besides and stands
there once, so that a turn counts it down once.

An effect that ends gets no turns back and stays on the list until a turn passes.  One that is
applied again may therefore be spent, or come to stand on the list a second time.  Nothing else
keeps an effect that is applied from being really in force.

## Main statements

* `inForce_iff_of_applied` says of every game which applications put an effect really in force;
* `sound_handled` says that handling effects with care keeps them sound;
* `in_force_unless_spent_or_listed` joins the two.
-/

namespace Boardcraft

inductive Handling where
  | make (definition : StatusDefinition) (host : PieceNumber)
  | activate (n : EffectNumber)
  | tick (n : EffectNumber)
  | expire (n : EffectNumber)
  | apply (n : EffectNumber)
  | tickAll (host : PieceNumber)
  | clearAll (host : PieceNumber)

def Handling.perform : Handling → GameM Unit
  | make definition host => (fun _ => ()) <$> Game.makeEffect definition host
  | activate n => Game.activate n
  | tick n => modify fun g => g.tick n
  | expire n => modify fun g => g.expire n
  | apply n => (fun _ => ()) <$> Game.applyEffect n
  | tickAll host => modify fun g => (g.tickStatuses host).2
  | clearAll host => modify fun g => g.clearStatuses host

namespace Game

/-- The game that is left when effects have been handled, each time whether or not it has failed
before. -/
def handled (g : Game) (handlings : List Handling) : Game :=
  handlings.foldl (fun g h => g.after h.perform) g

/-- An effect is active with a turn left at least, and stands once on the list of a piece. -/
structure InForce (g : Game) (host : PieceNumber) (n : EffectNumber) : Prop where
  lasting : ∃ e, g.effect? n = some e ∧ e.active = true ∧ 1 ≤ e.remaining
  once : (g.statusesOf host).count n = 1

/-- All effects that are active have a turn left, and no list names an effect twice. -/
structure EffectsSound (g : Game) : Prop where
  lasting : ∀ n e, g.effect? n = some e → e.active = true → 1 ≤ e.remaining
  nodup : ∀ host, (g.statusesOf host).Nodup

/-- Whether a handling does not wake an effect that is spent, nor list one that is listed still. -/
def careful (g : Game) : Handling → Bool
  | .activate n => (g.effect? n).all fun e => e.active || decide (1 ≤ e.remaining)
  | .apply n => (g.effect? n).all fun e =>
      (g.inForce? e.host e.name).isSome ||
        decide (1 ≤ e.remaining ∧ n ∉ g.statusesOf e.host)
  | _ => true

/-- Whether each of some handlings is careful when its turn comes. -/
def allCareful : Game → List Handling → Bool
  | _, [] => true
  | g, h :: rest => g.careful h && (g.after h.perform).allCareful rest

section Applying

variable {g g' : Game} {n m : EffectNumber} {e : Effect}

/-! ## Applying an effect -/

/-- Activation fails before it changes the effect, or leaves it active with the turns it had. -/
theorem activate_cases (found : g.effect? n = some e) :
    (e.active = true ∧ activate n g = .ok () g) ∨
    (e.active = false ∧ ∃ children, activate n g = .ok ()
      (((g.withSerials children.length).subscribeAll children).setEffect n
        { e with children, active := true })) ∨
    ∃ fault k, activate n g = .error fault (g.withSerials k) := by
  cases hactive : e.active with
  | true => exact .inl ⟨rfl, activate_of_active found hactive⟩
  | false =>
      right
      have hrun := activate_of_inactive found hactive
      cases hmade : makeAbilities e.host e.definition.abilities g with
      | ok children g' =>
          rcases makeAbilities_eq_ok hmade with ⟨rfl, -⟩
          exact .inl ⟨rfl, children, hrun.trans (bind_of_eq_ok _ hmade)⟩
      | error fault g' =>
          rcases makeAbilities_eq_error hmade with ⟨⟨k, rfl⟩, -⟩
          exact .inr ⟨fault, k, hrun.trans (bind_of_eq_error _ hmade)⟩

theorem activate_of_missing (h : g.effect? n = none) : activate n g = .ok () g := by
  unfold activate
  rw [get_bind, h]
  rfl

/-- How an application ends: a namesake in force absorbs it, or the effect is activated and then
listed. -/
theorem applyEffect_cases (found : g.effect? n = some e) :
    (∃ m existing, g.inForce? e.host e.name = some m ∧ g.effect? m = some existing ∧
      applyEffect n g = .ok m (g.setEffect m (existing.stack e.definition))) ∨
    (g.inForce? e.host e.name = none ∧
      ((∃ g₁, activate n g = .ok () g₁ ∧
          applyEffect n g = .ok n (g₁.setStatuses e.host (g.statusesOf e.host ++ [n]))) ∨
        ∃ fault k, applyEffect n g = .error fault (g.withSerials k))) := by
  cases hforce : g.inForce? e.host e.name with
  | some m =>
      rcases (inForce?_eq_some hforce).2 with ⟨existing, again, -⟩
      exact .inl ⟨m, existing, rfl, again, applyEffect_of_forced found hforce again⟩
  | none =>
      refine .inr ⟨rfl, ?_⟩
      have hrun := applyEffect_of_unforced found hforce
      rcases activate_cases found with ⟨-, hok⟩ | ⟨-, children, hok⟩ | ⟨fault, k, herror⟩
      · exact .inl ⟨g, hok, hrun.trans (bind_of_eq_ok _ hok)⟩
      · exact .inl ⟨_, hok, hrun.trans (bind_of_eq_ok _ hok)⟩
      · exact .inr ⟨fault, k, hrun.trans (bind_of_eq_error _ herror)⟩

theorem effect?_of_activate (found : g.effect? n = some e) (h : activate n g = .ok () g') :
    ∃ children, g'.effect? n = some { e with children, active := true } := by
  rcases activate_cases found with ⟨hactive, hok⟩ | ⟨-, children, hok⟩ | ⟨fault, k, herror⟩
  · rw [h] at hok
    cases hok
    refine ⟨e.children, ?_⟩
    rw [found, ← hactive]
  · rw [h] at hok
    cases hok
    exact ⟨children, by rw [effect?_setEffect, if_pos rfl]⟩
  · rw [h] at herror
    cases herror

theorem active_stack (e : Effect) (again : StatusDefinition) :
    (e.stack again).active = e.active := by
  unfold Effect.stack
  cases again.stacking <;> rfl

theorem inForce_stacked_iff {host : PieceNumber} (again : StatusDefinition)
    (hactive : e.active = true) :
    (g.setEffect m (e.stack again)).InForce host m ↔
      1 ≤ (e.stack again).remaining ∧ (g.statusesOf host).count m = 1 := by
  have heffect : (g.setEffect m (e.stack again)).effect? m = some (e.stack again) := by
    rw [effect?_setEffect, if_pos rfl]
  constructor
  · rintro ⟨⟨e', he', -, hleft⟩, honce⟩
    rw [heffect] at he'
    cases he'
    exact ⟨hleft, honce⟩
  · rintro ⟨hleft, honce⟩
    exact ⟨⟨_, heffect, (active_stack e again).trans hactive, hleft⟩, honce⟩

theorem inForce_listed_iff {host : PieceNumber} {l : List EffectNumber}
    (found : g.effect? n = some e) (hactive : e.active = true) :
    (g.setStatuses host (l ++ [n])).InForce host n ↔ 1 ≤ e.remaining ∧ n ∉ l := by
  have hlist : (g.setStatuses host (l ++ [n])).statusesOf host = l ++ [n] := by
    rw [statusesOf_setStatuses, if_pos rfl]
  have honce : ((g.setStatuses host (l ++ [n])).statusesOf host).count n = 1 ↔ n ∉ l := by
    rw [hlist, List.count_append, List.count_singleton_self, Nat.add_eq_right, List.count_eq_zero]
  constructor
  · rintro ⟨⟨e', he', -, hleft⟩, hcount⟩
    rw [show (g.setStatuses host (l ++ [n])).effect? n = g.effect? n from rfl, found] at he'
    cases he'
    exact ⟨hleft, honce.1 hcount⟩
  · rintro ⟨hleft, hnew⟩
    exact ⟨⟨e, found, hactive, hleft⟩, honce.2 hnew⟩

/-- Which applications put an effect really in force.  What they tell is an active effect on the
list of the piece in any case. -/
theorem inForce_iff_of_applied (found : g.effect? n = some e) (h : applyEffect n g = .ok m g') :
    g'.isActive m = true ∧ m ∈ g'.statusesOf e.host ∧
      (g'.InForce e.host m ↔
        (g.inForce? e.host e.name = none ∧ 1 ≤ e.remaining ∧ n ∉ g.statusesOf e.host) ∨
        ∃ existing, g.inForce? e.host e.name = some m ∧ g.effect? m = some existing ∧
          1 ≤ (existing.stack e.definition).remaining ∧ (g.statusesOf e.host).count m = 1) := by
  rcases applyEffect_cases found with
    ⟨m', existing, hforce, again, hok⟩ | ⟨hforce, ⟨g₁, hactivate, hok⟩ | ⟨fault, k, herror⟩⟩
  · rw [h] at hok
    cases hok
    rcases inForce?_eq_some hforce with ⟨hmem, existing', again', hactive, -⟩
    rw [again] at again'
    cases again'
    refine ⟨?_, hmem, ?_⟩
    · rw [isActive, effect?_setEffect, if_pos rfl]
      exact (active_stack existing e.definition).trans hactive
    · rw [inForce_stacked_iff e.definition hactive, hforce, again]
      simp
  · rw [h] at hok
    cases hok
    rcases effect?_of_activate found hactivate with ⟨children, hwoken⟩
    refine ⟨?_, ?_, ?_⟩
    · show g₁.isActive n = true
      rw [isActive, hwoken]
    · rw [statusesOf_setStatuses, if_pos rfl]
      exact List.mem_append_right _ (List.mem_singleton_self n)
    · rw [inForce_listed_iff hwoken rfl, hforce]
      simp
  · rw [h] at herror
    cases herror

end Applying

/-! ## Careful handling -/

section Keeping

variable {g g' : Game} {n m : EffectNumber} {e : Effect}

theorem EffectsSound.of_same (h : g.EffectsSound) (heffects : g'.effects = g.effects)
    (hstatuses : g'.statuses = g.statuses) : g'.EffectsSound := by
  constructor
  · unfold effect?
    rw [heffects]
    exact h.lasting
  · unfold statusesOf
    rw [hstatuses]
    exact h.nodup

theorem EffectsSound.setEffect (h : g.EffectsSound) (n : EffectNumber)
    (hlasting : e.active = true → 1 ≤ e.remaining) : (g.setEffect n e).EffectsSound := by
  refine ⟨?_, h.nodup⟩
  intro k e' found hactive
  rw [effect?_setEffect] at found
  split at found
  · cases found
    exact hlasting hactive
  · exact h.lasting k e' found hactive

theorem EffectsSound.setStatuses (h : g.EffectsSound) (host : PieceNumber) {l : List EffectNumber}
    (hl : l.Nodup) : (g.setStatuses host l).EffectsSound := by
  refine ⟨h.lasting, ?_⟩
  intro host'
  rw [statusesOf_setStatuses]
  split
  · exact hl
  · exact h.nodup host'

theorem EffectsSound.activate (h : g.EffectsSound)
    (hleft : ∀ e, g.effect? n = some e → e.active = false → 1 ≤ e.remaining) :
    (g.after (activate n)).EffectsSound := by
  cases found : g.effect? n with
  | none =>
      rw [after_of_eq_ok (activate_of_missing found)]
      exact h
  | some e =>
      rcases activate_cases found with ⟨-, hok⟩ | ⟨hinactive, children, hok⟩ | ⟨fault, k, herror⟩
      · rw [after_of_eq_ok hok]
        exact h
      · rw [after_of_eq_ok hok]
        have hmade : ((g.withSerials children.length).subscribeAll children).EffectsSound :=
          h.of_same rfl rfl
        exact hmade.setEffect n fun _ => hleft e found hinactive
      · rw [after_of_eq_error herror]
        exact h.of_same rfl rfl

/-- Whatever rule an effect is stacked by, it has a turn left afterwards if it had one before. -/
theorem left_stack (hleft : 1 ≤ e.remaining) (again : StatusDefinition) :
    1 ≤ (e.stack again).remaining := by
  have hpos := again.duration_pos
  unfold Effect.stack
  cases again.stacking with
  | refresh => exact hpos
  | extend =>
      show 1 ≤ e.remaining + again.duration
      omega
  | ignore => exact hleft

theorem careful_apply_iff (found : g.effect? n = some e) :
    g.careful (.apply n) = true ↔
      (g.inForce? e.host e.name).isSome = true ∨ 1 ≤ e.remaining ∧ n ∉ g.statusesOf e.host := by
  rw [careful, found, Option.all_some, Bool.or_eq_true, decide_eq_true_iff]

theorem EffectsSound.apply (h : g.EffectsSound) (hcareful : g.careful (.apply n) = true) :
    (g.after (applyEffect n)).EffectsSound := by
  cases found : g.effect? n with
  | none =>
      have hok : applyEffect n g = .ok n g := by
        unfold applyEffect
        rw [get_bind, found]
        rfl
      rw [after_of_eq_ok hok]
      exact h
  | some e =>
      rw [careful_apply_iff found] at hcareful
      rcases applyEffect_cases found with
        ⟨m, existing, hforce, again, hok⟩ | ⟨hforce, ⟨g₁, hactivate, hok⟩ | ⟨fault, k, herror⟩⟩
      · rw [after_of_eq_ok hok]
        refine h.setEffect m fun hactive => left_stack (h.lasting m existing again ?_) e.definition
        exact (active_stack existing e.definition).symm.trans hactive
      · rw [hforce] at hcareful
        rcases hcareful.resolve_left Bool.false_ne_true with ⟨hleft, hnew⟩
        -- only here can a handling be careless: nothing asks whether the effect is spent or listed
        have hwoken : g₁.EffectsSound := by
          have hsound := h.activate (n := n) fun e' he' _ => by
            rw [found] at he'
            cases he'
            exact hleft
          rwa [after_of_eq_ok hactivate] at hsound
        rw [after_of_eq_ok hok]
        refine hwoken.setStatuses e.host (List.nodup_append.2 ⟨h.nodup e.host, ?_, ?_⟩)
        · exact List.nodup_singleton n
        · intro k hk k' hk' heq
          rw [List.mem_singleton.1 hk'] at heq
          exact hnew (heq ▸ hk)
      · rw [after_of_eq_error herror]
        exact h.of_same rfl rfl

/-- No effect that a turn leaves active is spent. -/
theorem left_countDown (h : e.countDown.active = true) : 1 ≤ e.countDown.remaining := by
  by_cases hover : 0 < e.remaining - 1
  · unfold Effect.countDown at h ⊢
    split at h
    · next hactive =>
        rw [if_pos hactive, if_neg (Int.not_le.2 hover)]
        exact hover
    · contradiction
  · rw [Effect.active_countDown_of_over hover] at h
    cases h

theorem EffectsSound.tick (h : g.EffectsSound) (n : EffectNumber) : (g.tick n).EffectsSound := by
  constructor
  · intro k e found hactive
    by_cases hk : n = k
    · subst hk
      rw [effect?_tick_self] at found
      rcases Option.map_eq_some_iff.1 found with ⟨e', -, rfl⟩
      exact left_countDown hactive
    · rw [effect?_tick_of_ne g hk] at found
      exact h.lasting k e found hactive
  · intro host
    rw [statusesOf_tick]
    exact h.nodup host

theorem EffectsSound.expire (h : g.EffectsSound) (n : EffectNumber) :
    (g.expire n).EffectsSound := by
  rcases expire_cases g n with ⟨-, heq⟩ | ⟨effect, -, -, heq⟩
  · rw [heq]
    exact h
  · have hsilent : (g.unsubscribeAll effect.children).EffectsSound := h.of_same rfl rfl
    rw [heq]
    exact hsilent.setEffect n nofun

theorem EffectsSound.tickStatuses (h : g.EffectsSound) (host : PieceNumber) :
    (g.tickStatuses host).2.EffectsSound := by
  have hticked : ((g.statusesOf host).foldl Game.tick g).EffectsSound :=
    List.foldlRecOn _ _ h fun _ hg n _ => hg.tick n
  exact hticked.setStatuses host ((hticked.nodup host).filter _)

theorem EffectsSound.clearStatuses (h : g.EffectsSound) (host : PieceNumber) :
    (g.clearStatuses host).EffectsSound := by
  have hended : ((g.statusesOf host).foldl Game.expire g).EffectsSound :=
    List.foldlRecOn _ _ h fun _ hg n _ => hg.expire n
  exact hended.setStatuses host List.nodup_nil

theorem sound_handling (h : g.EffectsSound) {handling : Handling}
    (hcareful : g.careful handling = true) : (g.after handling.perform).EffectsSound := by
  cases handling with
  | make definition host =>
      rw [Handling.perform, after_map, after_of_eq_ok (makeEffect_eq g definition host)]
      have hset := h.setEffect (e := .make definition host) g.effectCount nofun
      exact hset.of_same rfl rfl
  | activate n =>
      refine h.activate fun e found hinactive => ?_
      rw [careful, found, Option.all_some, hinactive, Bool.false_or, decide_eq_true_iff] at hcareful
      exact hcareful
  | tick n => exact h.tick n
  | expire n => exact h.expire n
  | apply n =>
      rw [Handling.perform, after_map]
      exact h.apply hcareful
  | tickAll host => exact h.tickStatuses host
  | clearAll host => exact h.clearStatuses host

theorem sound_handled {handlings : List Handling} (h : g.EffectsSound)
    (hcareful : g.allCareful handlings = true) : (g.handled handlings).EffectsSound := by
  induction handlings generalizing g with
  | nil => exact h
  | cons first rest ih =>
      rw [allCareful, Bool.and_eq_true] at hcareful
      exact ih (sound_handling h hcareful.1) hcareful.2

/-- Where effects are sound, exactly a careful application puts an effect really in force. -/
theorem EffectsSound.inForce_iff (h : g.EffectsSound) (found : g.effect? n = some e)
    (hok : applyEffect n g = .ok m g') : g'.InForce e.host m ↔ g.careful (.apply n) = true := by
  rw [(inForce_iff_of_applied found hok).2.2, careful_apply_iff found, Option.isSome_iff_exists]
  cases hforce : g.inForce? e.host e.name with
  | none => simp
  | some k =>
      rcases inForce?_eq_some hforce with ⟨hmem, existing, again, hactive, -⟩
      have happlied := applyEffect_of_forced found hforce again
      rw [hok] at happlied
      cases happlied
      -- a namesake that absorbs an effect is sound itself
      refine iff_of_true (.inr ⟨existing, rfl, again, ?_, ?_⟩) (.inl ⟨m, rfl⟩)
      · exact left_stack (h.lasting m existing again hactive) e.definition
      · exact List.count_eq_one_of_mem (h.nodup e.host) hmem

end Keeping

/-! ## Main theorem -/

/-- However effects have been handled in a game that began without any: an effect that is applied is
active then and on the list of its piece.  It is really in force exactly if it is neither spent nor
listed already, or if a namesake absorbs it that has a turn left by then and is listed once.  Where
the handling has been careful all the time, that comes to applying it with care as well. -/
theorem in_force_unless_spent_or_listed {g g' : Game} {handlings : List Handling}
    {n m : EffectNumber} {e : Effect} (hnone : ∀ k, g.effect? k = none)
    (hempty : ∀ host, g.statusesOf host = []) (found : (g.handled handlings).effect? n = some e)
    (hok : applyEffect n (g.handled handlings) = .ok m g') :
    g'.isActive m = true ∧ m ∈ g'.statusesOf e.host ∧
    (g'.InForce e.host m ↔
      ((g.handled handlings).inForce? e.host e.name = none ∧ 1 ≤ e.remaining ∧
        n ∉ (g.handled handlings).statusesOf e.host) ∨
      ∃ existing, (g.handled handlings).inForce? e.host e.name = some m ∧
        (g.handled handlings).effect? m = some existing ∧
        1 ≤ (existing.stack e.definition).remaining ∧
        ((g.handled handlings).statusesOf e.host).count m = 1) ∧
    (g.allCareful handlings = true →
      (g'.InForce e.host m ↔ (g.handled handlings).careful (.apply n) = true)) := by
  rcases inForce_iff_of_applied found hok with ⟨hactive, hlisted, hinForce⟩
  refine ⟨hactive, hlisted, hinForce, fun hcareful => ?_⟩
  have hsound : g.EffectsSound := by
    constructor
    · intro k e' found'
      rw [hnone k] at found'
      cases found'
    · intro host
      rw [hempty host]
      exact List.nodup_nil
  exact (sound_handled hsound hcareful).inForce_iff found hok

/-! ## Wards put on again -/

def guarded : Game := (usual .standard).run [.add (walker []) (.str "white") ⟨0, 0⟩]

/-- A ward is made for the walker to last for this turn and some more, and is put on it. -/
def warding (more : Nat) : List Handling := [.make (lending "Immobile" more) 1, .apply 0]

theorem eq_ok_of_run' {α : Type} {g : Game} {m : GameM α} {a : α} (h : m.run' g = some a) :
    m g = .ok a (g.after m) := by
  unfold EStateM.run' EStateM.run at h
  unfold after
  split at h
  · next hrun =>
      cases h
      rw [hrun]
  · cases h

/-- A ward that has run out is put on again with no turn left, and one that has been ended stands
on the list of the walker twice when it is put on again. -/
theorem not_inForce_of_reapplied :
    (∃ g', applyEffect 0 (guarded.handled (warding 0 ++ [.tickAll 1])) = .ok 0 g' ∧
      (g'.effect? 0).map Effect.remaining = some 0 ∧ g'.statusesOf 1 = [0] ∧ ¬ g'.InForce 1 0) ∧
    ∃ g', applyEffect 0 (guarded.handled (warding 1 ++ [.expire 0])) = .ok 0 g' ∧
      (g'.effect? 0).map Effect.remaining = some 2 ∧ g'.statusesOf 1 = [0, 0] ∧
      ¬ g'.InForce 1 0 := by
  constructor
  · have hremaining : (((guarded.handled (warding 0 ++ [.tickAll 1])).after
        (applyEffect 0)).effect? 0).map Effect.remaining = some 0 := by decide +kernel
    refine ⟨_, eq_ok_of_run' (by decide +kernel), hremaining, by decide +kernel, ?_⟩
    rintro ⟨⟨e, found, -, hleft⟩, -⟩
    rw [found] at hremaining
    injection hremaining with hremaining
    omega
  · have hlist : ((guarded.handled (warding 1 ++ [.expire 0])).after
        (applyEffect 0)).statusesOf 1 = [0, 0] := by decide +kernel
    refine ⟨_, eq_ok_of_run' (by decide +kernel), by decide +kernel, hlist, ?_⟩
    rintro ⟨-, honce⟩
    rw [hlist] at honce
    cases honce

theorem untouched_guarded :
    (∀ n, guarded.effect? n = none) ∧ ∀ host, guarded.statusesOf host = [] := by
  have heffects : guarded.effects.entries = [] := List.isEmpty_iff.1 (by decide +kernel)
  have hstatuses : guarded.statuses.entries = [] := by decide +kernel
  constructor
  · intro n
    rw [effect?, Table.find?, heffects]
    rfl
  · intro host
    rw [statusesOf, Table.find?, hstatuses]
    rfl

/-- A ward that has been ended is put on again once a turn has taken it off the list. -/
theorem in_force_after_a_turn :
    (∀ n, guarded.effect? n = none) ∧ (∀ host, guarded.statusesOf host = []) ∧
    guarded.allCareful (warding 1 ++ [.expire 0, .tickAll 1]) = true ∧
    ∃ g', applyEffect 0 (guarded.handled (warding 1 ++ [.expire 0, .tickAll 1])) = .ok 0 g' ∧
      g'.InForce 1 0 := by
  rcases untouched_guarded with ⟨hnone, hempty⟩
  have hcareful : guarded.allCareful (warding 1 ++ [.expire 0, .tickAll 1]) = true := by
    decide +kernel
  have hok : applyEffect 0 (guarded.handled (warding 1 ++ [.expire 0, .tickAll 1])) = .ok 0 _ :=
    eq_ok_of_run' (by decide +kernel)
  have hhost : ((guarded.handled (warding 1 ++ [.expire 0, .tickAll 1])).effect? 0).map
      Effect.host = some 1 := by decide +kernel
  rcases Option.map_eq_some_iff.1 hhost with ⟨e, found, hhost⟩
  have hexact := (in_force_unless_spent_or_listed hnone hempty found hok).2.2.2 hcareful
  have hinForce := hexact.2 (by decide +kernel)
  rw [hhost] at hinForce
  exact ⟨hnone, hempty, hcareful, _, hok, hinForce⟩

end Game
end Boardcraft
