import Boardcraft.Ability.Dispatcher
import Mathlib.Data.List.Nodup
import Mathlib.Data.List.Perm.Basic

/-!
# Who listens, up to order

The order of listeners matters to those who are heard, but not to who listens.  Up to order,
`Hears d abilities` says that the abilities of a list listen to their triggers and nobody else does
to anything.  Letting abilities listen adds them to the list.  Stopping them takes them off it,
provided that no two abilities have one serial number, by which the dispatcher tells them apart.
-/

namespace Boardcraft

def Ability.subscriptions (a : Ability) : List Subscription :=
  a.triggers.map fun event => ⟨event, a.priority, a⟩

theorem Ability.mem_subscriptions_iff {a : Ability} {s : Subscription} :
    s ∈ a.subscriptions ↔ ∃ event ∈ a.triggers, (⟨event, a.priority, a⟩ : Subscription) = s :=
  List.mem_map

namespace Dispatcher

/-!
## Listening
-/

theorem perm_place (s : Subscription) (l : List Subscription) : (place s l).Perm (s :: l) := by
  induction l with
  | nil => exact List.Perm.refl _
  | cons t rest ih =>
      rw [place]
      split
      · exact (ih.cons t).trans (List.Perm.swap s t rest)
      · exact List.Perm.refl _

theorem perm_subscribeAbility (d : Dispatcher) (a : Ability) :
    (d.subscribeAbility a).entries.Perm (d.entries ++ a.subscriptions) := by
  unfold subscribeAbility Ability.subscriptions
  induction a.triggers generalizing d with
  | nil =>
      rw [List.map_nil, List.append_nil]
      exact List.Perm.refl _
  | cons event rest ih =>
      rw [List.foldl_cons, List.map_cons]
      refine (ih _).trans ?_
      refine ((perm_place _ d.entries).append_right _).trans ?_
      exact List.perm_middle.symm

theorem perm_subscribeAll (l : List Ability) (d : Dispatcher) :
    (l.foldl subscribeAbility d).entries.Perm (d.entries ++ l.flatMap Ability.subscriptions) := by
  induction l generalizing d with
  | nil =>
      rw [List.flatMap_nil, List.append_nil]
      exact List.Perm.refl _
  | cons a rest ih =>
      rw [List.foldl_cons, List.flatMap_cons, ← List.append_assoc]
      exact (ih _).trans ((perm_subscribeAbility d a).append_right _)

/-!
## Stopping
-/

def stops (a : Ability) (s : Subscription) : Bool :=
  a.triggers.contains s.event && s.ability.serial == a.serial

theorem entries_unsubscribeAbility (d : Dispatcher) (a : Ability) :
    (d.unsubscribeAbility a).entries = d.entries.filter fun s => !stops a s := by
  unfold unsubscribeAbility stops
  induction a.triggers generalizing d with
  | nil =>
      refine (List.filter_eq_self.2 ?_).symm
      intro s _
      rfl
  | cons event rest ih =>
      rw [List.foldl_cons, ih, unsubscribe, List.filter_filter]
      apply List.filter_congr
      intro s _
      rw [List.contains_cons]
      cases s.event == event <;> cases rest.contains s.event <;>
        cases s.ability.serial == a.serial <;> rfl

theorem entries_unsubscribeAll (l : List Ability) (d : Dispatcher) :
    (l.foldl unsubscribeAbility d).entries = d.entries.filter fun s => l.all fun a => !stops a s := by
  induction l generalizing d with
  | nil =>
      refine (List.filter_eq_self.2 ?_).symm
      intro s _
      rfl
  | cons a rest ih =>
      rw [List.foldl_cons, ih, entries_unsubscribeAbility, List.filter_filter]
      apply List.filter_congr
      intro s _
      rw [List.all_cons, Bool.and_comm]

theorem stops_of_mem {a : Ability} {s : Subscription} (h : s ∈ a.subscriptions) :
    stops a s = true := by
  rcases Ability.mem_subscriptions_iff.1 h with ⟨event, hevent, rfl⟩
  unfold stops
  rw [Bool.and_eq_true]
  exact ⟨List.contains_iff_mem.2 hevent, beq_self_eq_true _⟩

theorem stops_of_serial_ne {a b : Ability} (hne : b.serial ≠ a.serial) {s : Subscription}
    (h : s ∈ b.subscriptions) : stops a s = false := by
  rcases Ability.mem_subscriptions_iff.1 h with ⟨event, _, rfl⟩
  unfold stops
  rw [Bool.and_eq_false_iff]
  exact Or.inr (beq_eq_false_iff_ne.2 hne)

/-!
## Exactly these listen
-/

/-- The abilities of a list listen to their triggers, each under a serial number of its own, and
nobody else listens. -/
structure Hears (d : Dispatcher) (abilities : List Ability) : Prop where
  entries : d.entries.Perm (abilities.flatMap Ability.subscriptions)
  serials : (abilities.map Ability.serial).Nodup

namespace Hears

variable {d : Dispatcher} {abilities abilities' : List Ability}

theorem perm (h : Hears d abilities) (hperm : abilities.Perm abilities') : Hears d abilities' := by
  constructor
  · exact h.entries.trans (hperm.flatMap_right _)
  · exact (hperm.map _).nodup_iff.1 h.serials

theorem subscribe (h : Hears d abilities) {more : List Ability}
    (serials : ((abilities ++ more).map Ability.serial).Nodup) :
    Hears (more.foldl subscribeAbility d) (abilities ++ more) := by
  refine ⟨?_, serials⟩
  rw [List.flatMap_append]
  exact (perm_subscribeAll more d).trans (h.entries.append_right _)

theorem unsubscribe {fewer : List Ability} (h : Hears d (abilities ++ fewer)) :
    Hears (fewer.foldl unsubscribeAbility d) abilities := by
  have hserials := h.serials
  rw [List.map_append, List.nodup_append] at hserials
  refine ⟨?_, hserials.1⟩
  rw [entries_unsubscribeAll]
  refine (h.entries.filter _).trans ?_
  have hkept : (abilities.flatMap Ability.subscriptions).filter
      (fun s => fewer.all fun a => !stops a s) = abilities.flatMap Ability.subscriptions := by
    refine List.filter_eq_self.2 ?_
    intro s hs
    rcases List.mem_flatMap.1 hs with ⟨b, hb, hsb⟩
    refine List.all_eq_true.2 ?_
    intro a ha
    rw [stops_of_serial_ne (a := a) ?_ hsb]
    · rfl
    · exact hserials.2.2 _ (List.mem_map_of_mem hb) _ (List.mem_map_of_mem ha)
  have hgone : (fewer.flatMap Ability.subscriptions).filter
      (fun s => fewer.all fun a => !stops a s) = [] := by
    refine List.filter_eq_nil_iff.2 ?_
    intro s hs hall
    rcases List.mem_flatMap.1 hs with ⟨a, ha, hsa⟩
    have hstops := List.all_eq_true.1 hall a ha
    rw [stops_of_mem hsa] at hstops
    cases hstops
  rw [List.flatMap_append, List.filter_append, hkept, hgone, List.append_nil]

theorem mem_entries_iff (h : Hears d abilities) {s : Subscription} :
    s ∈ d.entries ↔ ∃ a ∈ abilities, s ∈ a.subscriptions := by
  rw [h.entries.mem_iff, List.mem_flatMap]

theorem exists_mem_listeners_iff (h : Hears d abilities) {event : Event} {a : Ability} :
    (∃ s ∈ d.listeners event, s.ability = a) ↔ a ∈ abilities ∧ event ∈ a.triggers := by
  unfold Dispatcher.listeners
  constructor
  · intro hentry
    rcases hentry with ⟨s, hs, rfl⟩
    rw [List.mem_filter, h.mem_entries_iff] at hs
    rcases hs with ⟨⟨b, hb, hsb⟩, hevent⟩
    rcases Ability.mem_subscriptions_iff.1 hsb with ⟨event', hevent', rfl⟩
    rw [← eq_of_beq hevent]
    exact ⟨hb, hevent'⟩
  · intro hheard
    rcases hheard with ⟨ha, hevent⟩
    refine ⟨⟨event, a.priority, a⟩, ?_, rfl⟩
    rw [List.mem_filter, h.mem_entries_iff]
    exact ⟨⟨a, ha, Ability.mem_subscriptions_iff.2 ⟨event, hevent, rfl⟩⟩, beq_self_eq_true event⟩

/-- The listeners of an event are the abilities that have it among their triggers, once for each
time that they have. -/
theorem listeners (h : Hears d abilities) (event : Event) :
    ((d.listeners event).map fun s => (s.priority, s.ability)).Perm
      (abilities.flatMap fun a => List.replicate (a.triggers.count event) (a.priority, a)) := by
  have hone : ∀ a : Ability,
      (a.subscriptions.filter fun s => s.event == event).map (fun s => (s.priority, s.ability)) =
        List.replicate (a.triggers.count event) (a.priority, a) := by
    intro a
    unfold Ability.subscriptions
    induction a.triggers with
    | nil => rfl
    | cons event' rest ih =>
        rw [List.map_cons, List.filter_cons, List.count_cons]
        by_cases heq : (event' == event) = true
        · rw [if_pos heq, if_pos heq, List.map_cons, ih, List.replicate_succ]
        · rw [if_neg heq, if_neg heq, ih, Nat.add_zero]
  have hall : ∀ l : List Ability,
      ((l.flatMap Ability.subscriptions).filter fun s => s.event == event).map
          (fun s => (s.priority, s.ability)) =
        l.flatMap fun a => List.replicate (a.triggers.count event) (a.priority, a) := by
    intro l
    induction l with
    | nil => rfl
    | cons a rest ih =>
        rw [List.flatMap_cons, List.filter_append, List.map_append, hone, ih, List.flatMap_cons]
  rw [← hall]
  exact (h.entries.filter _).map _

/-- Among those who listen, an entry stops with an ability if it is an entry of that ability. -/
theorem stops_eq (h : Hears d abilities) {a : Ability} (ha : a ∈ abilities) {s : Subscription}
    (hs : s ∈ d.entries) : stops a s = (s.ability.serial == a.serial) := by
  rcases h.mem_entries_iff.1 hs with ⟨b, hb, hsb⟩
  have hability : s.ability = b := by
    rcases Ability.mem_subscriptions_iff.1 hsb with ⟨event, _, rfl⟩
    rfl
  rw [hability]
  by_cases hserial : b.serial = a.serial
  · have hsame : b = a := List.inj_on_of_nodup_map h.serials hb ha hserial
    rw [stops_of_mem (hsame ▸ hsb), hserial, beq_self_eq_true]
  · rw [stops_of_serial_ne hserial hsb]
    exact (beq_eq_false_iff_ne.2 hserial).symm

end Hears

/-!
## Those who are left
-/

/-- Some abilities have stopped listening, and for all others nothing has changed. -/
def Without (d : Dispatcher) (gone : List Ability) (d' : Dispatcher) : Prop :=
  ∀ event, d'.listeners event =
    (d.listeners event).filter fun s => s.ability.serial ∉ gone.map Ability.serial

theorem without_nil (d : Dispatcher) : Without d [] d := by
  intro event
  simp

theorem Without.trans {d d' d'' : Dispatcher} {gone gone' : List Ability} (h : Without d gone d')
    (h' : Without d' gone' d'') : Without d (gone ++ gone') d'' := by
  intro event
  rw [h' event, h event, List.filter_filter]
  apply List.filter_congr
  intro s _
  rw [List.map_append, ← Bool.decide_and]
  exact decide_eq_decide.2 (by rw [List.mem_append, not_or, and_comm])

theorem Hears.without {d : Dispatcher} {abilities gone : List Ability} (h : Hears d abilities)
    (hgone : ∀ a ∈ gone, a ∈ abilities) : Without d gone (gone.foldl unsubscribeAbility d) := by
  intro event
  unfold Dispatcher.listeners
  rw [entries_unsubscribeAll, List.filter_filter, List.filter_filter]
  apply List.filter_congr
  intro s hs
  have hstops : (gone.all fun a => !stops a s) =
      decide (s.ability.serial ∉ gone.map Ability.serial) := by
    rw [Bool.eq_iff_iff, List.all_eq_true, decide_eq_true_eq, List.mem_map]
    constructor
    · rintro hkept ⟨a, ha, hserial⟩
      have hstays := hkept a ha
      rw [h.stops_eq (hgone a ha) hs, hserial, beq_self_eq_true] at hstays
      cases hstays
    · intro hother a ha
      rw [h.stops_eq (hgone a ha) hs, Bool.not_eq_true', beq_eq_false_iff_ne]
      exact fun hserial => hother ⟨a, ha, hserial.symm⟩
  rw [hstops, Bool.and_comm]

end Dispatcher
end Boardcraft
