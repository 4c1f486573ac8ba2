import Boardcraft.Proofs.Game.BuiltIn

/-!
# Abilities that keep to the context

Some abilities do no more than cancel an event, set a flag, leave a note or fail.  Where no others
listen, an announcement leaves the game alone, and if it fails, the error is that of an ability.
The end of a turn counts effects down and passes the turn, and does no more than that.

A game writes down what scripted abilities have seen.  That journal is the one thing that an
announcement changes here.
-/

namespace Boardcraft

/-- A reaction to the context of an event only, or a failure. -/
def Reaction.TouchesContext : Reaction → Prop
  | cancel | setFlag _ _ | note _ _ | fail _ => True
  | _ => False

namespace Rule

variable {P : Reaction → Prop} {rule : Rule}

theorem reactsBy_of_mem_builtin (h : rule ∈ Rule.builtin) : rule.ReactsBy P := by
  intro script hscript
  rcases Rule.mem_builtin_iff.1 h with rfl | rfl | rfl | rfl <;> cases hscript

theorem reactsBy_when {kind : Text} {triggers : List Event} {priority : Int}
    {condition : Condition} {reactions : List Reaction} (h : ∀ x ∈ reactions, P x) :
    Rule.ReactsBy P ⟨kind, triggers, priority, .scripted (.when condition reactions)⟩ := by
  intro script hscript s reactions' hreactions
  injection hscript with hscript
  rw [← hscript, Script.when] at hreactions
  split at hreactions
  · injection hreactions with hreactions
    exact hreactions ▸ h
  · cases hreactions

/-- Beside built-in rules, a registry offers one that reacts in some ways only. -/
theorem reactsBy_of_offers {r : Registry} (hr : r.BuiltIn) {name : Text} (h : rule.ReactsBy P)
    {rule' : Rule} (hoffers : (r.register name rule.draft).Offers rule') : rule'.ReactsBy P := by
  rcases Registry.offers_register hoffers with rfl | hoffers
  · exact h
  · exact reactsBy_of_mem_builtin (hr rule' hoffers)

end Rule

namespace Game

variable {P : Reaction → Prop} {g : Game}

/-!
## Who reacts how
-/

def AbilitiesReactBy (P : Reaction → Prop) (g : Game) : Prop :=
  ∀ n ∈ g.inPlay, ∀ a ∈ g.abilitiesOf n, a.rule.ReactsBy P

def ListenersReactBy (P : Reaction → Prop) (g : Game) : Prop :=
  ∀ s ∈ g.dispatcher.entries, s.ability.rule.ReactsBy P

theorem AbilitiesReactBy.listeners (h : AbilitiesReactBy P g) (haccount : Accounted g) :
    ListenersReactBy P g := by
  intro s hs
  rcases haccount.heard.hears.mem_entries_iff.1 hs with ⟨a, ha, hsa⟩
  rcases List.mem_flatMap.1 ha with ⟨n, hn, han⟩
  rcases Ability.mem_subscriptions_iff.1 hsa with ⟨event, _, rfl⟩
  exact h n hn a han

theorem ListenersReactBy.mem_listeners (h : ListenersReactBy P g) (event : Event) :
    ∀ s ∈ g.dispatcher.listeners event, s.ability.rule.ReactsBy P := by
  intro s hs
  unfold Dispatcher.listeners at hs
  exact h s (List.mem_filter.1 hs).1

theorem abilitiesReactBy_run {start : Game} (hfresh : Fresh start)
    (h : ∀ rule, start.registry.Offers rule → rule.ReactsBy P) (ops : List Operation) :
    AbilitiesReactBy P (start.run ops) := by
  intro n hn a ha
  have hmade := (accounted_run hfresh ops).heard.made n hn a ha
  have hoffers := hmade.rule
  rw [registry_run] at hoffers
  exact h a.rule hoffers

/-!
### Nobody comes to listen when effects end
-/

theorem ListenersReactBy.unsubscribe (h : ListenersReactBy P g) {g' : Game} {l : List Ability}
    (hdispatcher : g'.dispatcher = l.foldl Dispatcher.unsubscribeAbility g.dispatcher) :
    ListenersReactBy P g' := by
  intro s hs
  rw [hdispatcher, Dispatcher.entries_unsubscribeAll] at hs
  exact h s (List.mem_filter.1 hs).1

theorem ListenersReactBy.expire (h : ListenersReactBy P g) (e : EffectNumber) :
    ListenersReactBy P (g.expire e) :=
  h.unsubscribe (dispatcher_expire g e)

theorem ListenersReactBy.tick (h : ListenersReactBy P g) (e : EffectNumber) :
    ListenersReactBy P (g.tick e) := by
  unfold Game.tick
  split
  · next effect _ =>
      split
      · have hcounted : ListenersReactBy P
            (g.setEffect e { effect with remaining := effect.remaining - 1 }) := h
        dsimp only
        split
        · exact hcounted.expire e
        · exact hcounted
      · exact h
  · exact h

theorem ListenersReactBy.tickStatuses (h : ListenersReactBy P g) (n : PieceNumber) :
    ListenersReactBy P (g.tickStatuses n).2 := by
  have hticked : ∀ (l : List EffectNumber) (g : Game), ListenersReactBy P g →
      ListenersReactBy P (l.foldl Game.tick g) := by
    intro l
    induction l with
    | nil => exact fun _ hg => hg
    | cons e rest ih => exact fun g hg => ih (g.tick e) (hg.tick e)
  exact hticked (g.statusesOf n) g h

theorem ListenersReactBy.turn (h : ListenersReactBy P g) :
    ListenersReactBy P g.tickAll.nextTurn := by
  have hticked : ∀ (l : List PieceNumber) (g : Game), ListenersReactBy P g →
      ListenersReactBy P (l.foldl (fun g n => (g.tickStatuses n).2) g) := by
    intro l
    induction l with
    | nil => exact fun _ hg => hg
    | cons n rest ih => exact fun g hg => ih (g.tickStatuses n).2 (hg.tickStatuses n)
  exact hticked g.inPlay g h

theorem ListenersReactBy.withoutPiece (h : ListenersReactBy P g) (hattached : Attached g)
    (id : Text) (n : PieceNumber) : ListenersReactBy P (g.withoutPiece id n) :=
  h.unsubscribe (dispatcher_withoutPiece hattached id n)

/-!
## Failures of announcements
-/

/-- Whatever an ability fails with, the announcement reports whose failure it was. -/
theorem announceWith_eq_error {endTurn : GameM Unit} {c : Context} {e : GameError} {g' : Game}
    (h : announceWith endTurn c g = .error e g') :
    ∃ kind cause, e = .abilityFailed kind c.event cause := by
  have hnotify : ∀ (l : List Subscription) (s s' : Scene) (e : GameError),
      Scene.notify endTurn c.event l s = .error e s' →
        ∃ kind cause, e = .abilityFailed kind c.event cause := by
    intro l
    induction l with
    | nil =>
        intro s s' e hrun
        cases hrun
    | cons entry rest ih =>
        intro s s' e hrun
        rw [Scene.notify_cons] at hrun
        split at hrun
        · cases hrun
        · split at hrun
          · exact ih _ _ _ hrun
          · injection hrun with hcause
            exact ⟨_, _, hcause.symm⟩
  unfold announceWith at h
  split at h
  · cases h
  · next e' s' hrun =>
      injection h with hcause
      exact hcause ▸ hnotify _ _ _ _ hrun

theorem announce_eq_error {c : Context} {e : GameError} {g' : Game}
    (h : announce c g = .error e g') : ∃ kind cause, e = .abilityFailed kind c.event cause :=
  announceWith_eq_error h

/-- The end of a turn fails only where an ability does that is heard at the start of the next. -/
theorem endTurn_eq (g : Game) :
    endTurn g = (announceWith (endTurnWithin 999) { event := .turnStart } >>= fun _ => pure ())
      g.tickAll.nextTurn := rfl

theorem endTurn_eq_error {e : GameError} {g' : Game} (h : endTurn g = .error e g') :
    ∃ kind cause, e = .abilityFailed kind .turnStart cause := by
  rw [endTurn_eq] at h
  cases hrun : announceWith (endTurnWithin 999) { event := .turnStart } g.tickAll.nextTurn with
  | ok context g'' =>
      rw [bind_of_eq_ok _ hrun] at h
      cases h
  | error cause g'' =>
      rw [bind_of_eq_error _ hrun] at h
      injection h with hcause
      exact hcause ▸ announceWith_eq_error hrun

/-!
## Announcements that leave the game alone
-/

/-- From one game to the other nothing has changed but what has been written down. -/
def SameButJournal (g g' : Game) : Prop := ∃ journal, g' = { g with journal }

namespace SameButJournal

variable {g' g'' : Game}

theorem refl (g : Game) : SameButJournal g g := ⟨g.journal, rfl⟩

theorem trans (h : SameButJournal g g') (h' : SameButJournal g' g'') : SameButJournal g g'' := by
  rcases h with ⟨journal, rfl⟩
  rcases h' with ⟨journal', rfl⟩
  exact ⟨journal', rfl⟩

theorem board (h : SameButJournal g g') : g'.board = g.board := by
  rcases h with ⟨journal, rfl⟩
  rfl

theorem piece (h : SameButJournal g g') (n : PieceNumber) : g'.piece n = g.piece n := by
  rcases h with ⟨journal, rfl⟩
  rfl

theorem inPlay (h : SameButJournal g g') : g'.inPlay = g.inPlay := by
  rcases h with ⟨journal, rfl⟩
  rfl

theorem listeners (h : SameButJournal g g') (hg : ListenersReactBy P g) : ListenersReactBy P g' := by
  rcases h with ⟨journal, rfl⟩
  exact hg

theorem accounted (h : SameButJournal g g') (hg : Accounted g) : Accounted g' := by
  rcases h with ⟨journal, rfl⟩
  exact accounted_frame hg _ _ _ _ _

theorem grounded (h : SameButJournal g g') (hg : Grounded g) : Grounded g' := by
  rcases h with ⟨journal, rfl⟩
  exact ⟨hg.inPlay, hg.square, hg.holds⟩

end SameButJournal

theorem chronicle_sameButJournal :
    Chronicle Reaction.TouchesContext fun g _ g' => SameButJournal g g' where
  still := SameButJournal.refl
  chain := SameButJournal.trans
  sight g seen := ⟨g.journal ++ [seen], rfl⟩
  subscribe _ _ _ _ _ _ h := h.elim
  unsubscribe _ _ _ _ _ h := h.elim
  afflict _ _ _ _ _ h := h.elim
  remove _ _ _ h := h.elim
  turn h := h.elim

theorem sameButJournal_announceWith (h : ListenersReactBy Reaction.TouchesContext g)
    (endTurn : GameM Unit) (c : Context) : SameButJournal g (g.after (announceWith endTurn c)) := by
  have hnever : Reaction.TouchesContext .endTurn →
      ∀ g' : Game, SameButJournal g' (g'.after endTurn) := fun hend => hend.elim
  exact chronicle_sameButJournal.announceWith (fun _ => []) hnever c (h.mem_listeners c.event)

theorem sameButJournal_announce (h : ListenersReactBy Reaction.TouchesContext g) (c : Context) :
    SameButJournal g (g.after (announce c)) :=
  sameButJournal_announceWith h endTurn c

theorem announceWith_of_touchesContext (h : ListenersReactBy Reaction.TouchesContext g)
    (endTurn : GameM Unit) (c : Context) :
    ∃ g', SameButJournal g g' ∧
      ((∃ c', announceWith endTurn c g = .ok c' g') ∨
        ∃ kind cause, announceWith endTurn c g = .error (.abilityFailed kind c.event cause) g') := by
  have hleft := sameButJournal_announceWith h endTurn c
  cases hrun : announceWith endTurn c g with
  | ok c' g' =>
      rw [after_of_eq_ok hrun] at hleft
      exact ⟨g', hleft, Or.inl ⟨c', rfl⟩⟩
  | error e g' =>
      rw [after_of_eq_error hrun] at hleft
      rcases announceWith_eq_error hrun with ⟨kind, cause, rfl⟩
      exact ⟨g', hleft, Or.inr ⟨kind, cause, rfl⟩⟩

theorem announce_of_touchesContext (h : ListenersReactBy Reaction.TouchesContext g) (c : Context) :
    ∃ g', SameButJournal g g' ∧
      ((∃ c', announce c g = .ok c' g') ∨
        ∃ kind cause, announce c g = .error (.abilityFailed kind c.event cause) g') :=
  announceWith_of_touchesContext h endTurn c

/-- The turn has passed also where an ability fails that is heard then. -/
theorem endTurn_of_touchesContext (h : ListenersReactBy Reaction.TouchesContext g) :
    ∃ g', SameButJournal g.tickAll.nextTurn g' ∧
      (endTurn g = .ok () g' ∨
        ∃ kind cause, endTurn g = .error (.abilityFailed kind .turnStart cause) g') := by
  rcases announceWith_of_touchesContext h.turn (endTurnWithin 999) { event := .turnStart } with
    ⟨g', hsame, ⟨c', hrun⟩ | ⟨kind, cause, hrun⟩⟩
  · refine ⟨g', hsame, Or.inl ?_⟩
    rw [endTurn_eq, bind_of_eq_ok _ hrun]
    rfl
  · refine ⟨g', hsame, Or.inr ⟨kind, cause, ?_⟩⟩
    rw [endTurn_eq, bind_of_eq_error _ hrun]

end Game
end Boardcraft
