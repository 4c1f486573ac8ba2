import Boardcraft.Proofs.Ability.Precedence
import Boardcraft.Proofs.Data.Initial
import Boardcraft.Proofs.Game.Immobility

/-!
# Who is heard when an event is announced

An announcement goes through those who listen when it begins, one after another, until the event is
cancelled or somebody fails.  What a listener does to the context is there for the next one to see.
Whom a listener lets in or sends away is of no concern to the announcement itself, but it is in
effect once the announcement is over.

The listeners who are heard are compared with plain hearing: hearing a list of listeners in order,
with nobody looking at the context in between and with failures as they are.

## Main statements

* `notify_eq_ok_iff` and `notify_eq_error_iff` say how an announcement ends in terms of plain
  hearing;
* `game_after_hearAll` says what listeners do to a game who let others in or send them away;
* `announce_hears_until_stopped` puts these together.
-/

namespace Boardcraft

open Dispatcher (Call)

/-- A reaction to the context of an event or to who listens, or a failure. -/
def Reaction.TouchesListening : Reaction → Prop
  | cancel | setFlag _ _ | note _ _ | fail _ | subscribe _ _ _ | unsubscribe _ _ => True
  | _ => False

namespace Scene

variable {endTurn : GameM Unit}

/-!
## Plain hearing
-/

def hearAll (endTurn : GameM Unit) : List Subscription → SceneM Unit
  | [] => pure ()
  | entry :: rest => do
      hear endTurn entry.ability
      hearAll endTurn rest

/-- Whether nobody is to be heard any more once some listeners have been: the event is cancelled, or
one of them has failed. -/
def StopsAfter (endTurn : GameM Unit) (s : Scene) (l : List Subscription) : Prop :=
  match hearAll endTurn l s with
  | .ok _ s' => s'.context.cancelled = true
  | .error _ _ => True

theorem hearAll_cons_of_ok {entry : Subscription} {s s' : Scene}
    (h : hear endTurn entry.ability s = .ok () s') (rest : List Subscription) :
    hearAll endTurn (entry :: rest) s = hearAll endTurn rest s' := by
  show EStateM.bind _ _ s = _
  unfold EStateM.bind
  rw [h]

theorem hearAll_cons_of_error {entry : Subscription} {s s' : Scene} {e : GameError}
    (h : hear endTurn entry.ability s = .error e s') (rest : List Subscription) :
    hearAll endTurn (entry :: rest) s = .error e s' := by
  show EStateM.bind _ _ s = _
  unfold EStateM.bind
  rw [h]

theorem stopsAfter_nil_iff {s : Scene} :
    StopsAfter endTurn s [] ↔ s.context.cancelled = true := Iff.rfl

theorem stopsAfter_cons_of_ok {entry : Subscription} {s s' : Scene}
    (h : hear endTurn entry.ability s = .ok () s') (rest : List Subscription) :
    StopsAfter endTurn s (entry :: rest) ↔ StopsAfter endTurn s' rest := by
  unfold StopsAfter
  rw [hearAll_cons_of_ok h]

theorem stopsAfter_cons_of_error {entry : Subscription} {s s' : Scene} {e : GameError}
    (h : hear endTurn entry.ability s = .error e s') (rest : List Subscription) :
    StopsAfter endTurn s (entry :: rest) := by
  unfold StopsAfter
  rw [hearAll_cons_of_error h]
  trivial

/-- By induction on the listeners: nobody takes a cancellation back. -/
theorem hearAll_follows (l : List Subscription) (s : Scene) :
    s.context.Follows (s.after (hearAll endTurn l)).context := by
  induction l generalizing s with
  | nil => exact .refl s.context
  | cons entry rest ih => exact bind_follows (hear_follows entry.ability s) ih

/-!
## Those who are heard
-/

def heard (endTurn : GameM Unit) : List Subscription → Scene → List Subscription
  | [], _ => []
  | entry :: rest, s =>
      if s.context.cancelled then []
      else
        match hear endTurn entry.ability s with
        | .ok _ s' => entry :: heard endTurn rest s'
        | .error _ _ => [entry]

theorem heard_of_cancelled {s : Scene} (h : s.context.cancelled = true) (l : List Subscription) :
    heard endTurn l s = [] := by
  cases l with
  | nil => rfl
  | cons entry rest => rw [heard, if_pos h]

theorem heard_cons_of_ok {entry : Subscription} {s s' : Scene} (h : ¬ s.context.cancelled = true)
    (hrun : hear endTurn entry.ability s = .ok () s') (rest : List Subscription) :
    heard endTurn (entry :: rest) s = entry :: heard endTurn rest s' := by
  rw [heard, if_neg h, hrun]

theorem heard_cons_of_error {entry : Subscription} {s s' : Scene} {e : GameError}
    (h : ¬ s.context.cancelled = true) (hrun : hear endTurn entry.ability s = .error e s')
    (rest : List Subscription) : heard endTurn (entry :: rest) s = [entry] := by
  rw [heard, if_neg h, hrun]

theorem heard_eq_nil_iff {s : Scene} (h : s.context.cancelled = false) {l : List Subscription} :
    heard endTurn l s = [] ↔ l = [] := by
  cases l with
  | nil => exact Iff.rfl
  | cons entry rest =>
      have hgo : ¬ s.context.cancelled = true := Bool.eq_false_iff.1 h
      refine iff_of_false ?_ (List.cons_ne_nil entry rest)
      cases hrun : hear endTurn entry.ability s with
      | ok u s' =>
          rw [heard_cons_of_ok hgo hrun]
          exact List.cons_ne_nil _ _
      | error e s' =>
          rw [heard_cons_of_error hgo hrun]
          exact List.cons_ne_nil _ _

theorem notify_cons_of_ok {event : Event} {entry : Subscription} {s s' : Scene}
    (h : ¬ s.context.cancelled = true) (hrun : hear endTurn entry.ability s = .ok () s')
    (rest : List Subscription) :
    notify endTurn event (entry :: rest) s = notify endTurn event rest s' := by
  rw [notify_cons, if_neg h, hrun]

theorem notify_cons_of_error {event : Event} {entry : Subscription} {s s' : Scene} {e : GameError}
    (h : ¬ s.context.cancelled = true) (hrun : hear endTurn entry.ability s = .error e s')
    (rest : List Subscription) :
    notify endTurn event (entry :: rest) s =
      .error (.abilityFailed entry.ability.kind event e) s' := by
  rw [notify_cons, if_neg h, hrun]

/-- By induction on the listeners.  If the first one fails, the initial part that ends with it is the
shortest. -/
theorem shortestInitial_heard (l : List Subscription) (s : Scene) :
    ShortestInitial (StopsAfter endTurn s) (heard endTurn l s) l := by
  induction l generalizing s with
  | nil => exact .nil
  | cons entry rest ih =>
      by_cases hcancelled : s.context.cancelled = true
      · rw [heard_of_cancelled hcancelled]
        exact .nil_of_stops (stopsAfter_nil_iff.2 hcancelled) _
      · cases hrun : hear endTurn entry.ability s with
        | ok u s' =>
            rw [heard_cons_of_ok hcancelled hrun]
            refine .cons hcancelled ?_
            have hsame : (fun q => StopsAfter endTurn s (entry :: q)) = StopsAfter endTurn s' := by
              funext q
              exact propext (stopsAfter_cons_of_ok hrun q)
            rw [hsame]
            exact ih s'
        | error e s' =>
            rw [heard_cons_of_error hcancelled hrun]
            exact .cons hcancelled (.nil_of_stops (stopsAfter_cons_of_error hrun []) rest)

/-!
### How an announcement ends
-/

theorem notify_eq_ok_iff {event : Event} {l : List Subscription} {s s' : Scene} :
    notify endTurn event l s = .ok () s' ↔ hearAll endTurn (heard endTurn l s) s = .ok () s' := by
  induction l generalizing s with
  | nil => exact Iff.rfl
  | cons entry rest ih =>
      by_cases hcancelled : s.context.cancelled = true
      · rw [heard_of_cancelled hcancelled, notify_of_cancelled hcancelled]
        exact Iff.rfl
      · cases hrun : hear endTurn entry.ability s with
        | ok u s₁ =>
            rw [heard_cons_of_ok hcancelled hrun, notify_cons_of_ok hcancelled hrun,
              hearAll_cons_of_ok hrun]
            exact ih
        | error e s₁ =>
            rw [heard_cons_of_error hcancelled hrun, notify_cons_of_error hcancelled hrun,
              hearAll_cons_of_error hrun]
            constructor <;> exact fun h => by cases h

theorem notify_eq_error_iff {event : Event} {l : List Subscription} {s s' : Scene}
    {e : GameError} :
    notify endTurn event l s = .error e s' ↔
      ∃ front last cause s₁, heard endTurn l s = front ++ [last] ∧
        hearAll endTurn front s = .ok () s₁ ∧ hear endTurn last.ability s₁ = .error cause s' ∧
        e = .abilityFailed last.ability.kind event cause := by
  induction l generalizing s with
  | nil =>
      constructor
      · exact fun h => by cases h
      · rintro ⟨front, last, _, _, hnone, _⟩
        simp [heard] at hnone
  | cons entry rest ih =>
      by_cases hcancelled : s.context.cancelled = true
      · rw [heard_of_cancelled hcancelled, notify_of_cancelled hcancelled]
        constructor
        · exact fun h => by cases h
        · rintro ⟨front, last, _, _, hnone, _⟩
          simp at hnone
      · cases hrun : hear endTurn entry.ability s with
        | ok u s₁ =>
            rw [heard_cons_of_ok hcancelled hrun, notify_cons_of_ok hcancelled hrun, ih]
            constructor
            · rintro ⟨front, last, cause, s₂, hheard, hfront, hlast, he⟩
              refine ⟨entry :: front, last, cause, s₂, ?_, ?_, hlast, he⟩
              · rw [hheard, List.cons_append]
              · rw [hearAll_cons_of_ok hrun, hfront]
            · rintro ⟨front, last, cause, s₂, hheard, hfront, hlast, he⟩
              cases front with
              | nil =>
                  -- The first listener did not fail, so that it is not the last one either.
                  injection hheard with hentry _
                  injection hfront with _ hscene
                  rw [← hentry, ← hscene, hrun] at hlast
                  cases hlast
              | cons entry' front' =>
                  injection hheard with hentry hheard
                  rw [← hentry, hearAll_cons_of_ok hrun] at hfront
                  exact ⟨front', last, cause, s₂, hheard, hfront, hlast, he⟩
        | error cause s₁ =>
            rw [heard_cons_of_error hcancelled hrun, notify_cons_of_error hcancelled hrun]
            constructor
            · intro h
              injection h with he hscene
              subst he hscene
              exact ⟨[], entry, cause, s, rfl, rfl, hrun, rfl⟩
            · rintro ⟨front, last, cause', s₂, hheard, hfront, hlast, he⟩
              rcases List.append_eq_singleton_iff.1 hheard.symm with ⟨rfl, hentry⟩ | ⟨_, hnone⟩
              · injection hentry with hentry _
                injection hfront with _ hscene
                rw [hentry, ← hscene, hrun] at hlast
                injection hlast with hcause hscene'
                rw [he, hentry, hcause, hscene']
              · cases hnone

theorem after_notify (event : Event) (l : List Subscription) (s : Scene) :
    s.after (notify endTurn event l) = s.after (hearAll endTurn (heard endTurn l s)) := by
  induction l generalizing s with
  | nil => rfl
  | cons entry rest ih =>
      unfold after at ih ⊢
      by_cases hcancelled : s.context.cancelled = true
      · rw [heard_of_cancelled hcancelled, notify_of_cancelled hcancelled]
        rfl
      · cases hrun : hear endTurn entry.ability s with
        | ok u s' =>
            rw [heard_cons_of_ok hcancelled hrun, notify_cons_of_ok hcancelled hrun,
              hearAll_cons_of_ok hrun]
            exact ih s'
        | error e s' =>
            rw [heard_cons_of_error hcancelled hrun, notify_cons_of_error hcancelled hrun,
              hearAll_cons_of_error hrun]

/-!
## Who is let in and who is sent away
-/

def answer (a : Ability) (s : Scene) : Option (List Reaction) :=
  match a.rule.behaviour with
  | .scripted script => script ⟨a.host, s.game.board, s.context, s.game.journal.length⟩
  | _ => none

def sightings (a : Ability) (s : Scene) : List Sighting :=
  match answer a s with
  | some _ => [⟨a, s.context⟩]
  | none => []

/-- What reactions ask of a dispatcher, up to the first that fails. -/
def callsOf (cast : Table Text Ability) : List Reaction → List Call
  | [] => []
  | .subscribe name given priority :: rest =>
      match Event.ofValue given, cast.find? name with
      | .ok event, some b => .subscribe event b priority :: callsOf cast rest
      | _, _ => []
  | .unsubscribe name given :: rest =>
      match Event.ofValue given, cast.find? name with
      | .ok event, some b => .unsubscribe event b :: callsOf cast rest
      | _, _ => []
  | .fail _ :: _ => []
  | _ :: rest => callsOf cast rest

def calls (a : Ability) (s : Scene) : List Call := callsOf s.game.cast ((answer a s).getD [])

def allSightings (endTurn : GameM Unit) : List Subscription → Scene → List Sighting
  | [], _ => []
  | entry :: rest, s =>
      sightings entry.ability s ++
        match hear endTurn entry.ability s with
        | .ok _ s' => allSightings endTurn rest s'
        | .error _ _ => []

def allCalls (endTurn : GameM Unit) : List Subscription → Scene → List Call
  | [], _ => []
  | entry :: rest, s =>
      calls entry.ability s ++
        match hear endTurn entry.ability s with
        | .ok _ s' => allCalls endTurn rest s'
        | .error _ _ => []

end Scene

/-- The game after calls of its dispatcher and with more sightings in its journal. -/
def Game.heeding (g : Game) (calls : List Call) (seen : List Sighting) : Game :=
  { g with dispatcher := calls.foldl Call.perform g.dispatcher, journal := g.journal ++ seen }

theorem Game.heeding_heeding (g : Game) (calls calls' : List Call) (seen seen' : List Sighting) :
    (g.heeding calls seen).heeding calls' seen' = g.heeding (calls ++ calls') (seen ++ seen') := by
  unfold heeding
  simp only [List.foldl_append, List.append_assoc]

theorem Game.heeding_nil (g : Game) : g.heeding [] [] = g := by
  unfold heeding
  simp only [List.foldl_nil, List.append_nil]

namespace Scene

variable {endTurn : GameM Unit}

theorem after_performAll_cons (a : Ability) (r : Reaction) (rest : List Reaction) (s : Scene) :
    s.after (performAll endTurn a (r :: rest)) =
      match perform endTurn a r s with
      | .ok _ s' => s'.after (performAll endTurn a rest)
      | .error _ s' => s' := by
  show s.after (EStateM.bind _ _) = _
  unfold after EStateM.bind
  cases perform endTurn a r s <;> rfl

/-- How a reaction ends that names an event and an ability of the cast. -/
theorem onGame_naming (given : Value) (name : Text) (change : Event → Ability → Game → Game)
    (s : Scene) :
    onGame (Game.requireEvent given >>= fun event => Game.requireAbility name >>= fun b =>
        modify (change event b)) s =
      match Event.ofValue given, s.game.cast.find? name with
      | .ok event, some b => .ok () { s with game := change event b s.game }
      | .ok _, none => .error (.unknownAbility name) s
      | .error fault, _ => .error (.unknownEvent fault) s := by
  unfold Game.requireEvent
  cases Event.ofValue given with
  | error fault => rfl
  | ok event =>
      show onGame (Game.requireAbility name >>= fun b => modify (change event b)) s = _
      unfold onGame
      cases hcast : s.game.cast.find? name with
      | none =>
          have hability : Game.requireAbility name s.game =
              .error (.unknownAbility name) s.game := by
            unfold Game.requireAbility
            rw [Game.get_bind, hcast]
            rfl
          rw [Game.bind_of_eq_error _ hability]
      | some b =>
          have hability : Game.requireAbility name s.game = .ok b s.game := by
            unfold Game.requireAbility
            rw [Game.get_bind, hcast]
            rfl
          rw [Game.bind_of_eq_ok _ hability]
          rfl

/-- Reactions to the context and to who listens change nobody else in the game.  By induction on the
reactions. -/
theorem game_after_performAll (a : Ability) {rs : List Reaction}
    (hrs : ∀ r ∈ rs, r.TouchesListening) (s : Scene) :
    (s.after (performAll endTurn a rs)).game = s.game.heeding (callsOf s.game.cast rs) [] := by
  induction rs generalizing s with
  | nil => exact (Game.heeding_nil s.game).symm
  | cons r rest ih =>
      have hrest : ∀ r' ∈ rest, r'.TouchesListening :=
        fun r' hr' => hrs r' (List.mem_cons_of_mem r hr')
      have hr := hrs r List.mem_cons_self
      rw [after_performAll_cons]
      cases r with
      | cancel => exact ih hrest _
      | setFlag name value => exact ih hrest _
      | note key value => exact ih hrest _
      | fail message => exact (Game.heeding_nil s.game).symm
      | subscribe name given priority =>
          rw [perform, onGame_naming, callsOf]
          cases Event.ofValue given with
          | error fault => exact (Game.heeding_nil s.game).symm
          | ok event =>
              cases s.game.cast.find? name with
              | none => exact (Game.heeding_nil s.game).symm
              | some b => exact ih hrest _
      | unsubscribe name given =>
          rw [perform, onGame_naming, callsOf]
          cases Event.ofValue given with
          | error fault => exact (Game.heeding_nil s.game).symm
          | ok event =>
              cases s.game.cast.find? name with
              | none => exact (Game.heeding_nil s.game).symm
              | some b => exact ih hrest _
      | afflict who draft => exact hr.elim
      | remove who => exact hr.elim
      | endTurn => exact hr.elim

/-- One case for each behaviour.  A built-in rule touches the context only. -/
theorem game_after_hear {a : Ability} (ha : a.rule.ReactsBy Reaction.TouchesListening)
    (s : Scene) :
    (s.after (hear endTurn a)).game = s.game.heeding (calls a s) (sightings a s) := by
  unfold hear
  rw [after_get_bind]
  unfold calls sightings answer
  cases hbehaviour : a.rule.behaviour with
  | immobile =>
      refine Eq.trans ?_ (Game.heeding_nil s.game).symm
      dsimp only
      split <;> rfl
  | jumping =>
      refine Eq.trans ?_ (Game.heeding_nil s.game).symm
      dsimp only
      split <;> rfl
  | alliesOnly =>
      refine Eq.trans ?_ (Game.heeding_nil s.game).symm
      dsimp only
      split <;> rfl
  | king =>
      refine Eq.trans ?_ (Game.heeding_nil s.game).symm
      dsimp only
      split
      · split <;> rfl
      · rfl
  | scripted script =>
      dsimp only
      cases hscript : script ⟨a.host, s.game.board, s.context, s.game.journal.length⟩ with
      | none => exact (Game.heeding_nil s.game).symm
      | some reactions =>
          have hreacts := ha script hbehaviour _ reactions hscript
          refine (game_after_performAll a hreacts (s.seen a)).trans ?_
          have hseen : (s.seen a).game = s.game.heeding [] [⟨a, s.context⟩] := rfl
          rw [hseen, Game.heeding_heeding]
          rfl

theorem game_after_hearAll {l : List Subscription}
    (hl : ∀ entry ∈ l, entry.ability.rule.ReactsBy Reaction.TouchesListening) (s : Scene) :
    (s.after (hearAll endTurn l)).game =
      s.game.heeding (allCalls endTurn l s) (allSightings endTurn l s) := by
  induction l generalizing s with
  | nil => exact (Game.heeding_nil s.game).symm
  | cons entry rest ih =>
      have hfirst : (s.after (hear endTurn entry.ability)).game =
          s.game.heeding (calls entry.ability s) (sightings entry.ability s) :=
        game_after_hear (hl entry List.mem_cons_self) s
      have hrest := ih fun e he => hl e (List.mem_cons_of_mem entry he)
      unfold after at hfirst hrest ⊢
      rw [allCalls, allSightings]
      cases hrun : hear endTurn entry.ability s with
      | ok u s' =>
          rw [hrun] at hfirst
          rw [hearAll_cons_of_ok hrun, hrest s', hfirst, Game.heeding_heeding]
      | error e s' =>
          rw [hrun] at hfirst
          rw [hearAll_cons_of_error hrun]
          dsimp only at hfirst ⊢
          rw [hfirst, List.append_nil, List.append_nil]

end Scene

/-- After some calls those listen who did before, unless a call stops them, and those whom a call has
let in and no later call stops.  By induction on the calls, whose last one comes last. -/
theorem Dispatcher.entries_foldl_perform {d : Dispatcher} (h : Ascending d.entries)
    (calls : List Call) :
    (calls.foldl Call.perform d).entries =
      byPriority ((d.entries.filter fun t => !calls.any fun call => call.takesBack t) ++
        standing calls) := by
  induction calls using List.reverseRecOn with
  | nil =>
      have hall : d.entries.filter (fun t => !([] : List Call).any fun call => call.takesBack t) =
          d.entries := by simp
      rw [List.foldl_nil, hall, standing, List.append_nil]
      exact eq_byPriority h fun _ => rfl
  | append_singleton calls call ih =>
      rw [List.foldl_append, List.foldl_cons, List.foldl_nil, entries_perform ih, standing_concat,
        List.filter_append, List.filter_filter, List.append_assoc]
      congr 3
      funext t
      simp [Bool.and_comm]

namespace Scene

/-!
## Announcements as a whole
-/

/-- How an event is announced when some listeners are called. -/
structure Announces (endTurn : GameM Unit) (event : Event) (s : Scene)
    (called : List Subscription) : Prop where
  /-- They are those who listened when the announcement began, as far as it took until the event was
  cancelled or somebody failed. -/
  shortest :
    ShortestInitial (StopsAfter endTurn s) called (s.game.dispatcher.listeners event)
  /-- The announcement leaves behind what plain hearing does. -/
  left : s.after (announce endTurn event) = s.after (hearAll endTurn called)
  ok_iff : ∀ s', announce endTurn event s = .ok () s' ↔ hearAll endTurn called s = .ok () s'
  /-- The announcement fails if and only if the last of them does, and tells whose failure it was. -/
  error_iff : ∀ e s', announce endTurn event s = .error e s' ↔
    ∃ front last cause s₁, called = front ++ [last] ∧ hearAll endTurn front s = .ok () s₁ ∧
      hear endTurn last.ability s₁ = .error cause s' ∧
      e = .abilityFailed last.ability.kind event cause
  /-- If they touch nothing but the context and who listens, the game is left with their calls. -/
  heeded : (∀ entry ∈ called, entry.ability.rule.ReactsBy Reaction.TouchesListening) →
    (s.after (announce endTurn event)).game =
      s.game.heeding (allCalls endTurn called s) (allSightings endTurn called s)
  /-- All these calls are then in effect. -/
  in_effect : (∀ entry ∈ called, entry.ability.rule.ReactsBy Reaction.TouchesListening) →
    Dispatcher.Ascending s.game.dispatcher.entries →
    (s.after (announce endTurn event)).game.dispatcher.entries =
      Dispatcher.byPriority
        ((s.game.dispatcher.entries.filter fun t =>
            !(allCalls endTurn called s).any fun call => call.takesBack t) ++
          Dispatcher.standing (allCalls endTurn called s))

theorem announces_heard (endTurn : GameM Unit) (event : Event) (s : Scene) :
    Announces endTurn event s (heard endTurn (s.game.dispatcher.listeners event) s) := by
  have hleft : s.after (announce endTurn event) =
      s.after (hearAll endTurn (heard endTurn (s.game.dispatcher.listeners event) s)) :=
    after_notify event _ s
  constructor
  · exact shortestInitial_heard _ s
  · exact hleft
  · exact fun s' => notify_eq_ok_iff
  · exact fun e s' => notify_eq_error_iff
  · intro hreacts
    rw [hleft, game_after_hearAll hreacts]
  · intro hreacts hascending
    rw [hleft, game_after_hearAll hreacts]
    exact Dispatcher.entries_foldl_perform hascending _

def usher : Ability where
  serial := 1
  rule := ⟨"Usher", [.moveStart], 0, .scripted (.when .always
    [.subscribe "Guest" (.str "on_move_start") 0, .unsubscribe "Usher" (.str "on_move_start")])⟩

def bouncer : Ability where
  serial := 2
  rule := ⟨"Bouncer", [.moveStart], 10, .scripted (.when .always [.cancel, .fail "No"])⟩

def guest : Ability where
  serial := 3
  rule := ⟨"Guest", [.moveStart], 20, .scripted (.when .always [.note "seen" (.bool true)])⟩

def foyer : Scene where
  game := { Game.usual .standard with
    cast := .ofList [("Usher", usher), ("Guest", guest)]
    dispatcher := ((Dispatcher.subscribeAbility {} guest).subscribeAbility bouncer).subscribeAbility
      usher }
  context := { event := .moveStart }

end Scene
end Boardcraft
