import Boardcraft.Proofs.Game.Orders

/-!
# Immobile pieces

A piece that is immobile cancels the announcement of its own moves.  Nothing that another listener
does in the course of that announcement can change this.  The immobile ability is heard although
the effect that lends it may end meanwhile, for those who are heard are the ones that listened when
the announcement began; the event is about the same piece until the end; and nobody can take a
cancellation back.

## Main statements

* `cancelled_of_immobile_listener` says how the announcement of an event about the piece ends;
* `immobile_piece_never_moves` says what becomes of an order to move it.
-/

namespace Boardcraft

/-!
## What listeners may do with a context
-/

/-- From one context to the other the event is about the same piece, and if it was cancelled it
still is. -/
structure Context.Follows (c c' : Context) : Prop where
  source : c'.source = c.source
  cancelled : c.cancelled = true → c'.cancelled = true

namespace Context.Follows

variable {c c' c'' : Context}

theorem refl (c : Context) : Follows c c := ⟨rfl, id⟩

theorem trans (h : Follows c c') (h' : Follows c' c'') : Follows c c'' :=
  ⟨h'.source.trans h.source, fun hcancelled => h'.cancelled (h.cancelled hcancelled)⟩

theorem cancel (c : Context) : Follows c c.cancel := ⟨rfl, fun _ => rfl⟩

theorem setFlag (c : Context) (name : Text) (value : Value) : Follows c (c.setFlag name value) :=
  ⟨rfl, id⟩

theorem note (c : Context) (key : Text) (value : Value) : Follows c (c.note key value) :=
  ⟨rfl, id⟩

end Context.Follows

namespace Scene

open Context (Follows)

variable {endTurn : GameM Unit}

theorem context_onGame {α : Type} (s : Scene) (m : GameM α) :
    (s.after (onGame m)).context = s.context := by
  unfold after onGame
  cases m s.game <;> rfl

/-- What a reaction does to the game leaves the context alone. -/
theorem perform_follows (a : Ability) (r : Reaction) (s : Scene) :
    Follows s.context (s.after (perform endTurn a r)).context := by
  cases r with
  | cancel => exact .cancel s.context
  | setFlag name value => exact .setFlag s.context name value
  | note key value => exact .note s.context key value
  | fail message => exact .refl s.context
  | subscribe name given priority =>
      rw [perform, context_onGame]
      exact .refl s.context
  | unsubscribe name given =>
      rw [perform, context_onGame]
      exact .refl s.context
  | afflict who draft =>
      rw [perform, after_get_bind]
      split
      · exact .refl s.context
      · rw [context_onGame]
        exact .refl s.context
  | remove who =>
      rw [perform, after_get_bind]
      split
      · exact .refl s.context
      · rw [context_onGame]
        exact .refl s.context
  | endTurn =>
      rw [perform, context_onGame]
      exact .refl s.context

theorem bind_follows {s : Scene} {m m' : SceneM Unit}
    (h : Follows s.context (s.after m).context)
    (h' : ∀ s' : Scene, Follows s'.context (s'.after m').context) :
    Follows s.context (s.after (m >>= fun _ => m')).context := by
  unfold after at h
  show Follows s.context (s.after (EStateM.bind m fun _ => m')).context
  unfold after EStateM.bind
  cases hrun : m s with
  | ok u s' =>
      rw [hrun] at h
      exact h.trans (h' s')
  | error e s' =>
      rw [hrun] at h
      exact h

theorem performAll_follows (a : Ability) (rs : List Reaction) (s : Scene) :
    Follows s.context (s.after (performAll endTurn a rs)).context := by
  induction rs generalizing s with
  | nil => exact .refl s.context
  | cons r rest ih => exact bind_follows (perform_follows a r s) ih

theorem hear_follows (a : Ability) (s : Scene) :
    Follows s.context (s.after (hear endTurn a)).context := by
  unfold hear
  rw [after_get_bind]
  cases a.rule.behaviour with
  | immobile =>
      dsimp only
      split
      · exact .cancel s.context
      · exact .refl s.context
  | jumping =>
      dsimp only
      split
      · exact .setFlag s.context _ _
      · exact .refl s.context
  | alliesOnly =>
      dsimp only
      split
      · exact (Follows.setFlag s.context _ _).trans (.setFlag _ _ _)
      · exact .refl s.context
  | king =>
      dsimp only
      split
      · split
        · exact (Follows.note s.context _ _).trans (.note _ _ _)
        · exact .refl s.context
      · exact .refl s.context
  | scripted script =>
      dsimp only
      split
      · exact performAll_follows a _ (s.seen a)
      · exact .refl s.context

/-!
## Who is sure to be heard
-/

/-- An immobile ability whose host an event is about cancels it. -/
theorem hear_of_immobile {a : Ability} {n : PieceNumber} {s : Scene}
    (hbehaviour : a.rule.behaviour = .immobile) (hhost : a.host = some n)
    (hsource : s.context.source = some n) :
    hear endTurn a s = .ok () { s with context := s.context.cancel } := by
  have happlies : a.appliesTo s.context.source = true := by
    simp [Ability.appliesTo, isHost, hhost, hsource]
  unfold hear
  rw [get_bind, hbehaviour]
  dsimp only
  rw [if_pos happlies]
  rfl

theorem notify_of_cancelled {event : Event} {s : Scene} (h : s.context.cancelled = true)
    (l : List Subscription) : notify endTurn event l s = .ok () s := by
  cases l with
  | nil => rfl
  | cons entry rest => rw [notify_cons, if_pos h]

/-- By induction on the listeners that are still to be heard.  Either the event is cancelled before
it is the immobile ability's turn, or the ability cancels it. -/
theorem cancelled_of_immobile_listener {event : Event} {l : List Subscription} {n : PieceNumber}
    (hl : ∃ entry ∈ l, entry.ability.rule.behaviour = .immobile ∧ entry.ability.host = some n)
    {s s' : Scene} (hsource : s.context.source = some n)
    (hrun : notify endTurn event l s = .ok () s') : s'.context.cancelled = true := by
  induction l generalizing s with
  | nil =>
      rcases hl with ⟨entry, hentry, _⟩
      cases hentry
  | cons first rest ih =>
      rw [notify_cons] at hrun
      by_cases hcancelled : s.context.cancelled = true
      · rw [if_pos hcancelled] at hrun
        injection hrun with _ hscene
        rw [← hscene]
        exact hcancelled
      · rw [if_neg hcancelled] at hrun
        rcases hl with ⟨entry, hentry, hbehaviour, hhost⟩
        rcases List.mem_cons.1 hentry with rfl | hentry
        · rw [hear_of_immobile hbehaviour hhost hsource] at hrun
          dsimp only at hrun
          rw [notify_of_cancelled rfl] at hrun
          injection hrun with _ hscene
          rw [← hscene]
          rfl
        · have hfollows : Follows s.context (s.after (hear endTurn first.ability)).context :=
            hear_follows first.ability s
          unfold after at hfollows
          cases hfirst : hear endTurn first.ability s with
          | error e s₁ =>
              rw [hfirst] at hrun
              cases hrun
          | ok u s₁ =>
              rw [hfirst] at hrun hfollows
              apply ih ⟨entry, hentry, hbehaviour, hhost⟩ _ hrun
              exact hfollows.source.trans hsource

end Scene

namespace Game

/-!
## Pieces that stay where they are
-/

/-- From one game to the other no piece has moved: each is on the square where it was, unless it has
left the board. -/
structure Unmoved (g g' : Game) : Prop where
  square : ∀ m, g'.squareOf m = g.squareOf m
  board : ∀ s m, g'.board.pieceAt s = some m → g.board.pieceAt s = some m

namespace Unmoved

variable {g g' g'' : Game}

theorem of_board_eq (h : g'.board = g.board) : Unmoved g g' := by
  constructor
  · exact squareOf_of_board_eq h
  · intro s m hm
    rwa [h] at hm

theorem refl (g : Game) : Unmoved g g := .of_board_eq rfl

theorem trans (h : Unmoved g g') (h' : Unmoved g' g'') : Unmoved g g'' := by
  constructor
  · intro m
    rw [h'.square, h.square]
  · intro s m hm
    exact h.board s m (h'.board s m hm)

theorem remove {id : Text} (h : Removes g id g') : Unmoved g g' := by
  cases h with
  | absent _ => exact .refl g
  | offBoard _ _ => exact .of_board_eq (board_withoutPiece _ _ _)
  | cleared _ _ =>
      constructor
      · intro m
        exact Board.squareOf_clear _ _ m
      · intro s m hm
        rw [Board.pieceAt_clear] at hm
        split at hm
        · cases hm
        · exact hm

end Unmoved

theorem chronicle_unmoved : Chronicle (fun _ => True) fun g _ g' => Unmoved g g' where
  still := Unmoved.refl
  chain := Unmoved.trans
  sight _ _ := .of_board_eq rfl
  subscribe _ _ _ _ _ _ _ _ := .of_board_eq rfl
  unsubscribe _ _ _ _ _ _ _ := .of_board_eq rfl
  afflict g _ _ id definition _ := by
    have hafflict := afflicts_after g id definition
    generalize g.after (applyStatus id definition) = g' at hafflict ⊢
    apply Unmoved.of_board_eq
    cases hafflict <;> rfl
  remove g _ id _ := .remove (removes_after g id)
  turn _ g := by
    rcases tickAll_eq g with ⟨dispatcher, effects, statuses, heq⟩
    rw [heq]
    exact .of_board_eq rfl

/-!
## Orders to an immobile piece
-/

def joined (g : Game) (others : List Subscription) : Game :=
  g.withDispatcher fun d => others.foldl (fun d s => d.subscribe s.event s.ability s.priority) d

theorem mem_listeners_joined {g : Game} {event : Event} {entry : Subscription}
    (h : entry ∈ g.dispatcher.listeners event) (others : List Subscription) :
    entry ∈ (g.joined others).dispatcher.listeners event := by
  have hentries : ∀ (others : List Subscription) (d : Dispatcher), entry ∈ d.entries →
      entry ∈ (others.foldl (fun d s => d.subscribe s.event s.ability s.priority) d).entries := by
    intro others
    induction others with
    | nil => exact fun _ hentry => hentry
    | cons other rest ih =>
        intro d hentry
        apply ih
        apply (Dispatcher.perm_place _ d.entries).mem_iff.2
        exact List.mem_cons_of_mem _ hentry
  unfold Dispatcher.listeners at h ⊢
  rw [List.mem_filter] at h ⊢
  exact ⟨hentries others g.dispatcher h.1, h.2⟩

theorem Accounted.exists_immobile_listener {g : Game} (h : Accounted g) {n : PieceNumber}
    (hn : n ∈ g.inPlay) (himmobile : ∃ a ∈ g.abilitiesOf n, a.rule = Rule.immobile) :
    ∃ entry ∈ g.dispatcher.listeners .moveStart,
      entry.ability.rule.behaviour = .immobile ∧ entry.ability.host = some n := by
  rcases himmobile with ⟨a, ha, hrule⟩
  have hliving : a ∈ g.living := List.mem_flatMap.2 ⟨n, hn, ha⟩
  have htrigger : Event.moveStart ∈ a.triggers := by
    simp [Ability.triggers, hrule, Rule.immobile]
  rcases h.heard.hears.exists_mem_listeners_iff.2 ⟨hliving, htrigger⟩ with ⟨entry, hentry, rfl⟩
  refine ⟨entry, hentry, ?_, (h.heard.made n hn _ ha).host⟩
  simp [hrule, Rule.immobile]

theorem cancelled_announcement {g g' : Game} {c c' : Context} {n : PieceNumber}
    (hl : ∃ entry ∈ g.dispatcher.listeners c.event,
      entry.ability.rule.behaviour = .immobile ∧ entry.ability.host = some n)
    (hsource : c.source = some n) (hrun : announce c g = .ok c' g') : c'.cancelled = true := by
  change announceWith endTurn c g = .ok c' g' at hrun
  unfold announceWith Scene.announce at hrun
  split at hrun
  · next u s hnotify =>
      injection hrun with hcontext _
      rw [← hcontext]
      exact Scene.cancelled_of_immobile_listener hl hsource hnotify
  · cases hrun

theorem move_of_immobile {g : Game} {id : Text} {n : PieceNumber} (hfind : g.find? id = some n)
    (hl : ∃ entry ∈ g.dispatcher.listeners .moveStart,
      entry.ability.rule.behaviour = .immobile ∧ entry.ability.host = some n) (target : Square) :
    ((∃ refusal g', move id target g = .ok [.refused .move id target refusal] g') ∨
      ∃ kind cause g', move id target g = .error (.abilityFailed kind .moveStart cause) g') ∧
    Unmoved g (g.after (move id target)) := by
  cases hgate : g.commanded id with
  | error refusal =>
      have hrun := move_of_not_commanded hgate target
      rw [after_of_eq_ok hrun]
      exact ⟨Or.inl ⟨refusal, g, hrun⟩, .refl g⟩
  | ok m =>
      have hsame := find?_of_commanded hgate
      rw [hfind] at hsame
      injection hsame with hsame
      subst hsame
      have hmove := move_of_ok hgate target
      have hunmoved := chronicle_unmoved.announce (g.moveStart n target) g
      cases hrun : announce (g.moveStart n target) g with
      | ok context g' =>
          have hcancelled : context.cancelled = true := cancelled_announcement hl rfl hrun
          rw [bind_of_eq_ok _ hrun, if_pos hcancelled] at hmove
          rw [after_of_eq_ok hrun] at hunmoved
          rw [after_of_eq_ok hmove]
          exact ⟨Or.inl ⟨.moveCancelled id, g', hmove⟩, hunmoved⟩
      | error e g' =>
          rcases announce_eq_error hrun with ⟨kind, cause, rfl⟩
          rw [bind_of_eq_error _ hrun] at hmove
          rw [after_of_eq_error hrun] at hunmoved
          rw [after_of_eq_error hmove]
          exact ⟨Or.inr ⟨kind, cause, g', hmove⟩, hunmoved⟩

/-- A rule that ends the turn before anybody else hears that a piece is about to move. -/
def hurrying : Rule :=
  ⟨"Hurry", [.moveStart], 0, .scripted (.when .always [.endTurn])⟩

/-- A walker that may not move for the rest of the turn, in a game in which the turn ends as soon as
a move begins. -/
def thawing : Game :=
  (usual (Registry.standard.register "Hurry" hurrying.draft)).run
    [.add (walker []) (.str "white") ⟨0, 0⟩,
      .add (walker [{ name := "Hurry" }]) (.str "black") ⟨5, 5⟩, .start (.str "white"),
      .applyStatus "white-walker-1" (lending "Immobile" 0)]

theorem reached_thawing : Reached thawing :=
  ⟨_, _, fresh_usual _, rfl⟩

theorem immobile_of_kind_in_thawing {a : Ability} {n : PieceNumber} (hn : n ∈ thawing.inPlay)
    (ha : a ∈ thawing.abilitiesOf n) (hkind : a.kind = "Immobile") : a.rule = Rule.immobile := by
  have hoffers := (reached_thawing.accounted.heard.made n hn a ha).rule
  have hregistry : thawing.registry = Registry.standard.register "Hurry" hurrying.draft :=
    registry_run _ _
  rw [hregistry] at hoffers
  rcases Registry.offers_register hoffers with hrule | hoffers
  · rw [Ability.kind, hrule] at hkind
    exact absurd hkind (by decide)
  · have hknown : Rule.immobile ∈ Rule.builtin := by simp [Rule.builtin]
    exact Rule.eq_of_kind_eq (Registry.builtIn_standard a.rule hoffers) hknown hkind

end Game
end Boardcraft
