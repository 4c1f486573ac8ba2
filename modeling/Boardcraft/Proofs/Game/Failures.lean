import Boardcraft.Proofs.Game.Naming
import Boardcraft.Proofs.Game.Orders

/-!
# Failures leave no trace

Pieces are brought into play and taken out of it, effects are applied and a game is begun in several
steps, and each of these may fail.  Whatever can fail comes before everything that can be seen: a
failure uses up numbers and may leave behind what was made under them, and nothing else.

## Main statements

* `addPiece_fails_iff` says for which arguments no piece comes into play;
* `failures_leave_no_trace` says that failures leave everything as it was.
-/

namespace Boardcraft

/-- An ability that cannot be made, wherever it stands, keeps all of them from being made. -/
theorem Registry.makeBare_fails_iff (r : Registry) (specs : List AbilitySpec) :
    (∃ fault, r.makeBare specs = .error fault) ↔ ∃ spec ∈ specs, r.canMake spec = false := by
  induction specs with
  | nil =>
      constructor
      · rintro ⟨fault, h⟩
        cases h
      · rintro ⟨spec, hspec, -⟩
        cases hspec
  | cons spec rest ih =>
      have hcons : r.makeBare (spec :: rest) = (do
          let a ← r.make spec.name spec.params 0 none
          let others ← r.makeBare rest
          pure (a :: others)) := List.mapM_cons ..
      rw [hcons, List.exists_mem_cons_iff, ← ih]
      unfold canMake
      cases r.make spec.name spec.params 0 none with
      | error fault => exact ⟨fun _ => Or.inl rfl, fun _ => ⟨fault, rfl⟩⟩
      | ok a =>
          cases r.makeBare rest with
          | error fault => exact ⟨fun _ => Or.inr ⟨fault, rfl⟩, fun _ => ⟨fault, rfl⟩⟩
          | ok others =>
              constructor
              · rintro ⟨fault, h⟩
                cases h
              · rintro (h | ⟨fault, h⟩) <;> cases h

/-- No piece can be made for what is no team, from shapes that cannot be read or with an ability
that cannot be made. -/
theorem Blueprint.prototype_eq_none_iff (r : Registry) (blueprint : Blueprint) (team : Value) :
    blueprint.prototype r team = none ↔
      Team.ofValue? team = none ∨ (∃ e, blueprint.movement.read = .error e) ∨
        (∃ e, blueprint.attack.read = .error e) ∨
        ∃ spec ∈ blueprint.abilities, r.canMake spec = false := by
  rw [← Registry.makeBare_fails_iff]
  unfold prototype
  cases Team.ofValue? team with
  | none => simp
  | some side =>
      cases blueprint.movement.read with
      | error e => simp
      | ok movement =>
          cases blueprint.attack.read with
          | error e => simp
          | ok attack => cases r.makeBare blueprint.abilities <;> simp

namespace Game

/-!
## When a piece cannot come into play
-/

/-- A piece comes into play unless it is for no team, a shape cannot be read, an ability cannot be
made or the square is off the board. -/
theorem addPiece_fails_iff (g : Game) (blueprint : Blueprint) (team : Value) (square : Square) :
    (∃ e g', addPiece blueprint team square g = .error e g') ↔
      (Team.ofValue? team = none ∨ (∃ e, blueprint.movement.read = .error e) ∨
        (∃ e, blueprint.attack.read = .error e) ∨
        ∃ spec ∈ blueprint.abilities, g.registry.canMake spec = false) ∨
      ¬ g.board.Holds square := by
  rw [← Blueprint.prototype_eq_none_iff g.registry]
  rcases makePiece_prototype blueprint team g with ⟨p, hsome, -, hmade⟩ | ⟨hnone, e, k, hunmade⟩
  · rw [hsome]
    by_cases on : g.board.Holds square
    · rw [addPiece_of_holds hmade on]
      constructor
      · rintro ⟨e, g', h⟩
        cases h
      · rintro (h | off)
        · cases h
        · exact absurd on off
    · rw [addPiece_of_not_holds hmade on]
      exact ⟨fun _ => Or.inr on, fun _ => ⟨_, _, rfl⟩⟩
  · rw [addPiece_of_unmade hunmade square]
    exact ⟨fun _ => Or.inl hnone, fun _ => ⟨e, _, rfl⟩⟩

/-!
## What failures leave behind
-/

/-- From one game to the other nothing has happened that can be seen.  Pieces and effects may have
been made, but none of them under a number that was given before, and none that counts. -/
structure Undisturbed (g g' : Game) : Prop where
  board : g'.board = g.board
  roster : g'.roster = g.roster
  pieces : ∀ n p, g.pieces.find? n = some p → g'.pieces.find? n = some p
  statuses : g'.statuses = g.statuses
  effects : ∀ n e, g.effect? n = some e → g'.effect? n = some e
  dispatcher : g'.dispatcher = g.dispatcher
  registry : g'.registry = g.registry
  cast : g'.cast = g.cast
  toMove : g'.toMove = g.toMove
  turn : g'.turn = g.turn
  winner : g'.winner = g.winner
  journal : g'.journal = g.journal

theorem Undisturbed.refl (g : Game) : Undisturbed g g :=
  ⟨rfl, rfl, fun _ _ h => h, rfl, fun _ _ h => h, rfl, rfl, rfl, rfl, rfl, rfl, rfl⟩

theorem Undisturbed.withSerials {g g' : Game} (h : Undisturbed g g') (k : Nat) :
    Undisturbed g (g'.withSerials k) :=
  { h with }

theorem undisturbed_withPiece {g : Game} (hg : Numbered g) (p : Piece) :
    Undisturbed g (g.withPiece p) :=
  { Undisturbed.refl g with
    pieces := fun _ _ h => find?_pieces_withPiece hg h p }

theorem undisturbed_withEffect {g : Game} (hg : Attached g) (definition : StatusDefinition)
    (host : PieceNumber) : Undisturbed g (g.withEffect definition host) := by
  refine { Undisturbed.refl g with effects := ?_ }
  intro n e h
  have hhost : g.hostOf n = some e.host := by
    unfold hostOf
    rw [h]
    rfl
  rw [effect?_withEffect_of_ne (Nat.ne_of_lt (hg.given n e.host hhost)), h]

theorem undisturbed_of_addPiece {g g' : Game} (hg : Numbered g) {blueprint : Blueprint}
    {team : Value} {square : Square} {e : GameError}
    (h : addPiece blueprint team square g = .error e g') : Undisturbed g g' := by
  rcases addPiece_cases g blueprint team square with
    ⟨p, _, _, hrun⟩ | ⟨p, e', _, _, hrun⟩ | ⟨e', k, hrun⟩
  · rw [h] at hrun
    cases hrun
  · rw [h] at hrun
    cases hrun
    exact undisturbed_withPiece hg p
  · rw [h] at hrun
    cases hrun
    exact (Undisturbed.refl g).withSerials k

theorem undisturbed_of_applyStatus {g g' : Game} (hg : Attached g) {id : Text}
    {definition : StatusDefinition} {e : GameError}
    (h : applyStatus id definition g = .error e g') : Undisturbed g g' := by
  cases hfind : g.find? id with
  | none =>
      rw [applyStatus_of_find?_none hfind] at h
      cases h
      exact Undisturbed.refl g
  | some host =>
      rcases applyStatus_cases hfind definition with
        ⟨m, effect, _, _, hrun⟩ | ⟨children, _, _, _, hrun⟩ | ⟨e', k, _, _, hrun⟩
      · rw [h] at hrun
        cases hrun
      · rw [h] at hrun
        cases hrun
      · -- the effect has been made, but it stands in no list and none of its abilities listens
        rw [h] at hrun
        cases hrun
        exact (undisturbed_withEffect hg definition host).withSerials k

/-- A piece in play stands on the board, so that nothing keeps it from being taken out of play. -/
theorem removePiece_eq_error {g g' : Game} (hg : Grounded g) {id : Text} {e : GameError}
    (h : removePiece id g = .error e g') : e = .unknownPiece id ∧ g' = g := by
  cases hfind : g.find? id with
  | none =>
      rw [removePiece_of_find?_none hfind] at h
      cases h
      exact ⟨rfl, rfl⟩
  | some n =>
      rw [removePiece_of_holds hfind (hg.holds n (mem_inPlay_iff.2 ⟨id, hfind⟩))] at h
      cases h

theorem start_of_no_team {first : Value} (h : Team.ofValue? first = none) (g : Game) :
    start first g = .error (.badFirstTeam first) g := by
  unfold start
  rw [h]
  rfl

theorem changeBoard_failed {α : Type} {change : BoardM α} (hchange : Board.AllOrNothing change)
    {g g' : Game} {e : GameError} (h : changeBoard change g = .error e g') : g' = g := by
  cases hrun : change g.board with
  | ok a board =>
      rw [changeBoard_eq_ok hrun] at h
      cases h
  | error fault board =>
      rw [changeBoard_eq_error hrun, hchange _ _ _ hrun] at h
      cases h
      rfl

/-- Whatever has been done to a game, a piece that does not come into play, an effect that is not
applied, the removal of an unknown piece and a beginning with what is no team leave everything as it
was, and so does every change of a board that fails. -/
theorem failures_leave_no_trace {g : Game} (reached : Reached g) :
    (∀ blueprint team square e g', addPiece blueprint team square g = .error e g' →
      Undisturbed g g') ∧
    (∀ id definition e g', applyStatus id definition g = .error e g' → Undisturbed g g') ∧
    (∀ id e g', removePiece id g = .error e g' → e = .unknownPiece id ∧ g' = g) ∧
    (∀ first, Team.ofValue? first = none → start first g = .error (.badFirstTeam first) g) ∧
    ∀ (h : Game) e h',
      (∀ n s, place n s h = .error e h' → h' = h) ∧
      (∀ s, clearSquare s h = .error e h' → h' = h) ∧
      ∀ origin destination, shift origin destination h = .error e h' → h' = h := by
  refine ⟨?_, ?_, ?_, ?_, ?_⟩
  · intro blueprint team square e g' hadd
    exact undisturbed_of_addPiece reached.numbered hadd
  · intro id definition e g' happly
    exact undisturbed_of_applyStatus reached.accounted.attached happly
  · intro id e g' hremove
    exact removePiece_eq_error reached.grounded hremove
  · intro first hfirst
    exact start_of_no_team hfirst g
  · intro h e h'
    exact ⟨fun n s => changeBoard_failed (Board.allOrNothing_place n s),
      fun s => changeBoard_failed (Board.allOrNothing_remove s),
      fun origin destination => changeBoard_failed (Board.allOrNothing_move origin destination)⟩

def manned : Game :=
  (usual .standard).run
    [.add (walker []) (.str "white") ⟨0, 0⟩, .add (walker []) (.str "black") ⟨7, 7⟩,
      .start (.str "white"), .applyStatus "white-walker-1" (lending "Immobile" 1)]

def halfKnown : List AbilitySpec := [{ name := "Immobile" }, { name := "Levitate" }]

def unusable : List Blueprint := [walker halfKnown, { walker [] with attack := .text "?" }]

def unlendable : StatusDefinition := { lending "Curse" 1 with abilities := halfKnown }

theorem no_trace_in_manned :
    Reached manned ∧
    (∀ blueprint ∈ unusable, ∃ e g', addPiece blueprint (.str "white") ⟨1, 1⟩ manned = .error e g' ∧
      Undisturbed manned g') ∧
    (∃ e g', addPiece (walker []) (.str "white") ⟨8, 0⟩ manned = .error e g' ∧
      Undisturbed manned g') ∧
    (∃ e g', applyStatus "white-walker-1" unlendable manned = .error e g' ∧
      Undisturbed manned g') ∧
    start (.str "green") manned = .error (.badFirstTeam (.str "green")) manned := by
  have reached : Reached manned := ⟨_, _, fresh_usual .standard, rfl⟩
  rcases failures_leave_no_trace reached with ⟨hadd, happly, -, hstart, -⟩
  have hunusable : ∀ blueprint ∈ unusable,
      (blueprint.prototype manned.registry (.str "white")).isNone = true := by decide +kernel
  have hunlent : (match applyStatus "white-walker-1" unlendable manned with
      | .ok _ _ => false
      | .error _ _ => true) = true := by decide +kernel
  refine ⟨reached, ?_, ?_, ?_, hstart (.str "green") (by decide +kernel)⟩
  · intro blueprint hmem
    have hnone := Option.isNone_iff_eq_none.1 (hunusable blueprint hmem)
    rw [Blueprint.prototype_eq_none_iff] at hnone
    rcases (addPiece_fails_iff manned blueprint (.str "white") ⟨1, 1⟩).2 (Or.inl hnone) with
      ⟨e, g', hrun⟩
    exact ⟨e, g', hrun, hadd _ _ _ e g' hrun⟩
  · rcases (addPiece_fails_iff manned (walker []) (.str "white") ⟨8, 0⟩).2
      (Or.inr (by decide +kernel)) with ⟨e, g', hrun⟩
    exact ⟨e, g', hrun, hadd _ _ _ e g' hrun⟩
  · split at hunlent
    · cases hunlent
    · next e g' hrun => exact ⟨e, g', hrun, happly _ _ e g' hrun⟩

end Game
end Boardcraft
