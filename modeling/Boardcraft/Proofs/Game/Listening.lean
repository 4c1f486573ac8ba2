import Boardcraft.Proofs.Game.Account

/-!
# Who listens

A piece that comes into play brings the abilities that it was made with, and one that leaves takes
all its abilities along, those that effects have lent to it among them.  With that, every step and
every run keeps the account of who listens.

## Main statements

* `accounted_run` says that every run from a fresh game keeps the account;
* `listeners_perm_abilities` spells it out for the listeners of one event.
-/

namespace Boardcraft
namespace Game

/-!
## Coming into play
-/

section Adding

variable {g : Game} {p : Piece} {stem : Text} {square : Square}

theorem piece_withPiece_of_ne {n : PieceNumber} (hne : n ≠ g.pieceCount + 1) :
    (g.withPiece p).piece n = g.piece n := by
  unfold piece withPiece
  dsimp only
  rw [Table.find?_insert_of_ne _ _ hne.symm]

theorem piece_withPieceOn (n : PieceNumber) :
    (g.withPieceOn p square).piece n = (g.withPiece p).piece n := rfl

theorem abilitiesOf_withPiece (hg : Numbered g) {n : PieceNumber} (hn : n ∈ g.inPlay) :
    (g.withPiece p).abilitiesOf n = g.abilitiesOf n := by
  refine abilitiesOf_congr (piece_withPiece_of_ne ?_) rfl fun _ _ => rfl
  intro heq
  subst heq
  exact hg.not_mem_next hn

theorem accounted_withPiece (h : Accounted g)
    (hid : p.id = stem ++ "-" ++ toString (g.pieceCount + 1)) : Accounted (g.withPiece p) := by
  refine ⟨numbered_withPiece h.numbered hid, h.uncast,
    ⟨h.attached.inPlay, h.attached.host, h.attached.nodup, h.attached.given⟩, ?_⟩
  refine h.heard.of_same rfl rfl ?_ (Nat.le_add_right _ _) rfl
  intro n hn
  exact abilitiesOf_withPiece h.numbered hn

/-- A piece that comes into play is under no effect yet and brings the abilities that it was made
with. -/
theorem accounted_withPieceOn (h : Accounted g)
    (hid : p.id = stem ++ "-" ++ toString (g.pieceCount + 1))
    (hmakes : Makes g (g.pieceCount + 1) p.abilities) : Accounted (g.withPieceOn p square) := by
  have hplay : (g.withPieceOn p square).inPlay = g.inPlay ++ [g.pieceCount + 1] :=
    inPlay_withPieceOn h.numbered hid square
  have hnew : (g.withPieceOn p square).abilitiesOf (g.pieceCount + 1) = p.abilities := by
    have hstatuses : (g.withPieceOn p square).statusesOf (g.pieceCount + 1) = [] :=
      h.attached.statusesOf_eq_nil h.numbered.not_mem_next
    rw [abilitiesOf_eq, hstatuses, piece_withPieceOn, piece_withPiece_self, List.flatMap_nil,
      List.append_nil]
  have hold : ∀ n ∈ g.inPlay, (g.withPieceOn p square).abilitiesOf n = g.abilitiesOf n :=
    fun n hn => abilitiesOf_withPiece (p := p) h.numbered hn
  have hliving : (g.withPieceOn p square).living = g.living ++ p.abilities := by
    unfold living
    rw [hplay, List.flatMap_append, List.flatMap_singleton, hnew, List.flatMap_congr hold]
  refine ⟨numbered_withPieceOn h.numbered hid square, h.uncast, ⟨?_, ?_, ?_, ?_⟩, ?_, ?_⟩
  · intro n e he
    rw [hplay]
    exact List.mem_append_left _ (h.attached.inPlay n e he)
  · exact h.attached.host
  · exact h.attached.nodup
  · exact h.attached.given
  · rw [hliving]
    exact h.heard.hears.subscribe (h.heard.nodup_serials hmakes)
  · intro n hn a ha
    rw [hplay, List.mem_append, List.mem_singleton] at hn
    rcases hn with hn | rfl
    · rw [hold n hn] at ha
      exact (h.heard.made n hn a ha).mono (Nat.le_add_right _ _) rfl
    · rw [hnew] at ha
      have hcount : g.abilityCount + p.abilities.length ≤
          (g.withPieceOn p square).abilityCount := Nat.le_refl _
      exact hmakes.madeFor hcount rfl ha

theorem accounted_add (g : Game) (blueprint : Blueprint) (team : Value) (square : Square)
    (h : Accounted g) : Accounted (g.after (addPiece blueprint team square)) := by
  have hadd := adds_after g blueprint team square
  generalize g.after (addPiece blueprint team square) = g' at hadd ⊢
  cases hadd with
  | unmade k => exact accounted_withSerials h k
  | offBoard made _ => exact accounted_withPiece h made.id
  | placed made _ => exact accounted_withPieceOn h made.id made.abilities

end Adding

/-!
## Leaving play
-/

section Leaving

variable {g : Game} {id : Text} {n : PieceNumber}

/-- By induction on the effects: as none occurs twice, each still lends what it lent at first when
its turn comes. -/
theorem dispatcher_foldl_expire {l : List EffectNumber} (hnodup : l.Nodup) (g : Game) :
    (l.foldl expire g).dispatcher =
      (l.flatMap g.lentBy).foldl Dispatcher.unsubscribeAbility g.dispatcher := by
  induction l generalizing g with
  | nil => rfl
  | cons e rest ih =>
      rw [List.nodup_cons] at hnodup
      have hrest : rest.flatMap (g.expire e).lentBy = rest.flatMap g.lentBy := by
        apply List.flatMap_congr
        intro e' he'
        refine lentBy_of_effect?_eq (effect?_expire_of_ne g ?_)
        intro heq
        subst heq
        exact hnodup.1 he'
      rw [List.foldl_cons, ih hnodup.2, hrest, dispatcher_expire, List.flatMap_cons,
        List.foldl_append]

theorem effect?_foldl_expire {l : List EffectNumber} {e : EffectNumber} (he : e ∉ l) (g : Game) :
    (l.foldl expire g).effect? e = g.effect? e := by
  induction l generalizing g with
  | nil => rfl
  | cons e' rest ih =>
      rw [List.mem_cons, not_or] at he
      rw [List.foldl_cons, ih he.2, effect?_expire_of_ne g (Ne.symm he.1)]

theorem hostOf_foldl_expire (l : List EffectNumber) (e : EffectNumber) (g : Game) :
    (l.foldl expire g).hostOf e = g.hostOf e := by
  induction l generalizing g with
  | nil => rfl
  | cons e' rest ih => rw [List.foldl_cons, ih, hostOf_expire]

/-- A piece that leaves takes all its abilities along. -/
theorem dispatcher_withoutPiece (h : Attached g) (id : Text) (n : PieceNumber) :
    (g.withoutPiece id n).dispatcher =
      (g.abilitiesOf n).foldl Dispatcher.unsubscribeAbility g.dispatcher := by
  rw [abilitiesOf_eq, List.foldl_append]
  exact dispatcher_foldl_expire (h.nodup n) _

theorem effect?_withoutPiece (id : Text) {e : EffectNumber} (he : e ∉ g.statusesOf n) :
    (g.withoutPiece id n).effect? e = g.effect? e := by
  have h := effect?_foldl_expire he
    ({ g with roster := g.roster.erase id }.unsubscribeAll (g.piece n).abilities)
  exact h

theorem hostOf_withoutPiece (g : Game) (id : Text) (n : PieceNumber) (e : EffectNumber) :
    (g.withoutPiece id n).hostOf e = g.hostOf e := by
  have h := hostOf_foldl_expire (g.statusesOf n) e
    ({ g with roster := g.roster.erase id }.unsubscribeAll (g.piece n).abilities)
  exact h

theorem statusesOf_withoutPiece (g : Game) (id : Text) (n m : PieceNumber) :
    (g.withoutPiece id n).statusesOf m = if n = m then [] else g.statusesOf m := by
  rcases withoutPiece_eq g id n with ⟨dispatcher, effects, heq⟩
  rw [heq]
  exact statusesOf_setStatuses g n m []

theorem abilitiesOf_withoutPiece (h : Attached g) (id : Text) {m : PieceNumber} (hne : m ≠ n) :
    (g.withoutPiece id n).abilitiesOf m = g.abilitiesOf m := by
  refine abilitiesOf_congr ?_ ?_ ?_
  · rcases withoutPiece_eq g id n with ⟨dispatcher, effects, heq⟩
    rw [heq]
    rfl
  · rw [statusesOf_withoutPiece, if_neg hne.symm]
  · intro e he
    have hnot : e ∉ g.statusesOf n := fun he' => h.ne_of_mem he' he hne rfl
    exact lentBy_of_effect?_eq (effect?_withoutPiece id hnot)

theorem accounted_withoutPiece (h : Accounted g) (hfind : g.find? id = some n) :
    Accounted (g.withoutPiece id n) := by
  have hmem : ∀ m, m ∈ (g.withoutPiece id n).inPlay ↔ m ∈ g.inPlay ∧ m ≠ n :=
    fun m => mem_inPlay_withoutPiece h.numbered hfind
  have hsame := samePieces_withoutPiece g id n (g.withoutPiece id n).board
  have hothers : ∀ m ∈ (g.withoutPiece id n).inPlay,
      (g.withoutPiece id n).abilitiesOf m = g.abilitiesOf m :=
    fun m hm => abilitiesOf_withoutPiece h.attached id ((hmem m).1 hm).2
  have hliving : g.living.Perm ((g.withoutPiece id n).living ++ g.abilitiesOf n) := by
    have hsplit : g.living.Perm ((n :: (g.withoutPiece id n).inPlay).flatMap g.abilitiesOf) :=
      (perm_inPlay_withoutPiece hfind).flatMap_right _
    rw [List.flatMap_cons, ← List.flatMap_congr hothers] at hsplit
    exact hsplit.trans List.perm_append_comm
  rcases withoutPiece_eq g id n with ⟨dispatcher, effects, heq⟩
  refine ⟨h.numbered.of_samePieces hsame, ?_, ⟨?_, ?_, ?_, ?_⟩, ?_, ?_⟩
  · rw [heq]
    exact h.uncast
  · intro m e he
    rw [statusesOf_withoutPiece] at he
    split at he
    · cases he
    · next hne => exact (hmem m).2 ⟨h.attached.inPlay m e he, Ne.symm hne⟩
  · intro m e he
    rw [statusesOf_withoutPiece] at he
    split at he
    · cases he
    · rw [hostOf_withoutPiece]
      exact h.attached.host m e he
  · intro m
    rw [statusesOf_withoutPiece]
    split
    · exact List.nodup_nil
    · exact h.attached.nodup m
  · intro e m he
    rw [hostOf_withoutPiece] at he
    rw [heq]
    exact h.attached.given e m he
  · rw [dispatcher_withoutPiece h.attached]
    exact (h.heard.hears.perm hliving).unsubscribe
  · intro m hm a ha
    rw [hothers m hm] at ha
    refine (h.heard.made m ((hmem m).1 hm).1 a ha).mono (Nat.le_of_eq ?_) hsame.registry
    rw [heq]

theorem accounted_remove {g' : Game} (h : Accounted g) (hremove : Removes g id g') :
    Accounted g' := by
  cases hremove with
  | absent _ => exact h
  | offBoard hfind _ => exact accounted_withoutPiece h hfind
  | cleared hfind _ => exact accounted_frame (accounted_withoutPiece h hfind) _ _ _ _ _

end Leaving

/-!
## Steps and runs
-/

theorem accounted_step (g g' : Game) (hstep : Step g g') (h : Accounted g) : Accounted g' := by
  cases hstep with
  | sight seen => exact accounted_frame h _ _ _ _ _
  | @subscribe name a cast event priority =>
      rw [h.uncast name] at cast
      cases cast
  | @unsubscribe name a cast event =>
      rw [h.uncast name] at cast
      cases cast
  | afflict id definition => exact accounted_afflict h (afflicts_after g id definition)
  | remove id => exact accounted_remove h (removes_after g id)
  | turn => exact accounted_frame (accounted_tickAll h) _ _ _ _ _
  | begin team => exact accounted_frame h _ _ _ _ _
  | @shift target empty origin =>
      have hshift := shifts_after g origin target
      generalize g.after (shift origin target) = g' at hshift ⊢
      cases hshift with
      | unmoved => exact h
      | moved _ _ => exact accounted_frame h _ _ _ _ _
  | win team => exact accounted_frame h _ _ _ _ _

theorem accounted_fresh (board : Board) (registry : Registry) :
    Accounted (fresh board registry) := by
  refine ⟨numbered_fresh board registry, fun _ => rfl, ⟨?_, ?_, ?_, ?_⟩, ⟨?_, ?_⟩, ?_⟩
  · intro n e he
    cases he
  · intro n e he
    cases he
  · intro n
    exact List.nodup_nil
  · intro e n he
    cases he
  · exact List.Perm.refl _
  · exact List.nodup_nil
  · intro n hn
    cases hn

/-- Every run from a fresh game keeps the account of who listens, whatever abilities do and
whichever operations fail. -/
theorem accounted_run {g : Game} (hfresh : Fresh g) (ops : List Operation) :
    Accounted (g.run ops) := by
  rcases hfresh with ⟨width, height, board, registry, _, rfl⟩
  exact run_keeps accounted_step accounted_add (accounted_fresh board registry) ops

/-- After every run from a fresh game, those who listen to an event are the abilities of the pieces
in play, those that effects lend among them: each of them as often as the event is one of its
triggers, with its own priority, and each made for its piece. -/
theorem listeners_perm_abilities {g : Game} (hfresh : Fresh g) (ops : List Operation)
    (event : Event) :
    (((g.run ops).dispatcher.listeners event).map fun s => (s.priority, s.ability)).Perm
      ((g.run ops).inPlay.flatMap fun n => ((g.run ops).abilitiesOf n).flatMap fun a =>
        List.replicate (a.triggers.count event) (a.priority, a)) ∧
    ∀ n ∈ (g.run ops).inPlay, ∀ a ∈ (g.run ops).abilitiesOf n, a.host = some n := by
  have h := (accounted_run hfresh ops).heard
  constructor
  · have hperm := h.hears.listeners event
    unfold living at hperm
    rwa [List.flatMap_assoc] at hperm
  · intro n hn a ha
    exact (h.made n hn a ha).host

/-- A walker whose movement is stopped for a turn, and another that takes it away by acting. -/
def stunning : List Operation :=
  [.add (walker [{ name := "Jumping" }]) (.str "white") ⟨0, 0⟩,
    .add (walker [{ name := "King" }]) (.str "black") ⟨0, 1⟩, .start (.str "white"),
    .applyStatus "black-walker-2"
      { name := "Stun", duration := 1, abilities := [{ name := "Immobile" }],
        duration_pos := Int.le_refl 1 },
    .act "white-walker-1" ⟨0, 1⟩ "attack"]

theorem listeners_perm_abilities_after_stunning :
    Fresh (usual .standard) ∧ ((usual .standard).run stunning).inPlay = [1] ∧
    ((((usual .standard).run stunning).dispatcher.listeners .moveValidate).map fun s =>
      (s.priority, s.ability)).Perm
      (((usual .standard).run stunning).inPlay.flatMap fun n =>
        (((usual .standard).run stunning).abilitiesOf n).flatMap fun a =>
          List.replicate (a.triggers.count .moveValidate) (a.priority, a)) :=
  ⟨fresh_usual .standard, by decide +kernel,
    (listeners_perm_abilities (fresh_usual .standard) stunning .moveValidate).1⟩

end Game
end Boardcraft
