import Boardcraft.Proofs.Status.Shown
import Boardcraft.Proofs.Twin.Game
import Mathlib.Data.List.Find

/-!
# Changes of twin games

Each change of a game is made to its twin as well, for the corresponding piece, and leaves twins
behind.  Effects count down piece by piece in the order of the roster, which is not the same in both
games; as each effect stands on one piece only, every effect has its turn once and none sees another.

## Main statements

* `shifted`, `removed` and `ticked` are about pieces that move and leave and about the end of a turn;
* `applyStatus` is about effects that are applied, whether they begin, are stacked or cannot be made.
-/

namespace Boardcraft

namespace Effect

theorem bare_stack (e : Effect) (definition : StatusDefinition) :
    (e.stack definition).bare = e.bare.stack definition := by
  unfold stack
  cases definition.stacking <;> rfl

theorem bare_countDown (e : Effect) : e.countDown.bare = e.bare.countDown := by
  unfold countDown
  change _ = if e.active = true then if e.remaining - 1 ≤ 0 then _ else _ else _
  split
  · split <;> rfl
  · rfl

end Effect

namespace Game

/-!
## The end of a turn for every effect
-/

/-- An effect will still be in force when it has counted down. -/
def outlasts (g : Game) (e : EffectNumber) : Bool :=
  ((g.effect? e).map fun effect => effect.countDown.active).getD false

theorem isActive_of_countDown {g g' : Game} {e : EffectNumber}
    (h : g'.effect? e = (g.effect? e).map Effect.countDown) : g'.isActive e = g.outlasts e := by
  unfold isActive outlasts
  rw [h]
  cases g.effect? e <;> rfl

theorem outlasts_congr {g g' : Game} {e : EffectNumber} (h : g'.effect? e = g.effect? e) :
    g'.outlasts e = g.outlasts e := by
  unfold outlasts
  rw [h]

structure CountedDown (g g' : Game) (n : PieceNumber) : Prop where
  statuses : g'.statusesOf n = (g.statusesOf n).filter g.outlasts
  effects : ∀ e ∈ g'.statusesOf n, g'.effect? e = (g.effect? e).map Effect.countDown

structure SameEffects (g g' : Game) (n : PieceNumber) : Prop where
  statuses : g'.statusesOf n = g.statusesOf n
  effects : ∀ e ∈ g.statusesOf n, g'.effect? e = g.effect? e

section CountingDown

variable {g g' g'' : Game} {n m : PieceNumber}

theorem CountedDown.trans_same (h : CountedDown g g' n) (h' : SameEffects g' g'' n) :
    CountedDown g g'' n := by
  refine ⟨h'.statuses.trans h.statuses, ?_⟩
  intro e he
  rw [h'.statuses] at he
  rw [h'.effects e he, h.effects e he]

theorem SameEffects.trans_countedDown (h : SameEffects g g' n) (h' : CountedDown g' g'' n) :
    CountedDown g g'' n := by
  have hmem : ∀ e ∈ g''.statusesOf n, e ∈ g.statusesOf n := by
    intro e he
    rw [h'.statuses, h.statuses] at he
    exact (List.mem_filter.1 he).1
  constructor
  · rw [h'.statuses, h.statuses]
    exact List.filter_congr fun e he => outlasts_congr (h.effects e he)
  · intro e he
    rw [h'.effects e he, h.effects e (hmem e he)]

theorem SameEffects.trans (h : SameEffects g g' n) (h' : SameEffects g' g'' n) :
    SameEffects g g'' n := by
  refine ⟨h'.statuses.trans h.statuses, ?_⟩
  intro e he
  rw [h'.effects e (h.statuses ▸ he), h.effects e he]

theorem countedDown_tickStatuses (hg : Attached g) (n : PieceNumber) :
    CountedDown g (g.tickStatuses n).2 n := by
  have heffect : ∀ e ∈ g.statusesOf n,
      (g.tickStatuses n).2.effect? e = (g.effect? e).map Effect.countDown := by
    intro e he
    rw [effect?_tickStatuses (hg.nodup n), if_pos he]
  have hstatuses : (g.tickStatuses n).2.statusesOf n = (g.statusesOf n).filter g.outlasts := by
    rw [statusesOf_tickStatuses, if_pos rfl]
    exact List.filter_congr fun e he => isActive_of_countDown (heffect e he)
  refine ⟨hstatuses, ?_⟩
  intro e he
  rw [hstatuses] at he
  exact heffect e (List.mem_filter.1 he).1

theorem sameEffects_tickStatuses (hg : Attached g) (hne : m ≠ n) :
    SameEffects g (g.tickStatuses m).2 n := by
  constructor
  · rw [statusesOf_tickStatuses, if_neg hne]
  · intro e he
    rw [effect?_tickStatuses (hg.nodup m), if_neg ?_]
    intro he'
    exact hg.ne_of_mem he' he hne.symm rfl

/-- By induction on the pieces whose effects count down: each piece has its turn once, and the
effects on the others are left alone. -/
theorem foldl_tickStatuses {l : List PieceNumber} (hnodup : l.Nodup) (hg : Accounted g) :
    (∀ n ∈ l, CountedDown g (l.foldl (fun g n => (g.tickStatuses n).2) g) n) ∧
      ∀ n, n ∉ l → SameEffects g (l.foldl (fun g n => (g.tickStatuses n).2) g) n := by
  induction l generalizing g with
  | nil => exact ⟨fun n hn => absurd hn List.not_mem_nil, fun n _ => ⟨rfl, fun e _ => rfl⟩⟩
  | cons m rest ih =>
      rw [List.nodup_cons] at hnodup
      rw [List.foldl_cons]
      rcases ih hnodup.2 (accounted_tickStatuses hg m) with ⟨hcounted, hsame⟩
      constructor
      · intro n hn
        by_cases heq : n = m
        · subst heq
          exact (countedDown_tickStatuses hg.attached n).trans_same (hsame n hnodup.1)
        · have hrest := (List.mem_cons.1 hn).resolve_left heq
          exact (sameEffects_tickStatuses hg.attached (Ne.symm heq)).trans_countedDown
            (hcounted n hrest)
      · intro n hn
        rw [List.mem_cons, not_or] at hn
        exact (sameEffects_tickStatuses hg.attached (Ne.symm hn.1)).trans (hsame n hn.2)

theorem inPlay_tickAll (g : Game) : g.tickAll.inPlay = g.inPlay := by
  rcases tickAll_eq g with ⟨_, _, _, heq⟩
  rw [heq]
  rfl

theorem countedDown_tickAll (hg : Accounted g) (hn : n ∈ g.inPlay) : CountedDown g g.tickAll n :=
  (foldl_tickStatuses hg.numbered.nodup_inPlay hg).1 n hn

end CountingDown

namespace Twins

variable {c : Renaming} {g g' : Game} {n : PieceNumber} (h : Twins c g g')

include h

/-!
## The board and the turn
-/

theorem shifted (hn : g.Made n) (origin target : Square) :
    Twins c { g with board := (g.board.clear origin).put n target }
      { g' with board := (g'.board.clear origin).put (c.number n) target } := by
  refine { h with held := ?_, square := ?_, turn := ⟨h.turn.turn, h.turn.toMove, h.turn.winner⟩ }
  · intro s
    show ((g'.board.clear origin).put (c.number n) target).pieceAt s =
      (((g.board.clear origin).put n target).pieceAt s).map c.number
    rw [pieceAt_shifted, pieceAt_shifted, h.held]
    split
    · rfl
    · split <;> rfl
  · intro m hm
    show ((g'.board.clear origin).put (c.number n) target).squareOf (c.number m) =
      ((g.board.clear origin).put n target).squareOf m
    rw [squareOf_shifted, squareOf_shifted, h.square m hm]
    simp only [h.number_inj hn hm]

theorem begun (team : Team) : Twins c (g.begun team) (g'.begun team) :=
  { h with turn := ⟨rfl, rfl, rfl⟩ }

theorem won (team : Team) : Twins c (g.won team) (g'.won team) :=
  { h with turn := ⟨h.turn.turn, h.turn.toMove, rfl⟩ }

/-!
## A piece leaves
-/

theorem removed (hg : Accounted g) (hg' : Accounted g') {id : Text} (hfind : g.find? id = some n) :
    Twins c { g.withoutPiece id n with board := g.board.clear (g.squareOf n) }
      { g'.withoutPiece (c.id id) (c.number n) with
        board := g'.board.clear (g'.squareOf (c.number n)) } := by
  have hn : g.Made n := hg.numbered.made (Game.mem_inPlay_iff.2 ⟨id, hfind⟩)
  have hfind' : g'.find? (c.id id) = some (c.number n) := by
    rw [h.find?_id hg.numbered hg'.numbered (hg.numbered.names hfind), hfind, Option.map_some]
  have hsame := samePieces_withoutPiece g id n (g.board.clear (g.squareOf n))
  have hsame' := samePieces_withoutPiece g' (c.id id) (c.number n)
    (g'.board.clear (g'.squareOf (c.number n)))
  have hstatuses : ∀ m, g.Made m → (g'.withoutPiece (c.id id) (c.number n)).statusesOf (c.number m) =
      (g.withoutPiece id n).statusesOf m := by
    intro m hm
    rw [statusesOf_withoutPiece, statusesOf_withoutPiece, h.statuses m hm]
    simp only [h.number_inj hn hm]
  refine { toMadeAlike := h.toMadeAlike.of_samePieces hsame hsame', inPlay := ?_, width := h.width,
           height := h.height, held := ?_, square := ?_, effectCount := ?_, statuses := ?_,
           effects := ?_, turn := ?_ }
  · have hall := (perm_inPlay_withoutPiece hfind').symm.trans
      (h.inPlay.trans ((perm_inPlay_withoutPiece hfind).map c.number))
    exact List.Perm.cons_inv hall
  · intro s
    show (g'.board.clear (g'.squareOf (c.number n))).pieceAt s =
      ((g.board.clear (g.squareOf n)).pieceAt s).map c.number
    rw [Board.pieceAt_clear, Board.pieceAt_clear, h.square n hn, h.held]
    split <;> rfl
  · intro m hm
    exact h.square m (hsame.made_iff.1 hm)
  · rcases withoutPiece_eq g id n with ⟨_, _, heq⟩
    rcases withoutPiece_eq g' (c.id id) (c.number n) with ⟨_, _, heq'⟩
    rw [heq, heq']
    exact h.effectCount
  · exact fun m hm => hstatuses m (hsame.made_iff.1 hm)
  · intro m hm e he
    have hm' := hsame.made_iff.1 hm
    change e ∈ (g.withoutPiece id n).statusesOf m at he
    rw [statusesOf_withoutPiece] at he
    split at he
    · cases he
    · next hne =>
        have hnot : e ∉ g.statusesOf n := fun he' => hg.attached.ne_of_mem he' he (Ne.symm hne) rfl
        show ((g'.withoutPiece (c.id id) (c.number n)).effect? e).map Effect.bare =
          ((g.withoutPiece id n).effect? e).map Effect.bare
        rw [effect?_withoutPiece id hnot, effect?_withoutPiece (c.id id)]
        · exact h.effects m hm' e he
        · rw [h.statuses n hn]
          exact hnot
  · rcases withoutPiece_eq g id n with ⟨_, _, heq⟩
    rcases withoutPiece_eq g' (c.id id) (c.number n) with ⟨_, _, heq'⟩
    rw [heq, heq']
    exact ⟨h.turn.turn, h.turn.toMove, h.turn.winner⟩

/-!
## A turn ends
-/

theorem outlasts (hn : g.Made n) {e : EffectNumber} (he : e ∈ g.statusesOf n) :
    g'.outlasts e = g.outlasts e := by
  have hbare : ∀ k : Game, k.outlasts e =
      (((k.effect? e).map Effect.bare).map fun effect => effect.countDown.active).getD false := by
    intro k
    unfold Game.outlasts
    cases k.effect? e with
    | none => rfl
    | some effect =>
        have hsame := congrArg Effect.active effect.bare_countDown
        exact hsame
  rw [hbare, hbare, h.effects n hn e he]

theorem statusesOf_tickAll (hg : Accounted g) (hg' : Accounted g') (hn : g.Made n) :
    g'.tickAll.statusesOf (c.number n) = g.tickAll.statusesOf n := by
  by_cases hplay : n ∈ g.inPlay
  · rw [(countedDown_tickAll hg hplay).statuses,
      (countedDown_tickAll hg' (h.mem_inPlay hplay)).statuses, h.statuses n hn]
    exact List.filter_congr fun e he => h.outlasts hn he
  · have hplay' := mt (h.mem_inPlay_iff hg.numbered hn).1 hplay
    rw [← inPlay_tickAll] at hplay hplay'
    rw [(accounted_tickAll hg).attached.statusesOf_eq_nil hplay,
      (accounted_tickAll hg').attached.statusesOf_eq_nil hplay']

theorem effect?_tickAll (hg : Accounted g) (hg' : Accounted g') (hn : g.Made n) {e : EffectNumber}
    (he : e ∈ g.tickAll.statusesOf n) :
    (g'.tickAll.effect? e).map Effect.bare = (g.tickAll.effect? e).map Effect.bare := by
  have hplay : n ∈ g.inPlay := by
    rw [← inPlay_tickAll]
    exact (accounted_tickAll hg).attached.inPlay n e he
  have hcounted := countedDown_tickAll hg hplay
  have hcounted' := countedDown_tickAll hg' (h.mem_inPlay hplay)
  have he' : e ∈ g'.tickAll.statusesOf (c.number n) := by
    rw [h.statusesOf_tickAll hg hg' hn]
    exact he
  have hold : e ∈ g.statusesOf n := by
    rw [hcounted.statuses] at he
    exact (List.mem_filter.1 he).1
  have hbare : ∀ effect : Option Effect, (effect.map Effect.countDown).map Effect.bare =
      (effect.map Effect.bare).map Effect.countDown := by
    intro effect
    cases effect with
    | none => rfl
    | some effect => exact congrArg some effect.bare_countDown
  rw [hcounted.effects e he, hcounted'.effects e he', hbare, hbare, h.effects n hn e hold]

theorem tickAll (hg : Accounted g) (hg' : Accounted g') : Twins c g.tickAll g'.tickAll := by
  have hstatuses : ∀ m, g.Made m → g'.tickAll.statusesOf (c.number m) = g.tickAll.statusesOf m :=
    fun m hm => h.statusesOf_tickAll hg hg' hm
  have heffects : ∀ m, g.Made m → ∀ e ∈ g.tickAll.statusesOf m,
      (g'.tickAll.effect? e).map Effect.bare = (g.tickAll.effect? e).map Effect.bare :=
    fun m hm e he => h.effect?_tickAll hg hg' hm he
  rcases tickAll_eq g with ⟨_, _, _, heq⟩
  rcases tickAll_eq g' with ⟨_, _, _, heq'⟩
  rw [heq, heq'] at hstatuses heffects ⊢
  exact { h with
    statuses := hstatuses, effects := heffects,
    turn := ⟨h.turn.turn, h.turn.toMove, h.turn.winner⟩ }

theorem ticked (hg : Accounted g) (hg' : Accounted g') :
    Twins c g.tickAll.nextTurn g'.tickAll.nextTurn := by
  have hticked := h.tickAll hg hg'
  exact { hticked with
    turn := ⟨congrArg (· + 1) hticked.turn.turn, congrArg (Option.map Team.other) hticked.turn.toMove,
      hticked.turn.winner⟩ }

/-!
## An effect is applied
-/

theorem withSerials (k k' : Nat) : Twins c (g.withSerials k) (g'.withSerials k') :=
  { h with turn := ⟨h.turn.turn, h.turn.toMove, h.turn.winner⟩ }

theorem withEffect (hg : Attached g) (hg' : Attached g') (definition : StatusDefinition)
    (host : PieceNumber) :
    Twins c (g.withEffect definition host) (g'.withEffect definition (c.number host)) := by
  refine { h with effectCount := congrArg (· + 1) h.effectCount, effects := ?_,
                  turn := ⟨h.turn.turn, h.turn.toMove, h.turn.winner⟩ }
  intro m hm e he
  have he' : e ∈ g'.statusesOf (c.number m) := by
    rw [h.statuses m hm]
    exact he
  rw [effect?_withEffect_of_ne (hg.ne_effectCount he),
    effect?_withEffect_of_ne (hg'.ne_effectCount he')]
  exact h.effects m hm e he

theorem bears (hn : g.Made n) {e : EffectNumber} (he : e ∈ g.statusesOf n) (name : Text) :
    g'.bears name e = g.bears name e := by
  have hbare : ∀ k : Game, k.bears name e =
      (((k.effect? e).map Effect.bare).map fun effect =>
        effect.active && effect.name == name).getD false := by
    intro k
    unfold Game.bears
    cases k.effect? e <;> rfl
  rw [hbare, hbare, h.effects n hn e he]

theorem inForce? (hn : g.Made n) (name : Text) :
    g'.inForce? (c.number n) name = g.inForce? n name := by
  unfold Game.inForce?
  rw [h.statuses n hn]
  exact List.find?_congr fun e he => h.bears hn he name

theorem stacked (hn : g.Made n) {m : EffectNumber} (hm : m ∈ g.statusesOf n)
    {effect effect' : Effect} (found : g.effect? m = some effect)
    (found' : g'.effect? m = some effect') (definition : StatusDefinition) :
    Twins c (g.setEffect m (effect.stack definition))
      (g'.setEffect m (effect'.stack definition)) := by
  have hbare := h.effects n hn m hm
  rw [found, found'] at hbare
  injection hbare with hbare
  refine { h with effects := ?_, turn := ⟨h.turn.turn, h.turn.toMove, h.turn.winner⟩ }
  intro k hk e he
  rw [effect?_setEffect, effect?_setEffect]
  split
  · rw [Option.map_some, Option.map_some, Effect.bare_stack, Effect.bare_stack, hbare]
  · exact h.effects k hk e he

theorem withEffectInForce (hn : g.Made n) (definition : StatusDefinition)
    {children children' : List Ability}
    (hbare : children'.map Ability.bare = children.map Ability.bare) :
    Twins c (g.withEffectInForce definition n children)
      (g'.withEffectInForce definition (c.number n) children') := by
  refine { h with effectCount := congrArg (· + 1) h.effectCount, statuses := ?_, effects := ?_,
                  turn := ⟨h.turn.turn, h.turn.toMove, h.turn.winner⟩ }
  · intro m hm
    rw [statusesOf_withEffectInForce, statusesOf_withEffectInForce, h.statuses n hn, h.statuses m hm,
      h.effectCount]
    simp only [h.number_inj hn hm]
  · intro m hm e he
    by_cases heq : e = g.effectCount
    · have hnew : (g'.withEffectInForce definition (c.number n) children').effect? g.effectCount =
          some { Effect.make definition (c.number n) with children := children', active := true } := by
        rw [← h.effectCount]
        exact effect?_withEffectInForce_self
      rw [heq, effect?_withEffectInForce_self, hnew, Option.map_some, Option.map_some]
      unfold Effect.bare
      rw [hbare]
      rfl
    · have hold : e ∈ g.statusesOf m := by
        rw [statusesOf_withEffectInForce] at he
        split at he
        · next hhost =>
            rw [List.mem_append, List.mem_singleton, hhost] at he
            exact he.resolve_right heq
        · exact he
      have heq' : e ≠ g'.effectCount := h.effectCount ▸ heq
      rw [effect?_withEffectInForce_of_ne heq, effect?_withEffectInForce_of_ne heq']
      exact h.effects m hm e hold

theorem applyStatus (hg : Accounted g) (hg' : Accounted g') {id : Text} (hid : g.Names id)
    (definition : StatusDefinition) :
    EndsAlike c (fun n => n) (Game.applyStatus id definition g)
      (Game.applyStatus (c.id id) definition g') := by
  have hfind' := h.find?_id hg.numbered hg'.numbered hid
  cases hfind : g.find? id with
  | none =>
      rw [hfind] at hfind'
      rw [applyStatus_of_find?_none hfind, applyStatus_of_find?_none hfind']
      exact .error h
  | some host =>
      rw [hfind] at hfind'
      have hhost := hg.numbered.made (Game.mem_inPlay_iff.2 ⟨id, hfind⟩)
      have hmade := h.withEffect hg.attached hg'.attached definition host
      have hforce' := hmade.inForce? hhost definition.name
      rw [applyStatus_of_find?_some hfind, applyStatus_of_find?_some hfind']
      cases hforce : (g.withEffect definition host).inForce? host definition.name with
      | some m =>
          rw [hforce] at hforce'
          rcases inForce?_eq_some hforce with ⟨hm, e, found, -⟩
          rcases inForce?_eq_some hforce' with ⟨-, e', found', -⟩
          rw [applyEffect_of_forced (effect?_withEffect_self g definition host) hforce found,
            applyEffect_of_forced (effect?_withEffect_self g' definition (c.number host)) hforce'
              found']
          exact .ok (hmade.stacked hhost hm found found' definition)
      | none =>
          rw [hforce] at hforce'
          cases hbare : (g.withEffect definition host).registry.makeBare definition.abilities with
          | ok bare =>
              have hbare' := hbare
              rw [← hmade.registry] at hbare'
              rcases makeAbilities_of_makeBare hbare host with ⟨children, hchildren, hrun⟩
              rcases makeAbilities_of_makeBare hbare' (c.number host) with
                ⟨children', hchildren', hrun'⟩
              rw [applyEffect_of_made hforce hrun, applyEffect_of_made hforce' hrun', h.effectCount]
              exact .ok (h.withEffectInForce hhost definition (hchildren'.trans hchildren.symm))
          | error fault =>
              have hbare' := hbare
              rw [← hmade.registry] at hbare'
              rcases makeAbilities_of_not_makeBare hbare host with ⟨k, hrun⟩
              rcases makeAbilities_of_not_makeBare hbare' (c.number host) with ⟨k', hrun'⟩
              rw [applyEffect_of_unmade hforce hrun, applyEffect_of_unmade hforce' hrun']
              exact .error (hmade.withSerials k k')

end Twins

end Game
end Boardcraft
