import Boardcraft.Proofs.Game.Inquiry
import Boardcraft.Proofs.Mirror.Changes

/-!
# Play in the mirror

With built-in rules, whatever is asked in the image of a game has the image of the answer it has in the
game.  The rules favour neither team and no side of the board.

The image of a piece is known by the square on which it stands and by its team, so that questions
may be asked only about pieces that have been put on the board.  And a verdict has to be put into words:
of two squares far off the board that are images of each other, one may have a digit too many to be
written.
-/

namespace Boardcraft
namespace Game

variable {height : Int}

/-!
## What play goes by
-/

/-- What holds of every game with built-in rules on a board of some height. -/
structure Orderly (height : Int) (g : Game) : Prop where
  accounted : Accounted g
  grounded : Grounded g
  builtIn : g.registry.BuiltIn
  marked : ∀ n p, g.pieces.find? n = some p → p.teamMark = .str p.team.word
  height : g.board.height = height

structure HasStood (g : Game) (n : PieceNumber) : Prop where
  made : ∃ p, g.pieces.find? n = some p
  stood : g.board.Knows n

/-! A board keeps its size. -/

theorem size_step {g g' : Game} (h : Step g g') :
    g'.board.width = g.board.width ∧ g'.board.height = g.board.height := by
  rcases board_cases_of_step h with ⟨hboard, _⟩ | ⟨id, hremove⟩ | ⟨origin, target, _, hshift⟩
  · rw [hboard]
    exact ⟨rfl, rfl⟩
  · cases hremove with
    | absent _ => exact ⟨rfl, rfl⟩
    | offBoard _ _ =>
        rw [board_withoutPiece]
        exact ⟨rfl, rfl⟩
    | cleared _ _ => exact ⟨rfl, rfl⟩
  · cases hshift with
    | unmoved => exact ⟨rfl, rfl⟩
    | moved _ _ => exact ⟨rfl, rfl⟩

theorem size_add (g : Game) (blueprint : Blueprint) (team : Value) (square : Square) :
    (g.after (addPiece blueprint team square)).board.width = g.board.width ∧
      (g.after (addPiece blueprint team square)).board.height = g.board.height := by
  have hadd := adds_after g blueprint team square
  generalize g.after (addPiece blueprint team square) = g' at hadd ⊢
  cases hadd with
  | unmade k => exact ⟨rfl, rfl⟩
  | offBoard _ _ => exact ⟨rfl, rfl⟩
  | placed _ _ => exact ⟨rfl, rfl⟩

theorem orderly_step (g g' : Game) (hstep : Step g g') (h : Orderly height g) :
    Orderly height g' := by
  have hsame := samePieces_step hstep
  refine ⟨accounted_step _ _ hstep h.accounted,
    grounded_step hstep h.accounted.numbered h.grounded, ?_, ?_, ?_⟩
  · rw [hsame.registry]
    exact h.builtIn
  · rw [hsame.pieces]
    exact h.marked
  · rw [(size_step hstep).2]
    exact h.height

theorem orderly_add (g : Game) (blueprint : Blueprint) (team : Value) (square : Square)
    (h : Orderly height g) : Orderly height (g.after (addPiece blueprint team square)) := by
  refine ⟨accounted_add g blueprint team square h.accounted,
    grounded_add g blueprint team square h.accounted.numbered h.grounded, ?_, ?_, ?_⟩
  · rw [registry_add]
    exact h.builtIn
  · exact pieces_add (fun _ _ _ _ made => made.mark) g blueprint team square h.marked
  · rw [(size_add g blueprint team square).2]
    exact h.height

namespace Orderly

variable {g : Game}

theorem becomes {g' : Game} (h : Orderly height g) (hsteps : Becomes g g') : Orderly height g' :=
  hsteps.induction orderly_step h

theorem hasStood (h : Orderly height g) {n : PieceNumber} (hn : n ∈ g.inPlay) : g.HasStood n :=
  ⟨⟨_, h.accounted.numbered.find?_piece hn⟩, knows_of_inPlay h.grounded hn⟩

theorem rule_mem_builtin (h : Orderly height g) :
    ∀ s ∈ g.dispatcher.entries, s.ability.rule ∈ Rule.builtin :=
  fun _ hs => Game.rule_mem_builtin h.accounted.heard h.builtIn hs

end Orderly

theorem HasStood.squareOf {g : Game} {n : PieceNumber} (h : g.HasStood n) :
    (g.mirror height).squareOf n = (g.squareOf n).mirror height :=
  Board.squareOf_mirror h.stood

theorem HasStood.team {g : Game} {n : PieceNumber} (h : g.HasStood n) :
    ((g.mirror height).piece n).team = (g.piece n).team.other := by
  rcases h.made with ⟨p, hp⟩
  rw [piece_mirror hp]
  rfl

/-!
## Announcements
-/

theorem note_mirror (c : Context) (key : Text) (value : Value) :
    (c.mirror height).note key value.mirror = (c.note key value).mirror height := by
  unfold Context.note Context.mirror
  dsimp only
  rw [Table.mapValues_insert]

theorem heed_mirror {g : Game} {c : Context}
    (hsource : ∀ n, c.source = some n → ∃ p, g.pieces.find? n = some p) (a : Ability) :
    (g.mirror height).heed (c.mirror height) a = (g.heed c a).mirror height := by
  unfold heed
  rw [Context.source_mirror]
  cases a.rule.behaviour with
  | immobile =>
      dsimp only
      split <;> rfl
  | jumping =>
      dsimp only
      split <;> rfl
  | alliesOnly =>
      dsimp only
      split <;> rfl
  | scripted script => rfl
  | king =>
      dsimp only
      cases hcaptured : c.source with
      | none => rfl
      | some captured =>
          -- What a king notes is the word for its team, the one value that has another image.
          rcases hsource captured hcaptured with ⟨p, hp⟩
          dsimp only
          rw [piece_mirror hp]
          split
          · rw [← note_mirror, ← note_mirror]
            rfl
          · rfl

theorem heedAll_mirror {g : Game} {c : Context}
    (hsource : ∀ n, c.source = some n → ∃ p, g.pieces.find? n = some p) (l : List Ability) :
    (g.mirror height).heedAll l (c.mirror height) = (g.heedAll l c).mirror height := by
  induction l generalizing c with
  | nil => rfl
  | cons a rest ih =>
      rw [heedAll, heedAll, Context.cancelled_mirror]
      split
      · rfl
      · rw [heed_mirror hsource]
        refine ih ?_
        rw [source_heed]
        exact hsource

theorem announce_of_orderly {g : Game} (hg : Orderly height g) (c : Context) :
    announce c g =
      .ok (g.heedAll ((g.dispatcher.listeners c.event).map Subscription.ability) c) g :=
  announceWith_of_builtIn endTurn hg.rule_mem_builtin c

/-- An announcement tells the same listeners in the same order, and what they make of it is the same
in the mirror. -/
theorem mirrors_announce {g : Game} (hg : Orderly height g) {c : Context}
    (hsource : ∀ n, c.source = some n → ∃ p, g.pieces.find? n = some p) :
    Mirrors height (Context.mirror height) g (announce c) (announce (c.mirror height)) := by
  have hrun' : announce (c.mirror height) (g.mirror height) = .ok
      ((g.heedAll ((g.dispatcher.listeners c.event).map Subscription.ability) c).mirror height)
      (g.mirror height) := by
    rw [← heedAll_mirror hsource]
    exact announceWith_of_builtIn (g := g.mirror height) endTurn hg.rule_mem_builtin
      (c.mirror height)
  unfold Mirrors
  rw [hrun', announce_of_orderly hg]
  rfl

theorem mirrors_announce_bind {α β : Type} {g : Game} (hg : Orderly height g) {c : Context}
    (hsource : ∀ n, c.source = some n → ∃ p, g.pieces.find? n = some p) {f : α → β}
    {k : Context → GameM α} {k' : Context → GameM β}
    (h : ∀ context, context =
        g.heedAll ((g.dispatcher.listeners c.event).map Subscription.ability) c →
      Mirrors height f g (k context) (k' (context.mirror height))) :
    Mirrors height f g (announce c >>= k) (announce (c.mirror height) >>= k') :=
  Mirrors.bind_of_eq_ok (announce_of_orderly hg c) (mirrors_announce hg hsource) (h _ rfl)

theorem mirrors_announce_of_source {α β : Type} {g : Game} (hg : Orderly height g) {c : Context}
    {n : PieceNumber} (hsource : c.source = some n) (hmade : ∃ p, g.pieces.find? n = some p)
    {f : α → β} {k : Context → GameM α} {k' : Context → GameM β}
    (h : ∀ context, context =
        g.heedAll ((g.dispatcher.listeners c.event).map Subscription.ability) c →
      Mirrors height f g (k context) (k' (context.mirror height))) :
    Mirrors height f g (announce c >>= k) (announce (c.mirror height) >>= k') := by
  refine mirrors_announce_bind hg ?_ h
  intro m hm
  rw [hsource] at hm
  cases hm
  exact hmade

theorem mirrorsIf_announce_of_source {α β : Type} {even : Prop} {g : Game} (hg : Orderly height g)
    {c : Context} {n : PieceNumber} (hsource : c.source = some n)
    (hmade : ∃ p, g.pieces.find? n = some p) {f : α → β} {k : Context → GameM α}
    {k' : Context → GameM β}
    (h : ∀ context, MirrorsIf even height f g (k context) (k' (context.mirror height))) :
    MirrorsIf even height f g (announce c >>= k) (announce (c.mirror height) >>= k') := by
  refine MirrorsIf.bind (mirrors_announce hg ?_) fun context g' hrun => ?_
  · intro m hm
    rw [hsource] at hm
    cases hm
    exact hmade
  · rw [announce_of_orderly hg] at hrun
    cases hrun
    exact h _

theorem mirrors_endTurn {g : Game} (hg : Orderly height g) :
    Mirrors height id g endTurn endTurn := by
  have hticked : (g.mirror height).tickAll.nextTurn = g.tickAll.nextTurn.mirror height := by
    rw [tickAll_mirror, nextTurn_mirror]
  have hlisteners := (orderly_step _ _ (Step.turn g) hg).rule_mem_builtin
  unfold Mirrors
  rw [endTurn_of_listeners hlisteners, endTurn_of_listeners]
  · rw [hticked]
    rfl
  · rw [hticked]
    exact hlisteners

/-!
## Questions
-/

section Checks

variable {g : Game} {n : PieceNumber}

theorem contains_map_mirror (targets : List Square) (target : Square) :
    (targets.map (Square.mirror height)).contains (target.mirror height) =
      targets.contains target := by
  rw [Bool.eq_iff_iff, List.contains_iff_mem, List.contains_iff_mem,
    List.mem_map_of_injective (Square.mirror_injective height)]

theorem map_add_flipVertical (s : Square) (offsets : List Square) :
    (Offsets.flipVertical offsets).map (s.mirror height + ·) =
      (offsets.map (s + ·)).map (Square.mirror height) := by
  unfold Offsets.flipVertical
  rw [List.map_map, List.map_map]
  refine List.map_congr_left fun o _ => ?_
  exact (Square.mirror_add height s o).symm

theorem movementTargets_mirror (h : g.HasStood n) :
    (g.mirror height).movementTargets n = (g.movementTargets n).map (Square.mirror height) := by
  unfold movementTargets
  rw [movement_mirror, h.squareOf]
  exact map_add_flipVertical _ _

theorem attackTargets_mirror (h : g.HasStood n) :
    (g.mirror height).attackTargets n = (g.attackTargets n).map (Square.mirror height) := by
  unfold attackTargets
  rw [attack_mirror, h.squareOf]
  exact map_add_flipVertical _ _

theorem movePrecheck_mirror (hheight : g.board.height = height) (h : g.HasStood n)
    (target : Square) :
    (g.mirror height).movePrecheck n (target.mirror height) =
      (g.movePrecheck n target).map (Refusal.mirror height) := by
  unfold movePrecheck
  rw [movementTargets_mirror h, contains_map_mirror, h.squareOf, name_mirror, board_mirror]
  simp only [Board.holds_mirror_iff hheight, (Square.mirror_injective height).eq_iff]
  split
  · rfl
  · split
    · rfl
    · split <;> rfl

theorem moveVerdict_mirror (context : Context) (n : PieceNumber) (origin target : Square) :
    (g.mirror height).moveVerdict (context.mirror height) n (origin.mirror height)
        (target.mirror height) =
      (g.moveVerdict context n origin target).map (Refusal.mirror height) := by
  have hboard : (g.board.mirror height).isOccupied ∘ Square.mirror height = g.board.isOccupied :=
    funext Board.isOccupied_mirror
  have hblocker : (if context.flagIsSet Flag.ignorePathBlocking = true then none
      else (Square.between (origin.mirror height) (target.mirror height)).find?
        (g.board.mirror height).isOccupied) =
      (if context.flagIsSet Flag.ignorePathBlocking = true then none
        else (Square.between origin target).find? g.board.isOccupied).map
          (Square.mirror height) := by
    split
    · rfl
    · rw [Square.between_mirror, List.find?_map, hboard]
  unfold moveVerdict
  dsimp only
  rw [Context.cancelled_mirror, Context.flagIsSet_mirror, board_mirror, hblocker,
    Board.isOccupied_mirror, id_mirror]
  split
  · rfl
  · generalize (if context.flagIsSet Flag.ignorePathBlocking = true then none
      else (Square.between origin target).find? g.board.isOccupied) = blocker
    cases blocker with
    | some s => rfl
    | none =>
        dsimp only [Option.map_none]
        split <;> rfl

theorem actionPrecheck_mirror (hheight : g.board.height = height) (h : g.HasStood n)
    (target : Square) (action : Text) :
    (g.mirror height).actionPrecheck n (target.mirror height) action =
      (g.actionPrecheck n target action).map (Refusal.mirror height) := by
  unfold actionPrecheck
  rw [attackTargets_mirror h, contains_map_mirror, h.squareOf, name_mirror, id_mirror,
    board_mirror, Board.pieceAt_mirror]
  simp only [Board.holds_mirror_iff hheight, (Square.mirror_injective height).eq_iff]
  split
  · rfl
  · split
    · rfl
    · split <;> rfl

theorem targetingVerdict_mirror (h : g.HasStood n) {m : PieceNumber} (hm : g.HasStood m)
    (context : Context) (action : Text) :
    (g.mirror height).targetingVerdict (context.mirror height) n m action =
      (g.targetingVerdict context n m action).map (Refusal.mirror height) := by
  unfold targetingVerdict
  dsimp only
  rw [h.team, hm.team, id_mirror, id_mirror, Context.flagIsSet_mirror, Context.flagIsSet_mirror,
    Context.flagIsSet_mirror]
  simp only [Team.other_inj]
  split
  · split <;> rfl
  · split
    · split <;> rfl
    · split <;> rfl

theorem actionVerdict_mirror (h : g.HasStood n) {occupant : Option PieceNumber}
    (hoccupant : ∀ m, occupant = some m → g.HasStood m) (context : Context) (target : Square)
    (action : Text) :
    (g.mirror height).actionVerdict (context.mirror height) n (target.mirror height) occupant
        action =
      (g.actionVerdict context n target occupant action).map (Refusal.mirror height) := by
  unfold actionVerdict
  rw [Context.cancelled_mirror, Context.flagIsSet_mirror, id_mirror]
  split
  · rfl
  · split
    · rfl
    · cases occupant with
      | none => rfl
      | some m => exact targetingVerdict_mirror h (hoccupant m rfl) context action

end Checks

namespace Inquiry

variable {g : Game} {i : Inquiry}

def subject : Inquiry → PieceNumber
  | move n _ => n
  | act n _ _ => n

def mirror (height : Int) : Inquiry → Inquiry
  | move n target => move n (target.mirror height)
  | act n target action => act n (target.mirror height) action

theorem precheck_mirror (hheight : g.board.height = height) (h : g.HasStood i.subject) :
    (i.mirror height).precheck (g.mirror height) =
      (i.precheck g).map (Refusal.mirror height) := by
  cases i with
  | move n target => exact movePrecheck_mirror hheight h target
  | act n target action => exact actionPrecheck_mirror hheight h target action

theorem question_mirror (h : g.HasStood i.subject) :
    (i.mirror height).question (g.mirror height) = (i.question g).mirror height := by
  cases i with
  | move n target =>
      change g.HasStood n at h
      show moveQuestion (g.mirror height) n (target.mirror height) = _
      unfold moveQuestion
      rw [h.squareOf]
      rfl
  | act n target action =>
      change g.HasStood n at h
      show actionQuestion (g.mirror height) n (target.mirror height) action = _
      unfold actionQuestion
      rw [h.squareOf, board_mirror, Board.pieceAt_mirror]
      rfl

theorem verdict_mirror (hg : Orderly height g) (h : g.HasStood i.subject) (context : Context) :
    (i.mirror height).verdict (g.mirror height) (g.mirror height) (context.mirror height) =
      (i.verdict g g context).map (Refusal.mirror height) := by
  cases i with
  | move n target =>
      change g.HasStood n at h
      show (g.mirror height).moveVerdict _ n ((g.mirror height).squareOf n) _ = _
      rw [h.squareOf]
      exact moveVerdict_mirror context n _ target
  | act n target action =>
      show (g.mirror height).actionVerdict _ n _ ((g.board.mirror height).pieceAt _) action = _
      rw [Board.pieceAt_mirror]
      exact actionVerdict_mirror h (fun m hm => hg.hasStood (hg.grounded.inPlay target m hm)) context
        target action

/-- A check comes to a verdict and leaves a game with built-in rules as it is, and the verdict is the
same in the mirror. -/
theorem check_mirror (hg : Orderly height g) (h : g.HasStood i.subject) :
    ∃ verdict, i.check g = give verdict g ∧
      (i.mirror height).check (g.mirror height) =
        give (verdict.map (Refusal.mirror height)) (g.mirror height) ∧
      ∀ refusal, verdict = some refusal → ∀ s ∈ refusal.squares,
        s = i.target ∨ g.board.isOccupied s = true := by
  have hpre' := precheck_mirror hg.height h
  cases hpre : i.precheck g with
  | some refusal =>
      rw [hpre] at hpre'
      refine ⟨some refusal, check_of_precheck_some hpre, check_of_precheck_some hpre', ?_⟩
      intro refusal' hrefusal s hs
      exact Or.inl (mem_squares_of_precheck (hpre.trans hrefusal) hs)
  | none =>
      rw [hpre] at hpre'
      have hsource : ∀ n, (i.question g).source = some n → ∃ p, g.pieces.find? n = some p := by
        intro n hn
        cases i <;> cases hn <;> exact h.made
      have hrun := announce_of_orderly hg (i.question g)
      have hrun' : announce ((i.mirror height).question (g.mirror height)) (g.mirror height) = _ :=
        (congrArg (announce · _) (question_mirror h)).trans (mirrors_announce hg hsource)
      rw [hrun] at hrun'
      refine ⟨_, check_of_announce hpre hrun, ?_, fun refusal hrefusal s hs =>
        mem_squares_of_verdict hrefusal hs⟩
      rw [check_of_announce hpre' hrun', verdict_mirror hg h]

end Inquiry

end Game

/-!
## Words for refusals
-/

/-- A square and its image can both be written, or neither can. -/
def Square.WritesEvenly (height : Int) (s : Square) : Prop :=
  (s.mirror height).isWritable = s.isWritable

theorem Refusal.isTellable_mirror {r : Refusal}
    (h : ∀ s ∈ r.squares, s.WritesEvenly height) :
    (r.mirror height).isTellable = r.isTellable := by
  unfold isTellable
  rw [squares_mirror, List.all_map, Bool.eq_iff_iff, List.all_eq_true, List.all_eq_true]
  refine forall₂_congr fun s hs => ?_
  rw [Function.comp_apply, h s hs]

namespace Game

section Words

variable {g : Game}

/-- The squares of a board all of which can be written have images there. -/
theorem writesEvenly_of_holds (hg : Orderly height g) (hboard : g.board.IsWritable) {s : Square}
    (h : g.board.Holds s) : s.WritesEvenly height := by
  have hon : g.board.Holds (s.mirror height) := (Board.holds_mirror_iff hg.height s).2 h
  unfold Square.WritesEvenly
  rw [hboard s h, hboard _ hon]

theorem tellable_map_mirror (hg : Orderly height g) {verdict : Option Refusal} {target : Square}
    (hsquares : ∀ refusal, verdict = some refusal → ∀ s ∈ refusal.squares,
      s = target ∨ g.board.isOccupied s = true)
    (heven : g.board.IsWritable ∧ target.WritesEvenly height) :
    (verdict.map (Refusal.mirror height)).all Refusal.isTellable =
      verdict.all Refusal.isTellable := by
  cases verdict with
  | none => rfl
  | some refusal =>
      rw [Option.map_some, Option.all_some, Option.all_some]
      refine Refusal.isTellable_mirror fun s hs => ?_
      rcases hsquares refusal rfl s hs with rfl | htaken
      · exact heven.2
      · rcases Option.isSome_iff_exists.1 htaken with ⟨m, hm⟩
        refine writesEvenly_of_holds hg heven.1 ?_
        rw [← hg.grounded.square s m hm]
        exact hg.grounded.holds m (hg.grounded.inPlay s m hm)

theorem mirrorsIf_check (hg : Orderly height g) {i : Inquiry} (h : g.HasStood i.subject) :
    MirrorsIf (g.board.IsWritable ∧ i.target.WritesEvenly height) height
      (Option.map (Refusal.mirror height)) g i.check (i.mirror height).check := by
  rcases i.check_mirror hg h with ⟨verdict, hcheck, hcheck', hsquares⟩
  exact .of_told (hcheck.trans (give_eq verdict g)) (hcheck'.trans (give_eq _ _))
    (tellable_map_mirror hg hsquares)

/-- What is done in the mirror after a check.  A refusal is all that is left to report. -/
theorem mirrorsIf_check_bind {α β : Type} {f : α → β} (hg : Orderly height g) {i : Inquiry}
    (h : g.HasStood i.subject) {k : Option Refusal → GameM α} {k' : Option Refusal → GameM β}
    (hrefused : ∀ refusal, ∃ a, k (some refusal) g = .ok a g ∧
      k' (some (refusal.mirror height)) (g.mirror height) = .ok (f a) (g.mirror height))
    (hlegal : i.check g = .ok none g → Mirrors height f g (k none) (k' none)) :
    MirrorsIf (g.board.IsWritable ∧ i.target.WritesEvenly height) height f g (i.check >>= k)
      ((i.mirror height).check >>= k') := by
  rcases i.check_mirror hg h with ⟨verdict, hcheck, hcheck', hsquares⟩
  cases verdict with
  | none =>
      have hrun := hcheck.trans (give_of_tellable rfl g)
      have hrun' := hcheck'.trans (give_of_tellable rfl (g.mirror height))
      refine .bind (f := Option.map (Refusal.mirror height)) ?_ fun verdict g' hrun'' => ?_
      · unfold Mirrors
        rw [hrun, hrun']
        rfl
      · rw [hrun] at hrun''
        cases hrun''
        exact .of_mirrors (hlegal hrun)
  | some refusal =>
      rcases hrefused refusal with ⟨a, hk, hk'⟩
      have hbound := bind_of_give_some k hcheck
      have hbound' := bind_of_give_some k' hcheck'
      rw [hk] at hbound
      rw [hk'] at hbound'
      exact .of_told hbound hbound' (tellable_map_mirror hg hsquares)

/-!
## All targets
-/

theorem mirrorsIf_filterLegal (hg : Orderly height g) (question : Square → Inquiry)
    (htarget : ∀ s, (question s).target = s)
    (hmirror : ∀ s, (question s).mirror height = question (s.mirror height))
    (h : ∀ s, g.HasStood (question s).subject) (l : List Square) :
    MirrorsIf (g.board.IsWritable ∧ ∀ s ∈ l, s.WritesEvenly height) height
      (List.map (Square.mirror height)) g (filterLegal (fun s => (question s).check) l)
      (filterLegal (fun s => (question s).check) (l.map (Square.mirror height))) := by
  choose rule hcheck hcheck' hsquares using fun s => (question s).check_mirror hg (h s)
  have hmirrored : ∀ s ∈ l.map (Square.mirror height), (question s).check (g.mirror height) =
      give ((rule (s.mirror height)).map (Refusal.mirror height)) (g.mirror height) := by
    intro s _
    rw [← hcheck', hmirror, Square.mirror_mirror]
  have hfilter := filterLegal_eq hmirrored
  simp only [List.all_map, List.filter_map, Function.comp_def, Square.mirror_mirror,
    Option.isNone_map] at hfilter
  refine .of_told (filterLegal_eq fun s _ => hcheck s) hfilter fun heven => ?_
  rw [Bool.eq_iff_iff, List.all_eq_true, List.all_eq_true]
  refine forall₂_congr fun s hs => ?_
  have hsquares' := hsquares s
  rw [htarget] at hsquares'
  rw [tellable_map_mirror hg hsquares' ⟨heven.1, heven.2 s hs⟩]

theorem mirrorsIf_legalMoves (hg : Orderly height g) {n : PieceNumber} (h : g.HasStood n) :
    MirrorsIf (g.board.IsWritable ∧ ∀ s ∈ g.movementTargets n, s.WritesEvenly height) height
      (List.map (Square.mirror height)) g (legalMoves n) (legalMoves n) := by
  refine .get_bind ?_
  rw [movementTargets_mirror h]
  exact mirrorsIf_filterLegal hg (.move n) (fun _ => rfl) (fun _ => rfl) (fun _ => h) _

theorem mirrorsIf_legalTargets (hg : Orderly height g) {n : PieceNumber} (h : g.HasStood n)
    (action : Text) :
    MirrorsIf (g.board.IsWritable ∧ ∀ s ∈ g.attackTargets n, s.WritesEvenly height) height
      (List.map (Square.mirror height)) g (legalTargets n action) (legalTargets n action) := by
  refine .get_bind ?_
  rw [attackTargets_mirror h]
  exact mirrorsIf_filterLegal hg (fun s => .act n s action) (fun _ => rfl) (fun _ => rfl)
    (fun _ => h) _

end Words

end Game
end Boardcraft
