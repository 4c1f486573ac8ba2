import Boardcraft.Proofs.Game.LegalMoves

/-!
# The rule of legal targets

With built-in rules only, upon which squares a piece may act can be told from the board, the teams
and the piece alone.  `CanActUpon` is that rule, and `actionRefusal` adds why an action is refused.
A piece acts on others only: on the other team as a rule, and on its own team instead if it targets
allies.

## Main statements

* `checkAction_of_builtIn` says that a check gives the refusal of the rule;
* `targetsTellable_iff` says when every refusal can be put into words;
* `legalTargets_eq_filter` says that the legal targets are the offsets of the piece that meet the
  rule, in the order of the offsets and each once, whatever the action is called, and when there is
  no list.
-/

namespace Boardcraft
namespace Game

/-!
## The rule
-/

/-- A piece may act by an offset that leads to a square of the board on which another piece stands,
one of its own team exactly if it targets allies. -/
structure CanActUpon (g : Game) (n : PieceNumber) (o : Square) : Prop where
  onBoard : g.board.Holds (g.squareOf n + o)
  suits : ∃ m, g.board.pieceAt (g.squareOf n + o) = some m ∧ m ≠ n ∧
    ((g.piece m).team = (g.piece n).team ↔ g.hasAbility n "TargetAlliesOnly" = true)

theorem canActUpon_iff {g : Game} {n : PieceNumber} {o : Square} :
    g.CanActUpon n o ↔
      g.board.Holds (g.squareOf n + o) ∧
        ∃ m, g.board.pieceAt (g.squareOf n + o) = some m ∧ m ≠ n ∧
          ((g.piece m).team = (g.piece n).team ↔ g.hasAbility n "TargetAlliesOnly" = true) :=
  ⟨fun h => ⟨h.onBoard, h.suits⟩, fun h => ⟨h.1, h.2⟩⟩

instance (g : Game) (n : PieceNumber) (o : Square) : Decidable (g.CanActUpon n o) :=
  decidable_of_iff
    (g.board.Holds (g.squareOf n + o) ∧
      (g.board.pieceAt (g.squareOf n + o)).any (fun m => m ≠ n ∧
        ((g.piece m).team = (g.piece n).team ↔ g.hasAbility n "TargetAlliesOnly" = true)) = true) <| by
    rw [canActUpon_iff, Option.any_eq_true]
    simp only [decide_eq_true_eq]

/-!
## The check
-/

theorem actionPrecheck_eq_none_iff {g : Game} {n : PieceNumber} {target : Square} {action : Text} :
    g.actionPrecheck n target action = none ↔
      g.board.Holds target ∧ ¬ (target = g.squareOf n ∧ g.board.pieceAt target = none) ∧
        target ∈ g.attackTargets n := by
  unfold actionPrecheck
  by_cases hon : g.board.Holds target
  · rw [if_neg (not_not.2 hon)]
    by_cases hempty : target = g.squareOf n ∧ g.board.pieceAt target = none
    · rw [if_pos hempty]
      exact iff_of_false (fun h => by cases h) fun h => h.2.1 hempty
    · rw [if_neg hempty, ← List.contains_iff_mem]
      cases hshape : (g.attackTargets n).contains target with
      | true => exact iff_of_true rfl ⟨hon, hempty, rfl⟩
      | false => exact iff_of_false (fun h => by cases h) fun h => by cases h.2.2
  · rw [if_pos hon]
    exact iff_of_false (fun h => by cases h) fun h => hon h.1

def targetRefusal (g : Game) (alliesOnly : Bool) (n m : PieceNumber) (action : Text) :
    Option Refusal :=
  let id := (g.piece n).id
  let other := (g.piece m).id
  if m = n then some (.selfTarget id action)
  else if (g.piece m).team = (g.piece n).team then
    if alliesOnly then none else some (.allyTarget id action other)
  else if alliesOnly then some (.enemyTarget id action other) else none

def actionRefusal (g : Game) (n : PieceNumber) (target : Square) (action : Text) :
    Option Refusal :=
  (g.actionPrecheck n target action).or <|
    match g.board.pieceAt target with
    | none => some (.emptyTarget target)
    | some m => g.targetRefusal (g.hasAbility n "TargetAlliesOnly") n m action

theorem targetRefusal_eq_none_iff {g : Game} {alliesOnly : Bool} {n m : PieceNumber}
    {action : Text} :
    g.targetRefusal alliesOnly n m action = none ↔
      m ≠ n ∧ ((g.piece m).team = (g.piece n).team ↔ alliesOnly = true) := by
  unfold targetRefusal
  dsimp only
  by_cases hself : m = n
  · rw [if_pos hself]
    exact iff_of_false (fun h => by cases h) fun h => h.1 hself
  · rw [if_neg hself]
    by_cases hteam : (g.piece m).team = (g.piece n).team <;>
      cases alliesOnly <;> simp [hself, hteam]

theorem actionRefusal_eq_none_iff {g : Game} {n : PieceNumber} {target : Square} {action : Text} :
    g.actionRefusal n target action = none ↔
      g.actionPrecheck n target action = none ∧
        ∃ m, g.board.pieceAt target = some m ∧ m ≠ n ∧
          ((g.piece m).team = (g.piece n).team ↔ g.hasAbility n "TargetAlliesOnly" = true) := by
  unfold actionRefusal
  rw [Option.or_eq_none_iff]
  refine and_congr Iff.rfl ?_
  cases g.board.pieceAt target with
  | none => exact iff_of_false (fun h => by cases h) fun h => by rcases h with ⟨m, hm, -⟩; cases hm
  | some m =>
      dsimp only
      rw [targetRefusal_eq_none_iff]
      constructor
      · exact fun h => ⟨m, rfl, h⟩
      · rintro ⟨m', heq, h⟩
        cases heq
        exact h

/-- What the abilities leave of the flags when they are asked about an action: nobody cancels, no
rule is lifted, and a piece that targets allies trades its enemies for them. -/
structure TargetsBy (context : Context) (alliesOnly : Bool) : Prop where
  open_ : context.cancelled = false
  rules : context.flagIsSet Flag.ignoreTargetingRules = false
  self : context.flagIsSet Flag.allowTargetSelf = false
  ally : context.flagIsSet Flag.allowTargetAlly = alliesOnly
  enemy : context.flagIsSet Flag.allowTargetEnemy = !alliesOnly

theorem announce_actionQuestion {g : Game} (h : Accounted g) (hbuiltIn : g.registry.BuiltIn)
    {n : PieceNumber} (hn : n ∈ g.inPlay) (target : Square) (action : Text) :
    ∃ context, announce (actionQuestion g n target action) g = .ok context g ∧
      TargetsBy context (g.hasAbility n "TargetAlliesOnly") := by
  have hrules := listener_mem_builtin h.heard hbuiltIn .actionValidate
  have hopen := cancelled_of_source h.heard hbuiltIn hn
    (c := actionQuestion g n target action) rfl
  have hallies : Rule.alliesOnly ∈ Rule.builtin :=
    Rule.mem_builtin_iff.2 (Or.inr (Or.inr (Or.inl rfl)))
  have hevent : Event.actionValidate ∈ Rule.alliesOnly.triggers := List.mem_singleton_self _
  refine ⟨_, announce_of_builtIn h hbuiltIn _, hopen, ?_, ?_, ?_, ?_⟩
  · exact (flagIsSet_heedAll_of_unset (by decide) hrules).trans rfl
  · exact (flagIsSet_heedAll_of_unset (by decide) hrules).trans rfl
  · refine (flagIsSet_of_source h.heard hbuiltIn hn rfl hallies hevent
      Flag.allowTargetAlly true (by decide) hopen).trans ?_
    change (if g.hasAbility n "TargetAlliesOnly" = true then true else false) = _
    cases g.hasAbility n "TargetAlliesOnly" <;> rfl
  · refine (flagIsSet_of_source h.heard hbuiltIn hn rfl hallies hevent
      Flag.allowTargetEnemy false (by decide) hopen).trans ?_
    change (if g.hasAbility n "TargetAlliesOnly" = true then false else true) = _
    cases g.hasAbility n "TargetAlliesOnly" <;> rfl

theorem targetingVerdict_of_targetsBy {context : Context} {alliesOnly : Bool}
    (h : TargetsBy context alliesOnly) (g : Game) (n m : PieceNumber) (action : Text) :
    g.targetingVerdict context n m action = g.targetRefusal alliesOnly n m action := by
  unfold targetingVerdict targetRefusal
  rw [h.self, h.ally, h.enemy]
  cases alliesOnly <;> rfl

theorem checkAction_of_builtIn {g : Game} (h : Accounted g) (hbuiltIn : g.registry.BuiltIn)
    {n : PieceNumber} (hn : n ∈ g.inPlay) (target : Square) (action : Text) :
    checkAction n target action g = give (g.actionRefusal n target action) g := by
  unfold actionRefusal
  cases hpre : g.actionPrecheck n target action with
  | some refusal => exact checkAction_of_actionPrecheck_some hpre
  | none =>
      rcases announce_actionQuestion h hbuiltIn hn target action with ⟨context, hrun, hflags⟩
      rw [checkAction_of_actionPrecheck_none hpre, bind_of_eq_ok _ hrun, get_bind, Option.none_or]
      unfold actionVerdict
      rw [hflags.open_, if_neg Bool.false_ne_true, hflags.rules, if_neg Bool.false_ne_true]
      cases g.board.pieceAt target with
      | none => rfl
      | some m =>
          dsimp only
          rw [targetingVerdict_of_targetsBy hflags]

/-!
## Words for refusals
-/

/-- Whether every refusal of an action of a piece can be put into words. -/
def targetsTellable (g : Game) (n : PieceNumber) : Bool :=
  (g.attackTargets n).all fun target =>
    (g.actionRefusal n target usualAction).all Refusal.isTellable

/-- What the action is called has no part in whether a refusal can be put into words. -/
theorem tellable_actionRefusal (g : Game) (n : PieceNumber) (target : Square)
    (action action' : Text) :
    (g.actionRefusal n target action).all Refusal.isTellable =
      (g.actionRefusal n target action').all Refusal.isTellable := by
  unfold actionRefusal actionPrecheck
  split
  · rfl
  · split
    · rfl
    · split
      · rfl
      · rw [Option.none_or, Option.none_or]
        cases g.board.pieceAt target with
        | none => rfl
        | some m =>
            dsimp only [targetRefusal]
            split
            · rfl
            · split <;> split <;> rfl

theorem mem_squares_of_actionPrecheck {g : Game} {n : PieceNumber} {target : Square}
    {action : Text} {refusal : Refusal} (h : g.actionPrecheck n target action = some refusal)
    {s : Square} (hs : s ∈ refusal.squares) : s = target := by
  unfold actionPrecheck at h
  split at h
  · cases h
    exact List.mem_singleton.1 hs
  · split at h
    · cases h
      cases hs
    · split at h
      · cases h
        exact List.mem_singleton.1 hs
      · cases h

theorem mem_squares_of_actionRefusal {g : Game} {n : PieceNumber} {target : Square} {action : Text}
    {refusal : Refusal} (h : g.actionRefusal n target action = some refusal) {s : Square}
    (hs : s ∈ refusal.squares) : s = target := by
  unfold actionRefusal at h
  cases hpre : g.actionPrecheck n target action with
  | some pre =>
      rw [hpre] at h
      cases h
      exact mem_squares_of_actionPrecheck hpre hs
  | none =>
      rw [hpre, Option.none_or] at h
      split at h
      · cases h
        exact List.mem_singleton.1 hs
      · unfold targetRefusal at h
        dsimp only at h
        split at h
        · cases h
          cases hs
        · split at h <;> split at h <;> cases h <;> cases hs

/-- A verdict upon an action names no square but its target either, whatever abilities have a say. -/
theorem mem_squares_of_actionVerdict {g : Game} {context : Context} {n : PieceNumber}
    {target : Square} {occupant : Option PieceNumber} {action : Text} {refusal : Refusal}
    (h : g.actionVerdict context n target occupant action = some refusal) {s : Square}
    (hs : s ∈ refusal.squares) : s = target := by
  unfold actionVerdict at h
  split at h
  · cases h
    cases hs
  · split at h
    · cases h
    · split at h
      · cases h
        exact List.mem_singleton.1 hs
      · unfold targetingVerdict at h
        dsimp only at h
        split at h
        · split at h <;> cases h
          cases hs
        · split at h <;> split at h <;> cases h <;> cases hs

theorem tellable_actionRefusal_iff {g : Game} (hboard : g.board.IsWritable) (n : PieceNumber)
    (target : Square) (action : Text) :
    (g.actionRefusal n target action).all Refusal.isTellable = true ↔
      (¬ g.board.Holds target → target.isWritable = true) := by
  by_cases hon : g.board.Holds target
  · refine iff_of_true ?_ fun hoff => absurd hon hoff
    cases hrefusal : g.actionRefusal n target action with
    | none => rfl
    | some refusal =>
        refine isTellable_of_squares fun s hs => ?_
        rw [mem_squares_of_actionRefusal hrefusal hs]
        exact hboard target hon
  · have hrefusal : g.actionRefusal n target action = some (.offBoard target) := by
      unfold actionRefusal actionPrecheck
      rw [if_pos hon]
      rfl
    rw [hrefusal, Option.all_some, isTellable_offBoard, imp_iff_right hon]

theorem targetsTellable_iff {g : Game} (hboard : g.board.IsWritable) (n : PieceNumber) :
    g.targetsTellable n = true ↔
      ∀ s ∈ g.attackTargets n, ¬ g.board.Holds s → s.isWritable = true := by
  unfold targetsTellable
  rw [List.all_eq_true]
  exact forall₂_congr fun s _ => tellable_actionRefusal_iff hboard n s usualAction

/-!
## All targets
-/

theorem actionRefusal_offset {g : Game} {n : PieceNumber} {action : Text} {o : Square}
    (ho : o ∈ (g.piece n).attack) :
    g.actionRefusal n (g.squareOf n + o) action = none ↔ g.CanActUpon n o := by
  rw [actionRefusal_eq_none_iff, actionPrecheck_eq_none_iff, canActUpon_iff]
  have htarget : g.squareOf n + o ∈ g.attackTargets n := List.mem_map_of_mem ho
  constructor
  · intro hrule
    rcases hrule with ⟨⟨hon, _, _⟩, hsuits⟩
    exact ⟨hon, hsuits⟩
  · intro hrule
    rcases hrule with ⟨hon, m, hm, hsuits⟩
    refine ⟨⟨hon, ?_, htarget⟩, m, hm, hsuits⟩
    -- Acting upon one's own square is refused only if the board holds nothing there.
    intro hempty
    rw [hempty.2] at hm
    cases hm

def targetable (g : Game) (n : PieceNumber) : List Square :=
  ((g.piece n).attack.filter fun o => g.CanActUpon n o).map (g.squareOf n + ·)

theorem filter_attackTargets (g : Game) (n : PieceNumber) (action : Text) :
    ((g.attackTargets n).filter fun s => (g.actionRefusal n s action).isNone) =
      g.targetable n := by
  unfold attackTargets targetable
  rw [List.filter_map]
  refine congrArg (List.map _) (List.filter_congr fun o ho => ?_)
  rw [Function.comp_apply, Bool.eq_iff_iff, Option.isNone_iff_eq_none, actionRefusal_offset ho,
    decide_eq_true_iff]

theorem mem_targetable_iff {g : Game} {n : PieceNumber} {target : Square} (action : Text) :
    target ∈ g.targetable n ↔ g.actionRefusal n target action = none := by
  rw [← filter_attackTargets g n action, List.mem_filter, Option.isNone_iff_eq_none,
    and_iff_right_iff_imp, actionRefusal_eq_none_iff, actionPrecheck_eq_none_iff]
  exact fun h => h.1.2.2

theorem legalTargets_of_builtIn {g : Game} (h : Accounted g) (hbuiltIn : g.registry.BuiltIn)
    {n : PieceNumber} (hn : n ∈ g.inPlay) (action : Text) :
    legalTargets n action g =
      if g.targetsTellable n then .ok (g.targetable n) g else .error .oversizedNumber g := by
  have htold : ((g.attackTargets n).all fun target =>
      (g.actionRefusal n target action).all Refusal.isTellable) = g.targetsTellable n := by
    simp only [targetsTellable, tellable_actionRefusal g n _ action usualAction]
  unfold legalTargets
  rw [get_bind, filterLegal_eq fun s _ => checkAction_of_builtIn h hbuiltIn hn s action,
    filter_attackTargets, htold]

/-- With built-in rules, the legal targets of a piece in play are the squares to which its offsets
lead it by the rule, in the order of the offsets and each once.  The name of the action does not
matter, and asking for the targets leaves the game as it was.  There is no list if a refusal on the
way cannot be put into words; if every square of the board can be written, that is so if an offset
leads off the board to a square that cannot. -/
theorem legalTargets_eq_filter {g : Game} (h : PlainlyReached g) {n : PieceNumber}
    (hn : n ∈ g.inPlay) (action : Text) :
    (legalTargets n action g =
      if g.targetsTellable n then
        .ok (((g.piece n).attack.filter fun o => g.CanActUpon n o).map (g.squareOf n + ·)) g
      else .error .oversizedNumber g) ∧
    (((g.piece n).attack.filter fun o => g.CanActUpon n o).map (g.squareOf n + ·)).Nodup ∧
    (g.board.IsWritable →
      (g.targetsTellable n = true ↔
        ∀ o ∈ (g.piece n).attack, ¬ g.board.Holds (g.squareOf n + o) →
          (g.squareOf n + o).isWritable = true)) := by
  refine ⟨legalTargets_of_builtIn h.accounted h.builtIn hn action, ?_, ?_⟩
  · exact ((h.nodup_attack hn).filter _).map (Square.add_right_injective (g.squareOf n))
  · intro hboard
    rw [targetsTellable_iff hboard]
    exact List.forall_mem_map

/-- A walker between an ally and an enemy, which a blessing turns towards its allies. -/
def blessed : List Operation :=
  [.add (walker []) (.str "white") ⟨0, 0⟩, .add (walker []) (.str "white") ⟨1, 1⟩,
    .add (walker [{ name := "TargetAlliesOnly" }]) (.str "black") ⟨0, 1⟩,
    .applyStatus "white-walker-1"
      { name := "Blessing", duration := 2, abilities := [{ name := "TargetAlliesOnly" }],
        duration_pos := by decide }]

theorem legalTargets_of_blessed :
    PlainlyReached ((usual .standard).run blessed) ∧
    1 ∈ ((usual .standard).run blessed).inPlay ∧
    legalTargets 1 "heal" ((usual .standard).run blessed) =
      .ok [⟨1, 1⟩] ((usual .standard).run blessed) := by
  have hreached : PlainlyReached ((usual .standard).run blessed) :=
    ⟨usual .standard, blessed, fresh_usual .standard, Registry.builtIn_standard, rfl⟩
  have hmem : 1 ∈ ((usual .standard).run blessed).inPlay := by decide +kernel
  have hsquares : ((((usual .standard).run blessed).piece 1).attack.filter fun o =>
      ((usual .standard).run blessed).CanActUpon 1 o).map
        (((usual .standard).run blessed).squareOf 1 + ·) = [⟨1, 1⟩] := by decide +kernel
  have htold : ((usual .standard).run blessed).targetsTellable 1 = true := by decide +kernel
  have htargets := (legalTargets_eq_filter hreached hmem "heal").1
  rw [hsquares, if_pos htold] at htargets
  exact ⟨hreached, hmem, htargets⟩

theorem legalTargets_of_overreaching :
    ¬ ∀ (g : Game) (n : PieceNumber) (action : Text), PlainlyReached g → n ∈ g.inPlay →
      ∃ squares, legalTargets n action g = .ok squares g := by
  intro hlisted
  rcases hlisted _ 1 usualAction plainlyReached_overreaching mem_inPlay_overreaching with
    ⟨squares, htargets⟩
  have huntold : ¬ ((usual .standard).run overreaching).targetsTellable 1 = true := by decide +kernel
  rw [legalTargets_of_builtIn plainlyReached_overreaching.accounted
    plainlyReached_overreaching.builtIn mem_inPlay_overreaching, if_neg huntold] at htargets
  cases htargets

end Game
end Boardcraft
