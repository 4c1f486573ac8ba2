import Boardcraft.Proofs.Game.Standing
import Boardcraft.Proofs.Mirror.Game

/-!
# Changes in the mirror

Whatever changes a game has a counterpart that changes its image.  Listeners, abilities and effects
know pieces by number, so that the image does not show in them; only the board, the pieces and the
roster take a translation.
-/

namespace Boardcraft
namespace Game

variable {height : Int}

/-!
## Effects that end
-/

theorem expire_mirror (g : Game) (n : EffectNumber) :
    (g.mirror height).expire n = (g.expire n).mirror height := by
  have heffect : (g.mirror height).effect? n = g.effect? n := rfl
  unfold expire
  rw [heffect]
  cases g.effect? n with
  | none => rfl
  | some e =>
      dsimp only
      split <;> rfl

theorem tick_mirror (g : Game) (n : EffectNumber) :
    (g.mirror height).tick n = (g.tick n).mirror height := by
  have heffect : (g.mirror height).effect? n = g.effect? n := rfl
  unfold tick
  rw [heffect]
  cases g.effect? n with
  | none => rfl
  | some e =>
      dsimp only
      split
      · split
        · exact expire_mirror (g.setEffect n { e with remaining := e.remaining - 1 }) n
        · rfl
      · rfl

theorem tickStatuses_mirror (g : Game) (n : PieceNumber) :
    ((g.mirror height).tickStatuses n).2 = (g.tickStatuses n).2.mirror height := by
  have hticked : (g.statusesOf n).foldl tick (g.mirror height) =
      ((g.statusesOf n).foldl tick g).mirror height :=
    List.foldl_hom (mirror height) tick_mirror
  have hstatuses : (g.mirror height).statusesOf n = g.statusesOf n := rfl
  unfold tickStatuses
  dsimp only
  rw [hstatuses, hticked]
  rfl

theorem tickAll_mirror (g : Game) : (g.mirror height).tickAll = g.tickAll.mirror height := by
  unfold tickAll
  rw [inPlay_mirror]
  exact List.foldl_hom (mirror height) tickStatuses_mirror

theorem nextTurn_mirror (g : Game) : (g.mirror height).nextTurn = g.nextTurn.mirror height := by
  unfold nextTurn mirror
  cases g.toMove <;> rfl

theorem clearStatuses_mirror (g : Game) (n : PieceNumber) :
    (g.mirror height).clearStatuses n = (g.clearStatuses n).mirror height := by
  have hexpired : (g.statusesOf n).foldl expire (g.mirror height) =
      ((g.statusesOf n).foldl expire g).mirror height :=
    List.foldl_hom (mirror height) expire_mirror
  have hstatuses : (g.mirror height).statusesOf n = g.statusesOf n := rfl
  unfold clearStatuses
  rw [hstatuses, hexpired]
  rfl

/-!
## Pieces that leave
-/

theorem withoutPiece_mirror (g : Game) (id : Text) (n : PieceNumber) :
    (g.mirror height).withoutPiece id.mirror n = (g.withoutPiece id n).mirror height := by
  have hroster : (g.mirror height).roster.erase id.mirror =
      (g.roster.erase id).mapKeys Text.mirror Text.mirror_injective :=
    (Table.mapKeys_erase Text.mirror_injective g.roster id).symm
  unfold withoutPiece
  rw [hroster, abilities_mirror, ← clearStatuses_mirror]
  rfl

theorem knows_of_inPlay {g : Game} (h : Grounded g) {n : PieceNumber} (hn : n ∈ g.inPlay) :
    g.board.Knows n :=
  Board.knows_of_holds (h.holds n hn)

theorem mirrors_require (g : Game) (id : Text) :
    Mirrors height (fun n => n) g (require id) (require id.mirror) := by
  unfold Mirrors
  cases hfind : g.find? id with
  | none =>
      rw [require_of_find?_none hfind, require_of_find?_none ((find?_mirror height g id).trans hfind)]
      rfl
  | some n =>
      rw [require_of_find?_some hfind, require_of_find?_some ((find?_mirror height g id).trans hfind)]
      rfl

theorem mirrors_removePiece {g : Game} (h : Grounded g) (hheight : g.board.height = height)
    (id : Text) : Mirrors height (fun n => n) g (removePiece id) (removePiece id.mirror) := by
  unfold Mirrors
  have hfind' := find?_mirror height g id
  cases hfind : g.find? id with
  | none =>
      rw [removePiece_of_find?_none hfind, removePiece_of_find?_none (hfind'.trans hfind)]
      rfl
  | some n =>
      have hn := mem_inPlay_iff.2 ⟨id, hfind⟩
      have hon := h.holds n hn
      have hsquare : (g.mirror height).squareOf n = (g.squareOf n).mirror height :=
        Board.squareOf_mirror (knows_of_inPlay h hn)
      have hon' : (g.mirror height).board.Holds ((g.mirror height).squareOf n) := by
        rw [hsquare]
        exact (Board.holds_mirror_iff hheight _).2 hon
      rw [removePiece_of_holds hfind hon, removePiece_of_holds (hfind'.trans hfind) hon',
        withoutPiece_mirror, hsquare]
      have hclear : (g.mirror height).board.clear ((g.squareOf n).mirror height) =
          (g.board.clear (g.squareOf n)).mirror height :=
        (Board.mirror_clear g.board height (g.squareOf n)).symm
      rw [hclear]
      rfl

/-!
## Pieces that enter
-/

theorem mirrors_makeAbility (g : Game) (host : PieceNumber) (spec : AbilitySpec) :
    Mirrors height (fun a => a) g (makeAbility host spec) (makeAbility host spec) := by
  have hmake : (g.mirror height).registry.make spec.name spec.params
      (g.mirror height).abilityCount (some host) =
        g.registry.make spec.name spec.params g.abilityCount (some host) := rfl
  unfold makeAbility
  refine Mirrors.get_bind ?_
  rw [hmake]
  cases g.registry.make spec.name spec.params g.abilityCount (some host) with
  | ok a => rfl
  | error fault => rfl

theorem mirrors_makeAbilities (g : Game) (host : PieceNumber) (specs : List AbilitySpec) :
    Mirrors height (fun as => as) g (makeAbilities host specs) (makeAbilities host specs) := by
  induction specs generalizing g with
  | nil => rfl
  | cons spec rest ih =>
      rw [makeAbilities]
      refine Mirrors.bind (mirrors_makeAbility g host spec) fun a g₁ _ => ?_
      refine Mirrors.bind (ih g₁) fun as g₂ _ => ?_
      rfl

theorem mirrors_compileShape (g : Game) (source : ShapeSource) :
    Mirrors height (fun offsets => offsets) g (compileShape source) (compileShape source) := by
  unfold compileShape
  cases source.read <;> rfl

theorem orient_other (team : Team) (offsets : List Square) :
    orient team.other offsets = Offsets.flipVertical (orient team offsets) := by
  cases team with
  | white => rfl
  | black => exact (Offsets.flipVertical_flipVertical offsets).symm

theorem mirrors_makePiece (g : Game) (blueprint : Blueprint) (team : Value) :
    Mirrors height (fun n => n) g (makePiece blueprint team) (makePiece blueprint team.mirror) := by
  unfold makePiece
  rw [Team.ofValue?_mirror]
  cases hteam : Team.ofValue? team with
  | none => rfl
  | some side =>
      rw [Option.map_some]
      dsimp only
      refine Mirrors.bind (mirrors_compileShape g _) fun movement g₁ _ => ?_
      refine Mirrors.bind (mirrors_compileShape g₁ _) fun attack g₂ _ => ?_
      refine Mirrors.get_bind ?_
      refine Mirrors.bind (mirrors_makeAbilities g₂ _ _) fun abilities g₃ _ => ?_
      refine Mirrors.modify_bind ?_ rfl
      unfold mirror
      dsimp only
      rw [Table.mapValues_insert, orient_other, orient_other]
      unfold Piece.mirror
      dsimp only
      rw [Text.mirror_id, Team.mirror_word]

theorem mirrors_place {g : Game} (hheight : g.board.height = height) (n : PieceNumber)
    (square : Square) :
    Mirrors height (fun u => u) g (place n square) (place n (square.mirror height)) :=
  Mirrors.changeBoard (Board.place_mirror hheight n square)

theorem mirrors_shift {g : Game} (hheight : g.board.height = height) (origin target : Square) :
    Mirrors height (fun u => u) g (shift origin target)
      (shift (origin.mirror height) (target.mirror height)) :=
  Mirrors.changeBoard (Board.move_mirror hheight origin target)

theorem mirrors_addPiece {g : Game} (hheight : g.board.height = height) (blueprint : Blueprint)
    (team : Value) (square : Square) :
    Mirrors height (fun n => n) g (addPiece blueprint team square)
      (addPiece blueprint team.mirror (square.mirror height)) := by
  unfold addPiece
  refine Mirrors.bind (mirrors_makePiece g blueprint team) fun n g₁ hmake => ?_
  have hboard : g₁.board = g.board := by
    rcases makePiece_cases blueprint team g with ⟨p, _, hrun⟩ | ⟨e, k, hrun⟩
    · rw [hmake] at hrun
      cases hrun
      rfl
    · rw [hmake] at hrun
      cases hrun
  have hheight₁ : g₁.board.height = height := hboard ▸ hheight
  refine Mirrors.bind (mirrors_place hheight₁ n square) fun _ g₂ _ => ?_
  refine Mirrors.modify_bind ?_ rfl
  have hroster : (g₂.mirror height).roster.insert ((g₂.mirror height).piece n).id n =
      (g₂.roster.insert (g₂.piece n).id n).mapKeys Text.mirror Text.mirror_injective := by
    rw [id_mirror, Table.mapKeys_insert]
    rfl
  show { (g₂.mirror height).subscribeAll ((g₂.mirror height).piece n).abilities with
    roster := (g₂.mirror height).roster.insert ((g₂.mirror height).piece n).id n } = _
  rw [hroster, abilities_mirror]
  rfl

/-!
## Effects that begin
-/

theorem mirrors_activate (g : Game) (n : EffectNumber) :
    Mirrors height (fun u => u) g (activate n) (activate n) := by
  unfold activate
  refine Mirrors.get_bind ?_
  have heffect : (g.mirror height).effect? n = g.effect? n := rfl
  rw [heffect]
  cases g.effect? n with
  | none => rfl
  | some e =>
      dsimp only
      split
      · refine Mirrors.bind (mirrors_makeAbilities g _ _) fun children g₁ _ => ?_
        rfl
      · rfl

theorem mirrors_applyEffect (g : Game) (n : EffectNumber) :
    Mirrors height (fun n => n) g (applyEffect n) (applyEffect n) := by
  unfold applyEffect
  refine Mirrors.get_bind ?_
  have heffect : ∀ m, (g.mirror height).effect? m = g.effect? m := fun _ => rfl
  have hforce : ∀ host name, (g.mirror height).inForce? host name = g.inForce? host name :=
    fun _ _ => rfl
  rw [heffect]
  cases g.effect? n with
  | none => rfl
  | some e =>
      dsimp only
      rw [hforce]
      cases g.inForce? e.host e.name with
      | none =>
          refine Mirrors.bind (mirrors_activate g n) fun _ g₁ _ => ?_
          exact Mirrors.modify_bind rfl rfl
      | some m =>
          dsimp only
          rw [heffect]
          cases g.effect? m <;> rfl

theorem mirrors_applyStatus (g : Game) (id : Text) (definition : StatusDefinition) :
    Mirrors height (fun n => n) g (applyStatus id definition)
      (applyStatus id.mirror definition) := by
  unfold applyStatus
  refine Mirrors.bind (mirrors_require g id) fun host g₁ _ => ?_
  exact Mirrors.bind (f := fun n => n) rfl fun n g₂ _ => mirrors_applyEffect g₂ n

end Game
end Boardcraft
