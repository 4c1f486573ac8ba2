import Boardcraft.Game.Announce

/-!
# What counting down leaves alone

Effects that count down or end change listeners, effects and the lists of effects on pieces, and
nothing else.  Each theorem writes the game that is left behind as the one before with those parts
replaced.
-/

namespace Boardcraft
namespace Game

theorem expire_eq (g : Game) (n : EffectNumber) :
    ∃ dispatcher effects, g.expire n = { g with dispatcher, effects } := by
  unfold expire
  split
  · split
    · exact ⟨_, _, rfl⟩
    · exact ⟨g.dispatcher, g.effects, rfl⟩
  · exact ⟨g.dispatcher, g.effects, rfl⟩

theorem foldl_expire_eq (l : List EffectNumber) (g : Game) :
    ∃ dispatcher effects, l.foldl expire g = { g with dispatcher, effects } := by
  induction l generalizing g with
  | nil => exact ⟨g.dispatcher, g.effects, rfl⟩
  | cons n rest ih =>
      rcases expire_eq g n with ⟨dispatcher, effects, hfirst⟩
      rw [List.foldl_cons, hfirst]
      rcases ih { g with dispatcher, effects } with ⟨dispatcher', effects', hrest⟩
      exact ⟨dispatcher', effects', hrest⟩

theorem clearStatuses_eq (g : Game) (n : PieceNumber) :
    ∃ dispatcher effects, g.clearStatuses n =
      { g with dispatcher, effects, statuses := g.statuses.insert n [] } := by
  unfold clearStatuses
  rcases foldl_expire_eq (g.statusesOf n) g with ⟨dispatcher, effects, h⟩
  rw [h]
  exact ⟨dispatcher, effects, rfl⟩

theorem tick_eq (g : Game) (n : EffectNumber) :
    ∃ dispatcher effects, g.tick n = { g with dispatcher, effects } := by
  unfold tick
  split
  · next e _ =>
      split
      · dsimp only
        split
        · rcases expire_eq (g.setEffect n { e with remaining := e.remaining - 1 }) n with
            ⟨dispatcher, effects, h⟩
          rw [h]
          exact ⟨dispatcher, effects, rfl⟩
        · exact ⟨g.dispatcher, _, rfl⟩
      · exact ⟨g.dispatcher, g.effects, rfl⟩
  · exact ⟨g.dispatcher, g.effects, rfl⟩

theorem foldl_tick_eq (l : List EffectNumber) (g : Game) :
    ∃ dispatcher effects, l.foldl tick g = { g with dispatcher, effects } := by
  induction l generalizing g with
  | nil => exact ⟨g.dispatcher, g.effects, rfl⟩
  | cons n rest ih =>
      rcases tick_eq g n with ⟨dispatcher, effects, hfirst⟩
      rw [List.foldl_cons, hfirst]
      rcases ih { g with dispatcher, effects } with ⟨dispatcher', effects', hrest⟩
      exact ⟨dispatcher', effects', hrest⟩

theorem tickStatuses_eq (g : Game) (n : PieceNumber) :
    ∃ dispatcher effects statuses,
      (g.tickStatuses n).2 = { g with dispatcher, effects, statuses } := by
  unfold tickStatuses
  rcases foldl_tick_eq (g.statusesOf n) g with ⟨dispatcher, effects, h⟩
  rw [h]
  exact ⟨dispatcher, effects, _, rfl⟩

theorem tickAll_eq (g : Game) :
    ∃ dispatcher effects statuses, g.tickAll = { g with dispatcher, effects, statuses } := by
  unfold tickAll
  generalize g.inPlay = l
  induction l generalizing g with
  | nil => exact ⟨g.dispatcher, g.effects, g.statuses, rfl⟩
  | cons n rest ih =>
      rcases tickStatuses_eq g n with ⟨dispatcher, effects, statuses, hfirst⟩
      rw [List.foldl_cons, hfirst]
      rcases ih { g with dispatcher, effects, statuses } with
        ⟨dispatcher', effects', statuses', hrest⟩
      exact ⟨dispatcher', effects', statuses', hrest⟩

end Game
end Boardcraft
