import Boardcraft.Proofs.Game.Changes
import Boardcraft.Proofs.Game.Step
import Std.Data.String.ToNat

/-!
# Ids of pieces

The id of a piece ends in its number behind a hyphen.  Whatever its name may be, the number can be
read off: digits are no hyphens, so the number is all that stands behind the last one.  Hence two
pieces never share an id, and the roster never forgets a piece because another one came.

## Main statements

* `Text.eq_of_append_numeral` says that the number is determined by the id;
* `Numbered` ties the roster to the pieces, and `numbered_step` and `numbered_add` say that it is
  kept.
-/

namespace Boardcraft
namespace Text

/-!
## What stands behind the last hyphen
-/

def afterHyphen (t : Text) : List CodePoint :=
  (t.points.reverse.takeWhile fun c => c ≠ CodePoint.char '-').reverse

theorem afterHyphen_append (stem : Text) {last : Text}
    (h : CodePoint.char '-' ∉ last.points) : (stem ++ "-" ++ last).afterHyphen = last.points := by
  have hlast : ∀ c ∈ last.points.reverse, (decide (c ≠ CodePoint.char '-')) = true := by
    intro c hc
    rw [decide_eq_true_eq]
    intro heq
    subst heq
    exact h (List.mem_reverse.1 hc)
  have hpoints : (stem ++ "-" ++ last).points.reverse =
      last.points.reverse ++ CodePoint.char '-' :: stem.points.reverse := by
    rw [points_append, points_append, List.reverse_append, List.reverse_append]
    rfl
  unfold afterHyphen
  rw [hpoints, List.takeWhile_append_of_pos hlast, List.takeWhile_cons_of_neg (by simp),
    List.append_nil, List.reverse_reverse]

theorem hyphen_not_mem_numeral (n : Nat) :
    CodePoint.char '-' ∉ (ofString (toString n)).points := by
  intro h
  rcases List.mem_map.1 h with ⟨c, hc, heq⟩
  injection heq with heq
  subst heq
  have hdigit : '-' ∈ Nat.toDigits 10 n := by
    simpa [Nat.repr] using hc
  have himpossible := Nat.isDigit_of_mem_toDigits (by decide) (by decide) hdigit
  exact absurd himpossible (by decide)

theorem eq_of_append_numeral {stem stem' : Text} {n m : Nat}
    (h : stem ++ "-" ++ toString n = stem' ++ "-" ++ toString m) : n = m := by
  have hpoints := congrArg afterHyphen h
  rw [afterHyphen_append stem (hyphen_not_mem_numeral n),
    afterHyphen_append stem' (hyphen_not_mem_numeral m)] at hpoints
  have htext : ofString (toString n) = ofString (toString m) := Text.ext hpoints
  exact Nat.repr_injective (ofString_inj.1 htext)

end Text

namespace Game

/-!
## Numbers of pieces
-/

/-- Every piece has a number that has been given and an id that ends in it, and the roster holds
pieces by their ids. -/
structure Numbered (g : Game) : Prop where
  given : ∀ n p, g.pieces.find? n = some p → n ≤ g.pieceCount
  ends : ∀ n p, g.pieces.find? n = some p → ∃ stem : Text, p.id = stem ++ "-" ++ toString n
  roster : ∀ id n, g.find? id = some n → ∃ p, g.pieces.find? n = some p ∧ p.id = id

theorem piece_of_find? {g : Game} {n : PieceNumber} {p : Piece}
    (h : g.pieces.find? n = some p) : g.piece n = p := by
  unfold piece
  rw [h]
  rfl

theorem find?_of_roster_eq {g g' : Game} (h : g'.roster = g.roster) (id : Text) :
    g'.find? id = g.find? id := by
  unfold find?
  rw [h]

theorem mem_inPlay_iff {g : Game} {n : PieceNumber} :
    n ∈ g.inPlay ↔ ∃ id, g.find? id = some n :=
  Table.mem_values_iff

namespace Numbered

variable {g : Game}

theorem id_eq (h : Numbered g) {id : Text} {n : PieceNumber} (hfind : g.find? id = some n) :
    (g.piece n).id = id := by
  rcases h.roster id n hfind with ⟨p, hp, hid⟩
  rw [piece_of_find? hp, hid]

theorem ne_of_find? (h : Numbered g) {id id' : Text} {n m : PieceNumber}
    (hn : g.find? id = some n) (hm : g.find? id' = some m) (hne : id' ≠ id) : m ≠ n := by
  intro heq
  apply hne
  rw [← h.id_eq hm, ← h.id_eq hn, heq]

theorem le_pieceCount (h : Numbered g) {n : PieceNumber} (hn : n ∈ g.inPlay) :
    n ≤ g.pieceCount := by
  rcases mem_inPlay_iff.1 hn with ⟨id, hid⟩
  rcases h.roster id n hid with ⟨p, hp, -⟩
  exact h.given n p hp

theorem find?_piece (h : Numbered g) {n : PieceNumber} (hn : n ∈ g.inPlay) :
    g.pieces.find? n = some (g.piece n) := by
  rcases mem_inPlay_iff.1 hn with ⟨id, hid⟩
  rcases h.roster id n hid with ⟨p, hp, -⟩
  rw [hp, piece_of_find? hp]

theorem find?_id (h : Numbered g) {n : PieceNumber} (hn : n ∈ g.inPlay) :
    g.find? (g.piece n).id = some n := by
  rcases mem_inPlay_iff.1 hn with ⟨id, hid⟩
  rw [h.id_eq hid, hid]

theorem not_mem_next (h : Numbered g) : g.pieceCount + 1 ∉ g.inPlay := by
  intro hn
  exact absurd (h.le_pieceCount hn) (Nat.not_succ_le_self g.pieceCount)

theorem find?_next (h : Numbered g) (stem : Text) :
    g.find? (stem ++ "-" ++ toString (g.pieceCount + 1)) = none := by
  cases hfind : g.find? (stem ++ "-" ++ toString (g.pieceCount + 1)) with
  | none => rfl
  | some n =>
      rcases h.roster _ n hfind with ⟨p, hp, hid⟩
      rcases h.ends n p hp with ⟨stem', hstem⟩
      have hnumber : n = g.pieceCount + 1 := Text.eq_of_append_numeral (hstem.symm.trans hid)
      subst hnumber
      exact absurd (h.given _ p hp) (Nat.not_succ_le_self g.pieceCount)

theorem nodup_inPlay (h : Numbered g) : g.inPlay.Nodup := by
  apply Table.nodup_values
  intro id id' n hid hid'
  rw [← h.id_eq hid, ← h.id_eq hid']

end Numbered

/-!
## Who is in play

A new piece comes last, and a piece that leaves is the only one that does.
-/

theorem inPlay_withPieceOn {g : Game} (h : Numbered g) {p : Piece} {stem : Text}
    (hid : p.id = stem ++ "-" ++ toString (g.pieceCount + 1)) (square : Square) :
    (g.withPieceOn p square).inPlay = g.inPlay ++ [g.pieceCount + 1] := by
  apply Table.values_insert_of_find?_eq_none _
  rw [hid]
  exact h.find?_next stem

theorem perm_inPlay_withoutPiece {g : Game} {id : Text} {n : PieceNumber}
    (h : g.find? id = some n) : g.inPlay.Perm (n :: (g.withoutPiece id n).inPlay) := by
  rcases withoutPiece_eq g id n with ⟨dispatcher, effects, heq⟩
  rw [heq]
  exact Table.perm_values_erase h

theorem mem_inPlay_withoutPiece {g : Game} (hg : Numbered g) {id : Text} {n m : PieceNumber}
    (h : g.find? id = some n) : m ∈ (g.withoutPiece id n).inPlay ↔ m ∈ g.inPlay ∧ m ≠ n := by
  have hperm := perm_inPlay_withoutPiece h
  have hnodup := hperm.nodup_iff.1 hg.nodup_inPlay
  rw [List.nodup_cons] at hnodup
  rw [hperm.mem_iff, List.mem_cons]
  constructor
  · intro hm
    refine ⟨Or.inr hm, ?_⟩
    intro heq
    subst heq
    exact hnodup.1 hm
  · intro hm
    rcases hm with ⟨hm | hm, hne⟩
    · exact absurd hm hne
    · exact hm

/-!
## Steps keep the numbers
-/

/-- No step makes a piece, changes one or changes the rules. -/
structure SamePieces (g g' : Game) : Prop where
  pieces : g'.pieces = g.pieces
  count : g'.pieceCount = g.pieceCount
  registry : g'.registry = g.registry
  cast : g'.cast = g.cast
  roster : ∀ id n, g'.find? id = some n → g.find? id = some n

theorem samePieces_afflict {g g' : Game} {id : Text} {definition : StatusDefinition}
    (h : Afflicts g id definition g') : SamePieces g g' := by
  cases h with
  | absent _ => exact ⟨rfl, rfl, rfl, rfl, fun _ _ h => h⟩
  | unmade _ _ k => exact ⟨rfl, rfl, rfl, rfl, fun _ _ h => h⟩
  | begun _ _ _ => exact ⟨rfl, rfl, rfl, rfl, fun _ _ h => h⟩
  | stacked _ _ _ => exact ⟨rfl, rfl, rfl, rfl, fun _ _ h => h⟩

theorem find?_of_erase {g : Game} {id id' : Text} {n : PieceNumber}
    (h : (g.roster.erase id).find? id' = some n) : id ≠ id' ∧ g.find? id' = some n := by
  rw [Table.find?_erase] at h
  split at h
  · cases h
  · next hne => exact ⟨hne, h⟩

theorem samePieces_withoutPiece (g : Game) (id : Text) (n : PieceNumber) (board : Board) :
    SamePieces g { g.withoutPiece id n with board } := by
  rcases withoutPiece_eq g id n with ⟨dispatcher, effects, heq⟩
  rw [heq]
  exact ⟨rfl, rfl, rfl, rfl, fun _ _ h => (find?_of_erase h).2⟩

theorem samePieces_remove {g g' : Game} {id : Text} (h : Removes g id g') :
    SamePieces g g' := by
  cases h with
  | absent _ => exact ⟨rfl, rfl, rfl, rfl, fun _ _ h => h⟩
  | offBoard _ _ =>
      next n _ _ => exact samePieces_withoutPiece g id n (g.withoutPiece id n).board
  | cleared _ _ => exact samePieces_withoutPiece g id _ _

theorem samePieces_step {g g' : Game} (h : Step g g') : SamePieces g g' := by
  cases h with
  | sight seen => exact ⟨rfl, rfl, rfl, rfl, fun _ _ h => h⟩
  | subscribe cast event priority => exact ⟨rfl, rfl, rfl, rfl, fun _ _ h => h⟩
  | unsubscribe cast event => exact ⟨rfl, rfl, rfl, rfl, fun _ _ h => h⟩
  | afflict id definition => exact samePieces_afflict (afflicts_after g id definition)
  | remove id => exact samePieces_remove (removes_after g id)
  | turn =>
      rcases tickAll_eq g with ⟨dispatcher, effects, statuses, heq⟩
      rw [heq]
      exact ⟨rfl, rfl, rfl, rfl, fun _ _ h => h⟩
  | begin team => exact ⟨rfl, rfl, rfl, rfl, fun _ _ h => h⟩
  | @shift target empty origin =>
      have hshift := shifts_after g origin target
      generalize g.after (shift origin target) = g' at hshift ⊢
      cases hshift with
      | unmoved => exact ⟨rfl, rfl, rfl, rfl, fun _ _ h => h⟩
      | moved _ _ => exact ⟨rfl, rfl, rfl, rfl, fun _ _ h => h⟩
  | win team => exact ⟨rfl, rfl, rfl, rfl, fun _ _ h => h⟩

theorem Numbered.of_samePieces {g g' : Game} (h : Numbered g) (same : SamePieces g g') :
    Numbered g' := by
  constructor
  · rw [same.pieces, same.count]
    exact h.given
  · rw [same.pieces]
    exact h.ends
  · rw [same.pieces]
    intro id n hfind
    exact h.roster id n (same.roster id n hfind)

theorem numbered_step (g g' : Game) (h : Step g g') (hg : Numbered g) : Numbered g' :=
  hg.of_samePieces (samePieces_step h)

theorem numbered_fresh (board : Board) (registry : Registry) :
    Numbered (fresh board registry) := by
  constructor
  · intro n p h
    cases h
  · intro n p h
    cases h
  · intro id n h
    cases h

theorem numbered_withPiece {g : Game} (h : Numbered g) {p : Piece} {stem : Text}
    (hid : p.id = stem ++ "-" ++ toString (g.pieceCount + 1)) : Numbered (g.withPiece p) := by
  constructor
  · intro n q hq
    change (g.pieces.insert (g.pieceCount + 1) p).find? n = some q at hq
    rw [Table.find?_insert] at hq
    split at hq
    · next heq =>
        rw [← heq]
        exact Nat.le_refl _
    · exact Nat.le_succ_of_le (h.given n q hq)
  · intro n q hq
    change (g.pieces.insert (g.pieceCount + 1) p).find? n = some q at hq
    rw [Table.find?_insert] at hq
    split at hq
    · next heq =>
        injection hq with hq
        rw [← hq, ← heq]
        exact ⟨stem, hid⟩
    · exact h.ends n q hq
  · intro id n hfind
    rcases h.roster id n hfind with ⟨q, hq, hqid⟩
    refine ⟨q, ?_, hqid⟩
    show (g.pieces.insert (g.pieceCount + 1) p).find? n = some q
    rw [Table.find?_insert_of_ne _ _ ?_]
    · exact hq
    · intro heq
      subst heq
      exact absurd (h.given _ q hq) (Nat.not_succ_le_self g.pieceCount)

theorem numbered_withPieceOn {g : Game} (h : Numbered g) {p : Piece} {stem : Text}
    (hid : p.id = stem ++ "-" ++ toString (g.pieceCount + 1)) (square : Square) :
    Numbered (g.withPieceOn p square) := by
  have hmade := numbered_withPiece h hid
  refine ⟨hmade.given, hmade.ends, ?_⟩
  intro id n hfind
  change (g.roster.insert p.id (g.pieceCount + 1)).find? id = some n at hfind
  rw [Table.find?_insert] at hfind
  split at hfind
  · next heq =>
      injection hfind with hfind
      subst hfind
      exact ⟨p, Table.find?_insert_self _ _ _, heq⟩
  · exact hmade.roster id n hfind

theorem numbered_add (g : Game) (blueprint : Blueprint) (team : Value) (square : Square)
    (hg : Numbered g) : Numbered (g.after (addPiece blueprint team square)) := by
  have hadd := adds_after g blueprint team square
  generalize g.after (addPiece blueprint team square) = g' at hadd ⊢
  cases hadd with
  | unmade k => exact ⟨hg.given, hg.ends, hg.roster⟩
  | offBoard made _ => exact numbered_withPiece hg made.id
  | placed made _ => exact numbered_withPieceOn hg made.id square

/-!
## Pieces stay as they are made
-/

section Pieces

variable {P : Piece → Prop}
  (hmade : ∀ g blueprint team p, MakesPiece g blueprint team p → P p)

include hmade

/-- What is true of every piece as it is made is still true of all pieces when another one comes
into play. -/
theorem pieces_add (g : Game) (blueprint : Blueprint) (team : Value) (square : Square)
    (h : ∀ n p, g.pieces.find? n = some p → P p) :
    ∀ n p, (g.after (addPiece blueprint team square)).pieces.find? n = some p → P p := by
  have hinsert : ∀ p, P p → ∀ n q,
      (g.pieces.insert (g.pieceCount + 1) p).find? n = some q → P q := by
    intro p hp n q hq
    rw [Table.find?_insert] at hq
    split at hq
    · injection hq with hq
      exact hq ▸ hp
    · exact h n q hq
  have hadd := adds_after g blueprint team square
  generalize g.after (addPiece blueprint team square) = g' at hadd ⊢
  cases hadd with
  | unmade k => exact h
  | offBoard made _ => exact hinsert _ (hmade g blueprint team _ made)
  | placed made _ => exact hinsert _ (hmade g blueprint team _ made)

/-- What is true of every piece as it is made is true of all pieces after a run. -/
theorem pieces_run {g : Game} (hfresh : Fresh g) (ops : List Operation) :
    ∀ n p, (g.run ops).pieces.find? n = some p → P p := by
  rcases hfresh with ⟨width, height, board, registry, _, rfl⟩
  refine run_keeps (P := fun g => ∀ n p, g.pieces.find? n = some p → P p) ?_
    (pieces_add hmade) ?_ ops
  · intro g g' hstep h n p hp
    rw [(samePieces_step hstep).pieces] at hp
    exact h n p hp
  · intro n p hp
    cases hp

end Pieces

end Game
end Boardcraft
