import Boardcraft.Proofs.Twin.Play
import Mathlib.Data.List.Induction

/-!
# The order of placement

Before a game begins, pieces are put on squares one after the other.  The order in which they come
decides about their numbers and ids, about the order in which the roster lists them, in which their
effects count down and in which their abilities are heard.  With built-in rules only, nothing of that
can be told from how the game goes on: if the same pieces come to the same squares in another order,
the games are twins and stay twins, and every operation answers the same.

## Main statements

* `placing_of_setup` says that a layout brings the same pieces as its entries one by one;
* `Received.twins` says that the games are twins when the last piece has come;
* `placement_order_leaves_no_trace` says that they stay twins and answer alike.
-/

namespace Boardcraft

/-- A piece that is to be made from a blueprint for the team that a value names, and the square on
which it is to be put. -/
structure Arrival where
  blueprint : Blueprint
  team : Value
  square : Square

def Arrival.operation (a : Arrival) : Operation := .add a.blueprint a.team a.square

/-- The piece that a registry makes for an arrival, without an id, if it makes any. -/
def Arrival.prototype (r : Registry) (a : Arrival) : Option Piece := a.blueprint.prototype r a.team

namespace Game

/-- The game in which pieces have come one after the other.  One that cannot be made stays away. -/
def placing (g : Game) (arrivals : List Arrival) : Game := g.run (arrivals.map Arrival.operation)

/-- Pieces of two games correspond if they stand on the same square. -/
def bySquares (g g' : Game) : Renaming where
  number n := (g'.board.pieceAt (g.squareOf n)).getD 0
  id id := ((g.find? id).map fun n =>
    (g'.piece ((g'.board.pieceAt (g.squareOf n)).getD 0)).id).getD id

/-- A layout that is set up without fail brings the same pieces as its entries do one by one. -/
theorem placing_of_setup {blueprints : Table Text Blueprint} {entries : List Entry} {g g' : Game}
    (h : setup blueprints entries g = .ok () g') :
    ∃ arrivals, List.Forall₂ (fun (e : Entry) (a : Arrival) =>
      blueprints.find? e.blueprint = some a.blueprint ∧ a.team = e.team ∧ a.square = e.square)
        entries arrivals ∧ g' = g.placing arrivals := by
  induction entries generalizing g with
  | nil =>
      cases h
      exact ⟨[], .nil, rfl⟩
  | cons e rest ih =>
      rw [setup] at h
      cases hfind : blueprints.find? e.blueprint with
      | none =>
          rw [hfind] at h
          cases h
      | some blueprint =>
          rw [hfind] at h
          dsimp only at h
          cases hadd : addPiece blueprint e.team e.square g with
          | error fault k =>
              rw [bind_of_eq_error _ hadd] at h
              cases h
          | ok n k =>
              rw [bind_of_eq_ok _ hadd] at h
              rcases ih h with ⟨arrivals, hentries, heq⟩
              refine ⟨⟨blueprint, e.team, e.square⟩ :: arrivals, .cons ⟨hfind, rfl, rfl⟩ hentries, ?_⟩
              have hfirst : g.after (Operation.add blueprint e.team e.square).perform = k := by
                rw [Operation.perform, after_map, after_of_eq_ok hadd]
              show g' = (g.after (Operation.add blueprint e.team e.square).perform).placing arrivals
              rw [hfirst, heq]

/-!
## Games in which pieces have come
-/

/-- A game that has received arrivals in some order, and in which nothing else has happened since it
was a game without pieces. -/
structure Received (start : Game) (arrivals : List Arrival) (g : Game) : Prop where
  registry : g.registry = start.registry
  width : g.board.width = start.board.width
  height : g.board.height = start.board.height
  effectCount : g.effectCount = start.effectCount
  statuses : ∀ n, g.statusesOf n = []
  turn : SameTurn start g
  /-- Every piece is the one of an arrival and stands on its square. -/
  made : ∀ n p, g.pieces.find? n = some p → ∃ a ∈ arrivals,
    a.prototype start.registry = some p.bare ∧ g.board.pieceAt a.square = some n
  /-- Every arrival of which a piece can be made has its piece. -/
  stands : ∀ a ∈ arrivals, ∀ p, a.prototype start.registry = some p →
    ∃ n, g.board.pieceAt a.square = some n

section Receiving

variable {start g : Game} {arrivals : List Arrival}

theorem received_fresh (hfresh : Fresh g) : Received g [] g := by
  rcases hfresh with ⟨width, height, board, registry, hmake, rfl⟩
  refine ⟨rfl, rfl, rfl, rfl, fun _ => rfl, ⟨rfl, rfl, rfl⟩, ?_, ?_⟩
  · intro n p hp
    cases hp
  · intro a ha
    cases ha

namespace Received

theorem arrival (h : Received start arrivals g) (hground : Grounded g) {n : PieceNumber} {p : Piece}
    (hp : g.pieces.find? n = some p) :
    ∃ a ∈ arrivals, a.prototype start.registry = some p.bare ∧ g.squareOf n = a.square ∧
      g.board.pieceAt (g.squareOf n) = some n := by
  rcases h.made n p hp with ⟨a, ha, hproto, hheld⟩
  have hsquare := hground.square a.square n hheld
  exact ⟨a, ha, hproto, hsquare, hsquare ▸ hheld⟩

/-- What stands on a square has been made and is the piece of the arrival of that square. -/
theorem arrival_of_pieceAt (h : Received start arrivals g) (hsettled : Settled g) {s : Square}
    {n : PieceNumber} (hheld : g.board.pieceAt s = some n) :
    ∃ p, g.pieces.find? n = some p ∧
      ∃ a ∈ arrivals, a.prototype start.registry = some p.bare ∧ a.square = s := by
  have hp := hsettled.numbered.find?_piece (hsettled.grounded.inPlay s n hheld)
  rcases h.arrival hsettled.grounded hp with ⟨a, ha, hproto, hsquare, -⟩
  exact ⟨g.piece n, hp, a, ha, hproto, hsquare.symm.trans (hsettled.grounded.square s n hheld)⟩

theorem vacant (h : Received start arrivals g) (hsettled : Settled g) {s : Square}
    (hnew : s ∉ arrivals.map Arrival.square) : g.board.pieceAt s = none := by
  cases hheld : g.board.pieceAt s with
  | none => rfl
  | some n =>
      rcases h.arrival_of_pieceAt hsettled hheld with ⟨p, -, a, ha, -, rfl⟩
      exact absurd (List.mem_map_of_mem ha) hnew

theorem withPieceOn (h : Received start arrivals g) {a : Arrival} {p : Piece}
    (hnew : a.square ∉ arrivals.map Arrival.square)
    (hproto : a.prototype start.registry = some p.bare) :
    Received start (arrivals ++ [a]) (g.withPieceOn p a.square) := by
  have hothers : ∀ b ∈ arrivals, ∀ m, g.board.pieceAt b.square = some m →
      (g.withPieceOn p a.square).board.pieceAt b.square = some m := by
    intro b hb m hheld
    have hne : a.square ≠ b.square := fun heq => hnew (heq ▸ List.mem_map_of_mem hb)
    rw [pieceAt_withPieceOn, if_neg hne]
    exact hheld
  have hself : (g.withPieceOn p a.square).board.pieceAt a.square = some (g.pieceCount + 1) := by
    rw [pieceAt_withPieceOn, if_pos rfl]
  refine ⟨h.registry, h.width, h.height, h.effectCount, h.statuses,
    ⟨h.turn.turn, h.turn.toMove, h.turn.winner⟩, ?_, ?_⟩
  · intro n q hq
    change (g.pieces.insert (g.pieceCount + 1) p).find? n = some q at hq
    rw [Table.find?_insert] at hq
    split at hq
    · next heq =>
        injection hq with hq
        subst hq heq
        exact ⟨a, List.mem_append_right _ (List.mem_singleton_self a), hproto, hself⟩
    · rcases h.made n q hq with ⟨b, hb, hbproto, hheld⟩
      exact ⟨b, List.mem_append_left _ hb, hbproto, hothers b hb n hheld⟩
  · intro b hb q hq
    rcases List.mem_append.1 hb with hb | hb
    · rcases h.stands b hb q hq with ⟨n, hheld⟩
      exact ⟨n, hothers b hb n hheld⟩
    · rw [List.mem_singleton.1 hb]
      exact ⟨g.pieceCount + 1, hself⟩

/-- An arrival of which no piece can be made stays away. -/
theorem withSerials (h : Received start arrivals g) {a : Arrival}
    (hproto : a.prototype start.registry = none) (k : Nat) :
    Received start (arrivals ++ [a]) (g.withSerials k) := by
  refine ⟨h.registry, h.width, h.height, h.effectCount, h.statuses,
    ⟨h.turn.turn, h.turn.toMove, h.turn.winner⟩, ?_, ?_⟩
  · intro n q hq
    rcases h.made n q hq with ⟨b, hb, hbproto, hheld⟩
    exact ⟨b, List.mem_append_left _ hb, hbproto, hheld⟩
  · intro b hb q hq
    rcases List.mem_append.1 hb with hb | hb
    · exact h.stands b hb q hq
    · rw [List.mem_singleton.1 hb, hproto] at hq
      cases hq

theorem concat (h : Received start arrivals g) {a : Arrival}
    (hnew : a.square ∉ arrivals.map Arrival.square) (hon : start.board.Holds a.square) :
    Received start (arrivals ++ [a]) (g.after a.operation.perform) := by
  have hon' : g.board.Holds a.square := by
    unfold Board.Holds
    rw [h.width, h.height]
    exact hon
  unfold Arrival.operation
  rw [Operation.perform, after_map]
  rcases makePiece_prototype a.blueprint a.team g with
    ⟨p, hproto, -, hrun⟩ | ⟨hproto, e, k, hrun⟩
  · rw [h.registry] at hproto
    rw [after_of_eq_ok (addPiece_of_holds hrun hon')]
    exact h.withPieceOn hnew hproto
  · rw [h.registry] at hproto
    rw [after_of_eq_error (addPiece_of_unmade hrun a.square)]
    exact h.withSerials hproto k

end Received

/-- By induction on the arrivals, of which the last comes to a square that is still vacant. -/
theorem received_placing (hfresh : Fresh g) (hbuiltIn : g.registry.BuiltIn)
    (hsquares : (arrivals.map Arrival.square).Nodup) (hon : ∀ a ∈ arrivals, g.board.Holds a.square) :
    NeatlyReached (g.placing arrivals) ∧ Received g arrivals (g.placing arrivals) := by
  induction arrivals using List.reverseRecOn with
  | nil => exact ⟨⟨g, [], hfresh, hbuiltIn, trivial, rfl⟩, received_fresh hfresh⟩
  | append_singleton front a ih =>
      rw [List.map_append, List.nodup_append] at hsquares
      have hnew : a.square ∉ front.map Arrival.square := by
        intro hmem
        exact hsquares.2.2 a.square hmem a.square (List.mem_singleton_self _) rfl
      rcases ih hsquares.1 fun b hb => hon b (List.mem_append_left _ hb) with ⟨hneat, hreceived⟩
      have hlast : g.placing (front ++ [a]) = (g.placing front).after a.operation.perform := by
        unfold placing run
        rw [List.map_append, List.foldl_append]
        rfl
      rw [hlast]
      refine ⟨hneat.perform ?_, hreceived.concat hnew (hon a ?_)⟩
      · exact hreceived.vacant hneat.settled hnew
      · exact List.mem_append_right _ (List.mem_singleton_self a)

end Receiving

/-!
## Two orders
-/

section Orders

variable {start g g' : Game} {arrivals arrivals' : List Arrival} {n : PieceNumber}

namespace Received

variable (h : Received start arrivals g) (h' : Received start arrivals' g')
  (hperm : arrivals'.Perm arrivals) (hsquares : (arrivals.map Arrival.square).Nodup)
  (hsettled : Settled g) (hsettled' : Settled g')

include h hsettled in
theorem pieceAt_squareOf (hn : g.Made n) : g.board.pieceAt (g.squareOf n) = some n := by
  rcases hn with ⟨p, hp⟩
  rcases h.arrival hsettled.grounded hp with ⟨_, _, _, _, hheld⟩
  exact hheld

include h h' hperm hsquares hsettled hsettled'

/-- Where the same arrivals have come in another order, every piece has a counterpart on its square
that is made alike. -/
theorem exists_counterpart {p : Piece} (hp : g.pieces.find? n = some p) :
    g'.board.pieceAt (g.squareOf n) = some ((bySquares g g').number n) ∧
      ∃ p', g'.pieces.find? ((bySquares g g').number n) = some p' ∧ p'.bare = p.bare := by
  rcases h.arrival hsettled.grounded hp with ⟨a, ha, hproto, hsquare, -⟩
  rcases h'.stands a (hperm.mem_iff.2 ha) p.bare hproto with ⟨n', hheld'⟩
  have hnumber : (bySquares g g').number n = n' := by
    unfold bySquares
    dsimp only
    rw [hsquare, hheld', Option.getD_some]
  rcases h'.arrival_of_pieceAt hsettled' hheld' with ⟨p', hp', a', ha', hproto', hsquare'⟩
  have hsame : a' = a := List.inj_on_of_nodup_map hsquares (hperm.mem_iff.1 ha') ha hsquare'
  rw [hsame, hproto] at hproto'
  injection hproto' with hbare
  rw [hnumber, hsquare]
  exact ⟨hheld', p', hp', hbare.symm⟩

theorem pieceAt_counterpart (hn : g.Made n) :
    g'.board.pieceAt (g.squareOf n) = some ((bySquares g g').number n) := by
  rcases hn with ⟨p, hp⟩
  exact (h.exists_counterpart h' hperm hsquares hsettled hsettled' hp).1

theorem squareOf_counterpart (hn : g.Made n) :
    g'.squareOf ((bySquares g g').number n) = g.squareOf n :=
  hsettled'.grounded.square _ _ (h.pieceAt_counterpart h' hperm hsquares hsettled hsettled' hn)

/-- Counterparts of different pieces differ, since they stand on different squares. -/
theorem counterpart_inj {m : PieceNumber} (hn : g.Made n) (hm : g.Made m)
    (heq : (bySquares g g').number n = (bySquares g g').number m) : n = m := by
  have hsame : g.squareOf n = g.squareOf m := by
    rw [← h.squareOf_counterpart h' hperm hsquares hsettled hsettled' hn, heq,
      h.squareOf_counterpart h' hperm hsquares hsettled hsettled' hm]
  have hn' := h.pieceAt_squareOf hsettled hn
  rw [hsame, h.pieceAt_squareOf hsettled hm] at hn'
  injection hn' with hn'
  exact hn'.symm

theorem pieceAt_bySquares (s : Square) :
    g'.board.pieceAt s = (g.board.pieceAt s).map (bySquares g g').number := by
  cases hs : g.board.pieceAt s with
  | some n =>
      have hn := hsettled.numbered.made (hsettled.grounded.inPlay s n hs)
      rw [Option.map_some, ← h.pieceAt_counterpart h' hperm hsquares hsettled hsettled' hn,
        hsettled.grounded.square s n hs]
  | none =>
      cases hs' : g'.board.pieceAt s with
      | none => rfl
      | some n' =>
          rcases h'.arrival_of_pieceAt hsettled' hs' with ⟨p', -, a, ha, hproto, rfl⟩
          rcases h.stands a (hperm.mem_iff.1 ha) p'.bare hproto with ⟨n, hn⟩
          rw [hn] at hs
          cases hs

theorem perm_inPlay : g'.inPlay.Perm (g.inPlay.map (bySquares g g').number) := by
  refine (List.perm_ext_iff_of_nodup hsettled'.numbered.nodup_inPlay ?_).2 ?_
  · refine List.Nodup.map_on ?_ hsettled.numbered.nodup_inPlay
    intro n hn m hm
    exact h.counterpart_inj h' hperm hsquares hsettled hsettled' (hsettled.numbered.made hn)
      (hsettled.numbered.made hm)
  · intro n'
    rw [List.mem_map]
    constructor
    · intro hn'
      have hthere := hsettled'.held n' hn'
      rw [h.pieceAt_bySquares h' hperm hsquares hsettled hsettled', Option.map_eq_some_iff] at hthere
      rcases hthere with ⟨n, hn, heq⟩
      exact ⟨n, hsettled.grounded.inPlay _ n hn, heq⟩
    · rintro ⟨n, hn, rfl⟩
      exact hsettled'.grounded.inPlay _ _
        (h.pieceAt_counterpart h' hperm hsquares hsettled hsettled' (hsettled.numbered.made hn))

theorem madeAlike : MadeAlike (bySquares g g') g g' := by
  refine ⟨h'.registry.trans h.registry.symm, ?_, ?_⟩
  · intro n p hp
    rcases h.exists_counterpart h' hperm hsquares hsettled hsettled' hp with ⟨-, p', hp', hbare⟩
    have hplay := hsettled.grounded.inPlay _ n (h.pieceAt_squareOf hsettled ⟨p, hp⟩)
    have hfind := hsettled.numbered.find?_id hplay
    rw [piece_of_find? hp] at hfind
    have hid : (bySquares g g').id p.id = (g'.piece ((bySquares g g').number n)).id := by
      show ((g.find? p.id).map _).getD p.id = _
      rw [hfind]
      rfl
    rw [piece_of_find? hp'] at hid
    exact ⟨p', hp', hid.symm, hbare⟩
  · intro n m hn hm
    exact h.counterpart_inj h' hperm hsquares hsettled hsettled' hn hm

theorem twins : Twins (bySquares g g') g g' where
  toMadeAlike := h.madeAlike h' hperm hsquares hsettled hsettled'
  inPlay := h.perm_inPlay h' hperm hsquares hsettled hsettled'
  width := h'.width.trans h.width.symm
  height := h'.height.trans h.height.symm
  held := h.pieceAt_bySquares h' hperm hsquares hsettled hsettled'
  square _ hn := h.squareOf_counterpart h' hperm hsquares hsettled hsettled' hn
  effectCount := h'.effectCount.trans h.effectCount.symm
  statuses n _ := (h'.statuses _).trans (h.statuses n).symm
  effects n _ e he := by
    rw [h.statuses] at he
    cases he
  turn := ⟨h'.turn.turn.trans h.turn.turn.symm, h'.turn.toMove.trans h.turn.toMove.symm,
    h'.turn.winner.trans h.turn.winner.symm⟩

end Received

/-- The same pieces are put on the same squares of two games of one size in two orders, no two of
them on one square.  Then after any number of operations on corresponding pieces the games are twins:
corresponding pieces stand on the same squares under the same effects, and the same team is to move
or has won.  What every operation answers in the one game, it answers about the corresponding pieces
in the other, and where it fails it fails for the same reason. -/
theorem placement_order_leaves_no_trace (hfresh : Fresh start) (hbuiltIn : start.registry.BuiltIn)
    (hperm : arrivals'.Perm arrivals) (hsquares : (arrivals.map Arrival.square).Nodup)
    (hon : ∀ a ∈ arrivals, start.board.Holds a.square) {ops : List Operation}
    (hops : ∀ op ∈ ops, op.Addresses (start.placing arrivals)) {c : Renaming}
    (hc : c = bySquares (start.placing arrivals) (start.placing arrivals')) :
    (∀ k, Twins c ((start.placing arrivals).run (ops.take k))
      ((start.placing arrivals').run ((ops.map (Operation.rename c)).take k))) ∧
    (start.placing arrivals').answers (ops.map (Operation.rename c)) =
      ((start.placing arrivals).answers ops).map (renameAnswer c) := by
  subst hc
  rcases received_placing hfresh hbuiltIn hsquares hon with ⟨hneat, hreceived⟩
  have hsquares' : (arrivals'.map Arrival.square).Nodup :=
    (hperm.map Arrival.square).nodup_iff.2 hsquares
  rcases received_placing hfresh hbuiltIn hsquares' fun a ha => hon a (hperm.mem_iff.1 ha) with
    ⟨hneat', hreceived'⟩
  have htwins := hreceived.twins hreceived' hperm hsquares hneat.settled hneat'.settled
  constructor
  · intro k
    rw [← List.map_take]
    exact (htwins.run hneat hneat' fun op hop => hops op (List.mem_of_mem_take hop)).1
  · exact (htwins.run hneat hneat' hops).2

end Orders

def standoff : List Arrival :=
  [⟨walker [], .str "white", ⟨0, 0⟩⟩, ⟨walker [{ name := "King" }], .str "black", ⟨1, 1⟩⟩]

def regicide : List Operation :=
  [.start (.str "white"), .applyStatus "black-walker-2" (lending "Immobile" 3), .legalMoves 1,
    .act "white-walker-1" ⟨1, 1⟩ "attack", .legalTargets 2 "attack"]

/-- Where the king comes first, the pieces trade numbers and ids, and the walker wins all the same. -/
theorem white_walks_over_from_either_order :
    Fresh (usual .standard) ∧ standoff.reverse.Perm standoff ∧
    (standoff.map Arrival.square).Nodup ∧
    (∀ op ∈ regicide, op.Addresses ((usual .standard).placing standoff)) ∧
    (bySquares ((usual .standard).placing standoff)
      ((usual .standard).placing standoff.reverse)).id "white-walker-1" = "white-walker-2" ∧
    (((usual .standard).placing standoff.reverse).run (regicide.map (Operation.rename
      (bySquares ((usual .standard).placing standoff)
        ((usual .standard).placing standoff.reverse))))).winner = some .white := by
  have hfresh := fresh_usual .standard
  have hsquares : (standoff.map Arrival.square).Nodup := by decide
  have hon : ∀ a ∈ standoff, (usual .standard).board.Holds a.square := by decide
  have hnumbered : Numbered ((usual .standard).placing standoff) :=
    (received_placing hfresh Registry.builtIn_standard hsquares hon).1.settled.numbered
  have hwhite : ((usual .standard).placing standoff).find? "white-walker-1" = some 1 := by
    decide +kernel
  have hblack : ((usual .standard).placing standoff).find? "black-walker-2" = some 2 := by
    decide +kernel
  have hops : ∀ op ∈ regicide, op.Addresses ((usual .standard).placing standoff) := by
    intro op hop
    simp only [regicide, List.mem_cons, List.not_mem_nil, or_false] at hop
    rcases hop with rfl | rfl | rfl | rfl | rfl
    · trivial
    · exact hnumbered.names hblack
    · exact hnumbered.made (mem_inPlay_iff.2 ⟨_, hwhite⟩)
    · exact hnumbered.names hwhite
    · exact hnumbered.made (mem_inPlay_iff.2 ⟨_, hblack⟩)
  have htwins := (placement_order_leaves_no_trace hfresh Registry.builtIn_standard
    (List.reverse_perm standoff) hsquares hon hops rfl).1 5
  refine ⟨hfresh, List.reverse_perm standoff, hsquares, hops, by decide +kernel, ?_⟩
  have hwinner : (((usual .standard).placing standoff).run regicide).winner = some .white := by
    decide +kernel
  exact htwins.turn.winner.trans hwinner

end Game
end Boardcraft
