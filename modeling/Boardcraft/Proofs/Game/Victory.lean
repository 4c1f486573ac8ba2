import Boardcraft.Proofs.Game.Agreement
import Boardcraft.Proofs.Game.Turn

/-!
# Who wins

With built-in rules, a game is won by the capture of a king and by nothing else.  That a piece is a
king is noted by its own ability while the capture is announced, and read when the piece has
already left.

## Main statements

* `actEnds` lists the ways in which an order to act ends with built-in rules;
* `won_iff_king_captured` says when a game is won, by whom and against whom, and what becomes of
  orders from then on.
-/

namespace Boardcraft

theorem Team.against_word (t : Team) : Team.against (.str t.word) = t.other := by
  cases t <;> decide

theorem Team.other_eq_of_ne {t t' : Team} (h : t ≠ t') : t.other = t' := by
  cases t <;> cases t' <;> first | rfl | exact absurd rfl h

namespace Game

/-!
## Captures

What the listeners of a capture have noted, and what is made of it.
-/

theorem Reached.teamMark_eq {g : Game} (h : Reached g) {n : PieceNumber} (hn : n ∈ g.inPlay) :
    (g.piece n).teamMark = .str (g.piece n).team.word := by
  have hpiece := h.accounted.numbered.find?_piece hn
  rcases h with ⟨start, ops, hfresh, rfl⟩
  exact pieces_run (P := fun p => p.teamMark = .str p.team.word)
    (fun _ _ _ _ made => made.mark) hfresh ops n _ hpiece

theorem PlainlyReached.reached {g : Game} (h : PlainlyReached g) : Reached g := by
  rcases h with ⟨start, ops, hfresh, _, heq⟩
  exact ⟨start, ops, hfresh, heq⟩

section BuiltIn

variable {g : Game} (h : Accounted g) (hbuiltIn : g.registry.BuiltIn)

include h hbuiltIn

/-- The listeners of a capture note that the game is over if the captured piece is a king. -/
theorem announce_capture (attacker : PieceNumber) {m : PieceNumber} (hm : m ∈ g.inPlay) :
    ∃ context, announce (g.captureOf attacker m) g = .ok context g ∧
      endsGame context = g.hasAbility m "King" ∧
      loserOf context (g.piece m) = (g.piece m).teamMark := by
  have hking : Rule.king ∈ Rule.builtin := by simp [Rule.builtin]
  have hevent : Event.capture ∈ Rule.king.triggers := by simp [Rule.king]
  refine ⟨_, announce_of_builtIn h hbuiltIn (g.captureOf attacker m), ?_, ?_⟩
  · have hopen := cancelled_of_source h.heard hbuiltIn hm (c := g.captureOf attacker m) rfl
    apply (endsGame_heedAll (listener_mem_builtin h.heard hbuiltIn .capture) hopen).trans
    exact any_listeners_eq_hasAbility h.heard hbuiltIn hm hking hevent
  · exact loserOf_heedAll rfl rfl _

theorem concludeCapture_of_builtIn (attacker m : PieceNumber) (p : Piece) (context : Context) :
    concludeCapture attacker m p context g =
      if endsGame context then
        .ok (some (.over (Team.against (loserOf context p)) (loserOf context p) g.turn))
          (g.won (Team.against (loserOf context p)))
      else .ok none g := by
  unfold concludeCapture
  split
  · have hwon : Accounted (g.won (Team.against (loserOf context p))) := accounted_frame h _ _ _ _ _
    exact bind_of_eq_ok _ (announce_of_builtIn hwon hbuiltIn (gameOverOf attacker m))
  · rfl

theorem finishAction_of_builtIn (id : Text) (targetId : Option Text) (captured : Bool)
    (n : PieceNumber) (origin target : Square) (occupant : Option PieceNumber) (action : Text)
    (gameOver : Option Outcome) :
    finishAction id targetId captured n origin target occupant action gameOver g =
      match gameOver with
      | some outcome => .ok [.acted id action target targetId captured g.turn, outcome] g
      | none => .ok [.acted id action target targetId captured g.turn] g.tickAll.nextTurn := by
  unfold finishAction
  rw [bind_of_eq_ok _ (announce_of_builtIn h hbuiltIn _), get_bind]
  cases gameOver with
  | some outcome => rfl
  | none =>
      dsimp only
      rw [bind_of_eq_ok _ (endTurn_of_builtIn h hbuiltIn)]
      rfl

theorem removePiece_of_builtIn (hground : Grounded g) {m : PieceNumber} (hm : m ∈ g.inPlay) :
    ∃ g', removePiece (g.piece m).id g = .ok m g' ∧ SameTurn g g' ∧ Accounted g' ∧
      g'.registry.BuiltIn := by
  rcases removePiece_of_inPlay h hground hm with ⟨g', hremove, hturn, _⟩
  have hstep := Step.remove g (g.piece m).id
  rw [after_of_eq_ok hremove] at hstep
  refine ⟨g', hremove, hturn, accounted_step _ _ hstep h, ?_⟩
  rw [(samePieces_step hstep).registry]
  exact hbuiltIn

end BuiltIn

/-!
## Orders to act
-/

inductive ActEnds (g : Game) (id : Text) (target : Square) (action : Text) :
    EStateM.Result GameError Game (List Outcome) → Prop where
  /-- The order may not be given now. -/
  | forbidden {refusal : Refusal} (gate : g.commanded id = .error refusal) :
      ActEnds g id target action (.ok [.refused .action id target refusal] g)
  | refused {n : PieceNumber} {refusal : Refusal} (ordered : g.find? id = some n)
      (refused : g.actionRefusal n target action = some refusal) :
      ActEnds g id target action (.ok [.refused .action id target refusal] g)
  /-- The order is refused, and there are no words for that. -/
  | untold {n : PieceNumber} {refusal : Refusal} (ordered : g.find? id = some n)
      (refused : g.actionRefusal n target action = some refusal)
      (wordless : refusal.isTellable = false) :
      ActEnds g id target action (.error .oversizedNumber g)
  /-- Nobody of the other team stands on the target. -/
  | spared {n : PieceNumber} {g' : Game} (ordered : g.find? id = some n)
      (nobody : g.victimOf n (g.board.pieceAt target) = none) (open_ : g'.winner = g.winner) :
      ActEnds g id target action
        (.ok [.acted id action target ((g.board.pieceAt target).map fun m => (g.piece m).id) false
          g.turn] g')
  | captured {n m : PieceNumber} {g' : Game} (ordered : g.find? id = some n)
      (victim : g.victimOf n (g.board.pieceAt target) = some m)
      (subject : g.hasAbility m "King" = false) (open_ : g'.winner = g.winner) :
      ActEnds g id target action
        (.ok [.acted id action target (some (g.piece m).id) true g.turn] g')
  | won {n m : PieceNumber} {g' : Game} (ordered : g.find? id = some n)
      (victim : g.victimOf n (g.board.pieceAt target) = some m)
      (king : g.hasAbility m "King" = true) (winner : g'.winner = some (g.piece n).team) :
      ActEnds g id target action
        (.ok [.acted id action target (some (g.piece m).id) true g.turn,
          .over (g.piece n).team (.str (g.piece m).team.word) g.turn] g')

theorem victimOf_eq_some_iff {g : Game} {n m : PieceNumber} {occupant : Option PieceNumber} :
    g.victimOf n occupant = some m ↔ occupant = some m ∧ (g.piece m).team ≠ (g.piece n).team := by
  unfold victimOf
  rw [Option.filter_eq_some_iff, decide_eq_true_eq]

section Acting

variable {g : Game}

theorem actEnds_of_victim (h : PlainlyReached g) {id : Text} {n m : PieceNumber} {target : Square}
    (ordered : g.find? id = some n) (victim : g.victimOf n (g.board.pieceAt target) = some m)
    (origin : Square) (action : Text) :
    ActEnds g id target action
      (carryOutAction n origin target (g.board.pieceAt target) action g) := by
  rcases victimOf_eq_some_iff.1 victim with ⟨hstands, hteam⟩
  have hm : m ∈ g.inPlay := h.grounded.inPlay target m hstands
  have hid : (g.piece n).id = id := h.accounted.numbered.id_eq ordered
  rcases announce_capture h.accounted h.builtIn n hm with ⟨context, hannounce, hends, hloser⟩
  rcases removePiece_of_builtIn h.accounted h.builtIn h.grounded hm with
    ⟨g₁, hremove, hturn, haccount, hbuiltIn⟩
  have hcapture := capture_eq g n m
  rw [bind_of_eq_ok _ hannounce, bind_of_eq_ok _ hremove,
    concludeCapture_of_builtIn haccount hbuiltIn, hends] at hcapture
  rw [carryOutAction_of_victim victim, hid]
  cases hking : g.hasAbility m "King" with
  | false =>
      rw [hking, if_neg Bool.false_ne_true] at hcapture
      rw [bind_of_eq_ok _ hcapture, finishAction_of_builtIn haccount hbuiltIn, hstands, hturn.turn]
      apply ActEnds.captured ordered victim hking
      rw [(turnPassed_turn g₁).winner, hturn.winner]
  | true =>
      have hwinner : Team.against (loserOf context (g.piece m)) = (g.piece n).team := by
        rw [hloser, h.reached.teamMark_eq hm, Team.against_word, Team.other_eq_of_ne hteam]
      have hwon : Accounted (g₁.won (g.piece n).team) := accounted_frame haccount _ _ _ _ _
      rw [hking, if_pos rfl, hwinner, hloser, h.reached.teamMark_eq hm, hturn.turn] at hcapture
      rw [bind_of_eq_ok _ hcapture, finishAction_of_builtIn hwon hbuiltIn, hstands]
      have hsame : (g₁.won (g.piece n).team).turn = g.turn := hturn.turn
      rw [hsame]
      exact ActEnds.won ordered victim hking rfl

theorem actEnds_of_no_victim (h : PlainlyReached g) {id : Text} {n : PieceNumber} {target : Square}
    (ordered : g.find? id = some n) (nobody : g.victimOf n (g.board.pieceAt target) = none)
    (origin : Square) (action : Text) :
    ActEnds g id target action
      (carryOutAction n origin target (g.board.pieceAt target) action g) := by
  rw [carryOutAction_of_no_victim nobody, finishAction_of_builtIn h.accounted h.builtIn,
    h.accounted.numbered.id_eq ordered]
  exact ActEnds.spared ordered nobody (turnPassed_turn g).winner

/-- With built-in rules an order to act is refused, in words or not, and changes nothing, or it is
carried out, and wins the game exactly if it captures a king. -/
theorem actEnds (h : PlainlyReached g) (id : Text) (target : Square) (action : Text) :
    ActEnds g id target action (act id target action g) := by
  cases hcommanded : g.commanded id with
  | error refusal =>
      rw [act_of_not_commanded hcommanded]
      exact ActEnds.forbidden hcommanded
  | ok n =>
      have ordered := find?_of_commanded hcommanded
      cases hrefusal : g.actionRefusal n target action with
      | none =>
          rw [act_of_actionRefusal_none h.accounted h.builtIn hcommanded hrefusal]
          cases hvictim : g.victimOf n (g.board.pieceAt target) with
          | some m => exact actEnds_of_victim h ordered hvictim _ action
          | none => exact actEnds_of_no_victim h ordered hvictim _ action
      | some refusal =>
          rw [act_of_actionRefusal_some h.accounted h.builtIn hcommanded hrefusal]
          split
          · exact ActEnds.refused ordered hrefusal
          · next huntold => exact ActEnds.untold ordered hrefusal (Bool.eq_false_iff.2 huntold)

/-!
## The capture of a king
-/

/-- An operation captures a piece: it orders another to act upon the square of the piece, and the
capture is reported. -/
inductive Captures (g : Game) : Operation → PieceNumber → PieceNumber → Prop where
  | act {id : Text} {target : Square} {action : Text} {n m : PieceNumber} {turn : Nat}
      {rest : List Outcome} {g' : Game} (ordered : g.find? id = some n)
      (stood : g.board.pieceAt target = some m)
      (reported : Game.act id target action g =
        .ok (.acted id action target (some (g.piece m).id) true turn :: rest) g') :
      Captures g (.act id target action) n m

theorem act_of_king_captured (h : PlainlyReached g) {id : Text} {target : Square} {action : Text}
    {n m : PieceNumber} (hcaptures : Captures g (.act id target action) n m)
    (hking : g.hasAbility m "King" = true) :
    ∃ g', act id target action g =
        .ok [.acted id action target (some (g.piece m).id) true g.turn,
          .over (g.piece n).team (.str (g.piece m).team.word) g.turn] g' ∧
      g'.winner = some (g.piece n).team := by
  cases hcaptures with
  | act ordered stood reported =>
      have hends := actEnds h id target action
      rw [reported] at hends
      generalize hresult : EStateM.Result.ok _ _ = result at hends
      rw [hresult] at reported
      cases hends with
      | forbidden _ => cases hresult
      | refused _ _ => cases hresult
      | untold _ _ _ => cases hresult
      | spared _ _ _ => simp at hresult
      | captured ordered' victim subject _ =>
          rw [ordered] at ordered'
          rw [victimOf_eq_some_iff, stood] at victim
          injection victim.1 with hm
          rw [← hm, hking] at subject
          cases subject
      | won ordered' victim _ winner =>
          rw [ordered] at ordered'
          rw [victimOf_eq_some_iff, stood] at victim
          injection ordered' with hn
          injection victim.1 with hm
          subst hn hm
          exact ⟨_, reported, winner⟩

theorem winner_of_king_captured (h : PlainlyReached g) {op : Operation} {n m : PieceNumber}
    (hcaptures : Captures g op n m) (hking : g.hasAbility m "King" = true) :
    (g.after op.perform).winner = some (g.piece n).team := by
  cases hcaptures with
  | act ordered stood reported =>
      rcases act_of_king_captured h (.act ordered stood reported) hking with ⟨g', hrun, hwinner⟩
      rw [Operation.perform, after_map, after_of_eq_ok hrun]
      exact hwinner

theorem captures_of_winner (h : PlainlyReached g) (hopen : g.winner = none) {id : Text}
    {target : Square} {action : Text} {team : Team}
    (hwon : (g.after (act id target action)).winner = some team) :
    ∃ n m, Captures g (.act id target action) n m ∧ g.hasAbility m "King" = true ∧
      team = (g.piece n).team := by
  have hends := actEnds h id target action
  unfold after at hwon
  generalize hresult : act id target action g = result at hends hwon
  cases hends with
  | forbidden _ | refused _ _ | untold _ _ _ =>
      rw [hopen] at hwon
      cases hwon
  | spared _ _ open_ =>
      rw [open_, hopen] at hwon
      cases hwon
  | captured _ _ _ open_ =>
      rw [open_, hopen] at hwon
      cases hwon
  | @won n m g' ordered victim king winner =>
      rw [winner] at hwon
      injection hwon with hteam
      exact ⟨n, m, Captures.act ordered (victimOf_eq_some_iff.1 victim).1 hresult, king, hteam.symm⟩

end Acting

/-- With built-in rules, a game that is going on is won by an order if and only if the order captures
a piece that is a king at that moment, by its own ability or one that an effect lends.  The capture
is reported and then the end of the game, won by the team of the piece that has captured and lost by
that of the other.  From then on nothing but a new beginning changes who has won, and every order is
refused and leaves the game as it is. -/
theorem won_iff_king_captured {g : Game} (h : PlainlyReached g) :
    (g.winner = none → ∀ op team, (g.after op.perform).winner = some team ↔
      ∃ n m, Captures g op n m ∧ g.hasAbility m "King" = true ∧ team = (g.piece n).team) ∧
    (∀ id target action n m, Captures g (.act id target action) n m →
      g.hasAbility m "King" = true →
      ∃ g', act id target action g =
          .ok [.acted id action target (some (g.piece m).id) true g.turn,
            .over (g.piece n).team (.str (g.piece m).team.word) g.turn] g' ∧
        g'.winner = some (g.piece n).team) ∧
    ∀ winner, g.winner = some winner → ∀ ops, (∀ op ∈ ops, ¬ op.Begins) →
      (g.run ops).winner = some winner ∧
      ∀ order : PieceOrder, order.carryOut (g.run ops) =
        .ok [order.refused ((g.run ops).refusalWhenOver winner order.id)] (g.run ops) := by
  refine ⟨?_, ?_, ?_⟩
  · intro hopen op team
    constructor
    · intro hwon
      by_cases hacts : op.Acts
      · cases op with
        | act id target action =>
            rw [Operation.perform, after_map] at hwon
            exact captures_of_winner h hopen hwon
        | _ => cases hacts
      · rw [winner_perform_of_open hacts hopen] at hwon
        cases hwon
    · intro hcaptured
      rcases hcaptured with ⟨n, m, hcaptures, hking, rfl⟩
      exact winner_of_king_captured h hcaptures hking
  · intro id target action n m hcaptures hking
    exact act_of_king_captured h hcaptures hking
  · intro winner hover ops hops
    have hover' := winner_run_of_over hops hover
    exact ⟨hover', orders_refused_of_over hover'⟩

def crowning : List Operation :=
  [.add (walker []) (.str "white") ⟨0, 0⟩, .add (walker []) (.str "black") ⟨1, 1⟩,
    .start (.str "white"), .applyStatus "black-walker-2" (lending "King" 2)]

theorem plainlyReached_usual (ops : List Operation) : PlainlyReached ((usual .standard).run ops) :=
  ⟨usual .standard, ops, fresh_usual .standard, Registry.builtIn_standard, rfl⟩

/-- The walker with the crown is a king while it wears it, and white wins by its capture. -/
theorem crowned_walker_captured :
    PlainlyReached ((usual .standard).run crowning) ∧
    ((usual .standard).run crowning).winner = none ∧
    (((usual .standard).run crowning).piece 2).abilities = [] ∧
    (∃ g', act "white-walker-1" ⟨1, 1⟩ "attack" ((usual .standard).run crowning) =
      .ok [.acted "white-walker-1" "attack" ⟨1, 1⟩ (some "black-walker-2") true 1,
        .over .white (.str "black") 1] g') ∧
    (((usual .standard).run crowning).after
      (Operation.act "white-walker-1" ⟨1, 1⟩ "attack").perform).winner = some .white := by
  have hreached := plainlyReached_usual crowning
  have hopen : ((usual .standard).run crowning).winner = none := by decide +kernel
  have hplain : (((usual .standard).run crowning).piece 2).abilities.length = 0 := by
    decide +kernel
  have hking : ((usual .standard).run crowning).hasAbility 2 "King" = true := by decide +kernel
  have hstands : ((usual .standard).run crowning).board.pieceAt ⟨1, 1⟩ = some 2 := by decide +kernel
  have hordered : ((usual .standard).run crowning).find? "white-walker-1" = some 1 := by
    decide +kernel
  have hteam : (((usual .standard).run crowning).piece 1).team = .white := by decide +kernel
  have hloser : (((usual .standard).run crowning).piece 2).team = .black := by decide +kernel
  have hid : (((usual .standard).run crowning).piece 2).id = "black-walker-2" := by decide +kernel
  have hturn : ((usual .standard).run crowning).turn = 1 := by decide +kernel
  have hpresent : ((usual .standard).run crowning).find? "black-walker-2" = some 2 := by
    decide +kernel
  have hgone : (((usual .standard).run crowning).after
      (act "white-walker-1" ⟨1, 1⟩ "attack")).find? "black-walker-2" = none := by
    decide +kernel
  have hvictim : ((usual .standard).run crowning).victimOf 1
      (((usual .standard).run crowning).board.pieceAt ⟨1, 1⟩) = some 2 := by
    rw [victimOf_eq_some_iff, hteam, hloser]
    exact ⟨hstands, Team.noConfusion⟩
  have hcaptures : Captures ((usual .standard).run crowning)
      (.act "white-walker-1" ⟨1, 1⟩ "attack") 1 2 := by
    have hends := actEnds hreached "white-walker-1" ⟨1, 1⟩ "attack"
    generalize hresult : act "white-walker-1" ⟨1, 1⟩ "attack" ((usual .standard).run crowning) =
      result at hends
    cases hends with
    | forbidden _ | refused _ _ =>
        rw [after_of_eq_ok hresult, hpresent] at hgone
        cases hgone
    | untold _ _ _ =>
        rw [after_of_eq_error hresult, hpresent] at hgone
        cases hgone
    | @spared n _ ordered nobody _ =>
        rw [hordered] at ordered
        injection ordered with hn
        rw [← hn, hvictim] at nobody
        cases nobody
    | captured _ victim _ _ =>
        rw [victimOf_eq_some_iff, hstands] at victim
        injection victim.1 with hm
        subst hm
        exact Captures.act hordered hstands hresult
    | won _ victim _ _ =>
        rw [victimOf_eq_some_iff, hstands] at victim
        injection victim.1 with hm
        subst hm
        exact Captures.act hordered hstands hresult
  rcases won_iff_king_captured hreached with ⟨hwins, hreports, _⟩
  rcases hreports _ _ _ _ _ hcaptures hking with ⟨g', hrun, _⟩
  rw [hteam, hloser, hid, hturn] at hrun
  refine ⟨hreached, hopen, List.length_eq_zero_iff.1 hplain, ⟨g', hrun⟩, ?_⟩
  exact (hwins hopen _ _).2 ⟨1, 2, hcaptures, hking, hteam.symm⟩

end Game
end Boardcraft
