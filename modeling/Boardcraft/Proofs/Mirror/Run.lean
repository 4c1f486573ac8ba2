import Boardcraft.Proofs.Mirror.Commands

/-!
# Runs in the mirror

Two games on boards of one size, in which the same happens with the teams swapped and the board
upside down, stay images of each other, and every operation on the one answers with the image of
what the corresponding operation on the other answers.  So neither team has an advantage but the
first move.

The one exception is no matter of the rules.  A question or an order may be refused for a square that
can be written, while the image of that square cannot; then one of the two is answered and the other
fails, and both games are left as they were.

## Main statements

* `run_mirror` and `answer_mirror` are about the images of games and answers;
* `mirrored_runs_stay_mirrored` says what that means for the pieces, their squares and effects, the
  team to move and the winner;
* `answered_on_one_side` is a question that is answered on one side of the mirror only.
-/

namespace Boardcraft

/-- An operation that asks about a piece only if it has been put on the board.  No piece is known
before that. -/
def Operation.AsksOfPlaced (g : Game) : Operation → Prop
  | legalMoves n => g.HasStood n
  | legalTargets n _ => g.HasStood n
  | checkMove n _ => g.HasStood n
  | checkAction n _ _ => g.HasStood n
  | _ => True

/-- An operation that is about squares which can be written on both sides of the mirror, or on
neither. -/
def Operation.AsksEvenly (height : Int) (g : Game) : Operation → Prop
  | move _ target => target.WritesEvenly height
  | act _ target _ => target.WritesEvenly height
  | checkMove _ target => target.WritesEvenly height
  | checkAction _ target _ => target.WritesEvenly height
  | legalMoves n => ∀ s ∈ g.movementTargets n, s.WritesEvenly height
  | legalTargets n _ => ∀ s ∈ g.attackTargets n, s.WritesEvenly height
  | _ => True

namespace Game

variable {height : Int} {g : Game}

/-!
## Answers
-/

def mirrorAnswer (height : Int) (a : Except GameError Answer) : Except GameError Answer :=
  (a.map (Answer.mirror height)).mapError (GameError.mirror height)

def AsksOfPlaced (g : Game) : List Operation → Prop
  | [] => True
  | op :: rest => op.AsksOfPlaced g ∧ AsksOfPlaced (g.after op.perform) rest

theorem mirrorsIf_perform (hg : Orderly height g) {op : Operation} (hasks : op.AsksOfPlaced g) :
    MirrorsIf (g.board.IsWritable ∧ op.AsksEvenly height g) height (Answer.mirror height) g
      op.perform (op.mirror height).perform := by
  cases op with
  | add blueprint team square =>
      exact .of_mirrors (.map _ _ (fun _ => rfl) (mirrors_addPiece hg.height blueprint team square))
  | setup blueprints entries =>
      exact .of_mirrors (.map _ _ (fun _ => rfl) (mirrors_setup blueprints hg entries))
  | remove id =>
      exact .of_mirrors (.map _ _ (fun _ => rfl) (mirrors_removePiece hg.grounded hg.height id))
  | start first => exact .of_mirrors (.map _ _ (fun _ => rfl) (mirrors_start hg first))
  | move id target => exact .map _ _ (fun _ => rfl) (mirrorsIf_move hg id target)
  | act id target action => exact .map _ _ (fun _ => rfl) (mirrorsIf_act hg id target action)
  | applyStatus id definition =>
      exact .of_mirrors (.map _ _ (fun _ => rfl) (mirrors_applyStatus g id definition))
  | endTurn => exact .of_mirrors (.map _ _ (fun _ => rfl) (mirrors_endTurn hg))
  | legalMoves n => exact .map _ _ (fun _ => rfl) (mirrorsIf_legalMoves hg hasks)
  | legalTargets n action => exact .map _ _ (fun _ => rfl) (mirrorsIf_legalTargets hg hasks action)
  | checkMove n target =>
      exact .map _ _ (fun _ => rfl) (mirrorsIf_check hg (i := .move n target) hasks)
  | checkAction n target action =>
      exact .map _ _ (fun _ => rfl) (mirrorsIf_check hg (i := .act n target action) hasks)

theorem answer_mirror {op : Operation}
    (h : Mirrors height (Answer.mirror height) g op.perform (op.mirror height).perform) :
    (g.mirror height).answer (op.mirror height) = mirrorAnswer height (g.answer op) := by
  unfold Mirrors at h
  unfold answer
  rw [h]
  cases op.perform g <;> rfl

theorem answer_of_failsToTell {op : Operation} (h : FailsToTell op.perform g) :
    g.answer op = .error .oversizedNumber := by
  rcases h with ⟨g', h⟩
  unfold answer
  rw [h]

/-!
## Runs
-/

theorem orderly_operation (hg : Orderly height g) (op : Operation) :
    Orderly height (g.after op.perform) :=
  run_keeps orderly_step orderly_add hg [op]

theorem orderly_fresh (hfresh : Fresh g) (hbuiltIn : g.registry.BuiltIn) :
    Orderly g.board.height g := by
  refine ⟨accounted_run hfresh [], (grounded_run hfresh []).2, hbuiltIn, ?_, rfl⟩
  exact pieces_run (fun _ _ _ _ made => made.mark) hfresh []

theorem run_mirror (hg : Orderly height g) {ops : List Operation} (hasks : g.AsksOfPlaced ops) :
    (g.mirror height).run (ops.map (Operation.mirror height)) = (g.run ops).mirror height := by
  induction ops generalizing g with
  | nil => rfl
  | cons op rest ih =>
      show ((g.mirror height).after (op.mirror height).perform).run _ =
        ((g.after op.perform).run rest).mirror height
      rw [(mirrorsIf_perform hg hasks.1).left]
      exact ih (orderly_operation hg op) hasks.2

theorem AsksOfPlaced.take {ops : List Operation} (h : g.AsksOfPlaced ops) (k : Nat) :
    g.AsksOfPlaced (ops.take k) := by
  induction ops generalizing g k with
  | nil =>
      rw [List.take_nil]
      exact trivial
  | cons op rest ih =>
      cases k with
      | zero => exact trivial
      | succ k => exact ⟨h.1, ih h.2 k⟩

theorem AsksOfPlaced.getElem? {ops : List Operation} (h : g.AsksOfPlaced ops) {k : Nat}
    {op : Operation} (hop : ops[k]? = some op) : op.AsksOfPlaced (g.run (ops.take k)) := by
  induction ops generalizing g k with
  | nil => cases hop
  | cons first rest ih =>
      cases k with
      | zero =>
          cases hop
          exact h.1
      | succ k => exact ih h.2 hop

theorem isWritable_run (hboard : g.board.IsWritable) (ops : List Operation) :
    (g.run ops).board.IsWritable := by
  have hsize : (g.run ops).board.width = g.board.width ∧
      (g.run ops).board.height = g.board.height :=
    run_keeps (P := fun g' => g'.board.width = g.board.width ∧ g'.board.height = g.board.height)
      (fun _ _ hstep h => ⟨(size_step hstep).1.trans h.1, (size_step hstep).2.trans h.2⟩)
      (fun g' blueprint team square h => ⟨(size_add g' blueprint team square).1.trans h.1,
        (size_add g' blueprint team square).2.trans h.2⟩) ⟨rfl, rfl⟩ ops
  intro s hs
  refine hboard s ?_
  unfold Board.Holds at hs ⊢
  rwa [hsize.1, hsize.2] at hs

theorem mirror_fresh (hfresh : Fresh g) (height : Int) : g.mirror height = g := by
  rcases hfresh with ⟨width, rows, board, registry, hmake, rfl⟩
  unfold Board.make at hmake
  split at hmake
  · cases hmake
  · cases hmake
    rfl

/-!
## Images of each other
-/

/-- Two games on boards of one size, each of which is the other seen in the mirror. -/
structure MirrorImages (g g' : Game) : Prop where
  width : g'.board.width = g.board.width
  height : g'.board.height = g.board.height
  /-- Pieces correspond by number. -/
  inPlay : g'.inPlay = g.inPlay
  id : ∀ n ∈ g.inPlay, (g'.piece n).id = (g.piece n).id.mirror
  name : ∀ n ∈ g.inPlay, (g'.piece n).name = (g.piece n).name
  emoji : ∀ n ∈ g.inPlay, (g'.piece n).emoji = (g.piece n).emoji
  movement : ∀ n ∈ g.inPlay, (g'.piece n).movement = Offsets.flipVertical (g.piece n).movement
  attack : ∀ n ∈ g.inPlay, (g'.piece n).attack = Offsets.flipVertical (g.piece n).attack
  abilities : ∀ n ∈ g.inPlay, g'.abilitiesOf n = g.abilitiesOf n
  team : ∀ n ∈ g.inPlay, (g'.piece n).team = (g.piece n).team.other
  square : ∀ n ∈ g.inPlay, g'.squareOf n = (g.squareOf n).mirror g.board.height
  held : ∀ s, g'.board.pieceAt (s.mirror g.board.height) = g.board.pieceAt s
  /-- The effects on a piece are the same, with the same turns left. -/
  effects : ∀ n ∈ g.inPlay,
    (g'.statusesOf n).map g'.effect? = (g.statusesOf n).map g.effect?
  toMove : g'.toMove = g.toMove.map Team.other
  turn : g'.turn = g.turn
  winner : g'.winner = g.winner.map Team.other

theorem mirrorImages_mirror (hg : Orderly height g) : MirrorImages g (g.mirror height) := by
  have hheight := hg.height
  subst hheight
  have hpiece : ∀ n ∈ g.inPlay, (g.mirror g.board.height).piece n = (g.piece n).mirror := by
    intro n hn
    rcases (hg.hasStood hn).made with ⟨p, hp⟩
    exact piece_mirror hp
  constructor
  case width => rfl
  case height => rfl
  case inPlay => exact inPlay_mirror _ g
  case id => exact fun n _ => id_mirror _ g n
  case name => exact fun n _ => name_mirror _ g n
  case emoji =>
    intro n hn
    rw [hpiece n hn]
    rfl
  case movement => exact fun n _ => movement_mirror _ g n
  case attack => exact fun n _ => attack_mirror _ g n
  case abilities =>
    intro n _
    unfold abilitiesOf
    rw [abilities_mirror]
    rfl
  case team => exact fun n hn => (hg.hasStood hn).team
  case square => exact fun n hn => (hg.hasStood hn).squareOf
  case held => exact fun s => Board.pieceAt_mirror s
  case effects => exact fun _ _ => rfl
  case toMove => rfl
  case turn => rfl
  case winner => rfl

/-- Two runs from fresh games, of which one does what the other does with the teams swapped and the
squares mirrored, lead after any number of operations to games that are images of each other.  What
is answered in the one is the image of what is answered in the other, refusals being refused for the
same reason, unless one of the two fails because a number cannot be written.  On a board whose
squares can all be written, this takes an operation about a square that can be written on one side of
the mirror only. -/
theorem mirrored_runs_stay_mirrored (hfresh : Fresh g) (hbuiltIn : g.registry.BuiltIn)
    {ops : List Operation} (hasks : g.AsksOfPlaced ops) :
    (∀ k, MirrorImages (g.run (ops.take k))
      (g.run ((ops.map (Operation.mirror g.board.height)).take k))) ∧
    (∀ refusal : Refusal, (refusal.mirror g.board.height).reason = refusal.reason) ∧
    ∀ k op, ops[k]? = some op →
      let answered := (g.run (ops.take k)).answer op
      let answered' := (g.run ((ops.map (Operation.mirror g.board.height)).take k)).answer
        (op.mirror g.board.height)
      (answered' = mirrorAnswer g.board.height answered ∨
        answered = .error .oversizedNumber ∨ answered' = .error .oversizedNumber) ∧
      (g.board.IsWritable → op.AsksEvenly g.board.height (g.run (ops.take k)) →
        answered' = mirrorAnswer g.board.height answered) := by
  -- Both runs begin in one game, which is its own image.
  have hg := orderly_fresh hfresh hbuiltIn
  have hself := mirror_fresh hfresh g.board.height
  have hruns : ∀ k, g.run ((ops.map (Operation.mirror g.board.height)).take k) =
      (g.run (ops.take k)).mirror g.board.height := by
    intro k
    have hrun := run_mirror hg (hasks.take k)
    rwa [hself, List.map_take] at hrun
  have horderly : ∀ k, Orderly g.board.height (g.run (ops.take k)) :=
    fun k => run_keeps orderly_step orderly_add hg _
  refine ⟨?_, Refusal.reason_mirror g.board.height, ?_⟩
  · intro k
    rw [hruns]
    exact mirrorImages_mirror (horderly k)
  · intro k op hop
    have hperform := mirrorsIf_perform (horderly k) (hasks.getElem? hop)
    dsimp only
    rw [hruns]
    constructor
    · exact hperform.alike.imp answer_mirror (Or.imp answer_of_failsToTell answer_of_failsToTell)
    · intro hboard heven
      exact answer_mirror (hperform.faithful ⟨isWritable_run hboard _, heven⟩)

def conquest : List Operation :=
  [.add (walker []) (.str "white") ⟨0, 0⟩,
    .add (walker [{ name := "King" }]) (.str "black") ⟨1, 1⟩, .start (.str "white"),
    .legalMoves 1, .act "white-walker-1" ⟨1, 1⟩ "attack"]

theorem mirrored_conquest :
    Fresh (usual .standard) ∧ (usual .standard).AsksOfPlaced conquest ∧
    ((usual .standard).run conquest).winner = some .white ∧
    ((usual .standard).run (conquest.map (Operation.mirror 8))).winner = some .black := by
  have hfresh := fresh_usual .standard
  have hstood : ((usual .standard).run (conquest.take 3)).HasStood 1 := by
    have horderly := run_keeps orderly_step orderly_add
      (orderly_fresh hfresh Registry.builtIn_standard) (conquest.take 3)
    exact horderly.hasStood (by decide +kernel)
  have hasks : (usual .standard).AsksOfPlaced conquest :=
    ⟨trivial, trivial, trivial, hstood, trivial, trivial⟩
  have hwinner : ((usual .standard).run conquest).winner = some .white := by decide +kernel
  have hmirrored :=
    ((mirrored_runs_stay_mirrored hfresh Registry.builtIn_standard hasks).1 5).winner
  change ((usual .standard).run (conquest.map (Operation.mirror 8))).winner =
    ((usual .standard).run conquest).winner.map Team.other at hmirrored
  rw [hwinner] at hmirrored
  exact ⟨hfresh, hasks, hwinner, hmirrored⟩

/-- A piece that reaches as far ahead as can be said, from a square where that leads beyond. -/
def towering : List Operation :=
  [.add { walker [] with movement := .object farNorth } (.str "white") ⟨0, 1⟩, .legalMoves 1]
where
  farNorth : Fields :=
    [("kind", .str "point"),
      ("delta", .object [("x", .int 0), ("y", .int (Nat.pow 10 Text.numeralLimit - 1 : Nat))])]

/-- The corresponding questions are not always answered alike: the white piece is told nothing, and the
black one that there is nowhere to go. -/
theorem answered_on_one_side :
    Fresh (usual .standard) ∧ (usual .standard).AsksOfPlaced towering ∧
    ((usual .standard).run (towering.take 1)).answer (.legalMoves 1) = .error .oversizedNumber ∧
    ((usual .standard).run ((towering.map (Operation.mirror 8)).take 1)).answer
      ((Operation.legalMoves 1).mirror 8) = .ok (.squares []) := by
  have hfresh := fresh_usual .standard
  have hbegins := orderly_fresh hfresh Registry.builtIn_standard
  have horderly := run_keeps orderly_step orderly_add hbegins (towering.take 1)
  have horderly' := run_keeps orderly_step orderly_add hbegins
    ((towering.map (Operation.mirror 8)).take 1)
  have hmem : 1 ∈ ((usual .standard).run (towering.take 1)).inPlay := by decide +kernel
  have hmem' : 1 ∈ ((usual .standard).run
      ((towering.map (Operation.mirror 8)).take 1)).inPlay := by decide +kernel
  have huntold : ¬ ((usual .standard).run (towering.take 1)).movesTellable 1 = true := by
    decide +kernel
  have htold : ((usual .standard).run
      ((towering.map (Operation.mirror 8)).take 1)).movesTellable 1 = true := by decide +kernel
  have hnowhere : ((usual .standard).run
      ((towering.map (Operation.mirror 8)).take 1)).reachable 1 = [] := by decide +kernel
  have hmoves := legalMoves_of_builtIn horderly.accounted horderly.builtIn hmem
  have hmoves' := legalMoves_of_builtIn horderly'.accounted horderly'.builtIn hmem'
  rw [if_neg huntold] at hmoves
  rw [if_pos htold, hnowhere] at hmoves'
  refine ⟨hfresh, ⟨trivial, horderly.hasStood hmem, trivial⟩, ?_, ?_⟩
  · have hfails : FailsToTell (Operation.legalMoves 1).perform
        ((usual .standard).run (towering.take 1)) := ⟨_, map_of_eq_error _ hmoves⟩
    exact answer_of_failsToTell hfails
  · unfold answer
    rw [show ((Operation.legalMoves 1).mirror 8).perform _ = _ from
      map_of_eq_ok Answer.squares hmoves']

end Game
end Boardcraft
