import Boardcraft.Proofs.Game.ActionTargets
import Boardcraft.Proofs.Game.Announcement
import Boardcraft.Proofs.Game.Losses
import Boardcraft.Proofs.Game.Quiet

/-!
# How abilities bear on what is legal

A check asks the abilities once, after its first gates and before its last ones.  What they answer
reaches the verdict through the context of the question only: whether it has been cancelled, and
which of a few flags hold exactly the true value.  Everything else that they write into the context
is lost on the check.

Abilities that do more than that change the game itself while they are asked.  Even so they cannot
lift the gates of the board and of the shape, and a move ends on a square that is vacant when the
verdict is given.

Either way a verdict has to be put into words, though abilities have no part in that: a refusal that
names a square which cannot be written fails.

## Main statements

* `Inquiry.verdict_congr` says what a verdict depends on;
* `Inquiry.calls` says who is heard while a check is made;
* `Inquiry.within_of_check` is about checks among abilities of any kind;
* `abilities_sway_checks_by_marks_only` puts these together.
-/

namespace Boardcraft

/-- Two contexts look alike to whoever asks whether they are cancelled and whether some flags are
set. -/
structure Context.JudgedAlike (flags : List Text) (c c' : Context) : Prop where
  cancelled : c'.cancelled = c.cancelled
  flag : ∀ name ∈ flags, c'.flagIsSet name = c.flagIsSet name

namespace Game

namespace Inquiry

def flags : Inquiry → List Text
  | move _ _ => [Flag.ignorePathBlocking]
  | act _ _ _ =>
      [Flag.ignoreTargetingRules, Flag.allowTargetSelf, Flag.allowTargetAlly, Flag.allowTargetEnemy]

/-- The first gates: the board, the piece's own square and its shape. -/
def Open (g : Game) : Inquiry → Prop
  | move n target =>
      g.board.Holds target ∧ target ≠ g.squareOf n ∧ target ∈ g.movementTargets n
  | act n target _ =>
      g.board.Holds target ∧ ¬ (target = g.squareOf n ∧ g.board.pieceAt target = none) ∧
        target ∈ g.attackTargets n

def Within (g : Game) : Inquiry → Prop
  | move n target =>
      g.board.Holds target ∧ target ≠ g.squareOf n ∧ target ∈ g.movementTargets n ∧
        g.board.pieceAt target = none
  | act n target _ => g.board.Holds target ∧ target ∈ g.attackTargets n

theorem precheck_eq_none_iff {i : Inquiry} {g : Game} : i.precheck g = none ↔ i.Open g := by
  cases i with
  | move n target => exact movePrecheck_eq_none_iff
  | act n target action => exact actionPrecheck_eq_none_iff

end Inquiry

theorem movementTargets_congr {g g' : Game} {n : PieceNumber} (piece : g'.piece n = g.piece n)
    (square : g'.squareOf n = g.squareOf n) : g'.movementTargets n = g.movementTargets n := by
  unfold movementTargets
  rw [piece, square]

theorem attackTargets_congr {g g' : Game} {n : PieceNumber} (piece : g'.piece n = g.piece n)
    (square : g'.squareOf n = g.squareOf n) : g'.attackTargets n = g.attackTargets n := by
  unfold attackTargets
  rw [piece, square]

/-!
## What a check depends on
-/

/-- The same pieces have been made in two games, and they stand on the same board.  The games may
differ in who listens, in what has been written down and in everything else. -/
structure SameSetting (g g' : Game) : Prop where
  board : g'.board = g.board
  pieces : g'.pieces = g.pieces

namespace SameSetting

variable {g g' g'' : Game}

theorem trans (h : SameSetting g g') (h' : SameSetting g' g'') : SameSetting g g'' :=
  ⟨h'.board.trans h.board, h'.pieces.trans h.pieces⟩

theorem symm (h : SameSetting g g') : SameSetting g' g := ⟨h.board.symm, h.pieces.symm⟩

theorem of_sameButJournal (h : SameButJournal g g') : SameSetting g g' := by
  rcases h with ⟨journal, rfl⟩
  exact ⟨rfl, rfl⟩

theorem piece (h : SameSetting g g') (n : PieceNumber) : g'.piece n = g.piece n := by
  unfold Game.piece
  rw [h.pieces]

theorem squareOf (h : SameSetting g g') (n : PieceNumber) : g'.squareOf n = g.squareOf n := by
  unfold Game.squareOf
  rw [h.board]

theorem movementTargets (h : SameSetting g g') (n : PieceNumber) :
    g'.movementTargets n = g.movementTargets n :=
  movementTargets_congr (h.piece n) (h.squareOf n)

theorem attackTargets (h : SameSetting g g') (n : PieceNumber) :
    g'.attackTargets n = g.attackTargets n :=
  attackTargets_congr (h.piece n) (h.squareOf n)

end SameSetting

namespace Inquiry

variable {i : Inquiry} {g g' k k' : Game} {c c' : Context}

theorem precheck_congr (h : SameSetting g g') (i : Inquiry) : i.precheck g' = i.precheck g := by
  cases i with
  | move n target =>
      simp only [precheck, movePrecheck, h.board, h.squareOf, h.movementTargets, h.piece]
  | act n target action =>
      simp only [precheck, actionPrecheck, h.board, h.squareOf, h.attackTargets, h.piece]

theorem question_congr (h : SameSetting g g') (i : Inquiry) : i.question g' = i.question g := by
  cases i with
  | move n target => simp only [question, moveQuestion, h.squareOf]
  | act n target action => simp only [question, actionQuestion, h.squareOf, h.board]

theorem within_congr (h : SameSetting g g') (i : Inquiry) : i.Within g' ↔ i.Within g := by
  cases i with
  | move n target => simp only [Within, h.board, h.squareOf, h.movementTargets]
  | act n target action => simp only [Within, h.board, h.attackTargets]

/-- A verdict depends on the setting before and after, and on nothing of the context but its
cancellation and the flags of the check. -/
theorem verdict_congr (h : SameSetting g g') (hleft : SameSetting k k')
    (hc : Context.JudgedAlike i.flags c c') : i.verdict g' k' c' = i.verdict g k c := by
  cases i with
  | move n target =>
      have hpath := hc.flag Flag.ignorePathBlocking (by simp [flags])
      simp only [verdict, moveVerdict, hc.cancelled, hpath, h.squareOf, hleft.board, hleft.piece]
  | act n target action =>
      have hrules := hc.flag Flag.ignoreTargetingRules (by simp [flags])
      have hself := hc.flag Flag.allowTargetSelf (by simp [flags])
      have hally := hc.flag Flag.allowTargetAlly (by simp [flags])
      have henemy := hc.flag Flag.allowTargetEnemy (by simp [flags])
      simp only [verdict, actionVerdict, targetingVerdict, hc.cancelled, hrules, hself, hally, henemy,
        h.board, hleft.piece]

theorem holds_of_open (h : i.Open g) : g.board.Holds i.target := by
  cases i with
  | move n target => exact h.1
  | act n target action => exact h.1

/-- If all squares of a board can be written and it holds pieces on them only, there are words for a
verdict unless it is about a square off the board that cannot be written. -/
def GivesIn (g : Game) (i : Inquiry) (verdict : Option Refusal) : Prop :=
  g.board.IsWritable → (∀ s, g.board.isOccupied s = true → g.board.Holds s) →
    (verdict.all Refusal.isTellable = true ↔
      (¬ g.board.Holds i.target → i.target.isWritable = true))

theorem givesIn_of_holds (hon : g.board.Holds i.target) {verdict : Option Refusal}
    (hsquares : ∀ refusal, verdict = some refusal → ∀ s ∈ refusal.squares,
      s = i.target ∨ g.board.isOccupied s = true) : i.GivesIn g verdict := by
  intro hboard hwithin
  refine iff_of_true ?_ fun hoff => absurd hon hoff
  cases verdict with
  | none => rfl
  | some refusal =>
      refine isTellable_of_squares fun s hs => hboard s ?_
      rcases hsquares refusal rfl s hs with rfl | htaken
      · exact hon
      · exact hwithin s htaken

theorem givesIn_of_precheck {refusal : Refusal} (h : i.precheck g = some refusal) :
    i.GivesIn g (some refusal) := by
  by_cases hon : g.board.Holds i.target
  · refine givesIn_of_holds hon fun refusal' hrefusal s hs => Or.inl ?_
    exact mem_squares_of_precheck (h.trans hrefusal) hs
  · rw [precheck_of_offBoard hon] at h
    cases h
    intro _ _
    rw [Option.all_some, isTellable_offBoard, imp_iff_right hon]

theorem givesIn_of_open (h : i.Open g) (hboard : k.board = g.board) :
    i.GivesIn g (i.verdict g k c) := by
  refine givesIn_of_holds (holds_of_open h) fun refusal hrefusal s hs => ?_
  rw [← hboard]
  exact mem_squares_of_verdict hrefusal hs

/-- Among quiet abilities two checks of one inquiry come to the same verdict if their questions come
back alike. -/
theorem check_agrees (h : SameSetting g g') (hquiet : ListenersReactBy Reaction.MarksContext g)
    (hquiet' : ListenersReactBy Reaction.MarksContext g')
    (halike : i.Open g → ∀ c c' k k', announce (i.question g) g = .ok c k →
      announce (i.question g) g' = .ok c' k' → Context.JudgedAlike i.flags c c') :
    ∃ verdict k k', i.check g = give verdict k ∧ i.check g' = give verdict k' ∧
      i.GivesIn g verdict := by
  cases hpre : i.precheck g with
  | some refusal =>
      have hpre' := (precheck_congr h i).trans hpre
      exact ⟨some refusal, g, g', check_of_precheck_some hpre, check_of_precheck_some hpre',
        givesIn_of_precheck hpre⟩
  | none =>
      have hopen := precheck_eq_none_iff.1 hpre
      have hpre' := (precheck_congr h i).trans hpre
      rcases announce_of_marksContext hquiet (i.question g) with ⟨c, k, hrun, hsame⟩
      rcases announce_of_marksContext hquiet' (i.question g) with ⟨c', k', hrun', hsame'⟩
      -- The listeners have written into their journals only, so the verdicts are given in like games.
      have hleft : SameSetting k k' :=
        ((SameSetting.of_sameButJournal hsame).symm.trans h).trans (.of_sameButJournal hsame')
      have hverdict := verdict_congr h hleft (halike hopen c c' k k' hrun hrun')
      rw [← question_congr h i] at hrun'
      refine ⟨i.verdict g k c, k, k', check_of_announce hpre hrun, ?_,
        givesIn_of_open hopen hsame.board⟩
      rw [check_of_announce hpre' hrun', hverdict]

/-!
## Who is heard
-/

/-- In a game a check lets some listeners be heard, and nobody else. -/
structure Calls (i : Inquiry) (g : Game) (called : List Subscription) : Prop where
  /-- If the gates are open, they are those whom the announcement of the question calls. -/
  announced : i.Open g → Scene.Announces endTurn i.event ⟨g, i.question g⟩ called
  /-- Somebody is heard if and only if the gates are open, provided that anyone listens. -/
  someone_iff : called ≠ [] ↔ i.Open g ∧ g.dispatcher.listeners i.event ≠ []
  refused : ¬ i.Open g → ∃ refusal, i.check g = give (some refusal) g
  answered : i.Open g → ∀ context k, announce (i.question g) g = .ok context k →
    i.check g = give (i.verdict g k context) k
  /-- The check leaves behind what these listeners do when they hear the question. -/
  left : g.after i.check =
    ((⟨g, i.question g⟩ : Scene).after (Scene.hearAll endTurn called)).game
  /-- If those who listen touch nothing but the context and who listens, the record of the game tells
  who has been heard. -/
  recorded : ListenersReactBy Reaction.TouchesListening g →
    (g.after i.check).journal =
      g.journal ++ Scene.allSightings endTurn called ⟨g, i.question g⟩

theorem after_check_of_open (h : i.Open g) :
    g.after i.check =
      ((⟨g, i.question g⟩ : Scene).after (Scene.announce endTurn i.event)).game := by
  rw [after_congr (check_of_precheck_none (precheck_eq_none_iff.2 h)), after_bind_get_give,
    ← event_question i g]
  exact after_announceWith endTurn (i.question g) g

theorem calls_of_open (h : i.Open g) :
    i.Calls g (Scene.heard endTurn (g.dispatcher.listeners i.event) ⟨g, i.question g⟩) := by
  have hannounces := Scene.announces_heard endTurn i.event ⟨g, i.question g⟩
  constructor
  · exact fun _ => hannounces
  · rw [Ne, Scene.heard_eq_nil_iff (cancelled_question i g)]
    exact (and_iff_right h).symm
  · exact fun hclosed => absurd h hclosed
  · exact fun _ context k => check_of_announce (precheck_eq_none_iff.2 h)
  · rw [after_check_of_open h, hannounces.left]
  · intro hlisten
    have hcalled := fun entry hentry =>
      hlisten.mem_listeners i.event entry (hannounces.shortest.initial.subset hentry)
    rw [after_check_of_open h, hannounces.heeded hcalled]
    rfl

theorem check_of_not_open (h : ¬ i.Open g) : ∃ refusal, i.check g = give (some refusal) g := by
  cases hpre : i.precheck g with
  | none => exact absurd (precheck_eq_none_iff.1 hpre) h
  | some refusal => exact ⟨refusal, check_of_precheck_some hpre⟩

theorem calls_of_not_open (h : ¬ i.Open g) : i.Calls g [] := by
  rcases check_of_not_open h with ⟨refusal, hrun⟩
  constructor
  · exact fun hopen => absurd hopen h
  · exact iff_of_false (fun hne => hne rfl) fun hboth => h hboth.1
  · exact fun _ => ⟨refusal, hrun⟩
  · exact fun hopen => absurd hopen h
  · rw [after_congr hrun, after_give]
    rfl
  · intro _
    rw [after_congr hrun, after_give]
    exact (List.append_nil g.journal).symm

theorem calls (i : Inquiry) (g : Game) : ∃ called, i.Calls g called := by
  by_cases h : i.Open g
  · exact ⟨_, calls_of_open h⟩
  · exact ⟨_, calls_of_not_open h⟩

/-!
## What holds of everything legal
-/

theorem open_of_check (h : i.check g = .ok none g') : i.Open g :=
  precheck_eq_none_iff.1 (precheck_of_check h)

/-- Whatever the abilities are, what they leave to be legal lies on the board and in the shape of the
piece, and a move leads to another square, which is vacant by then. -/
theorem within_of_check (h : i.check g = .ok none g') : i.Within g' := by
  have hopen := open_of_check h
  have hstays := stays_of_check h
  cases i with
  | move n target =>
      rcases hopen with ⟨hon, haway, hshape⟩
      have htargets := movementTargets_congr (hstays.piece n) (hstays.square n)
      refine ⟨(hstays.holds_iff target).2 hon, ?_, ?_, ?_⟩
      · rwa [hstays.square]
      · rwa [htargets]
      · exact Board.isOccupied_eq_false_iff.1 (isOccupied_of_checkMove h)
  | act n target action =>
      rcases hopen with ⟨hon, _, hshape⟩
      have htargets := attackTargets_congr (hstays.piece n) (hstays.square n)
      exact ⟨(hstays.holds_iff target).2 hon, by rwa [htargets]⟩

theorem sameButJournal_of_check (hreacts : ListenersReactBy Reaction.TouchesContext g)
    {refusal : Option Refusal} (h : i.check g = .ok refusal g') : SameButJournal g g' :=
  after_of_eq_ok h ▸ sameButJournal_check hreacts i

end Inquiry

/-- Abilities that keep to the context sway a check by its cancellation and by the flags of the check
only: both games come to the same verdict, and both give it or fail because it names a square that
cannot be written.  On a board that can be written and holds its pieces on its squares only, this is so
exactly if the inquiry is about a square off the board that cannot.

Abilities are heard if and only if the first gates are open.  What a check lets pass among any
abilities whatever was within bounds when they were asked and is when the verdict is given: a
listener may take away the piece on a square, and then the square is vacant. -/
theorem abilities_sway_checks_by_marks_only (i : Inquiry) :
    (∀ g g' : Game, SameSetting g g' → ListenersReactBy Reaction.MarksContext g →
      ListenersReactBy Reaction.MarksContext g' →
      (i.Open g → ∀ c c' k k', announce (i.question g) g = .ok c k →
        announce (i.question g) g' = .ok c' k' → Context.JudgedAlike i.flags c c') →
      ∃ (verdict : Option Refusal) (k k' : Game),
        (i.check g = if verdict.all Refusal.isTellable then .ok verdict k
          else .error .oversizedNumber k) ∧
        (i.check g' = if verdict.all Refusal.isTellable then .ok verdict k'
          else .error .oversizedNumber k') ∧
        (g.board.IsWritable → (∀ s, g.board.isOccupied s = true → g.board.Holds s) →
          (verdict.all Refusal.isTellable = true ↔
            (¬ g.board.Holds i.target → i.target.isWritable = true)))) ∧
    (∀ g : Game, ∃ called, i.Calls g called) ∧
    ∀ g g' : Game, i.check g = .ok none g' →
      i.Open g ∧ i.Within g' ∧ (ListenersReactBy Reaction.TouchesContext g → i.Within g) := by
  refine ⟨?_, i.calls, ?_⟩
  · intro g g' hsetting hquiet hquiet' halike
    rcases Inquiry.check_agrees hsetting hquiet hquiet' halike with
      ⟨verdict, k, k', hcheck, hcheck', hgives⟩
    exact ⟨verdict, k, k', hcheck.trans (give_eq verdict k), hcheck'.trans (give_eq verdict k'),
      hgives⟩
  · intro g g' hcheck
    have hwithin := Inquiry.within_of_check hcheck
    refine ⟨Inquiry.open_of_check hcheck, hwithin, ?_⟩
    intro hreacts
    have hsame := Inquiry.sameButJournal_of_check hreacts hcheck
    exact (Inquiry.within_congr (.of_sameButJournal hsame) i).1 hwithin

/-! A rumour almost lifts the rule that bars the way, beside other things that it writes. -/

def rumour : Ability where
  serial := 1
  rule := ⟨"Rumour", [.moveValidate], 0, .scripted (.when .always
    [.setFlag Flag.ignorePathBlocking (.int 1), .setFlag Flag.allowTargetSelf (.bool true),
      .note "rumour" (.str "The way is clear")])⟩

/-- A piece that may move two squares ahead or one aside, and a piece in its way. -/
def street : Game :=
  { usual .standard with
    board := ((usual .standard).board.put 1 ⟨0, 0⟩).put 2 ⟨0, 1⟩
    pieces := .ofList [(1, { id := "a", movement := [⟨0, 2⟩, ⟨1, 0⟩] }), (2, { id := "b" })] }

def rumouring : Game :=
  street.withDispatcher fun d => d.subscribeAbility rumour

theorem street_marks_context : ListenersReactBy Reaction.MarksContext street := by
  intro s hs
  cases hs

theorem rumouring_marks_context : ListenersReactBy Reaction.MarksContext rumouring := by
  intro s hs
  rcases List.mem_singleton.1 hs with rfl
  apply Rule.reactsBy_when
  simp [Reaction.MarksContext]

theorem judgedAlike_of_rumour {c c' : Context} {k k' : Game}
    (hrun : announce (street.moveQuestion 1 ⟨0, 2⟩) street = .ok c k)
    (hrun' : announce (street.moveQuestion 1 ⟨0, 2⟩) rumouring = .ok c' k') :
    Context.JudgedAlike [Flag.ignorePathBlocking] c c' := by
  have hsilent : c = street.moveQuestion 1 ⟨0, 2⟩ := by
    injection hrun with hc
    exact hc.symm
  have hheard : c' = (((street.moveQuestion 1 ⟨0, 2⟩).setFlag Flag.ignorePathBlocking
      (.int 1)).setFlag Flag.allowTargetSelf (.bool true)).note "rumour"
        (.str "The way is clear") := by
    injection hrun' with hc
    exact hc.symm
  rw [hsilent, hheard]
  constructor
  · rfl
  · decide +kernel

/-- The rumour is heard, but it opens no way that is barred, and what stays legal is within bounds. -/
theorem rumour_sways_nobody :
    (∃ g', checkMove 1 ⟨0, 2⟩ rumouring = .ok (some (.pathBlocked ⟨0, 1⟩)) g') ∧
    (∃ called, called ≠ [] ∧ (Inquiry.move 1 ⟨0, 2⟩).Calls rumouring called) ∧
    ∃ g', checkMove 1 ⟨1, 0⟩ rumouring = .ok none g' ∧
      (Inquiry.move 1 ⟨1, 0⟩).Within rumouring := by
  have hblocked := abilities_sway_checks_by_marks_only (.move 1 ⟨0, 2⟩)
  have hfree := abilities_sway_checks_by_marks_only (.move 1 ⟨1, 0⟩)
  refine ⟨?_, ?_, ?_⟩
  · rcases hblocked.1 street rumouring ⟨rfl, rfl⟩ street_marks_context rumouring_marks_context
      fun _ _ _ _ _ => judgedAlike_of_rumour with ⟨verdict, k, k', hcheck, hcheck', _⟩
    have hpre : street.movePrecheck 1 ⟨0, 2⟩ = none := by decide +kernel
    have hsilent : announce (street.moveQuestion 1 ⟨0, 2⟩) street =
        .ok (street.moveQuestion 1 ⟨0, 2⟩) street := rfl
    have hblocker : street.moveVerdict (street.moveQuestion 1 ⟨0, 2⟩) 1 (street.squareOf 1) ⟨0, 2⟩ =
        some (.pathBlocked ⟨0, 1⟩) := by decide +kernel
    have htold : (Refusal.pathBlocked ⟨0, 1⟩).isTellable = true := by decide +kernel
    have hgiven : checkMove 1 ⟨0, 2⟩ street = give (some (.pathBlocked ⟨0, 1⟩)) street := by
      rw [checkMove_of_movePrecheck_none hpre, bind_of_eq_ok _ hsilent, get_bind, hblocker]
    rw [give_some, if_pos htold] at hgiven
    have hverdict := hgiven.symm.trans hcheck
    split at hverdict
    · next hgiven =>
        injection hverdict with hrefusal
        rw [if_pos hgiven, ← hrefusal] at hcheck'
        exact ⟨k', hcheck'⟩
    · cases hverdict
  · rcases hblocked.2.1 rumouring with ⟨called, hcalls⟩
    refine ⟨called, hcalls.someone_iff.2 ⟨?_, ?_⟩, hcalls⟩
    · exact Inquiry.precheck_eq_none_iff.1 (by decide +kernel)
    · exact List.cons_ne_nil _ _
  · have hlegal : ∃ g', checkMove 1 ⟨1, 0⟩ rumouring = .ok none g' := ⟨_, rfl⟩
    rcases hlegal with ⟨g', hcheck⟩
    exact ⟨g', hcheck,
      (hfree.2.2 rumouring g' hcheck).2.2 rumouring_marks_context.touchesContext⟩

/-- A square so far away that its number of columns cannot be written. -/
def farAway : Square := ⟨(Nat.pow 10 Text.numeralLimit : Nat), 0⟩

theorem check_unanswered_for_farAway :
    ¬ ∀ (i : Inquiry) (g : Game), ListenersReactBy Reaction.MarksContext g →
      ∃ refusal k, i.check g = .ok refusal k := by
  intro hanswered
  rcases hanswered (.move 1 farAway) street street_marks_context with ⟨refusal, k, hcheck⟩
  have hoff : ¬ street.board.Holds (Inquiry.move 1 farAway).target := by decide +kernel
  have huntold : farAway.isWritable = false := by decide +kernel
  have hgiven := Inquiry.check_of_precheck_some (Inquiry.precheck_of_offBoard hoff)
  rw [give_some, isTellable_offBoard, show (Inquiry.move 1 farAway).target = farAway from rfl,
    huntold, if_neg Bool.false_ne_true, hcheck] at hgiven
  cases hgiven

end Game
end Boardcraft
