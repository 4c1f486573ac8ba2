import Boardcraft.Proofs.Game.Quiet

/-!
# Whole games, turn by turn

What is reported in the course of a game, from its beginning on, is a list of outcomes.  Among quiet
abilities, those that tell of a piece that has moved or acted carry the numbers of the turns in order,
and the two teams take them by turns.  Orders that are refused in between use up no turn, and when the
game is over nobody moves or acts any more.

## Main statements

* `reported` says what a single operation reports and what becomes of the turn, and
  `course_reports` carries it over to runs;
* `turns_alternate` follows a run from the beginning of a game.
-/

namespace Boardcraft

/-- Whether an operation neither begins a game nor ends a turn of itself. -/
def Operation.Continues : Operation → Prop
  | start _ | endTurn => False
  | _ => True

def PieceOrder.operation : PieceOrder → Operation
  | move id target => .move id target
  | act id target action => .act id target action

theorem Outcome.not_isRefused_of_applied {outcome : Outcome} {done : Text × Nat}
    (h : outcome.applied? = some done) : ¬ outcome.isRefused = true := by
  cases outcome <;> first | exact Bool.false_ne_true | cases h

theorem Operation.Continues.cases {op : Operation} (h : op.Continues) :
    op.Arranges ∨ op.Asks ∨ ∃ order : PieceOrder, op = order.operation := by
  cases op with
  | start first => cases h
  | endTurn => cases h
  | move id target => exact Or.inr (Or.inr ⟨.move id target, rfl⟩)
  | act id target action => exact Or.inr (Or.inr ⟨.act id target action, rfl⟩)
  | _ => first | exact Or.inl trivial | exact Or.inr (Or.inl trivial)

/-- An outcome that an operation has reported, with the games before and after the operation. -/
structure Report where
  before : Game
  after : Game
  outcome : Outcome

/-- The team of the piece that has moved or acted, and the turn in which it did, if that is what is
reported.  The piece is the one that its id stood for when the order was given. -/
def Report.applied? (r : Report) : Option (Option Team × Nat) :=
  r.outcome.applied?.map fun done =>
    ((r.before.find? done.1).map fun n => (r.before.piece n).team, done.2)

/-- The team that takes the turns of a game in order, counted from zero. -/
def Team.onTurn (first : Team) (i : Nat) : Team := if i % 2 = 0 then first else first.other

theorem Team.other_onTurn (first : Team) (i : Nat) :
    (first.onTurn i).other = first.onTurn (i + 1) := by
  unfold Team.onTurn
  rcases Nat.mod_two_eq_zero_or_one i with heven | hodd
  · have hnext : ¬ (i + 1) % 2 = 0 := by omega
    rw [if_pos heven, if_neg hnext]
  · have hnext : (i + 1) % 2 = 0 := by omega
    simp [hodd, hnext]

namespace Game

/-!
## What is reported
-/

def outcomes (g : Game) (op : Operation) : List Outcome :=
  match op.perform g with
  | .ok (.outcomes reported) _ => reported
  | _ => []

def reportsOf (g : Game) (op : Operation) : List Report :=
  (g.outcomes op).map fun outcome => ⟨g, g.after op.perform, outcome⟩

def reports (g : Game) : List Operation → List Report
  | [] => []
  | op :: rest => g.reportsOf op ++ (g.after op.perform).reports rest

theorem map_eq_ok {α β : Type} {f : α → β} {m : GameM α} {g g' : Game} {b : β}
    (h : (f <$> m) g = .ok b g') : ∃ a, m g = .ok a g' ∧ f a = b := by
  change EStateM.map f m g = .ok b g' at h
  unfold EStateM.map at h
  cases hrun : m g with
  | ok a g₁ =>
      rw [hrun] at h
      injection h with hb hg
      exact ⟨a, by rw [hg], hb⟩
  | error e g₁ =>
      rw [hrun] at h
      cases h

/-- Only orders have outcomes, and the beginning of a game. -/
theorem outcomes_eq_nil (g : Game) {op : Operation} (h : op.Arranges ∨ op.Asks) :
    g.outcomes op = [] := by
  unfold outcomes
  split
  · next reported g' hrun =>
      cases op with
      | start first => rcases h with h | h <;> cases h
      | move id target => rcases h with h | h <;> cases h
      | act id target action => rcases h with h | h <;> cases h
      | _ =>
          rcases map_eq_ok hrun with ⟨a, _, ha⟩
          cases ha
  · rfl

theorem outcomes_of_eq_ok {g g' : Game} {order : PieceOrder} {reported : List Outcome}
    (h : order.carryOut g = .ok reported g') : g.outcomes order.operation = reported := by
  have hrun : order.operation.perform g = .ok (.outcomes reported) g' := by
    cases order with
    | move id target => exact map_of_eq_ok Answer.outcomes h
    | act id target action => exact map_of_eq_ok Answer.outcomes h
  unfold outcomes
  rw [hrun]

theorem outcomes_of_eq_error {g g' : Game} {order : PieceOrder} {e : GameError}
    (h : order.carryOut g = .error e g') : g.outcomes order.operation = [] := by
  unfold outcomes
  split
  · next reported g₁ hrun =>
      cases order with
      | move id target =>
          rcases map_eq_ok hrun with ⟨a, ha, _⟩
          rw [show move id target g = _ from h] at ha
          cases ha
      | act id target action =>
          rcases map_eq_ok hrun with ⟨a, ha, _⟩
          rw [show act id target action g = _ from h] at ha
          cases ha
  · rfl

theorem after_order (g : Game) (order : PieceOrder) :
    g.after order.operation.perform = g.after order.carryOut := by
  cases order with
  | move id target => exact after_map g _ _
  | act id target action => exact after_map g _ _

/-!
## One operation
-/

/-- What an operation reports among quiet abilities, and the game that it leads to. -/
inductive Reported (g : Game) : List Outcome → Game → Prop where
  | idle {g' : Game} {reported : List Outcome} (same : SameTurn g g')
      (nothing : ∀ outcome ∈ reported, outcome.applied? = none ∧ outcome.isOver = false) :
      Reported g reported g'
  | passed {g' : Game} {id : Text} {n : PieceNumber} {outcome : Outcome}
      (commanded : g.commanded id = .ok n) (applied : outcome.applied? = some (id, g.turn))
      (passed : TurnPassed g g') : Reported g [outcome] g'
  | won {g' : Game} {id : Text} {n : PieceNumber} {outcome : Outcome}
      (commanded : g.commanded id = .ok n) (applied : outcome.applied? = some (id, g.turn))
      (winner : Team) (loser : Value) (turn : Nat) (won : g'.isOver = true) :
      Reported g [outcome, .over winner loser turn] g'

theorem reported_order {g : Game} (hreached : Reached g)
    (h : AbilitiesReactBy Reaction.MarksContext g) (order : PieceOrder) :
    Reported g (g.outcomes order.operation) (g.after order.operation.perform) := by
  rw [after_order]
  have hnothing : ∀ refusal, ∀ outcome ∈ [order.refused refusal],
      outcome.applied? = none ∧ outcome.isOver = false := by
    intro refusal outcome houtcome
    rw [List.mem_singleton.1 houtcome]
    simp
  cases hgate : g.commanded order.id with
  | error refusal =>
      have hrun := carryOut_of_not_commanded hgate
      rw [outcomes_of_eq_ok hrun, after_of_eq_ok hrun]
      exact .idle (.refl g) (hnothing refusal)
  | ok n =>
      have hanswered := orderAnswered_carryOut hreached h order
      generalize hrun : order.carryOut g = result at hanswered
      cases hanswered with
      | refused same refusal =>
          rw [outcomes_of_eq_ok hrun, after_of_eq_ok hrun]
          exact .idle same (hnothing refusal)
      | failed same e =>
          rw [outcomes_of_eq_error hrun, after_of_eq_error hrun]
          exact .idle same fun _ houtcome => absurd houtcome List.not_mem_nil
      | passed applied passed =>
          rw [outcomes_of_eq_ok hrun, after_of_eq_ok hrun]
          exact .passed hgate applied passed
      | won applied winner loser turn won =>
          rw [outcomes_of_eq_ok hrun, after_of_eq_ok hrun]
          exact .won hgate applied winner loser turn won

theorem reported {g : Game} (hreached : Reached g)
    (h : AbilitiesReactBy Reaction.MarksContext g) {op : Operation} (hop : op.Continues) :
    Reported g (g.outcomes op) (g.after op.perform) := by
  have hnothing : ∀ outcome ∈ ([] : List Outcome),
      outcome.applied? = none ∧ outcome.isOver = false := by
    simp
  rcases hop.cases with harranges | hasks | ⟨order, rfl⟩
  · rw [outcomes_eq_nil g (Or.inl harranges)]
    exact .idle (sameTurn_perform harranges g) hnothing
  · rw [outcomes_eq_nil g (Or.inr hasks)]
    have hsame := sameButJournal_question hasks (h.listeners hreached.accounted)
    exact .idle hsame.sameTurn hnothing
  · exact reported_order hreached h order

theorem applied_of_commanded {g g' : Game} {id : Text} {n : PieceNumber} {outcome : Outcome}
    (commanded : g.commanded id = .ok n) (applied : outcome.applied? = some (id, g.turn)) :
    Report.applied? ⟨g, g', outcome⟩ = some (g.toMove, g.turn) := by
  simp [Report.applied?, applied, find?_of_commanded commanded, (turn_of_commanded commanded).2]

/-!
## Runs
-/

/-- A run in which the abilities of the pieces in play are quiet whenever something is asked of the
game. -/
def RunsQuietly (g : Game) : List Operation → Prop
  | [] => True
  | op :: rest =>
      AbilitiesReactBy Reaction.MarksContext g ∧ RunsQuietly (g.after op.perform) rest

theorem run_concat (g : Game) (ops : List Operation) (op : Operation) :
    g.run (ops ++ [op]) = (g.run ops).after op.perform := by
  simp [run]

theorem Reached.after {g : Game} (h : Reached g) (op : Operation) :
    Reached (g.after op.perform) := by
  rcases h with ⟨start, ops, hfresh, rfl⟩
  exact ⟨start, ops ++ [op], hfresh, (run_concat start ops op).symm⟩

theorem runsQuietly_run {start : Game} (hfresh : Fresh start)
    (hrules : ∀ rule, start.registry.Offers rule → rule.ReactsBy Reaction.MarksContext)
    (before ops : List Operation) : (start.run before).RunsQuietly ops := by
  induction ops generalizing before with
  | nil => exact trivial
  | cons op rest ih =>
      constructor
      · exact abilitiesReactBy_run hfresh hrules before
      · rw [← run_concat]
        exact ih (before ++ [op])

/-- The reports of a run from one game to another each operation of which reports as it does among
quiet abilities. -/
inductive Course : Game → List Report → Game → Prop where
  | nil (g : Game) : Course g [] g
  | cons {g g' g'' : Game} {outcomes : List Outcome} {rs : List Report}
      (first : Reported g outcomes g') (rest : Course g' rs g'') :
      Course g (outcomes.map (Report.mk g g') ++ rs) g''

theorem course_reports {ops : List Operation} (hops : ∀ op ∈ ops, op.Continues) {g : Game}
    (hreached : Reached g) (hquiet : g.RunsQuietly ops) : Course g (g.reports ops) (g.run ops) := by
  induction ops generalizing g with
  | nil => exact .nil g
  | cons op rest ih =>
      have hrest : Course (g.after op.perform) ((g.after op.perform).reports rest)
          ((g.after op.perform).run rest) :=
        ih (fun op' hop' => hops op' (List.mem_cons_of_mem op hop')) (hreached.after op) hquiet.2
      exact .cons (reported hreached hquiet.1 (hops op List.mem_cons_self)) hrest

section Runs

variable {g g' : Game} {rs : List Report}

theorem Reported.sameTurn_of_refused {outcomes : List Outcome} (h : Reported g outcomes g')
    {outcome : Outcome} (houtcome : outcome ∈ outcomes) (hrefused : outcome.isRefused = true) :
    SameTurn g g' := by
  cases h with
  | idle same _ => exact same
  | passed _ applied _ =>
      rw [List.mem_singleton.1 houtcome] at hrefused
      exact absurd hrefused (Outcome.not_isRefused_of_applied applied)
  | won _ applied winner loser turn _ =>
      rcases List.mem_pair.1 houtcome with heq | heq
      · rw [heq] at hrefused
        exact absurd hrefused (Outcome.not_isRefused_of_applied applied)
      · rw [heq] at hrefused
        cases hrefused

/-- An order that is refused in the course of a run uses up no turn. -/
theorem Course.sameTurn_of_refused (h : Course g rs g') :
    ∀ r ∈ rs, r.outcome.isRefused = true → SameTurn r.before r.after := by
  induction h with
  | nil g => simp
  | cons first _ ih =>
      intro r hr hrefused
      rcases List.mem_append.1 hr with hr | hr
      · rcases List.mem_map.1 hr with ⟨outcome, houtcome, rfl⟩
        exact first.sameTurn_of_refused houtcome hrefused
      · exact ih r hr hrefused

/-- In a game that is over no order reaches its piece, so only what is idle is left. -/
theorem Reported.of_over {outcomes : List Outcome} (h : Reported g outcomes g')
    (hover : g.isOver = true) :
    g'.isOver = true ∧ ∀ outcome ∈ outcomes, outcome.applied? = none := by
  have hrefuses : ∀ {id : Text} {n : PieceNumber}, g.commanded id ≠ .ok n := by
    intro id n hcommanded
    rw [isOver, (turn_of_commanded hcommanded).1] at hover
    cases hover
  cases h with
  | idle same nothing =>
      constructor
      · rw [isOver, same.winner]
        exact hover
      · intro outcome houtcome
        exact (nothing outcome houtcome).1
  | passed commanded _ _ => exact absurd commanded hrefuses
  | won commanded _ _ _ _ _ => exact absurd commanded hrefuses

/-- A game that is over stays over, and nobody moves or acts any more. -/
theorem Course.of_over (h : Course g rs g') (hover : g.isOver = true) :
    g'.isOver = true ∧ ∀ r ∈ rs, r.applied? = none := by
  induction h with
  | nil g => exact ⟨hover, by simp⟩
  | cons first _ ih =>
      rcases first.of_over hover with ⟨hover', hnobody⟩
      rcases ih hover' with ⟨hend, hrest⟩
      refine ⟨hend, ?_⟩
      intro r hr
      rcases List.mem_append.1 hr with hr | hr
      · rcases List.mem_map.1 hr with ⟨outcome, houtcome, rfl⟩
        rw [Report.applied?, hnobody outcome houtcome]
        rfl
      · exact hrest r hr

/-!
### The end of the game
-/

/-- Nothing that follows the report of the end of a game tells of anybody who moves or acts. -/
def OverLast (rs : List Report) : Prop :=
  rs.Pairwise fun r r' => r.outcome.isOver = true → r'.applied? = none

theorem overLast_of_not_isOver {rs rs' : List Report} (h : ∀ r ∈ rs, r.outcome.isOver = false)
    (h' : OverLast rs') : OverLast (rs ++ rs') := by
  have hvain : ∀ r ∈ rs, ∀ r' : Report, r.outcome.isOver = true → r'.applied? = none := by
    intro r hr r' hover
    rw [h r hr] at hover
    cases hover
  apply List.pairwise_append.2
  refine ⟨?_, h', fun r hr r' _ => hvain r hr r'⟩
  apply List.Pairwise.imp_of_mem _ (List.pairwise_of_forall (fun _ _ => trivial))
  intro r r' hr _ _
  exact hvain r hr r'

theorem Course.overLast (h : Course g rs g') : OverLast rs := by
  induction h with
  | nil g => exact List.Pairwise.nil
  | @cons g g₁ _ outcomes rs first rest ih =>
      cases first with
      | idle _ nothing =>
          apply overLast_of_not_isOver _ ih
          intro r hr
          rcases List.mem_map.1 hr with ⟨outcome, houtcome, rfl⟩
          exact (nothing outcome houtcome).2
      | passed _ applied _ =>
          apply overLast_of_not_isOver _ ih
          intro r hr
          rw [List.mem_singleton.1 hr]
          exact Outcome.isOver_of_applied applied
      | won _ applied winner loser turn won =>
          have hnobody := (rest.of_over won).2
          have hover : OverLast (⟨g, g₁, .over winner loser turn⟩ :: rs) :=
            List.pairwise_cons.2 ⟨fun r hr _ => hnobody r hr, ih⟩
          change OverLast ([Report.mk g g₁ _] ++ _)
          apply overLast_of_not_isOver _ hover
          intro r hr
          rw [List.mem_singleton.1 hr]
          exact Outcome.isOver_of_applied applied

/-!
### The numbers of the turns
-/

/-- Reports tell of pieces that move or act in consecutive turns, the first of them in a turn of which
the number is given, counted from zero, and a team that is given begins the game.  If nobody has won
in the end, the turn that comes next is to follow. -/
def TakesTurns (first : Team) (k : Nat) (rs : List Report) (g : Game) : Prop :=
  ∃ count, rs.filterMap Report.applied? =
      (List.range' k count).map (fun i => (some (first.onTurn i), i + 1)) ∧
    (g.winner = none → g.turn = k + count + 1 ∧ g.toMove = some (first.onTurn (k + count)))

section TakesTurns

variable {first : Team} {k : Nat} {rs rs' : List Report} {g : Game}

theorem takesTurns_of_nobody (hnobody : ∀ r ∈ rs, r.applied? = none)
    (h : TakesTurns first k rs' g) : TakesTurns first k (rs ++ rs') g := by
  unfold TakesTurns
  rw [List.filterMap_append, List.filterMap_eq_nil_iff.2 hnobody]
  exact h

theorem takesTurns_cons {r : Report} (hr : r.applied? = some (some (first.onTurn k), k + 1))
    (h : TakesTurns first (k + 1) rs g) : TakesTurns first k (r :: rs) g := by
  rcases h with ⟨count, hlist, hend⟩
  refine ⟨count + 1, ?_, ?_⟩
  · simp [hr, hlist, List.range'_succ]
  · rw [show k + (count + 1) = k + 1 + count by omega]
    exact hend

theorem takesTurns_of_over {r : Report} (hr : r.applied? = some (some (first.onTurn k), k + 1))
    (hnobody : ∀ r ∈ rs, r.applied? = none) (hover : g.isOver = true) :
    TakesTurns first k (r :: rs) g := by
  refine ⟨1, ?_, ?_⟩
  · simp [hr, List.filterMap_eq_nil_iff.2 hnobody]
  · intro hopen
    rw [isOver, hopen] at hover
    cases hover

end TakesTurns

/-- By induction on the run.  The number of the turn counts those who have moved or acted so far, and
so tells which team is to move. -/
theorem Course.takesTurns (h : Course g rs g') (first : Team) {k : Nat} (hopen : g.winner = none)
    (hturn : g.turn = k + 1) (hmover : g.toMove = some (first.onTurn k)) :
    TakesTurns first k rs g' := by
  induction h generalizing k with
  | nil g => exact ⟨0, rfl, fun _ => ⟨hturn, hmover⟩⟩
  | cons reported rest ih =>
      cases reported with
      | idle same nothing =>
          apply takesTurns_of_nobody
          · intro r hr
            rcases List.mem_map.1 hr with ⟨outcome, houtcome, rfl⟩
            simp [Report.applied?, (nothing outcome houtcome).1]
          · exact ih (same.winner.trans hopen) (same.turn.trans hturn) (same.toMove.trans hmover)
      | passed commanded applied passed =>
          apply takesTurns_cons
          · rw [applied_of_commanded commanded applied, hmover, hturn]
          · apply ih (passed.winner.trans hopen)
            · rw [passed.turn, hturn]
            · simp [passed.toMove, hmover, Team.other_onTurn]
      | won commanded applied winner loser turn won =>
          rcases rest.of_over won with ⟨hover, hnobody⟩
          apply takesTurns_of_over _ _ hover
          · rw [applied_of_commanded commanded applied, hmover, hturn]
          · intro r hr
            rcases List.mem_cons.1 hr with rfl | hr
            · rfl
            · exact hnobody r hr

end Runs

/-!
## Whole games
-/

theorem start_of_marksContext {g : Game} (h : ListenersReactBy Reaction.MarksContext g)
    (first : Team) :
    ∃ g', start (.str first.word) g = .ok (.started first g'.roster.size) g' ∧
      SameButJournal (g.begun first) g' := by
  have hbegun : ListenersReactBy Reaction.MarksContext (g.begun first) := h
  rcases announce_of_marksContext hbegun { event := .gameStart } with ⟨_, g₁, hrun, hsame⟩
  rcases announce_of_marksContext (hsame.listeners hbegun) { event := .turnStart } with
    ⟨_, g₂, hrun', hsame'⟩
  have hteam : Team.ofValue? (.str first.word) = some first := Team.ofWord?_word first
  refine ⟨g₂, ?_, hsame.trans hsame'⟩
  unfold start
  rw [hteam]
  show (announce { event := .gameStart } >>= fun _ => announce { event := .turnStart } >>= fun _ =>
    get >>= fun g' => pure (Outcome.started first g'.roster.size)) (g.begun first) = _
  rw [bind_of_eq_ok _ hrun, bind_of_eq_ok _ hrun']
  rfl

/-- A run that begins a game reports that first, and goes on among quiet abilities from there. -/
theorem course_of_start {g : Game} (hreached : Reached g) (first : Team) {ops : List Operation}
    (hops : ∀ op ∈ ops, op.Continues)
    (hquiet : g.RunsQuietly (.start (.str first.word) :: ops)) :
    ∃ g' rs, g.reports (.start (.str first.word) :: ops) =
        ⟨g, g', .started first g'.roster.size⟩ :: rs ∧
      Course g' rs (g.run (.start (.str first.word) :: ops)) ∧
      SameButJournal (g.begun first) g' := by
  rcases start_of_marksContext (hquiet.1.listeners hreached.accounted) first with
    ⟨g', hstart, hbegun⟩
  have hrun : (Operation.start (.str first.word)).perform g =
      .ok (.outcomes [.started first g'.roster.size]) g' := map_of_eq_ok _ hstart
  have hafter : g.after (Operation.start (.str first.word)).perform = g' := after_of_eq_ok hrun
  have hreached' : Reached g' := hafter ▸ hreached.after _
  have hquiet' : g'.RunsQuietly ops := hafter ▸ hquiet.2
  have hgame : g.run (.start (.str first.word) :: ops) = g'.run ops := by
    rw [← hafter]
    rfl
  refine ⟨g', g'.reports ops, ?_, ?_, hbegun⟩
  · rw [reports, reportsOf, outcomes, hrun, hafter]
    rfl
  · rw [hgame]
    exact course_reports hops hreached' hquiet'

/-- Whatever is asked of a game from its beginning on, among quiet abilities, other than to begin
again or to end a turn: the reports of pieces that move or act carry the numbers of the turns from one
on; the piece is one of the team that began in every other turn from the first, and one of the other
team in the turns between; unless somebody has won, the next turn is to follow; orders that are refused
use up no turn; and nobody moves or acts after the report that the game is over. -/
theorem turns_alternate {g : Game} (hreached : Reached g) (first : Team) {ops : List Operation}
    (hops : ∀ op ∈ ops, op.Continues)
    (hquiet : g.RunsQuietly (.start (.str first.word) :: ops)) :
    (∃ count, (g.reports (.start (.str first.word) :: ops)).filterMap Report.applied? =
        (List.range count).map (fun i => (some (first.onTurn i), i + 1)) ∧
      ((g.run (.start (.str first.word) :: ops)).winner = none →
        (g.run (.start (.str first.word) :: ops)).turn = count + 1 ∧
        (g.run (.start (.str first.word) :: ops)).toMove = some (first.onTurn count))) ∧
    (∀ r ∈ g.reports (.start (.str first.word) :: ops),
      r.outcome.isRefused = true → SameTurn r.before r.after) ∧
    (g.reports (.start (.str first.word) :: ops)).Pairwise fun r r' =>
      r.outcome.isOver = true → r'.applied? = none := by
  rcases course_of_start hreached first hops hquiet with ⟨g', rs, hreports, hcourse, journal, heq⟩
  have hturns : TakesTurns first 0 rs (g.run (.start (.str first.word) :: ops)) := by
    apply hcourse.takesTurns first
    all_goals
      rw [heq]
      rfl
  rw [hreports]
  refine ⟨?_, ?_, ?_⟩
  · rcases hturns with ⟨count, hlist, hend⟩
    refine ⟨count, ?_, ?_⟩
    · rw [List.range_eq_range', ← hlist]
      rfl
    · rw [← Nat.zero_add count]
      exact hend
  · intro r hr hrefused
    rcases List.mem_cons.1 hr with rfl | hr
    · cases hrefused
    · exact hcourse.sameTurn_of_refused r hr hrefused
  · apply List.pairwise_cons.2
    constructor
    · intro r _ hover
      cases hover
    · exact hcourse.overLast

def muttering : Rule :=
  ⟨"Mutter", [.moveStart], Rule.usualPriority,
    .scripted (.when .always [.note "muttered" (.bool true)])⟩

def opening : Game :=
  (usual (Registry.standard.register "Mutter" muttering.draft)).run
    [.add (walker [{ name := "Mutter" }]) (.str "white") ⟨0, 0⟩,
      .add (walker []) (.str "black") ⟨5, 5⟩]

def exchange : List Operation :=
  [.move "black-walker-2" ⟨5, 4⟩, .move "white-walker-1" ⟨0, 1⟩, .move "white-walker-1" ⟨0, 2⟩,
    .applyStatus "black-walker-2" (lending "Jumping" 1), .move "black-walker-2" ⟨5, 4⟩]

theorem runsQuietly_opening (ops : List Operation) : opening.RunsQuietly ops := by
  apply runsQuietly_run (fresh_usual _)
  intro rule hoffers
  refine Rule.reactsBy_of_offers Registry.builtIn_standard (Rule.reactsBy_when ?_) hoffers
  intro r hr
  rw [List.mem_singleton.1 hr]
  trivial

/-- The orders that come out of turn are refused, and the two that are carried out are those of the
first turn and of the second. -/
theorem exchange_takes_two_turns :
    Reached opening ∧ (∀ op ∈ exchange, op.Continues) ∧
    opening.RunsQuietly (.start (.str Team.white.word) :: exchange) ∧
    (opening.reports (.start (.str Team.white.word) :: exchange)).filterMap Report.applied? =
      [(some .white, 1), (some .black, 2)] := by
  have hreached : Reached opening := ⟨_, _, fresh_usual _, rfl⟩
  have hcontinues : ∀ op ∈ exchange, op.Continues := by
    simp [exchange, Operation.Continues]
  have hquiet := runsQuietly_opening (.start (.str Team.white.word) :: exchange)
  have hlength : ((opening.reports (.start (.str Team.white.word) :: exchange)).filterMap
      Report.applied?).length = 2 := by
    decide +kernel
  rcases (turns_alternate hreached .white hcontinues hquiet).1 with ⟨count, hlist, _⟩
  rw [hlist, List.length_map, List.length_range] at hlength
  rw [hlength] at hlist
  exact ⟨hreached, hcontinues, hquiet, hlist⟩

end Game
end Boardcraft
