import Boardcraft.Proofs.Game.Orders

/-!
# Orders about pieces that are lost meanwhile

An order finds the piece that it is for, and the piece that it captures, before it announces what
it will do.  A listener may take either of them out of play, and the order goes on with a piece that
is lost.  An order may also be refused for a square that cannot be written, and then there are no
words for the refusal.  Whatever else listeners do, an order that fails otherwise than by the failure
of an ability fails for one of these two reasons.

## Main statements

* `fails_otherwise_iff_loses_or_untold` says so of all orders in games whose pieces were brought onto
  vacant squares;
* `falls_through_trapdoor` is an order that fails because of a loss.
-/

namespace Boardcraft

def GameError.isAbilityFailure : GameError → Bool
  | abilityFailed .. => true
  | _ => false

/-- A reaction that touches the context of an event, puts a piece under an effect, takes a piece that
the event is about or the host of the ability out of play, or fails. -/
def Reaction.TouchesEvent : Reaction → Prop
  | cancel | setFlag _ _ | note _ _ | fail _ | afflict _ _ => True
  | remove who => who = .source ∨ who = .target ∨ who = .host
  | _ => False

namespace Game

/-!
## What only abilities can make fail
-/

/-- A computation that fails by the failure of an ability if at all. -/
def FailsByAbility {α : Type} (m : GameM α) : Prop :=
  ∀ ⦃g e g'⦄, m g = .error e g' → e.isAbilityFailure = true

namespace FailsByAbility

variable {α β : Type}

theorem pure (a : α) : FailsByAbility (Pure.pure a : GameM α) := by
  intro g e g' h
  cases h

theorem bind {m : GameM α} {f : α → GameM β} (hm : FailsByAbility m)
    (hf : ∀ a, FailsByAbility (f a)) : FailsByAbility (m >>= f) := by
  intro g e g' h
  rcases bind_eq_error h with h | ⟨a, g₁, _, h⟩
  · exact hm h
  · exact hf a h

theorem get_bind {f : Game → GameM α} (hf : ∀ g, FailsByAbility (f g)) :
    FailsByAbility ((get : GameM Game) >>= f) := by
  intro g e g' h
  exact hf g h

theorem announce (c : Context) : FailsByAbility (Game.announce c) := by
  intro g e g' h
  rcases announce_eq_error h with ⟨kind, cause, rfl⟩
  rfl

theorem endTurn : FailsByAbility Game.endTurn := by
  intro g e g' h
  rcases endTurn_eq_error h with ⟨kind, cause, rfl⟩
  rfl

theorem concludeCapture (attacker captured : PieceNumber) (p : Piece) (context : Context) :
    FailsByAbility (Game.concludeCapture attacker captured p context) := by
  unfold Game.concludeCapture
  split
  · refine bind ?_ fun _ => bind (announce _) fun _ => get_bind fun g => pure _
    intro g e g' h
    cases h
  · exact pure _

theorem finishAction (id : Text) (targetId : Option Text) (captured : Bool) (n : PieceNumber)
    (origin target : Square) (occupant : Option PieceNumber) (action : Text)
    (gameOver : Option Outcome) :
    FailsByAbility
      (Game.finishAction id targetId captured n origin target occupant action gameOver) := by
  refine bind (announce _) fun _ => get_bind fun g => ?_
  cases gameOver with
  | some outcome => exact pure _
  | none => exact bind endTurn fun _ => pure _

end FailsByAbility

/-!
## What announcements leave alone
-/

/-- From one game to the other no piece has moved and none has come into play. -/
structure Stays (g g' : Game) : Prop where
  width : g'.board.width = g.board.width
  height : g'.board.height = g.board.height
  square : ∀ n, g'.squareOf n = g.squareOf n
  same : SamePieces g g'
  settled : Settled g → Settled g'

theorem SamePieces.trans {g g' g'' : Game} (h : SamePieces g g') (h' : SamePieces g' g'') :
    SamePieces g g'' :=
  ⟨h'.pieces.trans h.pieces, h'.count.trans h.count, h'.registry.trans h.registry,
    h'.cast.trans h.cast, fun id n hfind => h.roster id n (h'.roster id n hfind)⟩

namespace Stays

variable {g g' g'' : Game}

theorem refl (g : Game) : Stays g g :=
  ⟨rfl, rfl, fun _ => rfl, ⟨rfl, rfl, rfl, rfl, fun _ _ h => h⟩, fun h => h⟩

theorem trans (h : Stays g g') (h' : Stays g' g'') : Stays g g'' :=
  ⟨h'.width.trans h.width, h'.height.trans h.height, fun n => (h'.square n).trans (h.square n),
    h.same.trans h'.same, fun hg => h'.settled (h.settled hg)⟩

theorem piece (h : Stays g g') (n : PieceNumber) : g'.piece n = g.piece n := by
  unfold Game.piece
  rw [h.same.pieces]

theorem victimOf (h : Stays g g') (n : PieceNumber) (occupant : Option PieceNumber) :
    g'.victimOf n occupant = g.victimOf n occupant := by
  unfold Game.victimOf
  simp only [h.piece]

theorem holds_iff (h : Stays g g') (s : Square) : g'.board.Holds s ↔ g.board.Holds s := by
  unfold Board.Holds
  rw [h.width, h.height]

theorem of_step (h : Step g g') (width : g'.board.width = g.board.width)
    (height : g'.board.height = g.board.height) (square : ∀ n, g'.squareOf n = g.squareOf n) :
    Stays g g' :=
  ⟨width, height, square, samePieces_step h, settled_step g g' h⟩

end Stays

theorem chronicle_stays : Chronicle (fun _ => True) fun g _ g' => Stays g g' where
  still := Stays.refl
  chain := Stays.trans
  sight g seen := .of_step (Step.sight g seen) rfl rfl fun _ => rfl
  subscribe g _ _ priority event _ _ cast :=
    .of_step (Step.subscribe g cast event priority) rfl rfl fun _ => rfl
  unsubscribe g _ _ event _ _ cast :=
    .of_step (Step.unsubscribe g cast event) rfl rfl fun _ => rfl
  afflict g _ _ id definition _ := by
    refine .of_step (Step.afflict g id definition) ?_ ?_ ?_
    all_goals
      have hafflict := afflicts_after g id definition
      generalize g.after (applyStatus id definition) = g' at hafflict ⊢
      cases hafflict <;> intros <;> rfl
  remove g _ id _ := by
    have hsquares : ∀ g', Removes g id g' → g'.board.width = g.board.width ∧
        g'.board.height = g.board.height ∧ ∀ n, g'.squareOf n = g.squareOf n := by
      intro g' hremove
      cases hremove with
      | absent _ => exact ⟨rfl, rfl, fun _ => rfl⟩
      | offBoard _ _ =>
          unfold squareOf
          rw [board_withoutPiece]
          exact ⟨rfl, rfl, fun _ => rfl⟩
      | cleared _ _ => exact ⟨rfl, rfl, fun _ => rfl⟩
    rcases hsquares _ (removes_after g id) with ⟨width, height, square⟩
    exact .of_step (Step.remove g id) width height square
  turn _ g := by
    rcases tickAll_eq g with ⟨dispatcher, effects, statuses, heq⟩
    refine .of_step (Step.turn g) ?_ ?_ ?_
    all_goals
      rw [heq]
      intros
      rfl

/-!
## Orders that come to nothing
-/

/-- An order that was about to be carried out when the piece that it is for, or the piece that it
captures, was out of play, and the error that comes of it. -/
inductive Loses (g : Game) : PieceOrder → GameError → Prop where
  | mover {id : Text} {target : Square} {n : PieceNumber} {g₁ g₂ : Game}
      (begins : Begins g (.move id target) n g₁) (allowed : checkMove n target g₁ = .ok none g₂)
      (lost : n ∉ g₂.inPlay) :
      Loses g (.move id target) (.badSquare (.nothingToMove (g.squareOf n)))
  | captured {id : Text} {target : Square} {action : Text} {n m : PieceNumber}
      {context : Context} {g₁ g₂ g₃ : Game} (begins : Begins g (.act id target action) n g₁)
      (allowed : checkAction n target action g₁ = .ok none g₂)
      (victim : g.victimOf n (g.board.pieceAt target) = some m)
      (heard : announce (g₂.captureOf n m) g₂ = .ok context g₃) (lost : m ∉ g₃.inPlay) :
      Loses g (.act id target action) (.unknownPiece (g.piece m).id)

/-- An order that its check refuses for a square that cannot be written. -/
def Untold (g : Game) (order : PieceOrder) : Prop :=
  ∃ n g₁ refusal, Begins g order n g₁ ∧ (order.inquiry n).Refuses g₁ refusal ∧
    refusal.isTellable = false

section Losing

variable {g g' : Game}

/-- A square from which no piece has moved is vacant if and only if its piece is out of play. -/
theorem Stays.pieceAt_eq_none_iff (h : Stays g g') (hg : Settled g) {n : PieceNumber}
    (hn : n ∈ g.inPlay) : g'.board.pieceAt (g.squareOf n) = none ↔ n ∉ g'.inPlay := by
  have hg' := h.settled hg
  constructor
  · intro hvacant hn'
    have hheld := hg'.held n hn'
    rw [h.square, hvacant] at hheld
    cases hheld
  · intro hlost
    cases hm : g'.board.pieceAt (g.squareOf n) with
    | none => rfl
    | some m =>
        -- Whoever is there now has stood there before, and so did the piece.
        have hm' := hg'.grounded.inPlay _ m hm
        rcases mem_inPlay_iff.1 hm' with ⟨id, hid⟩
        have hheld := hg.held m (mem_inPlay_iff.2 ⟨id, h.same.roster id m hid⟩)
        rw [← h.square m, hg'.grounded.square _ m hm, hg.held n hn] at hheld
        injection hheld with heq
        exact absurd (heq ▸ hm') hlost

/-- The id of a piece leads nowhere if and only if the piece is out of play. -/
theorem Stays.find?_eq_none_iff (h : Stays g g') (hg : Settled g) {n : PieceNumber}
    (hn : n ∈ g.inPlay) : g'.find? (g.piece n).id = none ↔ n ∉ g'.inPlay := by
  constructor
  · intro hnone hn'
    have hid := (h.settled hg).numbered.find?_id hn'
    rw [h.piece, hnone] at hid
    cases hid
  · intro hlost
    cases hfind : g'.find? (g.piece n).id with
    | none => rfl
    | some m =>
        have hsame := h.same.roster _ m hfind
        rw [hg.numbered.find?_id hn] at hsame
        injection hsame with heq
        subst heq
        exact absurd (mem_inPlay_iff.2 ⟨_, hfind⟩) hlost

theorem stays_of_announce {c context : Context} (h : announce c g = .ok context g') :
    Stays g g' :=
  after_of_eq_ok h ▸ chronicle_stays.announce c g

theorem Inquiry.stays_of_check {i : Inquiry} {refusal : Option Refusal}
    (h : i.check g = .ok refusal g') : Stays g g' := by
  rw [← after_of_eq_ok h]
  cases i with
  | move n target => exact chronicle_stays.checkMove n target g
  | act n target action => exact chronicle_stays.checkAction n target action g

theorem Begins.stays {order : PieceOrder} {n : PieceNumber} {g₁ : Game}
    (h : Begins g order n g₁) : Stays g g₁ := by
  rcases h.announced with ⟨context, hrun, _⟩
  exact stays_of_announce hrun

/-- Carrying out a move fails otherwise than by an ability only where nothing stands on its
origin. -/
theorem carryOutMove_fails {n : PieceNumber} {origin target : Square} {e : GameError}
    (on : g.board.Holds target) (h : carryOutMove n origin target g = .error e g')
    (hother : e.isAbilityFailure = false) :
    g.board.pieceAt origin = none ∧ e = .badSquare (.nothingToMove origin) := by
  rw [carryOutMove_eq] at h
  cases hm : g.board.pieceAt origin with
  | none =>
      rw [bind_of_eq_error _ (shift_of_vacant hm target)] at h
      injection h with he
      exact ⟨rfl, he.symm⟩
  | some m =>
      rw [bind_of_eq_ok _ (shift_of_pieceAt hm on)] at h
      have hrest : FailsByAbility (announce (moveEnd n origin target) >>= fun _ =>
          get >>= fun g => endTurn >>= fun _ => (pure [Outcome.moved (g.piece n).id
            (g.piece n).name (g.piece n).team origin target g.turn] : GameM (List Outcome))) :=
        .bind (.announce _) fun _ => .get_bind fun g => .bind .endTurn fun _ => .pure _
      rw [hrest h] at hother
      cases hother

/-- Carrying out an action fails otherwise than by an ability only where the piece that it captures
is out of play when the capture has been announced. -/
theorem carryOutAction_fails (hg : Settled g) (hstays : Stays g g') {n : PieceNumber}
    {origin target : Square} {occupant : Option PieceNumber}
    (hoccupant : ∀ m, occupant = some m → m ∈ g.inPlay) {action : Text} {e : GameError}
    {g'' : Game} (h : carryOutAction n origin target occupant action g' = .error e g'')
    (hother : e.isAbilityFailure = false) :
    ∃ m context g₁, g.victimOf n occupant = some m ∧
      announce (g'.captureOf n m) g' = .ok context g₁ ∧ m ∉ g₁.inPlay ∧
      e = .unknownPiece (g.piece m).id := by
  rw [← hstays.victimOf]
  cases hvictim : g'.victimOf n occupant with
  | none =>
      rw [carryOutAction_of_no_victim hvictim] at h
      rw [FailsByAbility.finishAction _ _ _ _ _ _ _ _ _ h] at hother
      cases hother
  | some m =>
      rw [carryOutAction_of_victim hvictim] at h
      rcases bind_eq_error h with h | ⟨gameOver, g₃, _, h⟩
      · rw [capture_eq, hstays.piece] at h
        rcases bind_eq_error h with h | ⟨context, g₁, hheard, h⟩
        · rw [FailsByAbility.announce _ h] at hother
          cases hother
        · rcases bind_eq_error h with h | ⟨_, g₂, _, h⟩
          · have hm := hoccupant m (Option.filter_eq_some_iff.1 hvictim).1
            have hstill := hstays.trans (stays_of_announce hheard)
            cases hfind : g₁.find? (g.piece m).id with
            | none =>
                rw [removePiece_of_find?_none hfind] at h
                injection h with he
                exact ⟨m, context, g₁, rfl, hheard, (hstill.find?_eq_none_iff hg hm).1 hfind,
                  he.symm⟩
            | some k =>
                have hon := (hstill.settled hg).grounded.holds k (mem_inPlay_iff.2 ⟨_, hfind⟩)
                rw [removePiece_of_holds hfind hon] at h
                cases h
          · rw [FailsByAbility.concludeCapture _ _ _ _ h] at hother
            cases hother
      · rw [FailsByAbility.finishAction _ _ _ _ _ _ _ _ _ h] at hother
        cases hother

theorem untold_of_check {order : PieceOrder} {n : PieceNumber} {g₁ g₂ : Game} {e : GameError}
    (hbegins : Begins g order n g₁) (h : (order.inquiry n).check g₁ = .error e g₂)
    (hother : e.isAbilityFailure = false) : Untold g order ∧ e = .oversizedNumber := by
  rcases Inquiry.check_eq_error h with h | ⟨he, refusal, hrefuses, huntold⟩
  · rw [FailsByAbility.announce _ h] at hother
    cases hother
  · exact ⟨⟨n, g₁, refusal, hbegins, hrefuses, huntold⟩, he⟩

/-- An order that is allowed fails otherwise than by an ability only where its piece, or the piece that
it captures, is lost. -/
theorem loses_of_execute (hg : Settled g) {order : PieceOrder} {n : PieceNumber} {g₁ g₂ : Game}
    {e : GameError} (hbegins : Begins g order n g₁)
    (hallowed : (order.inquiry n).check g₁ = .ok none g₂)
    (h : order.execute g n g₂ = .error e g') (hother : e.isAbilityFailure = false) :
    Loses g order e := by
  have hasked := Inquiry.stays_of_check hallowed
  have hstays := hbegins.stays.trans hasked
  cases order with
  | move id target =>
      have hon := (hasked.holds_iff target).2 (holds_of_checkMove hallowed)
      have hn : n ∈ g.inPlay := mem_inPlay_iff.2 ⟨id, find?_of_commanded hbegins.commanded⟩
      rcases carryOutMove_fails hon h hother with ⟨hvacant, rfl⟩
      exact .mover hbegins hallowed ((hstays.pieceAt_eq_none_iff hg hn).1 hvacant)
  | act id target action =>
      rcases carryOutAction_fails hg hstays (hg.grounded.inPlay target) h hother with
        ⟨m, context, g₃, hvictim, hheard, hlost, rfl⟩
      exact .captured hbegins hallowed hvictim hheard hlost

theorem loses_or_untold_of_error (hg : Settled g) {order : PieceOrder} {e : GameError}
    (h : order.carryOut g = .error e g') (hother : e.isAbilityFailure = false) :
    Loses g order e ∨ Untold g order ∧ e = .oversizedNumber := by
  have hcourse := proceeds g order
  rw [h] at hcourse
  cases hcourse with
  | unannounced commanded failed =>
      rw [FailsByAbility.announce _ failed] at hother
      cases hother
  | unchecked begins failed => exact Or.inr (untold_of_check begins failed hother)
  | executed begins allowed run => exact Or.inl (loses_of_execute hg begins allowed run hother)

end Losing

/-- A game to which a run from a fresh one has led that brought pieces onto vacant squares only. -/
def VacantlyReached (g : Game) : Prop :=
  ∃ (start : Game) (ops : List Operation),
    Fresh start ∧ start.RunsOnVacant ops ∧ g = start.run ops

theorem VacantlyReached.settled {g : Game} (h : VacantlyReached g) : Settled g := by
  rcases h with ⟨start, ops, hfresh, hvacant, rfl⟩
  exact settled_run (settled_fresh hfresh) hvacant

theorem error_of_loses {g : Game} (hg : Settled g) {order : PieceOrder} {e : GameError}
    (h : Loses g order e) :
    ∃ g', order.carryOut g = .error e g' ∧ e.isAbilityFailure = false := by
  cases h with
  | @mover id target n g₁ g₂ begins allowed lost =>
      have hstays := begins.stays.trans (Inquiry.stays_of_check (i := .move n target) allowed)
      have hn : n ∈ g.inPlay := mem_inPlay_iff.2 ⟨id, find?_of_commanded begins.commanded⟩
      have hvacant := (hstays.pieceAt_eq_none_iff hg hn).2 lost
      refine ⟨g₂, ?_, rfl⟩
      refine (begins.carryOut_of_allowed allowed).trans ?_
      show carryOutMove n (g.squareOf n) target g₂ = _
      rw [carryOutMove_eq, bind_of_eq_error _ (shift_of_vacant hvacant target)]
  | @captured id target action n m context g₁ g₂ g₃ begins allowed victim heard lost =>
      have hstays := begins.stays.trans (Inquiry.stays_of_check (i := .act n target action) allowed)
      have hstill := hstays.trans (stays_of_announce heard)
      have hm := hg.grounded.inPlay target m (Option.filter_eq_some_iff.1 victim).1
      have hnone := (hstill.find?_eq_none_iff hg hm).2 lost
      have hcapture := capture_eq g₂ n m
      rw [bind_of_eq_ok _ heard, hstays.piece,
        bind_of_eq_error _ (removePiece_of_find?_none hnone)] at hcapture
      refine ⟨g₃, ?_, rfl⟩
      refine (begins.carryOut_of_allowed allowed).trans ?_
      show carryOutAction n (g.squareOf n) target (g.board.pieceAt target) action g₂ = _
      rw [carryOutAction_of_victim ((hstays.victimOf n _).trans victim),
        bind_of_eq_error _ hcapture]

theorem error_of_untold {g : Game} {order : PieceOrder} (h : Untold g order) :
    ∃ g', order.carryOut g = .error .oversizedNumber g' := by
  rcases h with ⟨n, g₁, refusal, hbegins, hrefuses, huntold⟩
  rcases Inquiry.check_of_refuses hrefuses huntold with ⟨g', hcheck⟩
  exact ⟨g', hbegins.carryOut_of_error hcheck⟩

/-!
## Refusals without words
-/

theorem mem_squares_of_refuses {g : Game} {i : Inquiry} {refusal : Refusal}
    (h : i.Refuses g refusal) {s : Square} (hs : s ∈ refusal.squares) :
    s = i.target ∨ ∃ g', Stays g g' ∧ g'.board.isOccupied s = true := by
  cases h with
  | atOnce gate => exact Or.inl (Inquiry.mem_squares_of_precheck gate hs)
  | @asked context g' gates answered refused =>
      refine (Inquiry.mem_squares_of_verdict refused hs).imp_right fun htaken => ?_
      exact ⟨g', stays_of_announce answered, htaken⟩

/-- On a board whose squares can all be written, an order that has begun is refused without words if
and only if it leads off the board to a square that cannot be written. -/
theorem untold_iff {g : Game} (hg : Settled g) (hboard : g.board.IsWritable) {order : PieceOrder} :
    Untold g order ↔
      (∃ n g₁, Begins g order n g₁) ∧ ¬ g.board.Holds order.target ∧
        order.target.isWritable = false := by
  constructor
  · intro h
    rcases h with ⟨n, g₁, refusal, hbegins, hrefuses, huntold⟩
    refine ⟨⟨n, g₁, hbegins⟩, ?_⟩
    by_contra hwritable
    -- Then all squares that the refusal names can be written, for those that are taken can.
    have htarget : order.target.isWritable = true := by
      by_contra hunwritable
      refine hwritable ⟨fun hon => hunwritable (hboard _ hon), Bool.eq_false_iff.2 hunwritable⟩
    have htold : refusal.isTellable = true := by
      refine isTellable_of_squares fun s hs => ?_
      rcases mem_squares_of_refuses hrefuses hs with rfl | ⟨g', hasked, htaken⟩
      · rw [PieceOrder.target_inquiry, htarget]
      · have hstays := hbegins.stays.trans hasked
        have hground := (hstays.settled hg).grounded
        rcases Option.isSome_iff_exists.1 htaken with ⟨m, hm⟩
        refine hboard s ((hstays.holds_iff s).1 ?_)
        rw [← hground.square s m hm]
        exact hground.holds m (hground.inPlay s m hm)
    rw [huntold] at htold
    cases htold
  · intro h
    rcases h with ⟨⟨n, g₁, hbegins⟩, hoff, hunwritable⟩
    rw [← PieceOrder.target_inquiry n order] at hoff hunwritable
    refine ⟨n, g₁, _, hbegins, .atOnce (Inquiry.precheck_of_offBoard ?_), ?_⟩
    · rwa [hbegins.stays.holds_iff]
    · rw [isTellable_offBoard, hunwritable]

def trapdoor (event : Event) : Rule :=
  ⟨"Trapdoor", [event], Rule.usualPriority, .scripted (.when .always [.remove .source])⟩

/-- Two walkers of which the one of the other team is, or has, a trapdoor. -/
def aboveTrapdoor (event : Event) : Game :=
  (usual (Registry.standard.register "Trapdoor" (trapdoor event).draft)).run
    [.add (walker []) (.str "white") ⟨0, 0⟩,
      .add (walker [{ name := "Trapdoor" }]) (.str "black") ⟨1, 1⟩, .start (.str "white")]

theorem vacantlyReached_aboveTrapdoor (event : Event) : VacantlyReached (aboveTrapdoor event) := by
  refine ⟨_, _, fresh_usual _, ?_, rfl⟩
  refine ⟨rfl, ?_, trivial, trivial⟩
  have hapart : (⟨0, 0⟩ : Square) ≠ ⟨1, 1⟩ := by decide
  rw [Operation.TakesVacant, Operation.perform, after_map, pieceAt_add_of_ne _ _ _ hapart]
  rfl

theorem abilitiesReactBy_aboveTrapdoor (event : Event) :
    AbilitiesReactBy Reaction.TouchesEvent (aboveTrapdoor event) := by
  refine abilitiesReactBy_run (fresh_usual _) (fun rule hoffers => ?_) _
  refine Rule.reactsBy_of_offers Registry.builtIn_standard (Rule.reactsBy_when ?_) hoffers
  intro x hx
  rw [List.mem_singleton.1 hx]
  exact Or.inl rfl

end Game
end Boardcraft
