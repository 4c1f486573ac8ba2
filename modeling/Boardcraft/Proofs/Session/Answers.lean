import Boardcraft.Proofs.Session.Markup

/-!
# Answers in order

A session goes wrong on the screen only through texts that are not its own.  In a game whose pieces
have plain names and ids and whole emojis, everything that a line has for an answer is in order:
what is told about a piece or a square, the board, and the reports of orders, refusals included.

## Main statements

* `isInOrder_of_tells`, `isInOrder_board` and `isInOrder_outcome` are about single things;
* `isInOrder_of_handle` is about all that a line has for an answer.
-/

namespace Boardcraft

open Text (isPlain_ofString)

/-- A piece whose texts leave markup in order. -/
structure Piece.IsPlain (p : Piece) : Prop where
  id : p.id.IsPlain
  name : p.name.IsPlain
  emoji : p.emoji.IsWhole

def Game.IsPlain (g : Game) : Prop := ∀ n ∈ g.inPlay, (g.piece n).IsPlain

/-!
## The words of refusals and reports
-/

def Refusal.texts : Refusal → List Text
  | unknownPiece id | moveCancelled id | ownSquareEmpty id => [id]
  | notInShape _ name shape => [name, shape]
  | actionCancelled action id | selfTarget id action => [id, action]
  | allyTarget id action other | enemyTarget id action other => [id, action, other]
  | gameOver _ | notStarted | notYourTurn _ | offBoard _ | sameSquare _ | pathBlocked _
  | occupied _ | emptyTarget _ => []

/-- The texts that a report takes from elsewhere. -/
def Outcome.texts : Outcome → List Text
  | .started _ _ => []
  | .moved id name _ _ _ _ => [id, name]
  | .acted id action _ targetId _ _ => id :: action :: targetId.toList
  | .refused _ _ _ refusal => refusal.texts
  | .over _ loser _ => [loser.plain]

theorem Team.isPlain_word (t : Team) : (Text.ofString t.word).IsPlain := by
  cases t <;> exact isPlain_ofString rfl

theorem Command.isPlain_word (command : Command) : (Text.ofString command.word).IsPlain := by
  cases command <;> exact isPlain_ofString rfl

namespace Refusal

theorem isPlain_reason (refusal : Refusal) :
    ((Text.ofString refusal.reason).replace '_' ' ').IsPlain := by
  cases refusal <;> dsimp only [reason] <;> decide

theorem isPlain_detail {refusal : Refusal} (h : ∀ t ∈ refusal.texts, t.IsPlain) :
    refusal.detail.IsPlain := by
  cases refusal with
  | unknownPiece id => exact .append (isPlain_ofString rfl) (h id (by simp [texts]))
  | gameOver winner => exact .append winner.isPlain_word (isPlain_ofString rfl)
  | notStarted => exact isPlain_ofString rfl
  | notYourTurn toMove =>
      exact .append (.append (isPlain_ofString rfl) toMove.isPlain_word) (isPlain_ofString rfl)
  | offBoard target | sameSquare target | occupied target | emptyTarget target =>
      exact .append (.append (isPlain_ofString rfl) target.isPlain_text) (isPlain_ofString rfl)
  | pathBlocked square => exact .append (isPlain_ofString rfl) square.isPlain_text
  | notInShape target name shape =>
      have htarget : (Text.ofString "target " ++ Text.ofString target.text).IsPlain :=
        .append (isPlain_ofString rfl) target.isPlain_text
      exact .append (.append (.append (.append (htarget.append (isPlain_ofString rfl))
        (h name (by simp [texts]))) (isPlain_ofString rfl)) (h shape (by simp [texts])))
        (isPlain_ofString rfl)
  | moveCancelled id =>
      exact .append (.append (isPlain_ofString rfl) (h id (by simp [texts]))) (isPlain_ofString rfl)
  | actionCancelled action id =>
      exact .append (.append (.append (h action (by simp [texts])) (isPlain_ofString rfl))
        (h id (by simp [texts]))) (isPlain_ofString rfl)
  | ownSquareEmpty id => exact .append (h id (by simp [texts])) (isPlain_ofString rfl)
  | selfTarget id action =>
      exact .append (.append (.append (h id (by simp [texts])) (isPlain_ofString rfl))
        (h action (by simp [texts]))) (isPlain_ofString rfl)
  | allyTarget id action other | enemyTarget id action other =>
      exact .append (.append (.append (.append (h id (by simp [texts])) (isPlain_ofString rfl))
        (h action (by simp [texts]))) (isPlain_ofString rfl)) (h other (by simp [texts]))

end Refusal

/-!
## Things on the screen
-/

section Screen

variable {g : Game} {n : PieceNumber}

theorem isInOrder_line {t : Text} {depth : Nat} (h : Leads t 0 depth) : (Item.line t).IsInOrder :=
  h.isInOrder

theorem isInOrder_error {message : Text} (h : message.IsPlain) :
    (Screen.error message).IsInOrder := by
  have hopening : Leads (Text.ofString "[red]Error:[/] ") 0 0 := leads_ofString rfl
  exact isInOrder_line (hopening.append (h.leads 0))

theorem isInOrder_help : Screen.help.IsInOrder := by
  have hopening : Leads (Text.ofString "[yellow]Commands:[/] ") 0 0 :=
    leads_ofString rfl
  have hcommands : Leads (Text.ofString Screen.commandHelp) 0 0 :=
    leads_ofString (by decide +kernel)
  exact isInOrder_line (hopening.append hcommands)

/-- A drawing is shown as it is, whatever brackets it holds. -/
theorem isInOrder_ofText {t : Text} (h : t.IsWhole) : (Body.ofText t).IsInOrder := by
  intro c hc
  exact h c (List.mem_filter.1 hc).1

theorem isWhole_drawBoard (hground : Game.Grounded g) (hplain : g.IsPlain) (marked : List Square)
    {marker : Text} (hmarker : marker.IsWhole) (selected : Option Square) :
    (Screen.drawBoard g marked marker selected).IsWhole := by
  refine Drawing.isWhole_board hmarker ?_
  intro s emoji hemoji
  rcases Option.map_eq_some_iff.1 hemoji with ⟨n, hn, rfl⟩
  exact (hplain n (hground.inPlay s n hn)).emoji

theorem isInOrder_board (hground : Game.Grounded g) (hplain : g.IsPlain) :
    ∀ item ∈ Screen.board g, item.IsInOrder := by
  have hdrawing : (Body.ofText (Screen.drawBoard g)).IsInOrder :=
    isInOrder_ofText (isWhole_drawBoard hground hplain [] (Text.isWhole_ofString "M") none)
  unfold Screen.board
  refine List.forall_mem_cons.2 ⟨⟨hdrawing, List.forall_mem_nil _, List.forall_mem_nil _⟩, ?_⟩
  cases g.toMove with
  | none => exact List.forall_mem_nil _
  | some team =>
      have hturn : Leads (Text.ofString "[dim]Turn ") 0 1 := leads_ofString rfl
      have hbold : Leads (Text.ofString ":[/] [bold]") 1 1 := leads_ofString rfl
      have hend : Leads (Text.ofString "[/] to move") 1 0 := leads_ofString rfl
      have hline := (hturn.append ((Text.isPlain_nat g.turn).leads 1)).append hbold
      refine List.forall_mem_singleton.2 ?_
      exact isInOrder_line ((hline.append (team.isPlain_word.leads 1)).append hend)

theorem isInOrder_title {name : Text} (hname : name.IsPlain) (p : Screen.Pattern) {kind : String}
    (hkind : (Text.ofString kind).IsPlain) :
    (Text.ofString "[bold]" ++ name ++ Text.ofString "[/] " ++ Text.ofString p.word ++
      Text.ofString kind).IsInOrder := by
  have hbold : Leads (Text.ofString "[bold]") 0 1 := leads_ofString rfl
  have hend : Leads (Text.ofString "[/] ") 1 0 := leads_ofString rfl
  have hword : (Text.ofString p.word).IsPlain := by
    cases p <;> exact isPlain_ofString rfl
  have hnamed := (hbold.append (hname.leads 1)).append hend
  exact ((hnamed.append (hword.leads 0)).append (hkind.leads 0)).isInOrder

theorem isInOrder_pattern (hground : Game.Grounded g) (hplain : g.IsPlain) (hn : n ∈ g.inPlay)
    (targets : List Square) (p : Screen.Pattern) : (Screen.pattern g n targets p).IsInOrder := by
  have hmarker : (Text.ofString p.marker).IsPlain := by
    cases p <;> exact isPlain_ofString rfl
  have hdim : Leads (Text.ofString "[dim]") 0 1 := leads_ofString rfl
  have hend : Leads (Text.ofString "=target  X=selected[/]") 1 0 := leads_ofString rfl
  have hsubtitle := (hdim.append (hmarker.leads 1)).append hend
  have hdrawing := isWhole_drawBoard hground hplain targets hmarker.1 (some (g.squareOf n))
  exact ⟨isInOrder_ofText hdrawing,
    List.forall_mem_singleton.2 (isInOrder_title (hplain n hn).name p (isPlain_ofString rfl)),
    List.forall_mem_singleton.2 hsubtitle.isInOrder⟩

theorem isInOrder_offsets {piece : Piece} (hname : piece.name.IsPlain) :
    ∀ item ∈ Screen.offsets piece, item.IsInOrder := by
  have hsubtitle : Leads (Text.ofString "[dim]X=piece  ■=offset[/]") 0 0 :=
    leads_ofString rfl
  have hpanel (p : Screen.Pattern) (offsets : List Square) :
      (Screen.offsetPanel piece p offsets).IsInOrder :=
    ⟨isInOrder_ofText (Text.isWhole_ofString _),
      List.forall_mem_singleton.2 (isInOrder_title hname p (isPlain_ofString rfl)),
      List.forall_mem_singleton.2 hsubtitle.isInOrder⟩
  exact List.forall_mem_cons.2
    ⟨hpanel .movement _, List.forall_mem_singleton.2 (hpanel .attack _)⟩

/-- What a line tells of a plain game is in order. -/
theorem isInOrder_of_tells (hground : Game.Grounded g) (hplain : g.IsPlain) {items : List Item}
    (h : Session.Tells g items) : ∀ item ∈ items, item.IsInOrder := by
  cases h with
  | nothing => exact List.forall_mem_nil _
  | help => exact List.forall_mem_singleton.2 isInOrder_help
  | vacant s =>
      have hmessage : (Text.ofString "No piece at " ++ Text.ofString s.text ++
          Text.ofString ".").IsPlain :=
        .append (.append (isPlain_ofString rfl) s.isPlain_text) (isPlain_ofString rfl)
      exact List.forall_mem_singleton.2 (isInOrder_error hmessage)
  | pattern inPlay targets p =>
      exact List.forall_mem_singleton.2 (isInOrder_pattern hground hplain inPlay targets p)
  | legal inPlay moves targets =>
      exact List.forall_mem_cons.2 ⟨isInOrder_pattern hground hplain inPlay moves .movement,
        List.forall_mem_singleton.2 (isInOrder_pattern hground hplain inPlay targets .attack)⟩
  | @offsets n inPlay => exact isInOrder_offsets (hplain n inPlay).name

end Screen

/-!
## Reports on the screen
-/

theorem isInOrder_refused (command : Command) (id : Text) (target : Square) {refusal : Refusal}
    (h : ∀ t ∈ refusal.texts, t.IsPlain) :
    ∀ item ∈ Screen.outcome "" (.refused command id target refusal), item.IsInOrder := by
  have hcross : Leads (Text.ofString "  [red]✗[/] ") 0 0 := leads_ofString rfl
  have hto : (Text.ofString " to ").IsPlain := isPlain_ofString rfl
  have hrejected : Leads (Text.ofString " rejected: [yellow]") 0 1 :=
    leads_ofString rfl
  have hdash : Leads (Text.ofString "[/] [dim]— ") 1 1 := leads_ofString rfl
  have hend : Leads (Text.ofString "[/]") 1 0 := leads_ofString rfl
  have horder := (hcross.append (command.isPlain_word.leads 0)).append (hto.leads 0)
  have hrefused := (horder.append (target.isPlain_text.leads 0)).append hrejected
  have hreason := (hrefused.append (refusal.isPlain_reason.leads 1)).append hdash
  refine List.forall_mem_singleton.2 ?_
  exact isInOrder_line ((hreason.append ((Refusal.isPlain_detail h).leads 1)).append hend)

theorem isInOrder_moved {id name : Text} (hid : id.IsPlain) (hname : name.IsPlain) (team : Team)
    (origin destination : Square) (turn : Nat) :
    ∀ item ∈ Screen.outcome "" (.moved id name team origin destination turn), item.IsInOrder := by
  have htick : Leads (Text.ofString "  [green]✓[/] ") 0 0 := leads_ofString rfl
  have hdim : Leads (Text.ofString " [dim](") 0 1 := leads_ofString rfl
  have hclose : Leads (Text.ofString ")[/] ") 1 0 := leads_ofString rfl
  have hbold : Leads (Text.ofString " → [bold]") 0 1 := leads_ofString rfl
  have hend : Leads (Text.ofString "[/]") 1 0 := leads_ofString rfl
  have hpiece := (((htick.append (hname.leads 0)).append hdim).append (hid.leads 1)).append hclose
  have hway := (hpiece.append (origin.isPlain_text.leads 0)).append hbold
  refine List.forall_mem_singleton.2 ?_
  exact isInOrder_line ((hway.append (destination.isPlain_text.leads 1)).append hend)

theorem isInOrder_acted {id action : Text} (hid : id.IsPlain) (haction : action.IsPlain)
    (target : Square) {targetId : Option Text} (htargetId : ∀ t ∈ targetId.toList, t.IsPlain)
    (captured : Bool) (turn : Nat) :
    ∀ item ∈ Screen.outcome "" (.acted id action target targetId captured turn),
      item.IsInOrder := by
  have htick : Leads (Text.ofString "  [green]✓[/] ") 0 0 := leads_ofString rfl
  have hblank : (Text.ofString " ").IsPlain := isPlain_ofString rfl
  have harrow : (Text.ofString " → ").IsPlain := isPlain_ofString rfl
  have hdim : Leads (Text.ofString " [dim](") 0 1 := leads_ofString rfl
  have hclose : Leads (Text.ofString ")[/]") 1 0 := leads_ofString rfl
  have hend : Leads (Text.ofString (if captured then "  [bold red]captured![/]" else "")) 0 0 := by
    cases captured <;> exact leads_ofString rfl
  have hstruck : (targetId.getD "empty square").IsPlain := by
    cases targetId with
    | none =>
        show (Text.ofString "empty square").IsPlain
        exact isPlain_ofString rfl
    | some t => exact htargetId t List.mem_cons_self
  have hdeed := ((htick.append (hid.leads 0)).append (hblank.leads 0)).append (haction.leads 0)
  have hwhere := (hdeed.append (harrow.leads 0)).append (target.isPlain_text.leads 0)
  have hwhom := ((hwhere.append hdim).append (hstruck.leads 1)).append hclose
  exact List.forall_mem_singleton.2 (isInOrder_line (hwhom.append hend))

theorem isInOrder_over (winner : Team) {loser : Value} (hloser : loser.plain.IsPlain) (turn : Nat) :
    ∀ item ∈ Screen.outcome "" (.over winner loser turn), item.IsInOrder := by
  have hblank : Leads (Text.ofString "") 0 0 := leads_ofString rfl
  have hbold : Leads (Text.ofString "Winner: [bold]") 0 1 := leads_ofString rfl
  have hdim : Leads (Text.ofString "[/]\n[dim]") 1 1 := leads_ofString rfl
  have hlost : (Text.ofString " lost their king on turn ").IsPlain := isPlain_ofString rfl
  have hend : Leads (Text.ofString "[/]") 1 0 := leads_ofString rfl
  have htitle : Leads (Text.ofString "[bold]Game Over[/]") 0 0 := leads_ofString rfl
  have hwinner := (hbold.append (winner.isPlain_word.leads 1)).append hdim
  have hloss := (hwinner.append (hloser.leads 1)).append (hlost.leads 1)
  have hbody := (hloss.append ((Text.isPlain_nat turn).leads 1)).append hend
  exact List.forall_mem_cons.2 ⟨isInOrder_line hblank, List.forall_mem_singleton.2
    ⟨hbody.isInOrder, List.forall_mem_singleton.2 htitle.isInOrder, List.forall_mem_nil _⟩⟩

theorem isInOrder_started (first : Team) (count : Nat) :
    ∀ item ∈ Screen.outcome "" (.started first count), item.IsInOrder := by
  have hbold : Leads (Text.ofString " pieces on the board, [bold]") 0 1 :=
    leads_ofString rfl
  have hdim : Leads (Text.ofString "[/] moves first\n[dim]") 1 1 := leads_ofString rfl
  have hblank : (Text.ofString "").IsPlain := isPlain_ofString rfl
  have hend : Leads (Text.ofString "[/]") 1 0 := leads_ofString rfl
  have htitle : Leads (Text.ofString "[bold green] Chess Playground [/]") 0 0 :=
    leads_ofString rfl
  have hfirst := (((Text.isPlain_nat count).leads 0).append hbold).append (first.isPlain_word.leads 1)
  have hbody := ((hfirst.append hdim).append (hblank.leads 1)).append hend
  exact List.forall_mem_singleton.2
    ⟨hbody.isInOrder, List.forall_mem_singleton.2 htitle.isInOrder, List.forall_mem_nil _⟩

theorem isInOrder_outcome {outcome : Outcome} (h : ∀ t ∈ outcome.texts, t.IsPlain) :
    ∀ item ∈ Screen.outcome "" outcome, item.IsInOrder := by
  match outcome, h with
  | .started first count, _ => exact isInOrder_started first count
  | .moved id name team origin destination turn, h =>
      rcases List.forall_mem_cons.1 h with ⟨hid, hname⟩
      exact isInOrder_moved hid (List.forall_mem_singleton.1 hname) team origin destination turn
  | .acted id action target targetId captured turn, h =>
      rcases List.forall_mem_cons.1 h with ⟨hid, h⟩
      rcases List.forall_mem_cons.1 h with ⟨haction, htargetId⟩
      exact isInOrder_acted hid haction target htargetId captured turn
  | .refused command id target _, h => exact isInOrder_refused command id target h
  | .over winner _ turn, h => exact isInOrder_over winner (List.forall_mem_singleton.1 h) turn

/-!
## Reports of orders
-/

namespace Game

variable {g : Game} {n : PieceNumber}

theorem isPlain_of_not_commanded {id : Text} (hid : id.IsPlain) {refusal : Refusal}
    (h : g.commanded id = .error refusal) : ∀ t ∈ refusal.texts, t.IsPlain := by
  unfold commanded at h
  split at h
  · cases h
    exact List.forall_mem_singleton.2 hid
  · split at h
    · cases h
      exact List.forall_mem_nil _
    · cases h
      exact List.forall_mem_nil _
    · split at h
      · cases h
      · cases h
        exact List.forall_mem_nil _

theorem isPlain_of_moveRefusal (hn : (g.piece n).IsPlain) {target : Square} {refusal : Refusal}
    (h : g.moveRefusal n target = some refusal) : ∀ t ∈ refusal.texts, t.IsPlain := by
  rcases Option.or_eq_some_iff.1 h with hpre | ⟨_, hlate⟩
  · unfold movePrecheck at hpre
    split at hpre
    · cases hpre
      exact List.forall_mem_nil _
    · split at hpre
      · cases hpre
        exact List.forall_mem_nil _
      · split at hpre
        · cases hpre
          exact List.forall_mem_cons.2 ⟨hn.name, List.forall_mem_singleton.2 (isPlain_ofString rfl)⟩
        · cases hpre
  · split at hlate
    · cases hlate
      exact List.forall_mem_singleton.2 hn.id
    · unfold obstacle at hlate
      dsimp only at hlate
      split at hlate
      · cases hlate
        exact List.forall_mem_nil _
      · split at hlate
        · cases hlate
          exact List.forall_mem_nil _
        · cases hlate

theorem isPlain_of_targetRefusal (hn : (g.piece n).IsPlain) {m : PieceNumber}
    (hm : (g.piece m).IsPlain) {alliesOnly : Bool} {action : Text} (haction : action.IsPlain)
    {refusal : Refusal} (h : g.targetRefusal alliesOnly n m action = some refusal) :
    ∀ t ∈ refusal.texts, t.IsPlain := by
  have hboth : ∀ t ∈ [(g.piece n).id, action], t.IsPlain :=
    List.forall_mem_cons.2 ⟨hn.id, List.forall_mem_singleton.2 haction⟩
  have hall : ∀ t ∈ [(g.piece n).id, action, (g.piece m).id], t.IsPlain :=
    List.forall_mem_cons.2
      ⟨hn.id, List.forall_mem_cons.2 ⟨haction, List.forall_mem_singleton.2 hm.id⟩⟩
  unfold targetRefusal at h
  dsimp only at h
  split at h
  · cases h
    exact hboth
  · split at h
    · split at h <;> cases h
      exact hall
    · split at h <;> cases h
      exact hall

theorem isPlain_of_actionRefusal (hn : (g.piece n).IsPlain) {target : Square}
    (hoccupant : ∀ m, g.board.pieceAt target = some m → (g.piece m).IsPlain) {action : Text}
    (haction : action.IsPlain) {refusal : Refusal}
    (h : g.actionRefusal n target action = some refusal) : ∀ t ∈ refusal.texts, t.IsPlain := by
  rcases Option.or_eq_some_iff.1 h with hpre | ⟨_, hlate⟩
  · unfold actionPrecheck at hpre
    split at hpre
    · cases hpre
      exact List.forall_mem_nil _
    · split at hpre
      · cases hpre
        exact List.forall_mem_singleton.2 hn.id
      · split at hpre
        · cases hpre
          exact List.forall_mem_cons.2 ⟨hn.name, List.forall_mem_singleton.2 haction⟩
        · cases hpre
  · split at hlate
    · cases hlate
      exact List.forall_mem_nil _
    · next m hm => exact isPlain_of_targetRefusal hn (hoccupant m hm) haction hlate

theorem isPlain_of_move (h : NeatlyReached g) (hn : n ∈ g.inPlay) (hplain : (g.piece n).IsPlain)
    {target : Square} {outcomes : List Outcome} {g' : Game}
    (hrun : move (g.piece n).id target g = .ok outcomes g') :
    ∀ outcome ∈ outcomes, ∀ t ∈ outcome.texts, t.IsPlain := by
  have haccount := h.plainly.accounted
  have hbuiltIn := h.plainly.builtIn
  have hfind := haccount.numbered.find?_id hn
  cases hcommanded : g.commanded (g.piece n).id with
  | error refusal =>
      rw [move_of_not_commanded hcommanded] at hrun
      cases hrun
      exact List.forall_mem_singleton.2 (isPlain_of_not_commanded hplain.id hcommanded)
  | ok m =>
      have hm := find?_of_commanded hcommanded
      rw [hfind] at hm
      cases hm
      cases hmobile : g.hasAbility n "Immobile" with
      | true =>
          rw [move_cancelled_of_immobile haccount hbuiltIn hcommanded hmobile] at hrun
          cases hrun
          exact List.forall_mem_singleton.2 (List.forall_mem_singleton.2 hplain.id)
      | false =>
          cases hrefusal : g.moveRefusal n target with
          | some refusal =>
              rw [move_of_moveRefusal_some haccount hbuiltIn hcommanded hmobile hrefusal] at hrun
              split at hrun
              · cases hrun
                exact List.forall_mem_singleton.2 (isPlain_of_moveRefusal hplain hrefusal)
              · cases hrun
          | none =>
              rw [move_of_moveRefusal_none haccount hbuiltIn hcommanded hrefusal,
                carryOutMove_of_builtIn haccount hbuiltIn n (h.settled.held n hn)
                  (holds_of_moveRefusal hrefusal)] at hrun
              cases hrun
              exact List.forall_mem_singleton.2 (List.forall_mem_cons.2
                ⟨hplain.id, List.forall_mem_singleton.2 hplain.name⟩)

theorem isPlain_of_act (h : PlainlyReached g) (hplain : g.IsPlain) (hn : n ∈ g.inPlay)
    {target : Square} {action : Text} (haction : action.IsPlain) {outcomes : List Outcome}
    {g' : Game} (hrun : act (g.piece n).id target action g = .ok outcomes g') :
    ∀ outcome ∈ outcomes, ∀ t ∈ outcome.texts, t.IsPlain := by
  have hid := (hplain n hn).id
  have hoccupant : ∀ m, g.board.pieceAt target = some m → (g.piece m).IsPlain :=
    fun m hm => hplain m (h.grounded.inPlay target m hm)
  have hstruck : ∀ m, g.board.pieceAt target = some m →
      ∀ t ∈ [(g.piece n).id, action, (g.piece m).id], t.IsPlain := fun m hm =>
    List.forall_mem_cons.2
      ⟨hid, List.forall_mem_cons.2 ⟨haction, List.forall_mem_singleton.2 (hoccupant m hm).id⟩⟩
  have hends := actEnds h (g.piece n).id target action
  rw [hrun] at hends
  cases hends with
  | forbidden gate => exact List.forall_mem_singleton.2 (isPlain_of_not_commanded hid gate)
  | @refused m refusal ordered hrefusal =>
      have hm := hplain m (mem_inPlay_iff.2 ⟨_, ordered⟩)
      exact List.forall_mem_singleton.2 (isPlain_of_actionRefusal hm hoccupant haction hrefusal)
  | spared _ _ _ =>
      refine List.forall_mem_singleton.2 ?_
      cases hm : g.board.pieceAt target with
      | none => exact List.forall_mem_cons.2 ⟨hid, List.forall_mem_singleton.2 haction⟩
      | some m => exact hstruck m hm
  | captured _ victim _ _ =>
      exact List.forall_mem_singleton.2 (hstruck _ (victimOf_eq_some_iff.1 victim).1)
  | @won k m _ _ victim _ _ =>
      exact List.forall_mem_cons.2 ⟨hstruck m (victimOf_eq_some_iff.1 victim).1,
        List.forall_mem_singleton.2 (List.forall_mem_singleton.2 (g.piece m).team.isPlain_word)⟩

theorem isPlain_step (g g' : Game) (h : Step g g') (hplain : g.IsPlain) : g'.IsPlain := by
  have same := samePieces_step h
  intro n hn
  rcases mem_inPlay_iff.1 hn with ⟨id, hfind⟩
  have hpiece : g'.piece n = g.piece n := by
    unfold piece
    rw [same.pieces]
  rw [hpiece]
  exact hplain n (mem_inPlay_iff.2 ⟨id, same.roster id n hfind⟩)

end Game

/-!
## Lines
-/

namespace Session

variable {g : Game} {line : Text}

theorem isPlain_of_order (h : Game.NeatlyReached g) (hplain : g.IsPlain) {order : PieceOrder}
    (hline : Orders g line order) {outcomes : List Outcome} {g' : Game}
    (hrun : order.carryOut g = .ok outcomes g') :
    ∀ outcome ∈ outcomes, ∀ t ∈ outcome.texts, t.IsPlain := by
  cases hline with
  | @move x y x' y' n said stands =>
      have hn := h.plainly.grounded.inPlay _ n stands
      exact Game.isPlain_of_move h hn (hplain n hn) hrun
  | @attack x y x' y' n said stands =>
      have hn := h.plainly.grounded.inPlay _ n stands
      exact Game.isPlain_of_act h.plainly hplain hn (isPlain_ofString rfl) hrun

/-- A game stays plain, since no line brings pieces into play. -/
theorem isPlain_after_handle (h : Game.NeatlyReached g) (hplain : g.IsPlain) (line : Text) :
    (g.after (handle line)).IsPlain := by
  by_cases hline : ∃ order, Orders g line order
  · rcases hline with ⟨order, hline⟩
    rcases after_handle_of_order h hline with ⟨outcomes, hrun⟩
    rw [← Game.after_of_eq_ok hrun, ← Game.after_order]
    rcases Game.stepwise_operation order.operation with
      ⟨blueprint, team, square, heq⟩ | ⟨blueprints, entries, heq⟩ | hstepwise
    · cases order <;> cases heq
    · cases order <;> cases heq
    · exact (hstepwise g).induction Game.isPlain_step hplain
  · rw [after_handle_of_no_order h fun order hordered => hline ⟨order, hordered⟩]
    exact hplain

/-- All that a line has for an answer in a plain game is in order. -/
theorem isInOrder_of_handle (h : Game.NeatlyReached g) (hplain : g.IsPlain) {items : List Item}
    {goesOn : Bool} {g' : Game} (hrun : handle line g = .ok (items, goesOn) g') :
    ∀ item ∈ items, item.IsInOrder := by
  have hafter := isPlain_after_handle h hplain line
  have hreached := neatlyReached_after_handle h line
  rw [Game.after_of_eq_ok hrun] at hafter hreached
  have hends := lineEnds h line
  rw [hrun] at hends
  cases hends with
  | left leaves => exact List.forall_mem_nil _
  | told tells => exact isInOrder_of_tells h.plainly.grounded hplain tells
  | ordered hline carriedOut =>
      intro item hitem
      rcases List.mem_append.1 hitem with hitem | hitem
      · rcases List.mem_flatMap.1 hitem with ⟨outcome, houtcome, hitem⟩
        have htexts := isPlain_of_order h hplain hline carriedOut outcome houtcome
        exact isInOrder_outcome htexts item hitem
      · exact isInOrder_board hreached.plainly.grounded hafter item hitem

end Session
end Boardcraft
