import Boardcraft.Proofs.Data.Initial
import Boardcraft.Proofs.Layout
import Boardcraft.Proofs.Session.Answers
import Boardcraft.Session.Opening

/-!
# Sessions line by line

A session sets up the board, begins the game and then handles one line after the other on a console.
It stops behind the first line that asks to leave, that ends the game, that asks for squares which
cannot be told, or whose answer the console cannot show, and leaves the rest unread.

## Main statements

* `sessions_keep_to_the_game` says what lines do to the game, when handling one fails and which
  lines are handled.
-/

namespace Boardcraft

namespace Session

variable {console : Console} {g : Game} {line : Text}

/-!
## Opened games
-/

/-- A game that has been set up and begun by some settings and blueprints. -/
def Opened (g : Game) : Prop :=
  ∃ (settings : Settings) (blueprints : Table Text Blueprint) (board : Board) (outcome : Outcome),
    Board.make settings.width settings.height = .ok board ∧
      openGame settings blueprints { board } = .ok outcome g

theorem eq_ok_of_mapError {ε ε' α : Type} {f : ε → ε'} {x : Except ε α} {a : α}
    (h : x.mapError f = .ok a) : x = .ok a := by
  cases x with
  | error e => cases h
  | ok a' =>
      cases h
      rfl

theorem opened_of_openSession {settings : Settings} {here : Location} {folder : Option Folder}
    {time : Text} {items : List Item}
    (h : openSession settings here folder time = .ok (g, items)) : Opened g := by
  unfold openSession at h
  rcases exists_of_bind_eq_ok h with ⟨board, hboard, h⟩
  cases folder with
  | none => cases h
  | some folder =>
      rcases exists_of_bind_eq_ok h with ⟨folder', _, h⟩
      rcases exists_of_bind_eq_ok h with ⟨blueprints, _, h⟩
      refine ⟨settings, blueprints, board, ?_⟩
      split at h
      · next outcome g' hrun =>
          cases h
          exact ⟨outcome, eq_ok_of_mapError hboard, hrun⟩
      · cases h

/-- Setting up and beginning a game is a run of two operations that brings pieces onto vacant
squares. -/
theorem exists_run_of_opened (h : Opened g) :
    ∃ (start : Game) (blueprints : Table Text Blueprint) (entries : List Game.Entry)
      (first : Value), Game.Fresh start ∧ start.registry.BuiltIn ∧
      start.RunsOnVacant [.setup blueprints entries, .start first] ∧
      g = start.run [.setup blueprints entries, .start first] := by
  rcases h with ⟨settings, blueprints, board, outcome, hmake, hrun⟩
  unfold openGame at hrun
  cases hsetup : Game.setupNamed blueprints settings.layout { board } with
  | error e g' =>
      rw [Game.bind_of_eq_error _ hsetup] at hrun
      cases hrun
  | ok _ g' =>
      rw [Game.bind_of_eq_ok _ hsetup] at hrun
      unfold Game.setupNamed at hsetup
      rw [Game.get_bind] at hsetup
      cases hplacements : settings.layout.placements board.width board.height with
      | error e =>
          rw [hplacements] at hsetup
          cases hsetup
      | ok placements =>
          rw [hplacements] at hsetup
          refine ⟨Game.fresh board .standard, blueprints, placements.map .ofPlacement,
            .str settings.firstTeam.word, ⟨_, _, board, .standard, hmake, rfl⟩,
            Registry.builtIn_standard, ⟨⟨?_, ?_⟩, trivial, trivial⟩, ?_⟩
          · rw [List.map_map]
            exact LayoutName.nodup_placements hplacements
          · intro e _
            exact Board.pieceAt_of_make hmake e.square
          · have hset : (Game.fresh board .standard).after (Operation.setup blueprints
                (placements.map .ofPlacement)).perform = g' := by
              rw [Operation.perform, Game.after_map]
              exact Game.after_of_eq_ok hsetup
            show g = Game.after (Game.after _ _) (Operation.start _).perform
            rw [hset, Operation.perform, Game.after_map]
            exact (Game.after_of_eq_ok hrun).symm

theorem neatlyReached_of_opened (h : Opened g) : Game.NeatlyReached g := by
  rcases exists_run_of_opened h with ⟨start, blueprints, entries, first, hfresh, hbuiltIn, hvacant,
    heq⟩
  exact ⟨start, _, hfresh, hbuiltIn, hvacant, heq⟩

theorem isOver_of_opened (h : Opened g) : g.isOver = false := by
  rcases exists_run_of_opened h with ⟨start, blueprints, entries, first, hfresh, _, _, rfl⟩
  have hopen : start.winner = none := by
    rcases hfresh with ⟨_, _, _, _, _, rfl⟩
    rfl
  have hset : (start.after (Operation.setup blueprints entries).perform).winner = none := by
    apply Game.winner_perform_of_open _ hopen
    exact not_false
  have hbegun : (start.run [.setup blueprints entries, .start first]).winner = none := by
    apply Game.winner_perform_of_open _ hset
    exact not_false
  unfold Game.isOver
  rw [hbegun]
  rfl

/-!
## One line on a console
-/

/-- The console cannot show a thing that a line has for an answer, but shows all things before. -/
def Baffles (console : Console) (g : Game) (line : Text) (item : Item) : Prop :=
  ∃ items goesOn g', handle line g = .ok (items, goesOn) g' ∧
    (items.find? fun item => !console.shows item) = some item

inductive LineFails (console : Console) (g : Game) (line : Text) : Failure → Game → Prop
  | overwhelmed (asks : AsksTooMuch g line) : LineFails console g line (.game .oversizedNumber) g
  | baffled {items : List Item} {goesOn : Bool} {g' : Game} {item : Item}
      (answered : handle line g = .ok (items, goesOn) g')
      (unshown : (items.find? fun item => !console.shows item) = some item) :
      LineFails console g line (.unshowable (items.takeWhile console.shows) item) g'

theorem handleOn_of_error {e : GameError} {g' : Game} (h : handle line g = .error e g') :
    handleOn console line g = .error (.game e) g' := by
  unfold handleOn
  rw [h]

theorem handleOn_of_unshown {items : List Item} {goesOn : Bool} {g' : Game} {item : Item}
    (h : handle line g = .ok (items, goesOn) g')
    (hunshown : (items.find? fun item => !console.shows item) = some item) :
    handleOn console line g = .error (.unshowable (items.takeWhile console.shows) item) g' := by
  unfold handleOn
  rw [h]
  dsimp only
  rw [hunshown]

theorem handleOn_of_shown {items : List Item} {goesOn : Bool} {g' : Game}
    (h : handle line g = .ok (items, goesOn) g')
    (hshown : (items.find? fun item => !console.shows item) = none) :
    handleOn console line g = .ok (items, goesOn) g' := by
  unfold handleOn
  rw [h]
  dsimp only
  rw [hshown]

theorem handleOn_eq_error_iff (h : Game.NeatlyReached g) {failure : Failure} {g' : Game} :
    handleOn console line g = .error failure g' ↔ LineFails console g line failure g' := by
  constructor
  · intro hfails
    cases hrun : handle line g with
    | error e k =>
        rw [handleOn_of_error hrun] at hfails
        cases hfails
        rcases (handle_eq_error_iff h).1 hrun with ⟨asks, rfl, rfl⟩
        exact .overwhelmed asks
    | ok answer k =>
        rcases answer with ⟨items, goesOn⟩
        cases hshown : items.find? fun item => !console.shows item with
        | none =>
            rw [handleOn_of_shown hrun hshown] at hfails
            cases hfails
        | some item =>
            rw [handleOn_of_unshown hrun hshown] at hfails
            cases hfails
            exact .baffled hrun hshown
  · intro hfails
    cases hfails with
    | overwhelmed asks => exact handleOn_of_error (handle_of_asksTooMuch h.plainly asks)
    | baffled answered unshown => exact handleOn_of_unshown answered unshown

theorem not_asksTooMuch_of_ok (h : Game.NeatlyReached g) {answer : Answer} {g' : Game}
    (hrun : handle line g = .ok answer g') : ¬ AsksTooMuch g line := by
  intro asks
  rw [handle_of_asksTooMuch h.plainly asks] at hrun
  cases hrun

theorem baffles_iff {items : List Item} {goesOn : Bool} {g' : Game}
    (hrun : handle line g = .ok (items, goesOn) g') {item : Item} :
    Baffles console g line item ↔
      (items.find? fun item => !console.shows item) = some item := by
  constructor
  · rintro ⟨items', goesOn', k, hrun', hunshown⟩
    rw [hrun] at hrun'
    cases hrun'
    exact hunshown
  · intro hunshown
    exact ⟨items, goesOn, g', hrun, hunshown⟩

theorem not_baffles_of_asksTooMuch (h : Game.NeatlyReached g) (asks : AsksTooMuch g line)
    (item : Item) : ¬ Baffles console g line item := by
  rintro ⟨items, goesOn, g', hrun, _⟩
  exact not_asksTooMuch_of_ok h hrun asks

theorem handleOn_eq_ok {answer : Answer} {g' : Game}
    (h : handleOn console line g = .ok answer g') :
    handle line g = .ok answer g' ∧ ∀ item, ¬ Baffles console g line item := by
  cases hrun : handle line g with
  | error e k =>
      rw [handleOn_of_error hrun] at h
      cases h
  | ok answer' k =>
      rcases answer' with ⟨items, goesOn⟩
      cases hshown : items.find? fun item => !console.shows item with
      | some item =>
          rw [handleOn_of_unshown hrun hshown] at h
          cases h
      | none =>
          rw [handleOn_of_shown hrun hshown] at h
          cases h
          refine ⟨rfl, fun item baffles => ?_⟩
          rw [baffles_iff hrun, hshown] at baffles
          cases baffles

theorem not_baffles_of_isPlain (hconsole : console.KeepsToMarkup) (h : Game.NeatlyReached g)
    (hplain : g.IsPlain) (item : Item) : ¬ Baffles console g line item := by
  rintro ⟨items, goesOn, g', hrun, hunshown⟩
  have hinOrder := isInOrder_of_handle h hplain hrun item (List.mem_of_find?_eq_some hunshown)
  have hnot := List.find?_some hunshown
  rw [hconsole.shown item hinOrder] at hnot
  cases hnot

theorem handleOn_of_overcloses (hconsole : console.KeepsToMarkup) {items : List Item}
    {goesOn : Bool} {g' : Game} (hrun : handle line g = .ok (items, goesOn) g') {item : Item}
    (hitem : item ∈ items) (hover : item.Overcloses) :
    ∃ before first, handleOn console line g = .error (.unshowable before first) g' := by
  cases hshown : items.find? fun item => !console.shows item with
  | some first => exact ⟨_, first, handleOn_of_unshown hrun hshown⟩
  | none =>
      have hshows := List.find?_eq_none.1 hshown item hitem
      rw [hconsole.unshown item hover] at hshows
      exact absurd rfl hshows

/-!
## Lines in a row
-/

def afterLine (console : Console) (g : Game) (line : Text) : Game :=
  match handleOn console line g with
  | .ok _ g' => g'
  | .error _ g' => g'

/-- What the console can show has no part in what a line does to the game. -/
theorem afterLine_eq (console : Console) (g : Game) (line : Text) :
    afterLine console g line = g.after (handle line) := by
  cases hrun : handle line g with
  | error e g' =>
      rw [afterLine, handleOn_of_error hrun, Game.after_of_eq_error hrun]
  | ok answer g' =>
      rcases answer with ⟨items, goesOn⟩
      cases hshown : items.find? fun item => !console.shows item with
      | none => rw [afterLine, handleOn_of_shown hrun hshown, Game.after_of_eq_ok hrun]
      | some item => rw [afterLine, handleOn_of_unshown hrun hshown, Game.after_of_eq_ok hrun]

def afterLines (console : Console) (g : Game) (lines : List Text) : Game :=
  lines.foldl (afterLine console) g

/-- Whether something holds of the last of some lines and the game in which it is handled. -/
def OfLast (console : Console) (P : Game → Text → Prop) (g : Game) (lines : List Text) : Prop :=
  ∃ front line, lines = front ++ [line] ∧ P (afterLines console g front) line

/-- A line behind which a session stops: it leaves, it ends the game, it cannot be answered, or its
answer cannot be shown. -/
inductive Stops (console : Console) (g : Game) (line : Text) : Prop
  | leaves (leaves : Leaves line)
  | ends (going : g.isOver = false) (ended : (afterLine console g line).isOver = true)
  | overwhelms (asks : AsksTooMuch g line)
  | baffles {item : Item} (baffles : Baffles console g line item)

theorem afterLines_concat (console : Console) (g : Game) (front : List Text) (line : Text) :
    afterLines console g (front ++ [line]) = (afterLines console g front).after (handle line) := by
  unfold afterLines
  rw [List.foldl_concat, afterLine_eq]

theorem neatlyReached_afterLine (h : Game.NeatlyReached g) (console : Console) (line : Text) :
    Game.NeatlyReached (afterLine console g line) := by
  rw [afterLine_eq]
  exact neatlyReached_after_handle h line

theorem neatlyReached_afterLines (h : Game.NeatlyReached g) (console : Console)
    (lines : List Text) : Game.NeatlyReached (afterLines console g lines) := by
  induction lines generalizing g with
  | nil => exact h
  | cons line rest ih => exact ih (neatlyReached_afterLine h console line)

theorem isPlain_afterLines (h : Game.NeatlyReached g) (hplain : g.IsPlain) (console : Console)
    (lines : List Text) : (afterLines console g lines).IsPlain := by
  induction lines generalizing g with
  | nil => exact hplain
  | cons line rest ih =>
      have hafter := isPlain_after_handle h hplain line
      rw [← afterLine_eq console] at hafter
      exact ih (neatlyReached_afterLine h console line) hafter

section OfLast

variable {P : Game → Text → Prop}

theorem not_ofLast_nil : ¬ OfLast console P g [] := by
  rintro ⟨front, line, heq, _⟩
  exact List.append_ne_nil_of_right_ne_nil front (List.cons_ne_nil line []) heq.symm

theorem ofLast_cons_iff {lines : List Text} :
    OfLast console P g (line :: lines) ↔
      (lines = [] ∧ P g line) ∨ OfLast console P (afterLine console g line) lines := by
  constructor
  · rintro ⟨front, last, heq, h⟩
    cases front with
    | nil =>
        cases heq
        exact Or.inl ⟨rfl, h⟩
    | cons first rest =>
        injection heq with hfirst heq
        subst hfirst
        exact Or.inr ⟨rest, last, heq, h⟩
  · rintro (⟨rfl, h⟩ | ⟨front, last, rfl, h⟩)
    · exact ⟨[], line, rfl, h⟩
    · exact ⟨line :: front, last, rfl, h⟩

theorem ofLast_singleton_iff : OfLast console P g [line] ↔ P g line := by
  rw [ofLast_cons_iff, or_iff_left not_ofLast_nil, and_iff_right rfl]

theorem ofLast_cons_iff_of_not (h : ¬ P g line) (lines : List Text) :
    OfLast console P g (line :: lines) ↔ OfLast console P (afterLine console g line) lines := by
  rw [ofLast_cons_iff]
  exact or_iff_right fun hhere => h hhere.2

end OfLast

/-!
## The loop
-/

/-- What is left of a session that was begun with a game and some lines: it has handled the lines up
to the first behind which it stops, and has failed if that one cannot be answered or its answer
cannot be shown. -/
structure Handles (console : Console) (g : Game) (lines handled : List Text) (t : Transcript) :
    Prop where
  unread : lines = handled ++ t.unread
  shortest : ShortestInitial (OfLast console (Stops console) g) handled lines
  failure : ∀ e, t.failure = some e ↔
    e = .oversizedNumber ∧ OfLast console AsksTooMuch g handled
  unshown : ∀ item, t.unshown = some item ↔
    OfLast console (fun g line => Baffles console g line item) g handled

theorem Handles.nil {t : Transcript} (unread : t.unread = []) (failure : t.failure = none)
    (unshown : t.unshown = none) : Handles console g [] [] t := by
  refine ⟨by rw [unread]; rfl, .nil, ?_, ?_⟩
  · intro e
    rw [failure]
    exact iff_of_false nofun fun hlast => not_ofLast_nil hlast.2
  · intro item
    rw [unshown]
    exact iff_of_false nofun not_ofLast_nil

theorem shortestInitial_of_stops (h : Stops console g line) (rest : List Text) :
    ShortestInitial (OfLast console (Stops console) g) [line] (line :: rest) :=
  (ShortestInitial.nil_of_stops (ofLast_singleton_iff.2 h) rest).cons not_ofLast_nil

theorem Handles.stop {rest : List Text} {t : Transcript} (hstops : Stops console g line)
    (unread : t.unread = rest)
    (failure : ∀ e, t.failure = some e ↔ e = .oversizedNumber ∧ AsksTooMuch g line)
    (unshown : ∀ item, t.unshown = some item ↔ Baffles console g line item) :
    Handles console g (line :: rest) [line] t := by
  refine ⟨by rw [unread]; rfl, shortestInitial_of_stops hstops rest, ?_, ?_⟩
  · intro e
    rw [failure, ofLast_singleton_iff]
  · intro item
    rw [unshown, ofLast_singleton_iff]

theorem Handles.go {rest handled : List Text} {later t : Transcript} (hgo : ¬ Stops console g line)
    (hrest : Handles console (afterLine console g line) rest handled later)
    (unread : t.unread = later.unread) (failure : t.failure = later.failure)
    (unshown : t.unshown = later.unshown) :
    Handles console g (line :: rest) (line :: handled) t := by
  have hanswered : ¬ AsksTooMuch g line := fun asks => hgo (.overwhelms asks)
  have hshown : ∀ item, ¬ Baffles console g line item := fun _ baffles => hgo (.baffles baffles)
  have hsame : (fun q => OfLast console (Stops console) g (line :: q)) =
      OfLast console (Stops console) (afterLine console g line) :=
    funext fun q => propext (ofLast_cons_iff_of_not hgo q)
  refine ⟨?_, ?_, ?_, ?_⟩
  · rw [unread, List.cons_append, ← hrest.unread]
  · apply ShortestInitial.cons not_ofLast_nil
    rw [hsame]
    exact hrest.shortest
  · intro e
    rw [failure, ofLast_cons_iff_of_not hanswered]
    exact hrest.failure e
  · intro item
    rw [unshown, ofLast_cons_iff_of_not (hshown item)]
    exact hrest.unshown item

theorem stops_iff (h : Game.NeatlyReached g) (hopen : g.isOver = false) {items : List Item}
    {goesOn : Bool} {g' : Game} (hrun : handleOn console line g = .ok (items, goesOn) g') :
    Stops console g line ↔ (!goesOn || g'.isOver) = true := by
  rcases handleOn_eq_ok hrun with ⟨hhandled, hshown⟩
  have hafter : afterLine console g line = g' := by rw [afterLine, hrun]
  rw [Bool.or_eq_true, Bool.not_eq_true', goesOn_eq_false_iff h hhandled, ← hafter]
  constructor
  · intro hstops
    cases hstops with
    | leaves leaves => exact Or.inl leaves
    | ends going ended => exact Or.inr ended
    | baffles baffles => exact absurd baffles (hshown _)
    | overwhelms asks => exact absurd asks (not_asksTooMuch_of_ok h hhandled)
  · rintro (leaves | ended)
    · exact .leaves leaves
    · exact .ends hopen ended

theorem handles_replayOn (h : Game.NeatlyReached g) (hopen : g.isOver = false)
    (lines : List Text) : ∃ handled, Handles console g lines handled (replayOn console g lines) := by
  induction lines generalizing g with
  | nil => exact ⟨[], .nil rfl rfl rfl⟩
  | cons line rest ih =>
      unfold replayOn
      cases hrun : handleOn console line g with
      | error failure g' =>
          have hfails := (handleOn_eq_error_iff h).1 hrun
          refine ⟨[line], ?_⟩
          cases hfails with
          | overwhelmed asks =>
              refine .stop (.overwhelms asks) rfl (fun e => ?_) fun item => ?_
              · rw [Option.some_inj, and_iff_left asks]
                exact eq_comm
              · exact iff_of_false nofun (not_baffles_of_asksTooMuch h asks item)
          | baffled answered unshown =>
              have hasks := not_asksTooMuch_of_ok h answered
              refine .stop (.baffles ((baffles_iff answered).2 unshown)) rfl (fun e => ?_)
                fun item => ?_
              · exact iff_of_false nofun fun hfailure => hasks hfailure.2
              · rw [baffles_iff answered, unshown]
      | ok answer g' =>
          rcases answer with ⟨items, goesOn⟩
          have hstops := stops_iff h hopen hrun
          rcases handleOn_eq_ok hrun with ⟨hhandled, hshown⟩
          have hafter : afterLine console g line = g' := by rw [afterLine, hrun]
          dsimp only
          by_cases hstop : (!goesOn || g'.isOver) = true
          · rw [if_pos hstop]
            have hasks := not_asksTooMuch_of_ok h hhandled
            refine ⟨[line], .stop (hstops.2 hstop) rfl (fun e => ?_) fun item => ?_⟩
            · exact iff_of_false nofun fun hfailure => hasks hfailure.2
            · exact iff_of_false nofun (hshown item)
          · rw [if_neg hstop]
            have hgo : ¬ Stops console g line := fun hstops' => hstop (hstops.1 hstops')
            have hopen' : (afterLine console g line).isOver = false := by
              rw [hafter]
              exact (Bool.or_eq_false_iff.1 (Bool.eq_false_iff.2 hstop)).2
            rcases ih (neatlyReached_afterLine h console line) hopen' with ⟨handled, hrest⟩
            exact ⟨line :: handled,
              .go hgo hrest (by rw [hafter]) (by rw [hafter]) (by rw [hafter])⟩

/-!
## Whole sessions
-/

def uniform (blueprint : Blueprint) : Table Text Blueprint :=
  (("pawn" :: Layout.backRank : List Text)).foldl (fun t name => t.insert name blueprint) .empty

/-- The game that a session with the usual settings opens where all pieces are of one kind. -/
def uniformGame (blueprint : Blueprint) : Game :=
  (Game.usual .standard).after (openGame {} (uniform blueprint))

theorem opened_uniformGame {blueprint : Blueprint}
    (h : ((openGame {} (uniform blueprint)).run' (Game.usual .standard)).isSome = true) :
    Opened (uniformGame blueprint) := by
  cases heq : openGame {} (uniform blueprint) (Game.usual .standard) with
  | ok outcome g' =>
      refine ⟨{}, uniform blueprint, _, outcome, rfl, ?_⟩
      rw [uniformGame, Game.after_of_eq_ok heq]
      exact heq
  | error e g' =>
      delta EStateM.run' EStateM.run at h
      rw [heq] at h
      cases h

/-- A blueprint of pieces that reach to the east, as far as a numeral can say. -/
def reaching : Blueprint :=
  { name := "Reacher", emoji := "R", movement := .object Game.farEast,
    attack := .object Game.farEast }

theorem opened_reaching : Opened (uniformGame reaching) :=
  opened_uniformGame (by decide +kernel)

theorem asksTooMuch_reaching : AsksTooMuch (uniformGame reaching) "legal 1 0" := by
  refine ⟨1, 0, 3, ⟨"legal", ["1", "0"], ?_, ?_, ?_⟩, ?_, ?_⟩
  · decide +kernel
  · decide +kernel
  · decide +kernel
  · decide +kernel
  · decide +kernel

def nameless : Blueprint :=
  { name := "[/]", emoji := "N", movement := .object Game.farEast, attack := .object Game.farEast }

/-- No console that keeps to markup shows the moves of pieces whose name is a tag that closes a
style. -/
theorem line_unshown_for_nameless {console : Console} (hconsole : console.KeepsToMarkup) :
    Opened (uniformGame nameless) ∧ ∃ before item,
      handleOn console "showmove 1 0" (uniformGame nameless) =
        .error (.unshowable before item) (uniformGame nameless) := by
  have hopened : Opened (uniformGame nameless) := opened_uniformGame (by decide +kernel)
  have hline : LineCommand.ofLine "showmove 1 0" = .showMoves ⟨1, 0⟩ := by decide +kernel
  have hstands : (uniformGame nameless).board.pieceAt ⟨1, 0⟩ = some 3 := by decide +kernel
  have hname : ((uniformGame nameless).piece 3).name = "[/]" := by decide +kernel
  refine ⟨hopened, ?_⟩
  have hrun : handle "showmove 1 0" (uniformGame nameless) =
      .ok ([Screen.pattern (uniformGame nameless) 3
        ((uniformGame nameless).movementTargets 3) .movement], true) (uniformGame nameless) := by
    unfold handle
    rw [hline]
    exact inspect_of_ok hstands rfl
  have htitle : (Text.ofString "[bold]" ++ ((uniformGame nameless).piece 3).name ++
      Text.ofString "[/] " ++ Text.ofString Screen.Pattern.movement.word ++
      Text.ofString " pattern").Overcloses := by
    rw [hname]
    unfold Text.Overcloses
    decide +kernel
  exact handleOn_of_overcloses hconsole hrun List.mem_cons_self
    (Or.inr (Or.inl ⟨_, List.mem_singleton_self _, htitle⟩))

end Session
end Boardcraft
