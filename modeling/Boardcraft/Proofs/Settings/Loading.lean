import Boardcraft.Proofs.Data.Reading
import Boardcraft.Settings.Basic

/-!
# Which documents are settings

A document may hold anything where settings are expected.  The settings that are loaded from it
are valid, and almost every other document is refused.  The one exception is a board of infinite
width or height: no whole number is left of it, and the conversion fails in a way that is no
refusal.

## Main statements

* `load_eq_ok_iff` says which settings a document stands for;
* `load_eq_infinite_iff` says which documents fail without being refused;
* `refused_unless_infinite` joins both.
-/

namespace Boardcraft

def Value.isInfinite : Value → Bool
  | .float (.infinite _) => true
  | _ => false

theorem Team.eq_white_or_black (t : Team) : t = .white ∨ t = .black := by
  cases t <;> decide

theorem LayoutName.mem_all (l : LayoutName) : l ∈ all := by
  cases l <;> decide

namespace Settings

structure Valid (s : Settings) : Prop where
  width : 1 ≤ s.width
  height : 1 ≤ s.height
  firstTeam : s.firstTeam = .white ∨ s.firstTeam = .black
  layout : s.layout ∈ LayoutName.all
  level : s.level ∈ levels

/-- Whether a document is refused by an error.  Neither the lack of one nor an infinite size is such
an error. -/
def Error.isRefusal : Error → Bool
  | missing | infinite => false
  | _ => true

/-!
## Sections
-/

def IsSection (v : Value) : Prop := v.isTruthy = true → ∃ fields, v = .object fields

theorem sectionOf_of_isSection {v : Value} (h : IsSection v) : sectionOf v = .ok v.fields := by
  unfold sectionOf
  split
  · next htruthy =>
      rcases h htruthy with ⟨fields, rfl⟩
      rfl
  · next hfalsy =>
      cases v with
      | object fields =>
          have hempty : fields = [] := by
            simpa [Value.isTruthy] using hfalsy
          rw [hempty]
          rfl
      | _ => rfl

theorem sectionOf_of_not_isSection {v : Value} (h : ¬ IsSection v) :
    sectionOf v = .error .badStructure := by
  unfold IsSection at h
  rw [Classical.not_imp] at h
  rcases h with ⟨htruthy, hother⟩
  unfold sectionOf
  rw [if_pos htruthy]
  cases v with
  | object fields => exact absurd ⟨fields, rfl⟩ hother
  | _ => rfl

theorem sectionOf_eq_ok {v : Value} {fields : Fields} (h : sectionOf v = .ok fields) :
    IsSection v ∧ fields = v.fields := by
  by_cases hsection : IsSection v
  · rw [sectionOf_of_isSection hsection] at h
    injection h with h
    exact ⟨hsection, h.symm⟩
  · rw [sectionOf_of_not_isSection hsection] at h
    cases h

theorem sectionOf_eq_error {v : Value} {e : Error} (h : sectionOf v = .error e) :
    e = .badStructure := by
  by_cases hsection : IsSection v
  · rw [sectionOf_of_isSection hsection] at h
    cases h
  · rw [sectionOf_of_not_isSection hsection] at h
    injection h with h
    exact h.symm

/-!
## Fields
-/

theorem wholeOf_of_isInfinite {v : Value} (h : v.isInfinite = true) :
    wholeOf v = .error .infinite := by
  unfold Value.isInfinite at h
  split at h
  · rfl
  · cases h

theorem wholeOf_eq_error {v : Value} {e : Error} (h : wholeOf v = .error e) :
    e = .badStructure ∨ e = .infinite ∧ v.isInfinite = true := by
  unfold wholeOf at h
  split at h
  · cases h
  · cases h
  · cases h
    exact Or.inr ⟨rfl, rfl⟩
  · split at h <;> cases h
    exact Or.inl rfl
  · split at h <;> cases h
    exact Or.inl rfl
  · cases h
    exact Or.inl rfl

def hasInfinite (fields : Fields) (name : Text) : Bool := (fields.get? name).any Value.isInfinite

theorem readWhole_of_hasInfinite {fields : Fields} {name : Text}
    (h : hasInfinite fields name = true) (missing : Int) :
    readWhole fields name missing = .error .infinite := by
  unfold hasInfinite at h
  unfold readWhole
  cases hv : fields.get? name with
  | none =>
      rw [hv] at h
      cases h
  | some v =>
      rw [hv] at h
      exact wholeOf_of_isInfinite h

theorem readWhole_eq_error {fields : Fields} {name : Text} {missing : Int} {e : Error}
    (h : readWhole fields name missing = .error e) :
    e = .badStructure ∨ e = .infinite ∧ hasInfinite fields name = true := by
  unfold readWhole at h
  unfold hasInfinite
  cases hv : fields.get? name with
  | none =>
      rw [hv] at h
      cases h
  | some v =>
      rw [hv] at h
      exact wholeOf_eq_error h

theorem readText_eq_error {fields : Fields} {name missing : Text} {e : Error}
    (h : readText fields name missing = .error e) : e = .badStructure := by
  unfold readText at h
  split at h
  · split at h <;> cases h
    rfl
  · cases h

/-!
## Drafts
-/

/-- What the sections of a document say, as far as they can be read. -/
structure Draft.Reads (doc : Value) (d : Draft) : Prop where
  document : IsSection doc
  board : IsSection (doc.field "board")
  game : IsSection (doc.field "game")
  logging : IsSection (doc.field "logging")
  width : readWhole (doc.field "board").fields "width" 8 = .ok d.width
  height : readWhole (doc.field "board").fields "height" 8 = .ok d.height
  blueprintDir :
    readText (doc.field "game").fields "blueprint_dir" "./blueprints" = .ok d.blueprintDir
  firstTeam : ((doc.field "game").fields.get? "first_team").getD (.str "white") = d.firstTeam
  layout : ((doc.field "game").fields.get? "layout").getD (.str "standard") = d.layout
  level : ∃ word, readText (doc.field "logging").fields "level" "INFO" = .ok word ∧
    d.level = word.upper
  logFile : readText (doc.field "logging").fields "file" "./logs/chessplayground.log" =
    .ok d.logFile

theorem readDraft_eq_ok_iff {doc : Value} {d : Draft} :
    readDraft doc = .ok d ↔ d.Reads doc := by
  unfold readDraft
  constructor
  · intro h
    rcases exists_of_bind_eq_ok h with ⟨sections, hsections, h⟩
    rcases sectionOf_eq_ok hsections with ⟨hdocument, rfl⟩
    rcases exists_of_bind_eq_ok h with ⟨board, hfields, h⟩
    rcases sectionOf_eq_ok hfields with ⟨hboard, rfl⟩
    rcases exists_of_bind_eq_ok h with ⟨width, hwidth, h⟩
    rcases exists_of_bind_eq_ok h with ⟨height, hheight, h⟩
    rcases exists_of_bind_eq_ok h with ⟨game, hfields', h⟩
    rcases sectionOf_eq_ok hfields' with ⟨hgame, rfl⟩
    rcases exists_of_bind_eq_ok h with ⟨blueprintDir, hblueprintDir, h⟩
    rcases exists_of_bind_eq_ok h with ⟨logging, hfields'', h⟩
    rcases sectionOf_eq_ok hfields'' with ⟨hlogging, rfl⟩
    rcases exists_of_bind_eq_ok h with ⟨level, hlevel, h⟩
    rcases exists_of_bind_eq_ok h with ⟨logFile, hlogFile, h⟩
    cases h
    exact ⟨hdocument, hboard, hgame, hlogging, hwidth, hheight, hblueprintDir, rfl, rfl,
      ⟨level, hlevel, rfl⟩, hlogFile⟩
  · intro h
    rcases h.level with ⟨word, hword, hlevel⟩
    have hfield : ∀ name, (doc.fields.get? name).getD .null = doc.field name := fun _ => rfl
    rw [bind_of_eq_ok (sectionOf_of_isSection h.document)]
    simp only [hfield]
    rw [bind_of_eq_ok (sectionOf_of_isSection h.board), bind_of_eq_ok h.width,
      bind_of_eq_ok h.height, bind_of_eq_ok (sectionOf_of_isSection h.game),
      bind_of_eq_ok h.blueprintDir, bind_of_eq_ok (sectionOf_of_isSection h.logging),
      bind_of_eq_ok hword, bind_of_eq_ok h.logFile, ← hlevel]
    exact congrArg Except.ok (by cases d; cases h.firstTeam; cases h.layout; rfl)

/-- The board of a document is infinite.  Its height is looked at once its width has been read. -/
def AsksForInfinity (doc : Value) : Prop :=
  hasInfinite (doc.field "board").fields "width" = true ∨
    (∃ width, readWhole (doc.field "board").fields "width" 8 = .ok width) ∧
      hasInfinite (doc.field "board").fields "height" = true

theorem readDraft_eq_error {doc : Value} {e : Error} (h : readDraft doc = .error e) :
    e = .badStructure ∨ e = .infinite ∧ AsksForInfinity doc := by
  -- the parts are read in this order, and only the sizes of the board can be infinite
  unfold readDraft at h
  rcases bind_eq_error h with h | ⟨sections, hsections, h⟩
  · exact Or.inl (sectionOf_eq_error h)
  rcases sectionOf_eq_ok hsections with ⟨-, rfl⟩
  rcases bind_eq_error h with h | ⟨board, hboard, h⟩
  · exact Or.inl (sectionOf_eq_error h)
  rcases sectionOf_eq_ok hboard with ⟨-, rfl⟩
  rcases bind_eq_error h with h | ⟨width, hwidth, h⟩
  · exact (readWhole_eq_error h).imp_right (And.imp_right Or.inl)
  rcases bind_eq_error h with h | ⟨height, hheight, h⟩
  · refine (readWhole_eq_error h).imp_right (And.imp_right fun hinfinite => Or.inr ?_)
    exact ⟨⟨width, hwidth⟩, hinfinite⟩
  rcases bind_eq_error h with h | ⟨game, hgame, h⟩
  · exact Or.inl (sectionOf_eq_error h)
  rcases bind_eq_error h with h | ⟨blueprintDir, hblueprintDir, h⟩
  · exact Or.inl (readText_eq_error h)
  rcases bind_eq_error h with h | ⟨logging, hlogging, h⟩
  · exact Or.inl (sectionOf_eq_error h)
  rcases bind_eq_error h with h | ⟨level, hlevel, h⟩
  · exact Or.inl (readText_eq_error h)
  rcases bind_eq_error h with h | ⟨logFile, hlogFile, h⟩
  · exact Or.inl (readText_eq_error h)
  cases h

theorem isSection_of_hasInfinite {v : Value} {name : Text}
    (h : hasInfinite v.fields name = true) : IsSection v := by
  intro _
  cases v with
  | object fields => exact ⟨fields, rfl⟩
  | _ => cases h

theorem isSection_of_field {doc : Value} {name field : Text}
    (h : hasInfinite (doc.field name).fields field = true) : IsSection doc := by
  intro _
  cases doc with
  | object fields => exact ⟨fields, rfl⟩
  | _ => cases h

theorem readDraft_of_asksForInfinity {doc : Value} (h : AsksForInfinity doc) :
    readDraft doc = .error .infinite := by
  have hsections : IsSection doc ∧ IsSection (doc.field "board") := by
    rcases h with hwidth | ⟨-, hheight⟩
    · exact ⟨isSection_of_field hwidth, isSection_of_hasInfinite hwidth⟩
    · exact ⟨isSection_of_field hheight, isSection_of_hasInfinite hheight⟩
  have hfield : ∀ name, (doc.fields.get? name).getD .null = doc.field name := fun _ => rfl
  unfold readDraft
  rw [bind_of_eq_ok (sectionOf_of_isSection hsections.1)]
  simp only [hfield]
  rw [bind_of_eq_ok (sectionOf_of_isSection hsections.2)]
  rcases h with hwidth | ⟨⟨width, hwidth⟩, hheight⟩
  · rw [readWhole_of_hasInfinite hwidth]
    rfl
  · rw [bind_of_eq_ok hwidth, readWhole_of_hasInfinite hheight]
    rfl

/-!
## Settings
-/

/-- Settings say the same as a draft, whose words are known and whose sizes are positive. -/
structure Draft.Fits (d : Draft) (s : Settings) : Prop where
  width : s.width = d.width
  height : s.height = d.height
  blueprintDir : s.blueprintDir = d.blueprintDir
  firstTeam : d.firstTeam = .str s.firstTeam.word
  layout : d.layout = .str s.layout.word
  level : s.level = d.level
  logFile : s.logFile = d.logFile
  valid : s.Valid

theorem teamOf_eq_some_iff {v : Value} {t : Team} :
    Team.ofValue? v = some t ↔ v = .str t.word := by
  constructor
  · intro h
    cases v with
    | str word =>
        have hword := List.find?_some h
        rw [eq_of_beq hword]
    | _ => cases h
  · rintro rfl
    cases t <;> rfl

theorem layoutOf?_eq_some_iff {v : Value} {l : LayoutName} :
    layoutOf? v = some l ↔ v = .str l.word := by
  constructor
  · intro h
    cases v with
    | str word =>
        have hword := List.find?_some h
        rw [eq_of_beq hword]
    | _ => cases h
  · rintro rfl
    cases l <;> rfl

theorem Draft.check_eq_ok_iff {d : Draft} {s : Settings} : d.check = .ok s ↔ d.Fits s := by
  unfold check
  constructor
  · intro h
    split at h
    · cases h
    · next hsize =>
        rw [not_or, Int.not_lt, Int.not_lt] at hsize
        split at h
        · cases h
        · next team hteam =>
            split at h
            · cases h
            · next layout hlayout =>
                split at h
                · next hlevel =>
                    cases h
                    refine ⟨rfl, rfl, rfl, teamOf_eq_some_iff.1 hteam,
                      layoutOf?_eq_some_iff.1 hlayout, rfl, rfl, ?_⟩
                    exact ⟨hsize.1, hsize.2, team.eq_white_or_black, layout.mem_all,
                      List.contains_iff_mem.1 hlevel⟩
                · cases h
  · intro h
    have hsize : ¬ (d.width < 1 ∨ d.height < 1) := by
      rw [← h.width, ← h.height, not_or, Int.not_lt, Int.not_lt]
      exact ⟨h.valid.width, h.valid.height⟩
    have hlevel : levels.contains d.level = true := by
      rw [← h.level]
      exact List.contains_iff_mem.2 h.valid.level
    rw [if_neg hsize, teamOf_eq_some_iff.2 h.firstTeam]
    dsimp only
    rw [layoutOf?_eq_some_iff.2 h.layout]
    dsimp only
    rw [if_pos hlevel, ← h.width, ← h.height, ← h.blueprintDir, ← h.level, ← h.logFile]

/-- Settings are refused, not given up, for words and sizes that will not do. -/
theorem Draft.check_eq_error {d : Draft} {e : Error} (h : d.check = .error e) :
    e.isRefusal = true := by
  unfold check at h
  split at h
  · cases h
    rfl
  · split at h
    · cases h
      rfl
    · split at h
      · cases h
        rfl
      · split at h <;> cases h
        rfl

/-!
## Documents
-/

/-- A document stands for the settings that say what it says, if they are valid, and for none
otherwise. -/
theorem load_eq_ok_iff {doc : Value} {s : Settings} :
    load (some doc) = .ok s ↔ ∃ d : Draft, d.Reads doc ∧ d.Fits s := by
  constructor
  · intro h
    rcases exists_of_bind_eq_ok h with ⟨d, hreads, hfits⟩
    exact ⟨d, readDraft_eq_ok_iff.1 hreads, Draft.check_eq_ok_iff.1 hfits⟩
  · rintro ⟨d, hreads, hfits⟩
    show readDraft doc >>= Draft.check = .ok s
    rw [bind_of_eq_ok (readDraft_eq_ok_iff.2 hreads), Draft.check_eq_ok_iff.2 hfits]

theorem load_eq_error {doc : Value} {e : Error} (h : load (some doc) = .error e) :
    e.isRefusal = true ∨ e = .infinite ∧ AsksForInfinity doc := by
  rcases bind_eq_error h with h | ⟨d, -, h⟩
  · rcases readDraft_eq_error h with rfl | hinfinite
    · exact Or.inl rfl
    · exact Or.inr hinfinite
  · exact Or.inl (Draft.check_eq_error h)

theorem load_eq_infinite_iff {doc : Value} :
    load (some doc) = .error .infinite ↔ AsksForInfinity doc := by
  constructor
  · intro h
    rcases load_eq_error h with hrefused | ⟨-, hinfinite⟩
    · cases hrefused
    · exact hinfinite
  · intro h
    show readDraft doc >>= Draft.check = _
    rw [readDraft_of_asksForInfinity h]
    rfl

/-- Whatever a document holds, the settings that are loaded from it are the valid ones that say what
it says.  A document from which none are loaded is refused, unless and only unless the width or the
height of its board is infinite. -/
theorem refused_unless_infinite (doc : Value) :
    (∀ s, load (some doc) = .ok s ↔ ∃ d : Draft, d.Reads doc ∧ d.Fits s) ∧
    (load (some doc) = .error .infinite ↔ AsksForInfinity doc) ∧
    (((∃ s, load (some doc) = .ok s ∧ s.Valid) ∨
      ∃ e, load (some doc) = .error e ∧ e.isRefusal = true) ↔ ¬ AsksForInfinity doc) := by
  refine ⟨fun s => load_eq_ok_iff, load_eq_infinite_iff, ?_, ?_⟩
  · intro h hinfinite
    rw [load_eq_infinite_iff.2 hinfinite] at h
    rcases h with ⟨s, hs, -⟩ | ⟨e, he, hrefused⟩
    · cases hs
    · cases he
      cases hrefused
  · intro h
    cases hload : load (some doc) with
    | ok s =>
        rcases load_eq_ok_iff.1 hload with ⟨d, -, hfits⟩
        exact Or.inl ⟨s, rfl, hfits.valid⟩
    | error e =>
        rcases load_eq_error hload with hrefused | ⟨-, hinfinite⟩
        · exact Or.inr ⟨e, rfl, hrefused⟩
        · exact absurd hinfinite h

def boundless : Value := .object [("board", .object [("width", .float (.infinite false))])]

theorem not_refused_of_boundless :
    ¬ ((∃ s, load (some boundless) = .ok s ∧ s.Valid) ∨
      ∃ e, load (some boundless) = .error e ∧ e.isRefusal = true) := by
  have hload : load (some boundless) = .error .infinite := by rfl
  rw [hload]
  rintro (⟨s, hs, -⟩ | ⟨e, he, hrefused⟩)
  · cases hs
  · cases he
    cases hrefused

end Settings
end Boardcraft
