import Boardcraft.Proofs.Status.Shown

/-!
# Effects refine timers

After every run, the effects on the pieces in play show the timers of a countdown that has been told
of the deeds of the run one after the other, and of nothing else.  Abilities, listeners and the
numbers of effects have no part in it.

## Main statements

* `tracks_afflict`, `tracks_remove`, `tracks_tickAll` and `kept_add` follow one deed;
* `effects_refine_timers` follows a run from a fresh game.
-/

namespace Boardcraft
namespace Game

/-- The effects on the pieces in play show the timers of a countdown. -/
structure Tracks (g : Game) (T : Countdown) : Prop where
  absent : ∀ id, g.find? id = none → T id = none
  present : ∀ id n, g.find? id = some n →
    ∃ timers, T id = some timers ∧ List.Forall₂ (g.Shows n) (g.statusesOf n) timers

/-- Everything that a run with a registry keeps about effects and timers. -/
structure Kept (r : Registry) (T : Countdown) (g : Game) : Prop where
  registry : g.registry = r
  accounted : Accounted g
  tracks : g.Tracks T
  sound : T.Sound

section Deeds

variable {g g' : Game} {T : Countdown} {id : Text} {n : PieceNumber}

/-- What changes neither the roster nor the effects changes no timer. -/
theorem tracks_frame (h : g.Tracks T) (hroster : g'.roster = g.roster)
    (hstatuses : g'.statuses = g.statuses) (heffects : g'.effects = g.effects)
    (hregistry : g'.registry = g.registry) : g'.Tracks T := by
  constructor
  · intro id hid
    rw [find?_of_roster_eq hroster] at hid
    exact h.absent id hid
  · intro id n hid
    rw [find?_of_roster_eq hroster] at hid
    rcases h.present id n hid with ⟨timers, htimers, hshows⟩
    have hlist : g'.statusesOf n = g.statusesOf n := by
      unfold statusesOf
      rw [hstatuses]
    refine ⟨timers, htimers, ?_⟩
    rw [hlist]
    refine shows_congr hshows ?_ hregistry
    intro e _
    unfold effect?
    rw [heffects]

/-- What changes the effects on one piece changes the timers of that piece only. -/
theorem tracks_update (h : g.Tracks T) (hg : Numbered g) (hfind : g.find? id = some n)
    {timers : List Timer} (hself : List.Forall₂ (g'.Shows n) (g'.statusesOf n) timers)
    (hstatuses : ∀ m, m ≠ n → g'.statusesOf m = g.statusesOf m)
    (heffects : ∀ m, m ≠ n → ∀ e ∈ g.statusesOf m, g'.effect? e = g.effect? e)
    (hroster : g'.roster = g.roster) (hregistry : g'.registry = g.registry) :
    g'.Tracks (Function.update T id (some timers)) := by
  constructor
  · intro id' hid
    rw [find?_of_roster_eq hroster] at hid
    rw [Function.update_of_ne ?_]
    · exact h.absent id' hid
    · intro heq
      rw [heq, hfind] at hid
      cases hid
  · intro id' m hid
    rw [find?_of_roster_eq hroster] at hid
    by_cases heq : id' = id
    · subst heq
      rw [hfind] at hid
      injection hid with hid
      subst hid
      exact ⟨timers, Function.update_self .., hself⟩
    · have hne : m ≠ n := hg.ne_of_find? hfind hid heq
      rcases h.present id' m hid with ⟨others, hothers, hshows⟩
      refine ⟨others, ?_, ?_⟩
      · rw [Function.update_of_ne heq, hothers]
      · rw [hstatuses m hne]
        exact shows_congr hshows (heffects m hne) hregistry

/-- Where no piece is in play under an id, there is no timer to change. -/
theorem tracks_update_absent (h : g.Tracks T) (hfind : g.find? id = none)
    (change : List Timer → List Timer) :
    Function.update T id ((T id).map change) = T := by
  rw [h.absent id hfind, Option.map_none, ← h.absent id hfind, Function.update_eq_self]

/-!
## An effect is applied
-/

theorem shows_withEffect (definition : StatusDefinition) (host : PieceNumber) (hg : Attached g)
    {timers : List Timer} (h : List.Forall₂ (g.Shows n) (g.statusesOf n) timers) :
    List.Forall₂ ((g.withEffect definition host).Shows n) (g.statusesOf n) timers :=
  shows_congr h (fun _ he => effect?_withEffect_of_ne (hg.ne_effectCount he)) rfl

section Applying

variable {definition : StatusDefinition} {host : PieceNumber} {timers : List Timer}

theorem tracks_stacked (hg : Accounted g) (h : g.Tracks T) (hfind : g.find? id = some host)
    (hshows : List.Forall₂ (g.Shows host) (g.statusesOf host) timers) (hsound : Timer.Sound timers)
    {m : EffectNumber} {effect : Effect}
    (hforce : (g.withEffect definition host).inForce? host definition.name = some m)
    (found : (g.withEffect definition host).effect? m = some effect) :
    ((g.withEffect definition host).setEffect m (effect.stack definition)).Tracks
      (Function.update T id (some (timers.map fun t =>
        if t.name == definition.name then t.again definition else t))) := by
  have hagain := shows_again (shows_withEffect definition host hg.attached hshows)
    (hg.attached.nodup host) hsound.names hforce found
  refine tracks_update h hg.numbered hfind hagain (fun _ _ => rfl) ?_ rfl rfl
  intro m' hne e he
  have hm := (inForce?_eq_some hforce).1
  rw [effect?_setEffect, if_neg (hg.attached.ne_of_mem hm he hne),
    effect?_withEffect_of_ne (hg.attached.ne_effectCount he)]

theorem tracks_begun (hg : Accounted g) (h : g.Tracks T) (hfind : g.find? id = some host)
    (hshows : List.Forall₂ (g.Shows host) (g.statusesOf host) timers) {children : List Ability}
    (hmakes : List.Forall₂ (g.registry.Makes host) definition.abilities children) :
    (g.withEffectInForce definition host children).Tracks
      (Function.update T id (some (timers ++ [Timer.start definition]))) := by
  have hsame : ∀ m, ∀ e ∈ g.statusesOf m,
      (g.withEffectInForce definition host children).effect? e = g.effect? e :=
    fun m e he => effect?_withEffectInForce_of_ne (hg.attached.ne_effectCount he)
  have hbegun : List.Forall₂ ((g.withEffectInForce definition host children).Shows host)
      ((g.withEffectInForce definition host children).statusesOf host)
      (timers ++ [Timer.start definition]) := by
    rw [statusesOf_withEffectInForce, if_pos rfl]
    refine List.rel_append (shows_congr hshows (hsame host) rfl) ?_
    exact List.Forall₂.cons ⟨children, effect?_withEffectInForce_self, hmakes⟩ List.Forall₂.nil
  refine tracks_update h hg.numbered hfind hbegun ?_ (fun m _ => hsame m) rfl rfl
  intro m hne
  rw [statusesOf_withEffectInForce, if_neg hne.symm]

theorem tracks_unmade (hg : Accounted g) (h : g.Tracks T) (hfind : g.find? id = some host)
    (hshows : List.Forall₂ (g.Shows host) (g.statusesOf host) timers) (k : Nat) :
    ((g.withEffect definition host).withSerials k).Tracks
      (Function.update T id (some timers)) := by
  have hunbegun : List.Forall₂ (((g.withEffect definition host).withSerials k).Shows host)
      (((g.withEffect definition host).withSerials k).statusesOf host) timers :=
    shows_withEffect definition host hg.attached hshows
  exact tracks_update h hg.numbered hfind hunbegun (fun _ _ => rfl)
    (fun m _ e he => effect?_withEffect_of_ne (hg.attached.ne_effectCount he)) rfl rfl

end Applying

theorem tracks_afflict (hg : Accounted g) (h : g.Tracks T) (hsound : T.Sound) (id : Text)
    (definition : StatusDefinition) :
    (g.after (applyStatus id definition)).Tracks
      (T.told g.registry.canMake (.afflict id definition)) := by
  unfold Countdown.told
  dsimp only
  cases hfind : g.find? id with
  | none =>
      rw [after_of_eq_error (applyStatus_of_find?_none hfind definition),
        tracks_update_absent h hfind]
      exact h
  | some host =>
      rcases h.present id host hfind with ⟨timers, htimers, hshows⟩
      have hmade := shows_withEffect definition host hg.attached hshows
      rw [htimers, Option.map_some]
      unfold Timer.apply
      rcases applyStatus_cases hfind definition with
        ⟨m, effect, hforce, found, hrun⟩ | ⟨children, hforce, -, hmakes, hrun⟩ |
          ⟨e, k, hforce, hunmade, hrun⟩
      · rw [after_of_eq_ok hrun, if_pos (runs_of_find?_some hmade hforce)]
        exact tracks_stacked hg h hfind hshows (hsound id timers htimers) hforce found
      · have hidle := Bool.eq_false_iff.1 (runs_of_find?_none hmade hforce)
        rw [after_of_eq_ok hrun, if_neg hidle, if_pos (Registry.all_canMake hmakes)]
        exact tracks_begun hg h hfind hshows hmakes
      · have hidle := Bool.eq_false_iff.1 (runs_of_find?_none hmade hforce)
        rw [after_of_eq_error hrun, if_neg hidle, if_neg (Bool.eq_false_iff.1 hunmade)]
        exact tracks_unmade hg h hfind hshows k

/-!
## A piece leaves
-/

theorem tracks_withoutPiece (hg : Accounted g) (h : g.Tracks T) (hfind : g.find? id = some n) :
    (g.withoutPiece id n).Tracks (Function.update T id none) := by
  have hfind' : ∀ id', (g.withoutPiece id n).find? id' = if id = id' then none else g.find? id' := by
    intro id'
    rcases withoutPiece_eq g id n with ⟨dispatcher, effects, heq⟩
    rw [heq]
    exact Table.find?_erase _ _ _
  constructor
  · intro id' hid
    by_cases heq : id' = id
    · rw [heq, Function.update_self]
    · rw [hfind', if_neg (Ne.symm heq)] at hid
      rw [Function.update_of_ne heq]
      exact h.absent id' hid
  · intro id' m hid
    rw [hfind'] at hid
    split at hid
    · cases hid
    · next hne =>
        have hother : m ≠ n := hg.numbered.ne_of_find? hfind hid (Ne.symm hne)
        rcases h.present id' m hid with ⟨timers, htimers, hshows⟩
        refine ⟨timers, ?_, ?_⟩
        · rw [Function.update_of_ne (Ne.symm hne), htimers]
        · rw [statusesOf_withoutPiece, if_neg hother.symm]
          refine shows_congr hshows ?_ (samePieces_withoutPiece g id n _).registry
          intro e he
          exact effect?_withoutPiece id fun he' => hg.attached.ne_of_mem he' he hother rfl

theorem tracks_remove (hg : Accounted g) (h : g.Tracks T) (id : Text) :
    (g.after (removePiece id)).Tracks (Function.update T id none) := by
  have hremove := removes_after g id
  generalize g.after (removePiece id) = g' at hremove ⊢
  cases hremove with
  | absent hfind =>
      rw [← h.absent id hfind, Function.update_eq_self]
      exact h
  | offBoard hfind _ => exact tracks_withoutPiece hg h hfind
  | cleared hfind _ => exact tracks_frame (tracks_withoutPiece hg h hfind) rfl rfl rfl rfl

/-!
## A turn ends
-/

/-- By induction on the pieces whose effects count down: each piece has its turn once, and the
effects on the others are left alone. -/
theorem shows_foldl_tickStatuses {l : List PieceNumber} (hnodup : l.Nodup) (hg : Accounted g)
    {timers : List Timer} (h : List.Forall₂ (g.Shows n) (g.statusesOf n) timers) :
    List.Forall₂ ((l.foldl (fun g n => (g.tickStatuses n).2) g).Shows n)
      ((l.foldl (fun g n => (g.tickStatuses n).2) g).statusesOf n)
      (if n ∈ l then Timer.countDown timers else timers) := by
  induction l generalizing g timers with
  | nil =>
      rw [if_neg List.not_mem_nil]
      exact h
  | cons m rest ih =>
      rw [List.nodup_cons] at hnodup
      rw [List.foldl_cons]
      have hfirst := accounted_tickStatuses hg m
      by_cases heq : m = n
      · subst heq
        rw [if_pos List.mem_cons_self]
        have hcounted : List.Forall₂ ((g.tickStatuses m).2.Shows m)
            ((g.tickStatuses m).2.statusesOf m) (Timer.countDown timers) := by
          rw [statusesOf_tickStatuses, if_pos rfl]
          refine shows_countDown h ?_ (registry_tickStatuses g m)
          intro e he
          rw [effect?_tickStatuses (hg.attached.nodup m), if_pos he]
        have hrest := ih hnodup.2 hfirst hcounted
        rw [if_neg hnodup.1] at hrest
        exact hrest
      · have hsame : List.Forall₂ ((g.tickStatuses m).2.Shows n)
            ((g.tickStatuses m).2.statusesOf n) timers := by
          rw [statusesOf_tickStatuses, if_neg heq]
          refine shows_congr h ?_ (registry_tickStatuses g m)
          intro e he
          rw [effect?_tickStatuses (hg.attached.nodup m), if_neg ?_]
          intro he'
          exact hg.attached.ne_of_mem he' he (Ne.symm heq) rfl
        have hmem : n ∈ m :: rest ↔ n ∈ rest := by
          rw [List.mem_cons]
          exact or_iff_right (Ne.symm heq)
        rw [if_congr hmem rfl rfl]
        exact ih hnodup.2 hfirst hsame

theorem tracks_tickAll (hg : Accounted g) (h : g.Tracks T) :
    g.tickAll.Tracks fun id => (T id).map Timer.countDown := by
  have hroster : g.tickAll.roster = g.roster := by
    rcases tickAll_eq g with ⟨dispatcher, effects, statuses, heq⟩
    rw [heq]
  constructor
  · intro id hid
    rw [find?_of_roster_eq hroster] at hid
    rw [h.absent id hid, Option.map_none]
  · intro id n hid
    rw [find?_of_roster_eq hroster] at hid
    rcases h.present id n hid with ⟨timers, htimers, hshows⟩
    refine ⟨Timer.countDown timers, ?_, ?_⟩
    · rw [htimers, Option.map_some]
    · have hcounted := shows_foldl_tickStatuses hg.numbered.nodup_inPlay hg hshows
      rw [if_pos (mem_inPlay_iff.2 ⟨id, hid⟩)] at hcounted
      exact hcounted

/-!
## A piece enters
-/

theorem tracks_withPieceOn (hg : Accounted g) (h : g.Tracks T) {p : Piece} (square : Square) :
    (g.withPieceOn p square).Tracks (Function.update T p.id (some [])) := by
  have hfind : ∀ id, (g.withPieceOn p square).find? id =
      if p.id = id then some (g.pieceCount + 1) else g.find? id :=
    fun id => Table.find?_insert _ _ _ _
  constructor
  · intro id hid
    rw [hfind] at hid
    split at hid
    · cases hid
    · next hne =>
        rw [Function.update_of_ne (Ne.symm hne)]
        exact h.absent id hid
  · intro id n hid
    rw [hfind] at hid
    split at hid
    · next heq =>
        injection hid with hid
        subst heq hid
        refine ⟨[], Function.update_self .., ?_⟩
        have hunder : (g.withPieceOn p square).statusesOf (g.pieceCount + 1) = [] :=
          hg.attached.statusesOf_eq_nil hg.numbered.not_mem_next
        rw [hunder]
        exact List.Forall₂.nil
    · next hne =>
        rcases h.present id n hid with ⟨timers, htimers, hshows⟩
        refine ⟨timers, ?_, shows_congr hshows (fun _ _ => rfl) rfl⟩
        rw [Function.update_of_ne (Ne.symm hne), htimers]

end Deeds

/-!
## Operations
-/

section Operations

variable {r : Registry} {T : Countdown} {g : Game}

/-- What the account keeps and the effects show is kept with the timers that the deeds leave. -/
theorem Kept.of_tracks {g' : Game} {deeds : List Deed} (h : Kept r T g)
    (hregistry : g'.registry = g.registry) (haccounted : Accounted g')
    (htracks : g'.Tracks (deeds.foldl (Countdown.told r.canMake) T)) :
    Kept r (deeds.foldl (Countdown.told r.canMake) T) g' :=
  ⟨hregistry.trans h.registry, haccounted, htracks,
    Countdown.sound_foldl_told r.canMake h.sound deeds⟩

theorem Kept.step {g' : Game} {deeds : List Deed} (h : Kept r T g) (hstep : Step g g')
    (htracks : g'.Tracks (deeds.foldl (Countdown.told r.canMake) T)) :
    Kept r (deeds.foldl (Countdown.told r.canMake) T) g' :=
  h.of_tracks (samePieces_step hstep).registry (accounted_step g g' hstep h.accounted) htracks

/-- A game that shows timers shows, after every change, those that the deeds leave. -/
theorem fullChronicle_kept (r : Registry) :
    FullChronicle fun g deeds g' =>
      ∀ T, Kept r T g → Kept r (deeds.foldl (Countdown.told r.canMake) T) g' where
  still _ _ h := h
  chain := by
    intro g g' g'' first next hfirst hnext T h
    rw [List.foldl_append]
    exact hnext _ (hfirst T h)
  sight g seen T h := h.step (Step.sight g seen) (tracks_frame h.tracks rfl rfl rfl rfl)
  subscribe := by
    intro g name _ _ _ a _ cast T h
    rw [h.accounted.uncast name] at cast
    cases cast
  unsubscribe := by
    intro g name _ _ a _ cast T h
    rw [h.accounted.uncast name] at cast
    cases cast
  afflict := by
    intro g _ _ id definition _ T h
    refine h.step (Step.afflict g id definition) ?_
    rw [← h.registry]
    exact tracks_afflict h.accounted h.tracks h.sound id definition
  remove g _ id _ T h :=
    h.step (Step.remove g id) (tracks_remove h.accounted h.tracks id)
  turn _ g T h :=
    h.step (Step.turn g) (tracks_frame (tracks_tickAll h.accounted h.tracks) rfl rfl rfl rfl)
  begin g team T h := h.step (Step.begin g team) (tracks_frame h.tracks rfl rfl rfl rfl)
  shift := by
    intro g origin target empty T h
    refine h.step (Step.shift g empty origin) ?_
    have hshift := shifts_after g origin target
    generalize g.after (Game.shift origin target) = g' at hshift ⊢
    cases hshift with
    | unmoved => exact h.tracks
    | moved _ _ => exact tracks_frame h.tracks rfl rfl rfl rfl
  win g team T h := h.step (Step.win g team) (tracks_frame h.tracks rfl rfl rfl rfl)

theorem kept_add (h : Kept r T g) (blueprint : Blueprint) (team : Value) (square : Square) :
    Kept r ((addDeeds blueprint team square g).foldl (Countdown.told r.canMake) T)
      (g.after (addPiece blueprint team square)) := by
  have haccounted := accounted_add g blueprint team square h.accounted
  unfold addDeeds
  rcases addPiece_cases g blueprint team square with
    ⟨p, _, _, hrun⟩ | ⟨p, e, _, _, hrun⟩ | ⟨e, k, hrun⟩
  · rw [after_of_eq_ok hrun] at haccounted ⊢
    rw [hrun]
    refine h.of_tracks rfl haccounted ?_
    have hid : ((g.withPieceOn p square).piece (g.pieceCount + 1)).id = p.id := by
      rw [piece_withPieceOn, piece_withPiece_self]
    rw [List.foldl_cons, List.foldl_nil, hid]
    exact tracks_withPieceOn h.accounted h.tracks square
  · rw [after_of_eq_error hrun] at haccounted ⊢
    rw [hrun]
    exact h.of_tracks rfl haccounted (tracks_frame h.tracks rfl rfl rfl rfl)
  · rw [after_of_eq_error hrun] at haccounted ⊢
    rw [hrun]
    exact h.of_tracks rfl haccounted (tracks_frame h.tracks rfl rfl rfl rfl)

theorem kept_setup (h : Kept r T g) (blueprints : Table Text Blueprint) (entries : List Entry) :
    Kept r ((setupDeeds blueprints entries g).foldl (Countdown.told r.canMake) T)
      (g.after (setup blueprints entries)) := by
  induction entries generalizing g T with
  | nil => exact h
  | cons e rest ih =>
      rw [setup, setupDeeds]
      cases hfind : blueprints.find? e.blueprint with
      | none => exact h
      | some blueprint =>
          have hadd := kept_add h blueprint e.team e.square
          dsimp only
          unfold andThen
          cases hrun : addPiece blueprint e.team e.square g with
          | ok n g' =>
              rw [after_of_eq_ok hrun] at hadd
              rw [after_bind_of_eq_ok _ hrun, List.foldl_append]
              exact ih hadd
          | error fault g' =>
              rw [after_of_eq_error hrun] at hadd
              rw [after_bind_of_eq_error _ hrun]
              exact hadd

theorem kept_operation (h : Kept r T g) (op : Operation) :
    Kept r ((op.deeds g).foldl (Countdown.told r.canMake) T) (g.after op.perform) := by
  by_cases hop : op.Recruits
  · cases op with
    | add blueprint team square =>
        rw [Operation.perform, after_map]
        exact kept_add h blueprint team square
    | setup blueprints entries =>
        rw [Operation.perform, after_map]
        exact kept_setup h blueprints entries
    | _ => cases hop
  · exact (fullChronicle_kept r).operation hop g T h

theorem kept_run (h : Kept r T g) (ops : List Operation) :
    Kept r ((g.runDeeds ops).foldl (Countdown.told r.canMake) T) (g.run ops) := by
  induction ops generalizing g T with
  | nil => exact h
  | cons op rest ih =>
      rw [runDeeds, List.foldl_append]
      exact ih (kept_operation h op)

theorem kept_fresh (board : Board) (registry : Registry) :
    Kept registry .empty (fresh board registry) := by
  refine ⟨rfl, accounted_fresh board registry, ⟨fun _ _ => rfl, ?_⟩, Countdown.sound_empty⟩
  intro id n hid
  cases hid

end Operations

/-!
## Refusals
-/

/-- Which effects a game refuses to put a piece under when its effects show the timers of a
countdown. -/
structure Refuses (g : Game) (T : Countdown) : Prop where
  /-- A piece in play refuses an effect of which no timer runs yet if it cannot lend all that it
  should, and no other. -/
  unmade : ∀ id n timers definition, g.find? id = some n → T id = some timers →
    ((∃ e g', applyStatus id definition g = .error e g') ↔
      Timer.runs definition.name timers = false ∧
        ∃ spec ∈ definition.abilities, g.registry.canMake spec = false)
  /-- Where all rules can be made and parameters are objects, that is an ability whose name is not
  registered. -/
  unregistered : g.registry.Checked → ∀ id n timers definition, g.find? id = some n →
    T id = some timers → (∀ spec ∈ definition.abilities, ∃ fields, spec.params = .object fields) →
      ((∃ e g', applyStatus id definition g = .error e g') ↔
        Timer.runs definition.name timers = false ∧
          ∃ spec ∈ definition.abilities, g.registry.contains spec.name = false)
  /-- An effect that is refused has counted as made, and that is all. -/
  untouched : ∀ id definition e g', applyStatus id definition g = .error e g' →
    (∃ effects effectCount abilityCount, g' = { g with effects, effectCount, abilityCount }) ∧
      ∀ n, ∀ m ∈ g.statusesOf n, g'.effect? m = g.effect? m

theorem refused_iff {g : Game} {T : Countdown} (hg : Accounted g) (h : g.Tracks T) {id : Text}
    {n : PieceNumber} {timers : List Timer} (hfind : g.find? id = some n)
    (htimers : T id = some timers) (definition : StatusDefinition) :
    (∃ e g', applyStatus id definition g = .error e g') ↔
      Timer.runs definition.name timers = false ∧
        ∃ spec ∈ definition.abilities, g.registry.canMake spec = false := by
  rcases h.present id n hfind with ⟨timers', htimers', hshows⟩
  rw [htimers] at htimers'
  injection htimers' with htimers'
  subst htimers'
  have hmade := shows_withEffect definition n hg.attached hshows
  rcases applyStatus_cases hfind definition with
    ⟨m, effect, hforce, -, hrun⟩ | ⟨children, hforce, -, hmakes, hrun⟩ |
      ⟨e, k, hforce, hunmade, hrun⟩
  · have hruns := runs_of_find?_some hmade hforce
    rw [hrun, hruns]
    constructor
    · rintro ⟨e, g', herror⟩
      cases herror
    · rintro ⟨hidle, -⟩
      cases hidle
  · have hall := Registry.all_canMake hmakes
    rw [hrun]
    constructor
    · rintro ⟨e, g', herror⟩
      cases herror
    · rintro ⟨-, spec, hspec, hunmade⟩
      rw [List.all_eq_true.1 hall spec hspec] at hunmade
      cases hunmade
  · refine iff_of_true ⟨e, _, hrun⟩ ⟨runs_of_find?_none hmade hforce, ?_⟩
    rw [List.all_eq_false] at hunmade
    rcases hunmade with ⟨spec, hspec, hfails⟩
    exact ⟨spec, hspec, Bool.eq_false_iff.2 hfails⟩

/-- An effect that is refused has been made, and that is all. -/
theorem untouched_of_refused {g g' : Game} (hg : Accounted g) {id : Text}
    {definition : StatusDefinition} {e : GameError}
    (h : applyStatus id definition g = .error e g') :
    (∃ effects effectCount abilityCount, g' = { g with effects, effectCount, abilityCount }) ∧
      ∀ n, ∀ m ∈ g.statusesOf n, g'.effect? m = g.effect? m := by
  cases hfind : g.find? id with
  | none =>
      rw [applyStatus_of_find?_none hfind] at h
      cases h
      exact ⟨⟨g.effects, g.effectCount, g.abilityCount, rfl⟩, fun _ _ _ => rfl⟩
  | some n =>
      rcases applyStatus_cases hfind definition with
        ⟨m, effect, -, -, hrun⟩ | ⟨children, -, -, -, hrun⟩ | ⟨e', k, -, -, hrun⟩
      · rw [h] at hrun
        cases hrun
      · rw [h] at hrun
        cases hrun
      · rw [h] at hrun
        cases hrun
        exact ⟨⟨_, _, _, rfl⟩,
          fun m e he => effect?_withEffect_of_ne (hg.attached.ne_effectCount he)⟩

theorem Kept.refuses {r : Registry} {T : Countdown} {g : Game} (h : Kept r T g) :
    g.Refuses T := by
  refine ⟨?_, ?_, fun _ _ _ _ => untouched_of_refused h.accounted⟩
  · intro id n timers definition hfind htimers
    exact refused_iff h.accounted h.tracks hfind htimers definition
  · intro hchecked id n timers definition hfind htimers hparams
    rw [refused_iff h.accounted h.tracks hfind htimers definition]
    refine and_congr_right fun _ => exists_congr fun spec => and_congr_right fun hspec => ?_
    rcases hparams spec hspec with ⟨fields, hfields⟩
    rw [Registry.canMake_of_object hchecked hfields]

/-!
## Runs
-/

/-- The timers that the deeds of a run leave, if nothing else is known of it. -/
def timersAfter (g : Game) (ops : List Operation) : Countdown :=
  (g.runDeeds ops).foldl (Countdown.told g.registry.canMake) .empty

/-- After every run from a fresh game, the effects on each piece in play are those that a plain
countdown of the deeds gives: in the same order, all of them active, with as many turns left, and
lending the abilities that the definitions name from which they were made.  No two effects on a
piece have one name and each has a turn left.  An effect is refused if none of its name is in force
and it lends what cannot be made, and is then as if it had never been applied. -/
theorem effects_refine_timers {g : Game} (hfresh : Fresh g) (ops : List Operation) :
    (g.run ops).Tracks (g.timersAfter ops) ∧ (g.timersAfter ops).Sound ∧
      (g.run ops).Refuses (g.timersAfter ops) := by
  rcases hfresh with ⟨width, height, board, registry, _, rfl⟩
  have h := kept_run (kept_fresh board registry) ops
  exact ⟨h.tracks, h.sound, h.refuses⟩

/-- An effect that lasts for a turn and some more. -/
def spell (name : Text) (more : Nat) (stacking : Stacking) (abilities : List AbilitySpec) :
    StatusDefinition :=
  { name, duration := 1 + more, stacking, abilities,
    duration_pos := Int.le_add_of_nonneg_right (Int.natCast_nonneg more) }

/-- A walker is stunned twice, hastened for a turn and cursed by no known ability, while another one
is stunned and taken away. -/
def cursing : List Operation :=
  [.add (walker []) (.str "white") ⟨0, 0⟩, .add (walker []) (.str "black") ⟨7, 7⟩,
    .start (.str "white"),
    .applyStatus "white-walker-1" (spell "Stun" 1 .refresh [{ name := "Immobile" }]),
    .applyStatus "white-walker-1" (spell "Haste" 0 .refresh [{ name := "Jumping" }]),
    .applyStatus "white-walker-1" (spell "Stun" 2 .extend []),
    .applyStatus "white-walker-1" (spell "Curse" 0 .refresh [{ name := "Unknown" }]),
    .applyStatus "black-walker-2" (spell "Stun" 8 .refresh []), .endTurn,
    .remove "black-walker-2"]

theorem effects_refine_timers_after_cursing :
    Fresh (usual .standard) ∧
    ((usual .standard).timersAfter cursing "white-walker-1").map
      (List.map fun t => (t.name, t.remaining)) = some [(("Stun" : Text), 4)] ∧
    ((usual .standard).timersAfter cursing "black-walker-2").isNone ∧
    ((usual .standard).run cursing).find? "white-walker-1" = some 1 ∧
    ((usual .standard).run cursing).Tracks ((usual .standard).timersAfter cursing) ∧
    ((usual .standard).run cursing).Refuses ((usual .standard).timersAfter cursing) := by
  have hrun := effects_refine_timers (fresh_usual .standard) cursing
  exact ⟨fresh_usual .standard, by decide +kernel, by decide +kernel, by decide +kernel, hrun.1,
    hrun.2.2⟩

end Game
end Boardcraft
