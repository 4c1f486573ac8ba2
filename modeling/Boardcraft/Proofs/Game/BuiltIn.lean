import Boardcraft.Proofs.Game.Listening
import Boardcraft.Proofs.Game.Standing

/-!
# Games with built-in rules only

An ability of a built-in rule does nothing to the game when it is heard.  It cancels the event, sets
flags or leaves notes, and all that depends on whether its host is the source of the event.  An
announcement thus is a plain function of the listeners and the context, and the order in which they
are heard does not show in what the checks read afterwards: whether somebody has cancelled the
event and, if nobody has, which flags are set.

## Main statements

* `announce_of_builtIn` says that an announcement only changes the context;
* `cancelled_heedAll` and `flagIsSet_heedAll` say what becomes of the context;
* `any_listeners_eq_hasAbility` says that only the abilities of the source have a part in it.
-/

namespace Boardcraft

/-!
## Rules on offer
-/

namespace Rule

theorem mem_builtin_iff {r : Rule} :
    r ∈ builtin ↔ r = immobile ∨ r = jumping ∨ r = alliesOnly ∨ r = king := by
  simp [builtin]

/-- Built-in rules are told apart by their names. -/
theorem eq_of_kind_eq {r r' : Rule} (h : r ∈ builtin) (h' : r' ∈ builtin)
    (hkind : r.kind = r'.kind) : r = r' := by
  have hnames : (builtin.map kind).Nodup := by decide
  exact List.inj_on_of_nodup_map hnames h h' hkind

end Rule

namespace Registry

/-- Only built-in rules are on offer, under whatever names. -/
def BuiltIn (r : Registry) : Prop := ∀ rule, r.Offers rule → rule ∈ Rule.builtin

theorem builtIn_empty : (⟨.empty⟩ : Registry).BuiltIn := by
  intro rule hregistered
  rcases hregistered with ⟨name, draft, hfind, _⟩
  cases hfind

theorem BuiltIn.register {r : Registry} (h : r.BuiltIn) (name : Text) {rule : Rule}
    (hrule : rule ∈ Rule.builtin) : (r.register name rule.draft).BuiltIn := by
  intro rule' hregistered
  rcases offers_register hregistered with rfl | hoffers
  · exact hrule
  · exact h rule' hoffers

theorem builtIn_standard : standard.BuiltIn := by
  have hfold : ∀ (l : List Rule) (r : Registry), r.BuiltIn → (∀ rule ∈ l, rule ∈ Rule.builtin) →
      (l.foldl (fun r rule => r.register rule.kind rule.draft) r).BuiltIn := by
    intro l
    induction l with
    | nil => exact fun _ h _ => h
    | cons rule rest ih =>
        intro r h hl
        exact ih _ (h.register rule.kind (hl rule List.mem_cons_self))
          fun rule' hrule' => hl rule' (List.mem_cons_of_mem rule hrule')
  exact hfold Rule.builtin {} builtIn_empty fun _ h => h

end Registry

/-!
## Flags
-/

namespace Context

theorem flagIsSet_setFlag_self (c : Context) (name : Text) (value : Bool) :
    (c.setFlag name (.bool value)).flagIsSet name = value := by
  unfold flagIsSet setFlag
  dsimp only
  rw [Table.find?_insert_self]
  cases value <;> rfl

theorem flagIsSet_setFlag_of_ne (c : Context) {name name' : Text} (value : Value)
    (hne : name ≠ name') : (c.setFlag name value).flagIsSet name' = c.flagIsSet name' := by
  unfold flagIsSet setFlag
  dsimp only
  rw [Table.find?_insert_of_ne _ _ hne]

theorem flagIsSet_setFlag (c : Context) (name name' : Text) (value : Bool) :
    (c.setFlag name (.bool value)).flagIsSet name' =
      if name = name' then value else c.flagIsSet name' := by
  by_cases hname : name = name'
  · rw [if_pos hname, ← hname, flagIsSet_setFlag_self]
  · rw [if_neg hname, flagIsSet_setFlag_of_ne c _ hname]

end Context

/-- What a behaviour sets a flag to when the host is the source of the event, if it sets it at
all. -/
def Behaviour.setting? : Behaviour → Text → Option Bool
  | .jumping, name => if Flag.ignorePathBlocking = name then some true else none
  | .alliesOnly, name =>
      if Flag.allowTargetEnemy = name then some false
      else if Flag.allowTargetAlly = name then some true
      else none
  | _, _ => none

namespace Game

/-!
## Hearing built-in rules
-/

def heed (g : Game) (c : Context) (a : Ability) : Context :=
  match a.rule.behaviour with
  | .immobile => if a.appliesTo c.source then c.cancel else c
  | .jumping =>
      if a.appliesTo c.source then c.setFlag Flag.ignorePathBlocking (.bool true) else c
  | .alliesOnly =>
      if a.appliesTo c.source then
        (c.setFlag Flag.allowTargetAlly (.bool true)).setFlag Flag.allowTargetEnemy (.bool false)
      else c
  | .king =>
      match c.source with
      | some captured =>
          if a.appliesTo (some captured) then
            (c.note Scene.gameOverKey (.bool true)).note Scene.losingTeamKey
              (g.piece captured).teamMark
          else c
      | none => c
  | .scripted _ => c

/-- What abilities of built-in rules make of a context in turn, until it is cancelled. -/
def heedAll (g : Game) : List Ability → Context → Context
  | [], c => c
  | a :: rest, c => if c.cancelled then c else g.heedAll rest (g.heed c a)

section Hearing

variable {g : Game} {c : Context} {a : Ability} {l : List Ability}

theorem ite_run {p : Bool} {s : Scene} {f : Context → Context} :
    (if p = true then Scene.change f else pure () : SceneM Unit) s =
      .ok () { s with context := if p = true then f s.context else s.context } := by
  cases p <;> rfl

theorem hear_of_builtIn (endTurn : GameM Unit) (h : a.rule ∈ Rule.builtin) (g : Game)
    (c : Context) : Scene.hear endTurn a ⟨g, c⟩ = .ok () ⟨g, g.heed c a⟩ := by
  unfold Scene.hear heed
  rcases Rule.mem_builtin_iff.1 h with hrule | hrule | hrule | hrule
  · rw [hrule]
    exact ite_run
  · rw [hrule]
    exact ite_run
  · rw [hrule]
    exact ite_run
  · rw [hrule]
    show (match c.source with
      | some captured =>
          if a.appliesTo (some captured) then
            Scene.change fun c => (c.note Scene.gameOverKey (.bool true)).note
              Scene.losingTeamKey (g.piece captured).teamMark
          else pure ()
      | none => pure () : SceneM Unit) ⟨g, c⟩ = _
    cases c.source with
    | none => rfl
    | some captured => exact ite_run

theorem notify_of_builtIn (endTurn : GameM Unit) (event : Event) {l : List Subscription}
    (h : ∀ s ∈ l, s.ability.rule ∈ Rule.builtin) (g : Game) (c : Context) :
    Scene.notify endTurn event l ⟨g, c⟩ =
      .ok () ⟨g, g.heedAll (l.map Subscription.ability) c⟩ := by
  induction l generalizing c with
  | nil => rfl
  | cons s rest ih =>
      rw [Scene.notify_cons, List.map_cons, heedAll]
      dsimp only
      by_cases hcancelled : c.cancelled = true
      · rw [if_pos hcancelled, if_pos hcancelled]
      · rw [if_neg hcancelled, if_neg hcancelled,
          hear_of_builtIn endTurn (h s List.mem_cons_self)]
        exact ih (fun s' hs' => h s' (List.mem_cons_of_mem s hs')) _

theorem announceWith_of_builtIn (endTurn : GameM Unit)
    (h : ∀ s ∈ g.dispatcher.entries, s.ability.rule ∈ Rule.builtin) (c : Context) :
    announceWith endTurn c g =
      .ok (g.heedAll ((g.dispatcher.listeners c.event).map Subscription.ability) c) g := by
  have hlisteners : ∀ s ∈ g.dispatcher.listeners c.event, s.ability.rule ∈ Rule.builtin := by
    intro s hs
    unfold Dispatcher.listeners at hs
    exact h s (List.mem_filter.1 hs).1
  unfold announceWith Scene.announce
  dsimp only
  rw [notify_of_builtIn endTurn c.event hlisteners]

/-!
## What is read off the context

A check reads whether the event was cancelled and, if it was not, whether a flag is set.
-/

@[simp] theorem source_heed : (g.heed c a).source = c.source := by
  unfold heed
  split
  · split <;> rfl
  · split <;> rfl
  · split <;> rfl
  · split
    · split <;> rfl
    · rfl
  · rfl

theorem heed_of_not_appliesTo (h : a.appliesTo c.source = false) : g.heed c a = c := by
  unfold heed
  split
  · rw [if_neg (Bool.eq_false_iff.1 h)]
  · rw [if_neg (Bool.eq_false_iff.1 h)]
  · rw [if_neg (Bool.eq_false_iff.1 h)]
  · split
    · next captured hsource =>
        rw [hsource] at h
        rw [if_neg (Bool.eq_false_iff.1 h)]
    · rfl
  · rfl

theorem cancelled_heed (h : a.rule ∈ Rule.builtin) :
    (g.heed c a).cancelled =
      (c.cancelled || (a.kind == Rule.immobile.kind && a.appliesTo c.source)) := by
  cases happlies : a.appliesTo c.source with
  | false => rw [heed_of_not_appliesTo happlies, Bool.and_false, Bool.or_false]
  | true =>
      unfold heed Ability.kind
      rw [happlies]
      rcases Rule.mem_builtin_iff.1 h with hrule | hrule | hrule | hrule
      · rw [hrule]
        exact (Bool.or_true _).symm
      · rw [hrule]
        exact (Bool.or_false _).symm
      · rw [hrule]
        exact (Bool.or_false _).symm
      · rw [hrule]
        refine Eq.trans ?_ (Bool.or_false _).symm
        dsimp only [Rule.king]
        split
        · split <;> rfl
        · rfl

theorem flagIsSet_heed (h : a.rule ∈ Rule.builtin) (happlies : a.appliesTo c.source = true)
    (name : Text) :
    (g.heed c a).flagIsSet name =
      (a.rule.behaviour.setting? name).getD (c.flagIsSet name) := by
  unfold heed
  rw [happlies]
  rcases Rule.mem_builtin_iff.1 h with hrule | hrule | hrule | hrule
  · rw [hrule]
    rfl
  · rw [hrule]
    refine (Context.flagIsSet_setFlag c _ name true).trans ?_
    dsimp only [Rule.jumping, Behaviour.setting?]
    split <;> rfl
  · rw [hrule]
    refine (Context.flagIsSet_setFlag _ _ name false).trans ?_
    rw [Context.flagIsSet_setFlag]
    dsimp only [Rule.alliesOnly, Behaviour.setting?]
    split
    · rfl
    · split <;> rfl
  · rw [hrule]
    dsimp only [Rule.king, Behaviour.setting?]
    split
    · split <;> rfl
    · rfl

/-- Somebody cancels if anybody would, also if others are heard before. -/
theorem cancelled_heedAll (h : ∀ a ∈ l, a.rule ∈ Rule.builtin) :
    (g.heedAll l c).cancelled =
      (c.cancelled || l.any fun a => a.kind == Rule.immobile.kind && a.appliesTo c.source) := by
  induction l generalizing c with
  | nil => exact (Bool.or_false _).symm
  | cons a rest ih =>
      rw [heedAll]
      by_cases hcancelled : c.cancelled = true
      · rw [if_pos hcancelled, hcancelled, Bool.true_or]
      · rw [if_neg hcancelled, ih fun b hb => h b (List.mem_cons_of_mem a hb),
          cancelled_heed (h a List.mem_cons_self), source_heed, List.any_cons, Bool.or_assoc]

/-- A flag that only one rule sets.  Where nobody has cancelled, everybody was heard, and the flag
holds what the rule sets it to if the rule works for the source, whoever else was heard and
when. -/
theorem flagIsSet_heedAll {name : Text} {rule : Rule} {value : Bool}
    (hsetting : ∀ r ∈ Rule.builtin,
      r.behaviour.setting? name = if r.kind == rule.kind then some value else none)
    (h : ∀ a ∈ l, a.rule ∈ Rule.builtin) (hcancelled : (g.heedAll l c).cancelled = false) :
    (g.heedAll l c).flagIsSet name =
      if l.any fun a => a.kind == rule.kind && a.appliesTo c.source then value
      else c.flagIsSet name := by
  induction l generalizing c with
  | nil => rfl
  | cons a rest ih =>
      rw [heedAll] at hcancelled ⊢
      by_cases hbefore : c.cancelled = true
      · rw [if_pos hbefore, hbefore] at hcancelled
        cases hcancelled
      · rw [if_neg hbefore] at hcancelled ⊢
        rw [ih (fun b hb => h b (List.mem_cons_of_mem a hb)) hcancelled, source_heed,
          List.any_cons]
        cases happlies : a.appliesTo c.source with
        | false => rw [heed_of_not_appliesTo happlies, Bool.and_false, Bool.false_or]
        | true =>
            rw [flagIsSet_heed (h a List.mem_cons_self) happlies,
              hsetting a.rule (h a List.mem_cons_self), Bool.and_true]
            unfold Ability.kind
            cases a.rule.kind == rule.kind with
            | false => rw [Bool.false_or]; rfl
            | true => rw [Bool.true_or]; split <;> rfl

theorem flagIsSet_heedAll_of_unset {name : Text}
    (hsetting : ∀ r ∈ Rule.builtin, r.behaviour.setting? name = none)
    (h : ∀ a ∈ l, a.rule ∈ Rule.builtin) :
    (g.heedAll l c).flagIsSet name = c.flagIsSet name := by
  induction l generalizing c with
  | nil => rfl
  | cons a rest ih =>
      rw [heedAll]
      split
      · rfl
      · rw [ih fun b hb => h b (List.mem_cons_of_mem a hb)]
        cases happlies : a.appliesTo c.source with
        | false => rw [heed_of_not_appliesTo happlies]
        | true =>
            rw [flagIsSet_heed (h a List.mem_cons_self) happlies,
              hsetting a.rule (h a List.mem_cons_self)]
            rfl

/-!
### After a capture

A capture reads whether a listener has noted that the game is over, and which team has lost.
-/

theorem endsGame_heed (h : a.rule ∈ Rule.builtin) :
    endsGame (g.heed c a) =
      (endsGame c || (a.kind == Rule.king.kind && a.appliesTo c.source)) := by
  cases happlies : a.appliesTo c.source with
  | false => rw [heed_of_not_appliesTo happlies, Bool.and_false, Bool.or_false]
  | true =>
      unfold heed Ability.kind
      rw [happlies]
      rcases Rule.mem_builtin_iff.1 h with hrule | hrule | hrule | hrule
      · rw [hrule]
        exact (Bool.or_false _).symm
      · rw [hrule]
        exact (Bool.or_false _).symm
      · rw [hrule]
        exact (Bool.or_false _).symm
      · rw [hrule]
        refine Eq.trans ?_ (Bool.or_true _).symm
        unfold Ability.appliesTo isHost at happlies
        dsimp only [Rule.king]
        split
        · next captured hsource =>
            have hhost : a.appliesTo (some captured) = true := by
              rw [← hsource]
              exact happlies
            rw [if_pos hhost]
            show ((((c.payload.insert _ _).insert _ _).find? _).getD .null).isTruthy = true
            rw [Table.find?_insert_of_ne _ _ (by decide), Table.find?_insert_self]
            rfl
        · next hsource =>
            rw [hsource] at happlies
            cases happlies

/-- The game is over if anybody would note so, for a later note does not take it back. -/
theorem endsGame_heedAll (h : ∀ a ∈ l, a.rule ∈ Rule.builtin)
    (hcancelled : (g.heedAll l c).cancelled = false) :
    endsGame (g.heedAll l c) =
      (endsGame c || l.any fun a => a.kind == Rule.king.kind && a.appliesTo c.source) := by
  induction l generalizing c with
  | nil => exact (Bool.or_false _).symm
  | cons a rest ih =>
      rw [heedAll] at hcancelled ⊢
      by_cases hbefore : c.cancelled = true
      · rw [if_pos hbefore, hbefore] at hcancelled
        cases hcancelled
      · rw [if_neg hbefore] at hcancelled ⊢
        rw [ih (fun b hb => h b (List.mem_cons_of_mem a hb)) hcancelled,
          endsGame_heed (h a List.mem_cons_self), source_heed, List.any_cons, Bool.or_assoc]

theorem loserOf_heed {n : PieceNumber} (hsource : c.source = some n)
    (h : loserOf c (g.piece n) = (g.piece n).teamMark) (a : Ability) :
    loserOf (g.heed c a) (g.piece n) = (g.piece n).teamMark := by
  unfold heed
  rw [hsource]
  cases a.rule.behaviour with
  | immobile =>
      dsimp only
      split <;> exact h
  | jumping =>
      dsimp only
      split <;> exact h
  | alliesOnly =>
      dsimp only
      split <;> exact h
  | scripted script => exact h
  | king =>
      dsimp only
      split
      · show ((((c.payload.insert _ _).insert _ _).find? _).getD _) = _
        rw [Table.find?_insert_self]
        rfl
      · exact h

theorem loserOf_heedAll {n : PieceNumber} (hsource : c.source = some n)
    (h : loserOf c (g.piece n) = (g.piece n).teamMark) (l : List Ability) :
    loserOf (g.heedAll l c) (g.piece n) = (g.piece n).teamMark := by
  induction l generalizing c with
  | nil => exact h
  | cons a rest ih =>
      rw [heedAll]
      split
      · exact h
      · exact ih (source_heed.trans hsource) (loserOf_heed hsource h a)

end Hearing

/-!
## Who has a part
-/

section Listeners

variable {g : Game}

theorem rule_mem_builtin (h : Heard g) (hbuiltIn : g.registry.BuiltIn) {s : Subscription}
    (hs : s ∈ g.dispatcher.entries) : s.ability.rule ∈ Rule.builtin := by
  rcases h.hears.mem_entries_iff.1 hs with ⟨a, ha, hsa⟩
  rcases Ability.mem_subscriptions_iff.1 hsa with ⟨event, _, rfl⟩
  rcases List.mem_flatMap.1 ha with ⟨n, hn, han⟩
  exact hbuiltIn _ (h.made n hn a han).rule

theorem listener_mem_builtin (h : Heard g) (hbuiltIn : g.registry.BuiltIn) (event : Event) :
    ∀ a ∈ (g.dispatcher.listeners event).map Subscription.ability, a.rule ∈ Rule.builtin := by
  intro a ha
  rcases List.mem_map.1 ha with ⟨s, hs, rfl⟩
  unfold Dispatcher.listeners at hs
  exact rule_mem_builtin h hbuiltIn (List.mem_filter.1 hs).1

/-- Among the listeners of one of its triggers, a built-in rule works for a piece exactly if the
piece has an ability of that rule now. -/
theorem any_listeners_eq_hasAbility (h : Heard g) (hbuiltIn : g.registry.BuiltIn)
    {n : PieceNumber} (hn : n ∈ g.inPlay) {rule : Rule} (hrule : rule ∈ Rule.builtin)
    {event : Event} (hevent : event ∈ rule.triggers) :
    (((g.dispatcher.listeners event).map Subscription.ability).any fun a =>
      a.kind == rule.kind && a.appliesTo (some n)) = g.hasAbility n rule.kind := by
  rw [Bool.eq_iff_iff]
  unfold hasAbility
  rw [List.any_eq_true, List.any_eq_true]
  constructor
  · intro hlistener
    rcases hlistener with ⟨a, ha, hfits⟩
    rw [Bool.and_eq_true] at hfits
    have hlistens := h.hears.exists_mem_listeners_iff.1 (List.mem_map.1 ha)
    rcases List.mem_flatMap.1 hlistens.1 with ⟨m, hm, ham⟩
    have happlies := hfits.2
    unfold Ability.appliesTo at happlies
    rw [(h.made m hm a ham).host] at happlies
    have heq : n = m := eq_of_beq happlies
    exact ⟨a, heq ▸ ham, hfits.1⟩
  · intro hability
    rcases hability with ⟨a, ha, hkind⟩
    have hmade := h.made n hn a ha
    have hsame : a.rule = rule :=
      Rule.eq_of_kind_eq (hbuiltIn _ hmade.rule) hrule (eq_of_beq hkind)
    have hliving : a ∈ g.living := List.mem_flatMap.2 ⟨n, hn, ha⟩
    have htrigger : event ∈ a.triggers := by
      unfold Ability.triggers
      rw [hsame]
      exact hevent
    refine ⟨a, List.mem_map.2 (h.hears.exists_mem_listeners_iff.2 ⟨hliving, htrigger⟩), ?_⟩
    rw [Bool.and_eq_true]
    refine ⟨hkind, ?_⟩
    unfold Ability.appliesTo
    rw [hmade.host]
    exact beq_self_eq_true n

/-- A rule has no part in an event that is none of its triggers. -/
theorem any_listeners_of_not_mem_triggers (h : Heard g) (hbuiltIn : g.registry.BuiltIn)
    {rule : Rule} (hrule : rule ∈ Rule.builtin) {event : Event} (hevent : event ∉ rule.triggers)
    (piece : Option PieceNumber) :
    (((g.dispatcher.listeners event).map Subscription.ability).any fun a =>
      a.kind == rule.kind && a.appliesTo piece) = false := by
  rw [List.any_eq_false]
  intro a ha hfits
  rw [Bool.and_eq_true] at hfits
  have hlistens := h.hears.exists_mem_listeners_iff.1 (List.mem_map.1 ha)
  rcases List.mem_flatMap.1 hlistens.1 with ⟨n, hn, han⟩
  have hsame : a.rule = rule :=
    Rule.eq_of_kind_eq (hbuiltIn _ (h.made n hn a han).rule) hrule (eq_of_beq hfits.1)
  have htrigger := hlistens.2
  unfold Ability.triggers at htrigger
  rw [hsame] at htrigger
  exact hevent htrigger

/-- An event about a piece in play is cancelled by the rule against moving, if the event concerns
that rule and the piece has it. -/
theorem cancelled_of_source (h : Heard g) (hbuiltIn : g.registry.BuiltIn) {n : PieceNumber}
    (hn : n ∈ g.inPlay) {c : Context} (hsource : c.source = some n) :
    (g.heedAll ((g.dispatcher.listeners c.event).map Subscription.ability) c).cancelled =
      (c.cancelled || (Rule.immobile.triggers.contains c.event &&
        g.hasAbility n Rule.immobile.kind)) := by
  have hrule : Rule.immobile ∈ Rule.builtin := Rule.mem_builtin_iff.2 (Or.inl rfl)
  rw [cancelled_heedAll (listener_mem_builtin h hbuiltIn c.event), hsource]
  cases hevent : Rule.immobile.triggers.contains c.event with
  | true =>
      rw [any_listeners_eq_hasAbility h hbuiltIn hn hrule (List.contains_iff_mem.1 hevent),
        Bool.true_and]
  | false =>
      have hnot : c.event ∉ Rule.immobile.triggers := by
        rw [← List.contains_iff_mem, hevent]
        exact Bool.false_ne_true
      rw [any_listeners_of_not_mem_triggers h hbuiltIn hrule hnot, Bool.false_and]

/-- After an event about a piece in play that nobody has cancelled, a flag that only one rule sets
holds what the rule sets it to if the piece has the rule, and else what it held at first. -/
theorem flagIsSet_of_source (h : Heard g) (hbuiltIn : g.registry.BuiltIn) {n : PieceNumber}
    (hn : n ∈ g.inPlay) {c : Context} (hsource : c.source = some n) {rule : Rule}
    (hrule : rule ∈ Rule.builtin) (hevent : c.event ∈ rule.triggers) (name : Text) (value : Bool)
    (hsetting : ∀ r ∈ Rule.builtin,
      r.behaviour.setting? name = if r.kind == rule.kind then some value else none)
    (hcancelled : (g.heedAll ((g.dispatcher.listeners c.event).map Subscription.ability)
      c).cancelled = false) :
    (g.heedAll ((g.dispatcher.listeners c.event).map Subscription.ability) c).flagIsSet name =
      if g.hasAbility n rule.kind then value else c.flagIsSet name := by
  rw [flagIsSet_heedAll hsetting (listener_mem_builtin h hbuiltIn c.event) hcancelled, hsource,
    any_listeners_eq_hasAbility h hbuiltIn hn hrule hevent]

end Listeners

/-!
## Games that are reached
-/

def PlainlyReached (g : Game) : Prop :=
  ∃ (start : Game) (ops : List Operation), Fresh start ∧ start.registry.BuiltIn ∧ g = start.run ops

theorem registry_add (g : Game) (blueprint : Blueprint) (team : Value) (square : Square) :
    (g.after (addPiece blueprint team square)).registry = g.registry := by
  have hadd := adds_after g blueprint team square
  generalize g.after (addPiece blueprint team square) = g' at hadd ⊢
  cases hadd with
  | unmade k => rfl
  | offBoard _ _ => rfl
  | placed _ _ => rfl

theorem registry_run (g : Game) (ops : List Operation) : (g.run ops).registry = g.registry := by
  refine run_keeps (P := fun g' => g'.registry = g.registry) ?_ ?_ rfl ops
  · intro g₁ g₂ hstep h
    exact (samePieces_step hstep).registry.trans h
  · intro g₁ blueprint team square h
    exact (registry_add g₁ blueprint team square).trans h

namespace PlainlyReached

variable {g : Game}

theorem accounted (h : PlainlyReached g) : Accounted g := by
  rcases h with ⟨start, ops, hfresh, _, rfl⟩
  exact accounted_run hfresh ops

theorem grounded (h : PlainlyReached g) : Grounded g := by
  rcases h with ⟨start, ops, hfresh, _, rfl⟩
  exact (grounded_run hfresh ops).2

theorem builtIn (h : PlainlyReached g) : g.registry.BuiltIn := by
  rcases h with ⟨start, ops, _, hbuiltIn, rfl⟩
  rw [registry_run]
  exact hbuiltIn

end PlainlyReached

theorem announce_of_builtIn {g : Game} (h : Accounted g) (hbuiltIn : g.registry.BuiltIn)
    (c : Context) :
    announce c g =
      .ok (g.heedAll ((g.dispatcher.listeners c.event).map Subscription.ability) c) g :=
  announceWith_of_builtIn endTurn (fun _ hs => rule_mem_builtin h.heard hbuiltIn hs) c

/-- Ending a turn only counts effects down and passes the turn if those who listen afterwards go by
built-in rules. -/
theorem endTurn_of_listeners {g : Game}
    (h : ∀ s ∈ g.tickAll.nextTurn.dispatcher.entries, s.ability.rule ∈ Rule.builtin) :
    endTurn g = .ok () g.tickAll.nextTurn := by
  have hannounce := announceWith_of_builtIn (endTurnWithin 999) h { event := .turnStart }
  show (announceWith (endTurnWithin 999) { event := .turnStart } >>= fun _ => pure ())
    g.tickAll.nextTurn = _
  rw [bind_of_eq_ok _ hannounce]
  rfl

theorem endTurn_of_builtIn {g : Game} (h : Accounted g) (hbuiltIn : g.registry.BuiltIn) :
    endTurn g = .ok () g.tickAll.nextTurn := by
  have hticked : Accounted g.tickAll.nextTurn := accounted_step _ _ (Step.turn g) h
  have hregistry : g.tickAll.nextTurn.registry = g.registry :=
    (samePieces_step (Step.turn g)).registry
  exact endTurn_of_listeners fun s hs => rule_mem_builtin hticked.heard (hregistry ▸ hbuiltIn) hs

end Game
end Boardcraft
