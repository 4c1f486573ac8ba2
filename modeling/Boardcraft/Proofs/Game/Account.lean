import Boardcraft.Proofs.Ability.Dispatcher
import Boardcraft.Proofs.Game.Identity

/-!
# The account of listeners

An ability listens as long as its piece is in play and, if an effect lends it, as long as that
effect is in force.  The abilities of all pieces in play are thus exactly those that listen.
`Heard` says so, and `Attached` says what makes it hold from step to step: an effect belongs to one
piece only, so that its beginning and its end leave all other pieces alone.

This module states the account and shows that effects keep it when they begin, count down and end.
Pieces that come into play and leave it are treated in `Boardcraft.Proofs.Game.Listening`.
-/

namespace Boardcraft
namespace Game

/-!
## The account
-/

def lentBy (g : Game) (e : EffectNumber) : List Ability := ((g.effect? e).map Effect.lent).getD []

def hostOf (g : Game) (e : EffectNumber) : Option PieceNumber := (g.effect? e).map Effect.host

def living (g : Game) : List Ability := g.inPlay.flatMap g.abilitiesOf

theorem abilitiesOf_eq (g : Game) (n : PieceNumber) :
    g.abilitiesOf n = (g.piece n).abilities ++ (g.statusesOf n).flatMap g.lentBy := rfl

/-- An effect stands in the list of the one piece that it was made for, and that piece is in
play. -/
structure Attached (g : Game) : Prop where
  inPlay : ∀ n e, e ∈ g.statusesOf n → n ∈ g.inPlay
  host : ∀ n e, e ∈ g.statusesOf n → g.hostOf e = some n
  nodup : ∀ n, (g.statusesOf n).Nodup
  given : ∀ e n, g.hostOf e = some n → e < g.effectCount

/-- An ability that has been made in this game for a piece. -/
structure MadeFor (g : Game) (n : PieceNumber) (a : Ability) : Prop where
  serial : a.serial < g.abilityCount
  host : a.host = some n
  rule : g.registry.Offers a.rule

/-- Exactly the abilities of the pieces in play listen, and each has been made for its piece. -/
structure Heard (g : Game) : Prop where
  hears : g.dispatcher.Hears g.living
  made : ∀ n ∈ g.inPlay, ∀ a ∈ g.abilitiesOf n, g.MadeFor n a

/-- Everything that a run keeps about who listens.  Reactions may name the abilities of the cast,
and a game that has none to name is one in which only pieces and effects let abilities listen. -/
structure Accounted (g : Game) : Prop where
  numbered : Numbered g
  uncast : ∀ name, g.cast.find? name = none
  attached : Attached g
  heard : Heard g

theorem MadeFor.mono {g g' : Game} {n : PieceNumber} {a : Ability} (h : g.MadeFor n a)
    (count : g.abilityCount ≤ g'.abilityCount) (registry : g'.registry = g.registry) :
    g'.MadeFor n a := by
  refine ⟨Nat.lt_of_lt_of_le h.serial count, h.host, ?_⟩
  rw [registry]
  exact h.rule

theorem Attached.lt_effectCount {g : Game} (h : Attached g) {n : PieceNumber} {e : EffectNumber}
    (he : e ∈ g.statusesOf n) : e < g.effectCount :=
  h.given e n (h.host n e he)

theorem Attached.ne_effectCount {g : Game} (h : Attached g) {n : PieceNumber} {e : EffectNumber}
    (he : e ∈ g.statusesOf n) : e ≠ g.effectCount :=
  Nat.ne_of_lt (h.lt_effectCount he)

theorem Attached.statusesOf_eq_nil {g : Game} (h : Attached g) {n : PieceNumber}
    (hn : n ∉ g.inPlay) : g.statusesOf n = [] := by
  refine List.eq_nil_iff_forall_not_mem.2 ?_
  intro e he
  exact hn (h.inPlay n e he)

theorem Attached.ne_of_mem {g : Game} (h : Attached g) {n m : PieceNumber} {e e' : EffectNumber}
    (he : e ∈ g.statusesOf n) (he' : e' ∈ g.statusesOf m) (hne : m ≠ n) : e ≠ e' := by
  intro heq
  subst heq
  have hhost := h.host n e he
  rw [h.host m e he'] at hhost
  injection hhost with hhost
  exact hne hhost

/-!
## Changes of one piece among many
-/

theorem abilitiesOf_congr {g g' : Game} {n : PieceNumber} (hpiece : g'.piece n = g.piece n)
    (hstatuses : g'.statusesOf n = g.statusesOf n)
    (hlent : ∀ e ∈ g.statusesOf n, g'.lentBy e = g.lentBy e) :
    g'.abilitiesOf n = g.abilitiesOf n := by
  rw [abilitiesOf_eq, abilitiesOf_eq, hpiece, hstatuses, List.flatMap_congr hlent]

theorem lentBy_of_effect?_eq {g g' : Game} {e : EffectNumber} (h : g'.effect? e = g.effect? e) :
    g'.lentBy e = g.lentBy e := by
  unfold lentBy
  rw [h]

theorem living_congr {g g' : Game} (hplay : g'.inPlay = g.inPlay)
    (habilities : ∀ n ∈ g.inPlay, g'.abilitiesOf n = g.abilitiesOf n) : g'.living = g.living := by
  unfold living
  rw [hplay, List.flatMap_congr habilities]

/-- Where the lists of one member grow, the joined list grows by as much. -/
theorem perm_flatMap_of_grows {α β : Type} [DecidableEq α] {l : List α} (hnodup : l.Nodup) {x : α}
    (hx : x ∈ l) {f f' : α → List β} {more : List β} (grows : (f' x).Perm (f x ++ more))
    (others : ∀ y ∈ l, y ≠ x → f' y = f y) : (l.flatMap f').Perm (l.flatMap f ++ more) := by
  have hsplit := List.perm_cons_erase hx
  have hrest : (l.erase x).flatMap f' = (l.erase x).flatMap f := by
    apply List.flatMap_congr
    intro y hy
    have hmem := (List.Nodup.mem_erase_iff hnodup).1 hy
    exact others y hmem.2 hmem.1
  have hfirst : ((x :: l.erase x).flatMap f').Perm ((x :: l.erase x).flatMap f ++ more) := by
    rw [List.flatMap_cons, List.flatMap_cons, hrest, List.append_assoc]
    refine (grows.append_right _).trans ?_
    rw [List.append_assoc]
    exact List.perm_append_comm.append_left _
  exact (hsplit.flatMap_right f').trans
    (hfirst.trans ((hsplit.flatMap_right f).symm.append_right more))

/-- What changes nothing for any piece in play keeps the account. -/
theorem Heard.of_same {g g' : Game} (h : Heard g) (hdispatcher : g'.dispatcher = g.dispatcher)
    (hplay : g'.inPlay = g.inPlay)
    (habilities : ∀ n ∈ g.inPlay, g'.abilitiesOf n = g.abilitiesOf n)
    (count : g.abilityCount ≤ g'.abilityCount) (registry : g'.registry = g.registry) :
    Heard g' := by
  constructor
  · rw [hdispatcher, living_congr hplay habilities]
    exact h.hears
  · intro n hn a ha
    rw [hplay] at hn
    rw [habilities n hn] at ha
    exact (h.made n hn a ha).mono count registry

/-- Who is to move, who has won and what stands on the board have no part in the account. -/
theorem accounted_frame {g : Game} (h : Accounted g) (board : Board) (toMove : Option Team)
    (turn : Nat) (winner : Option Team) (journal : List Sighting) :
    Accounted { g with board, toMove, turn, winner, journal } := by
  refine ⟨⟨h.numbered.given, h.numbered.ends, h.numbered.roster⟩, h.uncast,
    ⟨h.attached.inPlay, h.attached.host, h.attached.nodup, h.attached.given⟩, ?_⟩
  exact h.heard.of_same rfl rfl (fun _ _ => rfl) (Nat.le_refl _) rfl

theorem Heard.nodup_serials {g : Game} (h : Heard g) {host : PieceNumber} {more : List Ability}
    (hmakes : Makes g host more) : ((g.living ++ more).map Ability.serial).Nodup := by
  rw [List.map_append, List.nodup_append, hmakes.serials]
  refine ⟨h.hears.serials, List.nodup_range', ?_⟩
  intro s hs s' hs' heq
  subst heq
  rcases List.mem_map.1 hs with ⟨a, ha, rfl⟩
  rcases List.mem_flatMap.1 ha with ⟨n, hn, han⟩
  have hlow := (h.made n hn a han).serial
  have hhigh := (List.mem_range'_1.1 hs').1
  exact absurd hlow (Nat.not_lt.2 hhigh)

theorem Makes.madeFor {g g' : Game} {host : PieceNumber} {more : List Ability}
    (h : Makes g host more) (count : g.abilityCount + more.length ≤ g'.abilityCount)
    (registry : g'.registry = g.registry) {a : Ability} (ha : a ∈ more) : g'.MadeFor host a := by
  refine ⟨?_, h.hosts a ha, ?_⟩
  · have hserial : a.serial ∈ List.range' g.abilityCount more.length := by
      rw [← h.serials]
      exact List.mem_map_of_mem ha
    exact Nat.lt_of_lt_of_le (List.mem_range'_1.1 hserial).2 count
  · rw [registry]
    exact h.rules a ha

/-!
## Changes of one effect
-/

section Effects

variable {g : Game} {e : EffectNumber} {effect : Effect}

theorem effect?_setEffect (g : Game) (e e' : EffectNumber) (effect : Effect) :
    (g.setEffect e effect).effect? e' = if e = e' then some effect else g.effect? e' :=
  Table.find?_insert g.effects e e' effect

theorem statusesOf_setStatuses (g : Game) (n m : PieceNumber) (l : List EffectNumber) :
    (g.setStatuses n l).statusesOf m = if n = m then l else g.statusesOf m := by
  unfold statusesOf setStatuses
  rw [Table.find?_insert]
  split <;> rfl

theorem hostOf_setEffect (found : (g.effect? e) = some effect) {effect' : Effect}
    (hhost : effect'.host = effect.host) (e' : EffectNumber) :
    (g.setEffect e effect').hostOf e' = g.hostOf e' := by
  unfold hostOf
  rw [effect?_setEffect]
  split
  · next heq =>
      rw [← heq, found, Option.map_some, Option.map_some, hhost]
  · rfl

theorem lentBy_setEffect (found : (g.effect? e) = some effect) {effect' : Effect}
    (hlent : effect'.lent = effect.lent) (e' : EffectNumber) :
    (g.setEffect e effect').lentBy e' = g.lentBy e' := by
  unfold lentBy
  rw [effect?_setEffect]
  split
  · next heq =>
      rw [← heq, found, Option.map_some, Option.map_some, hlent]
  · rfl

theorem Attached.of_hosts {g g' : Game} (h : Attached g) (hhost : ∀ e, g'.hostOf e = g.hostOf e)
    (hstatuses : ∀ n, (g'.statusesOf n).Sublist (g.statusesOf n))
    (hplay : g'.inPlay = g.inPlay) (hcount : g'.effectCount = g.effectCount) : Attached g' := by
  constructor
  · intro n e he
    rw [hplay]
    exact h.inPlay n e ((hstatuses n).subset he)
  · intro n e he
    rw [hhost]
    exact h.host n e ((hstatuses n).subset he)
  · intro n
    exact (h.nodup n).sublist (hstatuses n)
  · intro e n he
    rw [hhost] at he
    rw [hcount]
    exact h.given e n he

/-- An effect that lends the same abilities to the same piece as before changes no account. -/
theorem accounted_setEffect (h : Accounted g) (found : g.effect? e = some effect)
    {effect' : Effect} (hhost : effect'.host = effect.host) (hlent : effect'.lent = effect.lent) :
    Accounted (g.setEffect e effect') := by
  refine ⟨⟨h.numbered.given, h.numbered.ends, h.numbered.roster⟩, h.uncast, ?_, ?_⟩
  · exact h.attached.of_hosts (hostOf_setEffect found hhost) (fun _ => List.Sublist.refl _) rfl rfl
  · refine h.heard.of_same rfl rfl ?_ (Nat.le_refl _) rfl
    intro n _
    exact abilitiesOf_congr rfl rfl fun e' _ => lentBy_setEffect found hlent e'

theorem expire_cases (g : Game) (e : EffectNumber) :
    (g.lentBy e = [] ∧ g.expire e = g) ∨
      ∃ effect, g.effect? e = some effect ∧ g.lentBy e = effect.children ∧
        g.expire e = (g.unsubscribeAll effect.children).setEffect e
          { effect with children := [], active := false } := by
  unfold expire lentBy
  cases found : g.effect? e with
  | none => exact Or.inl ⟨rfl, rfl⟩
  | some effect =>
      rw [Option.map_some, Option.getD_some, Effect.lent]
      dsimp only
      by_cases hactive : effect.active = true
      · rw [if_pos hactive, if_pos hactive]
        exact Or.inr ⟨effect, rfl, rfl, rfl⟩
      · rw [if_neg hactive, if_neg hactive]
        exact Or.inl ⟨rfl, rfl⟩

theorem dispatcher_expire (g : Game) (e : EffectNumber) :
    (g.expire e).dispatcher = (g.lentBy e).foldl Dispatcher.unsubscribeAbility g.dispatcher := by
  rcases expire_cases g e with ⟨hlent, heq⟩ | ⟨effect, _, hlent, heq⟩
  · rw [hlent, heq, List.foldl_nil]
  · rw [hlent, heq]
    rfl

theorem lentBy_expire_self (g : Game) (e : EffectNumber) : (g.expire e).lentBy e = [] := by
  rcases expire_cases g e with ⟨hlent, heq⟩ | ⟨effect, _, hlent, heq⟩
  · rw [heq, hlent]
  · unfold lentBy
    rw [heq, effect?_setEffect, if_pos rfl]
    rfl

theorem effect?_expire_of_ne {e e' : EffectNumber} (g : Game) (hne : e ≠ e') :
    (g.expire e).effect? e' = g.effect? e' := by
  rcases expire_cases g e with ⟨_, heq⟩ | ⟨effect, _, _, heq⟩
  · rw [heq]
  · rw [heq, effect?_setEffect, if_neg hne]
    rfl

theorem hostOf_expire (g : Game) (e e' : EffectNumber) : (g.expire e).hostOf e' = g.hostOf e' := by
  rcases expire_cases g e with ⟨_, heq⟩ | ⟨effect, found, _, heq⟩
  · rw [heq]
  · have hhost : ({ effect with children := [], active := false } : Effect).host = effect.host := rfl
    rw [heq]
    exact hostOf_setEffect (g := g.unsubscribeAll effect.children) found hhost e'

/-- The end of an effect takes what it lent off its piece and leaves all other pieces alone. -/
theorem accounted_expire (h : Accounted g) {n : PieceNumber} (he : e ∈ g.statusesOf n) :
    Accounted (g.expire e) := by
  rcases expire_eq g e with ⟨dispatcher, effects, heq⟩
  have hsame : SamePieces g (g.expire e) := by
    rw [heq]
    exact ⟨rfl, rfl, rfl, rfl, fun _ _ h => h⟩
  have hplay : (g.expire e).inPlay = g.inPlay := by rw [heq]; rfl
  have hstatuses : ∀ m, (g.expire e).statusesOf m = g.statusesOf m := by
    intro m
    rw [heq]
    rfl
  have hpiece : ∀ m, (g.expire e).piece m = g.piece m := by
    intro m
    rw [heq]
    rfl
  have hothers : ∀ m ∈ g.inPlay, m ≠ n → g.abilitiesOf m = (g.expire e).abilitiesOf m := by
    intro m _ hne
    refine (abilitiesOf_congr (hpiece m) (hstatuses m) ?_).symm
    intro e' he'
    exact lentBy_of_effect?_eq (effect?_expire_of_ne g (h.attached.ne_of_mem he he' hne))
  have hgrows : (g.abilitiesOf n).Perm ((g.expire e).abilitiesOf n ++ g.lentBy e) := by
    rw [abilitiesOf_eq, abilitiesOf_eq, hpiece, hstatuses, List.append_assoc]
    apply List.Perm.append_left _
    refine perm_flatMap_of_grows (h.attached.nodup n) he ?_ ?_
    · rw [lentBy_expire_self]
      exact List.Perm.refl _
    · intro e' _ hne
      exact (lentBy_of_effect?_eq (effect?_expire_of_ne g hne.symm)).symm
  have hliving : g.living.Perm ((g.expire e).living ++ g.lentBy e) := by
    unfold living
    rw [hplay]
    exact perm_flatMap_of_grows h.numbered.nodup_inPlay (h.attached.inPlay n e he) hgrows hothers
  refine ⟨h.numbered.of_samePieces hsame, ?_, ?_, ?_, ?_⟩
  · rw [hsame.cast]
    exact h.uncast
  · refine h.attached.of_hosts (hostOf_expire g e) ?_ hplay (by rw [heq])
    intro m
    rw [hstatuses]
  · rw [dispatcher_expire]
    exact (h.heard.hears.perm hliving).unsubscribe
  · intro m hm a ha
    rw [hplay] at hm
    have hold : a ∈ g.abilitiesOf m := by
      by_cases heq' : m = n
      · subst heq'
        exact hgrows.mem_iff.2 (List.mem_append_left _ ha)
      · rw [hothers m hm heq']
        exact ha
    refine (h.heard.made m hm a hold).mono (Nat.le_of_eq ?_) hsame.registry
    rw [heq]

end Effects

/-!
## Counting down
-/

section CountingDown

variable {g : Game} {e : EffectNumber} {n : PieceNumber}

theorem statusesOf_tick (g : Game) (e : EffectNumber) (n : PieceNumber) :
    (g.tick e).statusesOf n = g.statusesOf n := by
  rcases tick_eq g e with ⟨dispatcher, effects, heq⟩
  rw [heq]
  rfl

theorem accounted_tick (h : Accounted g) (he : e ∈ g.statusesOf n) : Accounted (g.tick e) := by
  unfold tick
  split
  · next effect found =>
      split
      · have hcounted : Accounted
            (g.setEffect e { effect with remaining := effect.remaining - 1 }) :=
          accounted_setEffect h found rfl rfl
        dsimp only
        split
        · exact accounted_expire hcounted he
        · exact hcounted
      · exact h
  · exact h

theorem accounted_foldl_tick {l : List EffectNumber} (h : Accounted g)
    (hl : ∀ e ∈ l, e ∈ g.statusesOf n) : Accounted (l.foldl tick g) := by
  induction l generalizing g with
  | nil => exact h
  | cons e rest ih =>
      rw [List.foldl_cons]
      apply ih (accounted_tick h (hl e List.mem_cons_self))
      intro e' he'
      rw [statusesOf_tick]
      exact hl e' (List.mem_cons_of_mem e he')

theorem lentBy_of_not_isActive (h : g.isActive e = false) : g.lentBy e = [] := by
  unfold isActive at h
  unfold lentBy
  cases found : g.effect? e with
  | none => rfl
  | some effect =>
      rw [found] at h
      have hinactive : effect.active = false := h
      rw [Option.map_some, Option.getD_some, Effect.lent, hinactive]
      rfl

theorem flatMap_lentBy_filter (l : List EffectNumber) :
    (l.filter g.isActive).flatMap g.lentBy = l.flatMap g.lentBy := by
  induction l with
  | nil => rfl
  | cons e rest ih =>
      rw [List.filter_cons]
      by_cases hactive : g.isActive e = true
      · rw [if_pos hactive, List.flatMap_cons, List.flatMap_cons, ih]
      · rw [if_neg hactive, List.flatMap_cons, ih,
          lentBy_of_not_isActive (Bool.eq_false_iff.2 hactive), List.nil_append]

/-- Effects that have ended lend nothing, so that they may be taken off the list. -/
theorem accounted_dropEnded (h : Accounted g) :
    Accounted (g.setStatuses n ((g.statusesOf n).filter g.isActive)) := by
  refine ⟨⟨h.numbered.given, h.numbered.ends, h.numbered.roster⟩, h.uncast, ?_, ?_⟩
  · refine h.attached.of_hosts (fun _ => rfl) ?_ rfl rfl
    intro m
    rw [statusesOf_setStatuses]
    split
    · next heq =>
        rw [← heq]
        exact List.filter_sublist
    · exact List.Sublist.refl _
  · refine h.heard.of_same rfl rfl ?_ (Nat.le_refl _) rfl
    intro m _
    rw [abilitiesOf_eq, abilitiesOf_eq, statusesOf_setStatuses]
    split
    · next heq =>
        rw [← heq]
        exact congrArg (_ ++ ·) (flatMap_lentBy_filter (g.statusesOf n))
    · rfl

theorem accounted_tickStatuses (h : Accounted g) (n : PieceNumber) :
    Accounted (g.tickStatuses n).2 :=
  accounted_dropEnded (accounted_foldl_tick (n := n) h fun _ he => he)

theorem accounted_tickAll (h : Accounted g) : Accounted g.tickAll := by
  unfold tickAll
  generalize g.inPlay = l
  induction l generalizing g with
  | nil => exact h
  | cons n rest ih => exact ih (accounted_tickStatuses h n)

end CountingDown

/-!
## Beginning an effect
-/

section Beginning

variable {g : Game} {definition : StatusDefinition} {host : PieceNumber}

theorem effect?_withEffect_of_ne {e : EffectNumber} (h : e ≠ g.effectCount) :
    (g.withEffect definition host).effect? e = g.effect? e := by
  show (g.setEffect g.effectCount (.make definition host)).effect? e = g.effect? e
  rw [effect?_setEffect, if_neg h.symm]

theorem accounted_withEffect (h : Accounted g) : Accounted (g.withEffect definition host) := by
  refine ⟨⟨h.numbered.given, h.numbered.ends, h.numbered.roster⟩, h.uncast, ⟨?_, ?_, ?_, ?_⟩, ?_⟩
  · exact h.attached.inPlay
  · intro n e he
    unfold hostOf
    rw [effect?_withEffect_of_ne (h.attached.ne_effectCount he)]
    exact h.attached.host n e he
  · exact h.attached.nodup
  · intro e n he
    by_cases heq : e = g.effectCount
    · exact heq ▸ Nat.lt_succ_self g.effectCount
    · unfold hostOf at he
      rw [effect?_withEffect_of_ne heq] at he
      exact Nat.lt_succ_of_lt (h.attached.given e n he)
  · refine h.heard.of_same rfl rfl ?_ (Nat.le_refl _) rfl
    intro n _
    refine abilitiesOf_congr rfl rfl ?_
    intro e he
    exact lentBy_of_effect?_eq (effect?_withEffect_of_ne
      (h.attached.ne_effectCount he))

theorem accounted_withSerials (h : Accounted g) (k : Nat) : Accounted (g.withSerials k) := by
  refine ⟨⟨h.numbered.given, h.numbered.ends, h.numbered.roster⟩, h.uncast,
    ⟨h.attached.inPlay, h.attached.host, h.attached.nodup, h.attached.given⟩, ?_⟩
  exact h.heard.of_same rfl rfl (fun _ _ => rfl) (Nat.le_add_right _ k) rfl

theorem effect?_withEffectInForce_of_ne {children : List Ability} {e : EffectNumber}
    (h : e ≠ g.effectCount) :
    (g.withEffectInForce definition host children).effect? e = g.effect? e := by
  unfold effect? withEffectInForce
  rw [Table.find?_insert_of_ne _ _ h.symm, Table.find?_insert_of_ne _ _ h.symm]

theorem effect?_withEffectInForce_self {children : List Ability} :
    (g.withEffectInForce definition host children).effect? g.effectCount =
      some { Effect.make definition host with children, active := true } :=
  Table.find?_insert_self _ _ _

theorem statusesOf_withEffectInForce {children : List Ability} (n : PieceNumber) :
    (g.withEffectInForce definition host children).statusesOf n =
      if host = n then g.statusesOf host ++ [g.effectCount] else g.statusesOf n :=
  statusesOf_setStatuses _ host n _

theorem mem_statusesOf_withEffectInForce {children : List Ability} {e : EffectNumber}
    {n : PieceNumber} (he : e ∈ (g.withEffectInForce definition host children).statusesOf n) :
    (e = g.effectCount ∧ n = host) ∨ e ∈ g.statusesOf n := by
  rw [statusesOf_withEffectInForce] at he
  split at he
  · next hn =>
      rcases List.mem_append.1 he with he | he
      · exact Or.inr (hn ▸ he)
      · exact Or.inl ⟨List.mem_singleton.1 he, hn.symm⟩
  · exact Or.inr he

theorem attached_withEffectInForce (h : Attached g) (hhost : host ∈ g.inPlay)
    (children : List Ability) : Attached (g.withEffectInForce definition host children) := by
  refine ⟨?_, ?_, ?_, ?_⟩
  · intro n e he
    rcases mem_statusesOf_withEffectInForce he with ⟨_, rfl⟩ | he
    · exact hhost
    · exact h.inPlay n e he
  · intro n e he
    unfold hostOf
    rcases mem_statusesOf_withEffectInForce he with ⟨rfl, rfl⟩ | he
    · rw [effect?_withEffectInForce_self]
      rfl
    · rw [effect?_withEffectInForce_of_ne (h.ne_effectCount he)]
      exact h.host n e he
  · intro n
    rw [statusesOf_withEffectInForce]
    split
    · refine List.nodup_append.2 ⟨h.nodup host, List.nodup_singleton _, ?_⟩
      intro e he e' he'
      rw [List.mem_singleton.1 he']
      exact h.ne_effectCount he
    · exact h.nodup n
  · intro e n he
    by_cases heq : e = g.effectCount
    · exact heq ▸ Nat.lt_succ_self g.effectCount
    · unfold hostOf at he
      rw [effect?_withEffectInForce_of_ne heq] at he
      exact Nat.lt_succ_of_lt (h.given e n he)

theorem lentBy_withEffectInForce_of_mem (h : Attached g) {children : List Ability}
    {n : PieceNumber} {e : EffectNumber} (he : e ∈ g.statusesOf n) :
    (g.withEffectInForce definition host children).lentBy e = g.lentBy e :=
  lentBy_of_effect?_eq (effect?_withEffectInForce_of_ne (h.ne_effectCount he))

theorem abilitiesOf_withEffectInForce_self (h : Attached g) (children : List Ability) :
    (g.withEffectInForce definition host children).abilitiesOf host =
      g.abilitiesOf host ++ children := by
  have hlent : (g.withEffectInForce definition host children).lentBy g.effectCount = children := by
    unfold lentBy
    rw [effect?_withEffectInForce_self]
    rfl
  rw [abilitiesOf_eq, abilitiesOf_eq, statusesOf_withEffectInForce, if_pos rfl,
    List.flatMap_append, List.flatMap_congr fun e he => lentBy_withEffectInForce_of_mem h he,
    List.flatMap_singleton, hlent, ← List.append_assoc]
  rfl

theorem abilitiesOf_withEffectInForce_of_ne (h : Attached g) (children : List Ability)
    {n : PieceNumber} (hne : n ≠ host) :
    (g.withEffectInForce definition host children).abilitiesOf n = g.abilitiesOf n := by
  refine abilitiesOf_congr rfl ?_ fun e he => lentBy_withEffectInForce_of_mem h he
  rw [statusesOf_withEffectInForce, if_neg hne.symm]

/-- An effect that begins adds what it lends to its piece and leaves all other pieces alone. -/
theorem accounted_withEffectInForce (h : Accounted g) (hhost : host ∈ g.inPlay)
    {children : List Ability} (hmakes : Makes g host children) :
    Accounted (g.withEffectInForce definition host children) := by
  have hliving : (g.withEffectInForce definition host children).living.Perm
      (g.living ++ children) := by
    refine perm_flatMap_of_grows h.numbered.nodup_inPlay hhost ?_ fun n _ hne =>
      abilitiesOf_withEffectInForce_of_ne h.attached children hne
    rw [abilitiesOf_withEffectInForce_self h.attached]
  refine ⟨⟨h.numbered.given, h.numbered.ends, h.numbered.roster⟩, h.uncast,
    attached_withEffectInForce h.attached hhost children, ?_, ?_⟩
  · exact (h.heard.hears.subscribe (h.heard.nodup_serials hmakes)).perm hliving.symm
  · intro n hn a ha
    by_cases heq : n = host
    · subst heq
      rw [abilitiesOf_withEffectInForce_self h.attached] at ha
      rcases List.mem_append.1 ha with ha | ha
      · exact (h.heard.made n hn a ha).mono (Nat.le_add_right _ _) rfl
      · have hcount : g.abilityCount + children.length ≤
            (g.withEffectInForce definition n children).abilityCount := Nat.le_refl _
        exact hmakes.madeFor hcount rfl ha
    · rw [abilitiesOf_withEffectInForce_of_ne h.attached children heq] at ha
      exact (h.heard.made n hn a ha).mono (Nat.le_add_right _ _) rfl

theorem accounted_afflict {g' : Game} {id : Text} (h : Accounted g)
    (hafflict : Afflicts g id definition g') : Accounted g' := by
  cases hafflict with
  | absent _ => exact h
  | unmade _ _ k => exact accounted_withSerials (accounted_withEffect h) k
  | begun hfind _ made =>
      exact accounted_withEffectInForce h (mem_inPlay_iff.2 ⟨id, hfind⟩) made
  | @stacked host n e hfind _ found =>
      refine accounted_setEffect (accounted_withEffect h) found ?_ ?_
      · unfold Effect.stack
        cases definition.stacking <;> rfl
      · unfold Effect.stack Effect.lent
        cases definition.stacking <;> rfl

end Beginning

end Game
end Boardcraft
