import Boardcraft.Proofs.Data.Table
import Boardcraft.Proofs.Game.Run

/-!
# Making abilities and pieces

What becomes of a game in which abilities are made one after the other, or a piece is made from a
blueprint.  Whether they can be made, and what they are apart from numbers and ids, is settled by the
registry; the game has no part in it.

## Main statements

* `makeAbilities_eq_ok` and `makeAbilities_eq_error` say what is left behind;
* `makeAbilities_cases` and `makePiece_prototype` compare what a game makes with what its registry
  makes.
-/

namespace Boardcraft

/-- A rule that can be made under some name. -/
def Registry.Offers (r : Registry) (rule : Rule) : Prop :=
  ∃ name draft, r.drafts.find? name = some draft ∧ draft.check = .ok rule

/-- A registry offers a rule that has been registered, and beside it none but what it offered. -/
theorem Registry.offers_register {r : Registry} {name : Text} {rule rule' : Rule}
    (h : (r.register name rule.draft).Offers rule') : rule' = rule ∨ r.Offers rule' := by
  rcases h with ⟨name', draft, hfind, hcheck⟩
  change (r.drafts.insert name rule.draft).find? name' = some draft at hfind
  rw [Table.find?_insert] at hfind
  split at hfind
  · injection hfind with hfind
    rw [← hfind, Rule.check_draft] at hcheck
    injection hcheck with hcheck
    exact Or.inl hcheck.symm
  · exact Or.inr ⟨name', draft, hfind, hcheck⟩

theorem Registry.make_eq_ok {r : Registry} {name : Text} {params : Value} {serial : Nat}
    {host : Option PieceNumber} {a : Ability} (h : r.make name params serial host = .ok a) :
    a.serial = serial ∧ a.host = host ∧ r.Offers a.rule := by
  unfold Registry.make Registry.draft at h
  cases hfind : r.drafts.find? name with
  | none =>
      rw [hfind] at h
      cases h
  | some draft =>
      rw [hfind] at h
      change draft.make params serial host = .ok a at h
      unfold Rule.Draft.make at h
      cases hparams : Params.ofValue params with
      | error fault =>
          rw [hparams] at h
          cases h
      | ok fields =>
          rw [hparams] at h
          cases hrule : draft.check with
          | error fault =>
              rw [hrule] at h
              cases h
          | ok rule =>
              rw [hrule] at h
              cases h
              exact ⟨rfl, rfl, name, draft, hfind, hrule⟩

/-- Who an ability is made for, and under which serial number, has no part in whether it can be
made. -/
theorem Registry.make_eq_map (r : Registry) (name : Text) (params : Value) (serial : Nat)
    (host : Option PieceNumber) :
    r.make name params serial host =
      (r.make name params 0 none).map fun a => { a with serial, host } := by
  unfold Registry.make
  cases r.draft name with
  | error fault => rfl
  | ok draft =>
      show draft.make params serial host = (draft.make params 0 none).map _
      unfold Rule.Draft.make
      cases Params.ofValue params with
      | error fault => rfl
      | ok fields =>
          cases draft.check <;> rfl

/-- Whether the ability of a name can be made from what is given as its parameters. -/
def Registry.canMake (r : Registry) (spec : AbilitySpec) : Bool :=
  match r.make spec.name spec.params 0 none with
  | .ok _ => true
  | .error _ => false

/-- An ability is the one that a registry makes for a host from a name and parameters. -/
def Registry.Makes (r : Registry) (host : PieceNumber) (spec : AbilitySpec) (a : Ability) : Prop :=
  r.make spec.name spec.params a.serial (some host) = .ok a

theorem Registry.canMake_of_makes {r : Registry} {host : PieceNumber} {spec : AbilitySpec}
    {a : Ability} (h : r.Makes host spec a) : r.canMake spec = true := by
  unfold Registry.Makes at h
  rw [Registry.make_eq_map] at h
  unfold Registry.canMake
  cases hmake : r.make spec.name spec.params 0 none with
  | error fault =>
      rw [hmake] at h
      cases h
  | ok b => rfl

theorem Registry.all_canMake {r : Registry} {host : PieceNumber} {specs : List AbilitySpec}
    {abilities : List Ability} (h : List.Forall₂ (r.Makes host) specs abilities) :
    specs.all r.canMake = true := by
  induction h with
  | nil => rfl
  | cons hfirst _ ih => rw [List.all_cons, canMake_of_makes hfirst, ih, Bool.and_self]

theorem Registry.canMake_of_make_eq_error {r : Registry} {spec : AbilitySpec} {serial : Nat}
    {host : Option PieceNumber} {fault : MakingFault}
    (h : r.make spec.name spec.params serial host = .error fault) : r.canMake spec = false := by
  rw [Registry.make_eq_map] at h
  unfold Registry.canMake
  cases hmake : r.make spec.name spec.params 0 none with
  | error fault' => rfl
  | ok b =>
      rw [hmake] at h
      cases h

def Registry.Checked (r : Registry) : Prop :=
  ∀ name draft, r.drafts.find? name = some draft → ∃ rule, draft.check = .ok rule

/-- An ability that is given an object as its parameters can be made if its name is registered. -/
theorem Registry.canMake_of_object {r : Registry} (hr : r.Checked) {spec : AbilitySpec}
    {fields : Fields} (h : spec.params = .object fields) : r.canMake spec = r.contains spec.name := by
  unfold Registry.canMake Registry.contains Registry.make Registry.draft Table.contains
  rw [h]
  cases hfind : r.drafts.find? spec.name with
  | none => rfl
  | some draft =>
      rcases hr spec.name draft hfind with ⟨rule, hcheck⟩
      have hmake : draft.make (.object fields) 0 none =
          .ok { serial := 0, rule, params := fields, host := none } := by
        unfold Rule.Draft.make
        rw [Params.ofValue_object, hcheck]
        rfl
      show (match draft.make (.object fields) 0 none with
        | .ok _ => true
        | .error _ => false) = true
      rw [hmake]

namespace Game

/-!
## Abilities
-/

structure Makes (g : Game) (host : PieceNumber) (abilities : List Ability) : Prop where
  serials : abilities.map Ability.serial = List.range' g.abilityCount abilities.length
  hosts : ∀ a ∈ abilities, a.host = some host
  rules : ∀ a ∈ abilities, g.registry.Offers a.rule

/-- The game in which more serial numbers of abilities are used up. -/
def withSerials (g : Game) (n : Nat) : Game := { g with abilityCount := g.abilityCount + n }

theorem makeAbility_eq_ok {g g' : Game} {host : PieceNumber} {spec : AbilitySpec} {a : Ability}
    (h : makeAbility host spec g = .ok a g') :
    g' = g.withSerials 1 ∧ (a.serial = g.abilityCount ∧ a.host = some host ∧
      g.registry.Offers a.rule) ∧ g.registry.Makes host spec a := by
  unfold makeAbility at h
  rw [get_bind] at h
  cases hmake : g.registry.make spec.name spec.params g.abilityCount (some host) with
  | error fault =>
      rw [hmake] at h
      cases h
  | ok ability =>
      rw [hmake] at h
      cases h
      have hmade := Registry.make_eq_ok hmake
      refine ⟨rfl, hmade, ?_⟩
      unfold Registry.Makes
      rw [hmade.1, hmake]

theorem makeAbility_eq_error {g g' : Game} {host : PieceNumber} {spec : AbilitySpec}
    {e : GameError} (h : makeAbility host spec g = .error e g') :
    g' = g ∧ g.registry.canMake spec = false := by
  unfold makeAbility at h
  rw [get_bind] at h
  cases hmake : g.registry.make spec.name spec.params g.abilityCount (some host) with
  | error fault =>
      rw [hmake] at h
      cases h
      exact ⟨rfl, Registry.canMake_of_make_eq_error hmake⟩
  | ok ability =>
      rw [hmake] at h
      cases h

/-- The abilities are those that the names stand for, in the same order. -/
theorem makeAbilities_eq_ok {host : PieceNumber} {specs : List AbilitySpec} {g g' : Game}
    {abilities : List Ability} (h : makeAbilities host specs g = .ok abilities g') :
    g' = g.withSerials abilities.length ∧ Makes g host abilities ∧
      List.Forall₂ (g.registry.Makes host) specs abilities := by
  induction specs generalizing g g' abilities with
  | nil =>
      cases h
      exact ⟨rfl, ⟨rfl, fun _ ha => absurd ha List.not_mem_nil,
        fun _ ha => absurd ha List.not_mem_nil⟩, List.Forall₂.nil⟩
  | cons spec rest ih =>
      rw [makeAbilities] at h
      cases hfirst : makeAbility host spec g with
      | error e g₁ =>
          rw [bind_of_eq_error _ hfirst] at h
          cases h
      | ok a g₁ =>
          rw [bind_of_eq_ok _ hfirst] at h
          rcases makeAbility_eq_ok hfirst with ⟨rfl, ⟨hserial, hhost, hrule⟩, hmakes⟩
          cases hrest : makeAbilities host rest (g.withSerials 1) with
          | error e g₂ =>
              rw [bind_of_eq_error _ hrest] at h
              cases h
          | ok others g₂ =>
              rw [bind_of_eq_ok _ hrest] at h
              cases h
              rcases ih hrest with ⟨rfl, hmade, hothers⟩
              refine ⟨?_, ⟨?_, ?_, ?_⟩, List.Forall₂.cons hmakes hothers⟩
              · unfold withSerials
                simp only [List.length_cons]
                congr 1
                omega
              · rw [List.map_cons, hserial, hmade.serials, List.length_cons, List.range'_succ]
                rfl
              · intro b hb
                rcases List.mem_cons.1 hb with rfl | hb
                · exact hhost
                · exact hmade.hosts b hb
              · intro b hb
                rcases List.mem_cons.1 hb with rfl | hb
                · exact hrule
                · exact hmade.rules b hb

theorem makeAbilities_eq_error {host : PieceNumber} {specs : List AbilitySpec} {g g' : Game}
    {e : GameError} (h : makeAbilities host specs g = .error e g') :
    (∃ k, g' = g.withSerials k) ∧ specs.all g.registry.canMake = false := by
  induction specs generalizing g g' with
  | nil => cases h
  | cons spec rest ih =>
      rw [makeAbilities] at h
      rw [List.all_cons]
      cases hfirst : makeAbility host spec g with
      | error e₁ g₁ =>
          rw [bind_of_eq_error _ hfirst] at h
          cases h
          rcases makeAbility_eq_error hfirst with ⟨rfl, hunmade⟩
          exact ⟨⟨0, rfl⟩, by rw [hunmade, Bool.false_and]⟩
      | ok a g₁ =>
          rw [bind_of_eq_ok _ hfirst] at h
          rcases makeAbility_eq_ok hfirst with ⟨rfl, -⟩
          cases hrest : makeAbilities host rest (g.withSerials 1) with
          | error e₂ g₂ =>
              rw [bind_of_eq_error _ hrest] at h
              cases h
              rcases ih hrest with ⟨⟨k, rfl⟩, hunmade⟩
              refine ⟨⟨1 + k, ?_⟩, ?_⟩
              · unfold withSerials
                simp only
                congr 1
                omega
              · have hothers : rest.all g.registry.canMake = false := hunmade
                rw [hothers, Bool.and_false]
          | ok others g₂ =>
              rw [bind_of_eq_ok _ hrest] at h
              cases h

/-!
### Apart from numbers
-/

end Game

def Ability.bare (a : Ability) : Ability := { a with serial := 0, host := none }

/-- The abilities of a list that a registry makes, without serial numbers and hosts. -/
def Registry.makeBare (r : Registry) (specs : List AbilitySpec) :
    Except MakingFault (List Ability) :=
  specs.mapM fun spec => r.make spec.name spec.params 0 none

namespace Game

theorem withSerials_withSerials (g : Game) (k m : Nat) :
    (g.withSerials k).withSerials m = g.withSerials (m + k) := by
  unfold withSerials
  rw [Nat.add_assoc, Nat.add_comm k m]

theorem makeAbility_of_make {g : Game} {spec : AbilitySpec} {b : Ability}
    (h : g.registry.make spec.name spec.params 0 none = .ok b) (host : PieceNumber) :
    ∃ a : Ability, a.bare = b ∧ makeAbility host spec g = .ok a (g.withSerials 1) := by
  have hmade := Registry.make_eq_ok h
  refine ⟨{ b with serial := g.abilityCount, host := some host }, ?_, ?_⟩
  · unfold Ability.bare
    rw [← hmade.1, ← hmade.2.1]
  · unfold makeAbility
    rw [get_bind, Registry.make_eq_map, h]
    rfl

theorem makeAbility_of_not_make {g : Game} {spec : AbilitySpec} {fault : MakingFault}
    (h : g.registry.make spec.name spec.params 0 none = .error fault) (host : PieceNumber) :
    makeAbility host spec g = .error (.badAbility fault) g := by
  unfold makeAbility
  rw [get_bind, Registry.make_eq_map, h]
  rfl

/-- A game makes the abilities that its registry makes, or fails for the reason for which the
registry does. -/
theorem makeAbilities_cases (host : PieceNumber) (specs : List AbilitySpec) (g : Game) :
    (∃ abilities, g.registry.makeBare specs = .ok (abilities.map Ability.bare) ∧
      makeAbilities host specs g = .ok abilities (g.withSerials abilities.length)) ∨
    ∃ fault k, g.registry.makeBare specs = .error fault ∧
      makeAbilities host specs g = .error (.badAbility fault) (g.withSerials k) := by
  induction specs generalizing g with
  | nil => exact Or.inl ⟨[], rfl, rfl⟩
  | cons spec rest ih =>
      unfold Registry.makeBare
      rw [List.mapM_cons, makeAbilities]
      cases hmake : g.registry.make spec.name spec.params 0 none with
      | error fault =>
          exact Or.inr ⟨fault, 0, rfl, bind_of_eq_error _ (makeAbility_of_not_make hmake host)⟩
      | ok b =>
          rcases makeAbility_of_make hmake host with ⟨a, rfl, hfirst⟩
          rw [bind_of_eq_ok _ hfirst]
          rcases ih (g.withSerials 1) with ⟨abilities, hbare, hrest⟩ | ⟨fault, k, hbare, hrest⟩
          · refine Or.inl ⟨a :: abilities, ?_, ?_⟩
            · change (g.registry.makeBare rest >>= fun others => pure (a.bare :: others)) = _
              change g.registry.makeBare rest = _ at hbare
              rw [hbare]
              rfl
            · rw [bind_of_eq_ok _ hrest, withSerials_withSerials]
              rfl
          · refine Or.inr ⟨fault, k + 1, ?_, ?_⟩
            · change (g.registry.makeBare rest >>= fun others => pure (a.bare :: others)) = _
              change g.registry.makeBare rest = _ at hbare
              rw [hbare]
              rfl
            · rw [bind_of_eq_error _ hrest, withSerials_withSerials]

theorem makeAbilities_of_makeBare {g : Game} {specs : List AbilitySpec} {bare : List Ability}
    (h : g.registry.makeBare specs = .ok bare) (host : PieceNumber) :
    ∃ abilities, abilities.map Ability.bare = bare ∧
      makeAbilities host specs g = .ok abilities (g.withSerials abilities.length) := by
  rcases makeAbilities_cases host specs g with ⟨abilities, hbare, hrun⟩ | ⟨fault, k, hbare, _⟩
  · rw [h] at hbare
    injection hbare with hbare
    exact ⟨abilities, hbare.symm, hrun⟩
  · rw [h] at hbare
    cases hbare

theorem makeAbilities_of_not_makeBare {g : Game} {specs : List AbilitySpec} {fault : MakingFault}
    (h : g.registry.makeBare specs = .error fault) (host : PieceNumber) :
    ∃ k, makeAbilities host specs g = .error (.badAbility fault) (g.withSerials k) := by
  rcases makeAbilities_cases host specs g with ⟨abilities, hbare, _⟩ | ⟨fault', k, hbare, hrun⟩
  · rw [h] at hbare
    cases hbare
  · rw [h] at hbare
    injection hbare with hbare
    exact ⟨k, hbare ▸ hrun⟩

/-!
## Pieces
-/

/-- A piece that is made from a blueprint under the next number. -/
structure MakesPiece (g : Game) (blueprint : Blueprint) (team : Value) (p : Piece) : Prop where
  team : Team.ofValue? team = some p.team
  mark : p.teamMark = .str p.team.word
  id : p.id =
    p.team.word ++ "-" ++ slug blueprint.name ++ "-" ++ toString (g.pieceCount + 1)
  movement : ∃ shape, blueprint.movement.read = .ok shape ∧
    p.movement = orient p.team shape.compile
  attack : ∃ shape, blueprint.attack.read = .ok shape ∧ p.attack = orient p.team shape.compile
  abilities : Makes g (g.pieceCount + 1) p.abilities

def withPiece (g : Game) (p : Piece) : Game :=
  { g.withSerials p.abilities.length with
    pieces := g.pieces.insert (g.pieceCount + 1) p, pieceCount := g.pieceCount + 1 }

theorem compileShape_of_read {source : ShapeSource} {shape : Shape} (h : source.read = .ok shape)
    (g : Game) : compileShape source g = .ok shape.compile g := by
  unfold compileShape
  rw [h]
  rfl

theorem compileShape_of_not_read {source : ShapeSource} {e : Shape.DocumentError}
    (h : source.read = .error e) (g : Game) :
    compileShape source g = .error (.badShape e) g := by
  unfold compileShape
  rw [h]
  rfl

end Game

def Piece.bare (p : Piece) : Piece := { p with id := "", abilities := p.abilities.map Ability.bare }

/-- The piece that a registry makes of a blueprint for the team that a value names, without an id. -/
def Blueprint.prototype (r : Registry) (blueprint : Blueprint) (team : Value) : Option Piece :=
  match Team.ofValue? team, blueprint.movement.read, blueprint.attack.read,
    r.makeBare blueprint.abilities with
  | some team, .ok movement, .ok attack, .ok abilities =>
      some { id := "", name := blueprint.name, emoji := blueprint.emoji, team,
             movement := Game.orient team movement.compile,
             attack := Game.orient team attack.compile, abilities }
  | _, _, _, _ => none

namespace Game

/-- A game makes the piece that its registry makes of a blueprint, or none if the registry makes
none. -/
theorem makePiece_prototype (blueprint : Blueprint) (team : Value) (g : Game) :
    (∃ p, blueprint.prototype g.registry team = some p.bare ∧ MakesPiece g blueprint team p ∧
      makePiece blueprint team g = .ok (g.pieceCount + 1) (g.withPiece p)) ∨
    blueprint.prototype g.registry team = none ∧
      ∃ e k, makePiece blueprint team g = .error e (g.withSerials k) := by
  unfold makePiece Blueprint.prototype
  cases hteam : Team.ofValue? team with
  | none => exact Or.inr ⟨rfl, _, 0, rfl⟩
  | some side =>
      dsimp only
      cases hmovement : blueprint.movement.read with
      | error e =>
          exact Or.inr ⟨rfl, _, 0, bind_of_eq_error _ (compileShape_of_not_read hmovement g)⟩
      | ok movement =>
          rw [bind_of_eq_ok _ (compileShape_of_read hmovement g)]
          cases hattack : blueprint.attack.read with
          | error e =>
              exact Or.inr ⟨rfl, _, 0, bind_of_eq_error _ (compileShape_of_not_read hattack g)⟩
          | ok attack =>
              rw [bind_of_eq_ok _ (compileShape_of_read hattack g), get_bind]
              cases hbare : g.registry.makeBare blueprint.abilities with
              | error fault =>
                  rcases makeAbilities_of_not_makeBare hbare (g.pieceCount + 1) with ⟨k, hunmade⟩
                  exact Or.inr ⟨rfl, _, k, bind_of_eq_error _ hunmade⟩
              | ok bare =>
                  rcases makeAbilities_of_makeBare hbare (g.pieceCount + 1) with
                    ⟨abilities, rfl, hmade⟩
                  refine Or.inl ⟨{
                    id := side.word ++ "-" ++ slug blueprint.name ++ "-" ++
                      toString (g.pieceCount + 1),
                    name := blueprint.name, emoji := blueprint.emoji, team := side,
                    movement := orient side movement.compile,
                    attack := orient side attack.compile, abilities }, rfl, ?_, ?_⟩
                  · exact ⟨hteam, rfl, rfl, ⟨movement, hmovement, rfl⟩, ⟨attack, hattack, rfl⟩,
                      (makeAbilities_eq_ok hmade).2.1⟩
                  · rw [bind_of_eq_ok _ hmade]
                    rfl

theorem makePiece_cases (blueprint : Blueprint) (team : Value) (g : Game) :
    (∃ p, MakesPiece g blueprint team p ∧
      makePiece blueprint team g = .ok (g.pieceCount + 1) (g.withPiece p)) ∨
    ∃ e k, makePiece blueprint team g = .error e (g.withSerials k) := by
  rcases makePiece_prototype blueprint team g with ⟨p, -, made, hrun⟩ | ⟨-, hrun⟩
  · exact Or.inl ⟨p, made, hrun⟩
  · exact Or.inr hrun

end Game
end Boardcraft
