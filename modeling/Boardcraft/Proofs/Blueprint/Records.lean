import Boardcraft.Blueprint.Basic
import Boardcraft.Proofs.Data.Reading

/-!
# Which records are blueprints

A record may hold anything where a blueprint is expected.  It is documented which ones are accepted
and what blueprints they stand for.  The reader keeps to this but for the parameters of abilities:
whatever does not count as present passes there for no parameters at all, also where it is neither
null nor an object.

## Main statements

* `ofValue_eq_ok_iff` says which records are read and as what;
* `acceptedAsDocumented_iff` says which of them are treated as documented.
-/

namespace Boardcraft

theorem Text.isEmpty_eq_false_iff {t : Text} : t.isEmpty = false ↔ t ≠ "" := by
  rw [Text.isEmpty, List.isEmpty_eq_false_iff, Ne, Ne, Text.ext_iff]
  rfl

namespace ShapeSource

def value : ShapeSource → Value
  | text s => .str s
  | object fields => .object fields

theorem ofValue?_eq_some_iff {v : Value} {source : ShapeSource} :
    ofValue? v = some source ↔ v = source.value := by
  constructor
  · intro h
    cases v with
    | str s =>
        cases h
        rfl
    | object fields =>
        cases h
        rfl
    | _ => cases h
  · rintro rfl
    cases source <;> rfl

end ShapeSource

namespace Blueprint

/-!
## What a record says
-/

/-- Which parameters a field stands for, which may be missing. -/
abbrev ParamsRule := Option Value → Value → Prop

/-- Parameters are an object, or else there are none. -/
inductive DocumentedParams : ParamsRule
  | missing : DocumentedParams none (.object [])
  | null : DocumentedParams (some .null) (.object [])
  | object (fields : Fields) : DocumentedParams (some (.object fields)) (.object fields)

/-- The parameters that pass: those that are documented and whatever does not count as present. -/
inductive PassingParams : ParamsRule
  | documented {given : Option Value} {params : Value} (h : DocumentedParams given params) :
      PassingParams given params
  | absent {given : Value} (h : given.isTruthy = false) : PassingParams (some given) (.object [])

inductive EntrySays (P : ParamsRule) : Value → AbilitySpec → Prop
  | name (name : Text) : EntrySays P (.str name) ⟨name, .object []⟩
  | object {fields : Fields} {name : Text} {params : Value}
      (hname : fields.get? "name" = some (.str name)) (hparams : P (fields.get? "params") params) :
      EntrySays P (.object fields) ⟨name, params⟩

/-- The abilities that the list asks for, which may be missing. -/
inductive AbilitiesSay (P : ParamsRule) : Option Value → List AbilitySpec → Prop
  | missing : AbilitiesSay P none []
  | list {entries : List Value} {specs : List AbilitySpec}
      (each : List.Forall₂ (EntrySays P) entries specs) :
      AbilitiesSay P (some (.list entries)) specs

structure FieldsSay (P : ParamsRule) (fields : Fields) (b : Blueprint) : Prop where
  name : fields.get? "name" = some (.str b.name)
  named : b.name ≠ ""
  emoji : fields.get? "emoji" = some (.str b.emoji)
  drawn : b.emoji ≠ ""
  movement : fields.get? "movement" = some b.movement.value
  attack : fields.get? "attack" = some b.attack.value
  abilities : AbilitiesSay P (fields.get? "abilities") b.abilities

/-- A record is an object, and its fields say what the blueprint is. -/
def Says (P : ParamsRule) (v : Value) (b : Blueprint) : Prop :=
  ∃ fields, v = .object fields ∧ FieldsSay P fields b

/-!
## Fields
-/

section Fields

variable {fields : Fields} {field : String} {blueprint name : Text} {source : ShapeSource}
  {specs : List AbilitySpec} {spec : AbilitySpec} {v : Value}

theorem readName_eq_ok_iff :
    readName fields field = .ok name ↔ fields.get? field = some (.str name) ∧ name ≠ "" := by
  unfold readName
  rw [← Text.isEmpty_eq_false_iff]
  constructor
  · intro h
    split at h
    · next s hs =>
        split at h
        · cases h
        · next hnonempty =>
            cases h
            exact ⟨hs, Bool.not_eq_true _ ▸ hnonempty⟩
    · cases h
  · rintro ⟨hfield, hnonempty⟩
    rw [hfield]
    dsimp only
    rw [hnonempty]
    rfl

theorem readShape_eq_ok_iff :
    readShape blueprint fields field = .ok source ↔ fields.get? field = some source.value := by
  have hfield : (fields.get? field).bind ShapeSource.ofValue? = some source ↔
      fields.get? field = some source.value := by
    rw [Option.bind_eq_some_iff]
    simp only [ShapeSource.ofValue?_eq_some_iff, exists_eq_right]
  rw [← hfield]
  unfold readShape
  cases (fields.get? field).bind ShapeSource.ofValue? with
  | none => exact iff_of_false (fun h => by cases h) fun h => by cases h
  | some source' =>
      constructor <;>
      · intro h
        cases h
        rfl

theorem passingParams_iff {given : Option Value} {params : Value} :
    PassingParams given params ↔
      (given.getD .null).isTruthy = false ∧ params = .object [] ∨
        ∃ fields, given = some (.object fields) ∧ params = .object fields := by
  constructor
  · rintro (⟨hmissing | hnull | fields⟩ | habsent)
    · exact Or.inl ⟨rfl, rfl⟩
    · exact Or.inl ⟨rfl, rfl⟩
    · exact Or.inr ⟨fields, rfl, rfl⟩
    · exact Or.inl ⟨habsent, rfl⟩
  · rintro (⟨habsent, rfl⟩ | ⟨fields, rfl, rfl⟩)
    · cases given with
      | none => exact .documented .missing
      | some v => exact .absent habsent
    · exact .documented (.object fields)

theorem readAbility_eq_ok_iff :
    readAbility blueprint v = .ok spec ↔ EntrySays PassingParams v spec := by
  constructor
  · intro h
    cases v with
    | str name =>
        cases h
        exact .name name
    | object fields =>
        rw [readAbility] at h
        split at h
        · next name hname =>
            dsimp only at h
            split at h
            · split at h
              · next params hparams =>
                  cases h
                  refine .object hname (passingParams_iff.2 (Or.inr ⟨params, ?_, rfl⟩))
                  cases hgiven : Fields.get? fields "params" with
                  | none =>
                      rw [hgiven] at hparams
                      cases hparams
                  | some given =>
                      rw [hgiven] at hparams
                      exact congrArg some hparams
              · cases h
            · next habsent =>
                cases h
                exact .object hname
                  (passingParams_iff.2 (Or.inl ⟨Bool.not_eq_true _ ▸ habsent, rfl⟩))
        · cases h
    | _ => cases h
  · rintro (name | ⟨hname, hparams⟩)
    · rfl
    · rw [readAbility, hname]
      dsimp only
      rcases passingParams_iff.1 hparams with ⟨habsent, rfl⟩ | ⟨params, hgiven, rfl⟩
      · rw [habsent]
        rfl
      · rw [hgiven]
        cases params <;> rfl

theorem readAbilities_eq_ok_iff :
    readAbilities blueprint fields = .ok specs ↔
      AbilitiesSay PassingParams (fields.get? "abilities") specs := by
  have hentries : ∀ entries : List Value, entries.mapM (readAbility blueprint) = .ok specs ↔
      List.Forall₂ (EntrySays PassingParams) entries specs := by
    intro entries
    rw [mapM_eq_ok_iff]
    simp only [readAbility_eq_ok_iff]
  unfold readAbilities
  constructor
  · intro h
    split at h
    · next hmissing =>
        cases h
        rw [hmissing]
        exact .missing
    · next entries hlist =>
        rw [hlist]
        exact .list ((hentries entries).1 h)
    · cases h
  · intro h
    generalize fields.get? "abilities" = given at h ⊢
    cases h with
    | missing => rfl
    | list each => exact (hentries _).2 each

end Fields

/-!
## Records
-/

/-- A record is read as the blueprint that it stands for, and not at all where it stands for none. -/
theorem ofValue_eq_ok_iff {v : Value} {b : Blueprint} :
    ofValue v = .ok b ↔ Says PassingParams v b := by
  constructor
  · intro h
    cases v with
    | object fields =>
        rcases exists_of_bind_eq_ok h with ⟨name, hname, h⟩
        rcases exists_of_bind_eq_ok h with ⟨emoji, hemoji, h⟩
        rcases exists_of_bind_eq_ok h with ⟨movement, hmovement, h⟩
        rcases exists_of_bind_eq_ok h with ⟨attack, hattack, h⟩
        rcases exists_of_bind_eq_ok h with ⟨abilities, habilities, h⟩
        cases h
        rcases readName_eq_ok_iff.1 hname with ⟨hname, hnamed⟩
        rcases readName_eq_ok_iff.1 hemoji with ⟨hemoji, hdrawn⟩
        exact ⟨fields, rfl, hname, hnamed, hemoji, hdrawn, readShape_eq_ok_iff.1 hmovement,
          readShape_eq_ok_iff.1 hattack, readAbilities_eq_ok_iff.1 habilities⟩
    | _ => cases h
  · rintro ⟨fields, rfl, h⟩
    rw [ofValue, bind_of_eq_ok (readName_eq_ok_iff.2 ⟨h.name, h.named⟩),
      bind_of_eq_ok (readName_eq_ok_iff.2 ⟨h.emoji, h.drawn⟩),
      bind_of_eq_ok (readShape_eq_ok_iff.2 h.movement),
      bind_of_eq_ok (readShape_eq_ok_iff.2 h.attack),
      bind_of_eq_ok (readAbilities_eq_ok_iff.2 h.abilities)]
    rfl

/-- Whether a fault is one of a record, not one of the text or the file in which it stands. -/
def Fault.concernsRecord : Fault → Bool
  | invalidJson _ | inFile _ _ => false
  | _ => true

section Faults

variable {fields : Fields} {field : String} {blueprint : Text} {fault : Fault}

theorem concernsRecord_of_readName (h : readName fields field = .error fault) :
    fault.concernsRecord = true := by
  unfold readName at h
  split at h
  · split at h <;> cases h
    rfl
  · cases h
    rfl

theorem concernsRecord_of_readShape (h : readShape blueprint fields field = .error fault) :
    fault.concernsRecord = true := by
  unfold readShape at h
  split at h <;> cases h
  rfl

theorem concernsRecord_of_readAbility {entry : Value}
    (h : readAbility blueprint entry = .error fault) : fault.concernsRecord = true := by
  unfold readAbility at h
  split at h
  · cases h
  · split at h
    · dsimp only at h
      split at h
      · split at h <;> cases h
        rfl
      · cases h
    · cases h
      rfl
  · cases h
    rfl

theorem concernsRecord_of_readAbilities (h : readAbilities blueprint fields = .error fault) :
    fault.concernsRecord = true := by
  unfold readAbilities at h
  split at h
  · cases h
  · rcases exists_of_mapM_eq_error h with ⟨entry, -, hentry⟩
    exact concernsRecord_of_readAbility hentry
  · cases h
    rfl

end Faults

theorem concernsRecord_of_ofValue {v : Value} {fault : Fault} (h : ofValue v = .error fault) :
    fault.concernsRecord = true := by
  cases v with
  | object fields =>
      rcases bind_eq_error h with h | ⟨name, -, h⟩
      · exact concernsRecord_of_readName h
      rcases bind_eq_error h with h | ⟨emoji, -, h⟩
      · exact concernsRecord_of_readName h
      rcases bind_eq_error h with h | ⟨movement, -, h⟩
      · exact concernsRecord_of_readShape h
      rcases bind_eq_error h with h | ⟨attack, -, h⟩
      · exact concernsRecord_of_readShape h
      rcases bind_eq_error h with h | ⟨abilities, -, h⟩
      · exact concernsRecord_of_readAbilities h
      · cases h
  | _ =>
      cases h
      rfl

/-!
## What is overlooked
-/

/-- Parameters of a wrong type, which ought to be refused. -/
def MistypedParams (v : Value) : Prop := v ≠ .null ∧ ∀ fields, v ≠ .object fields

/-- An entry gives parameters of a wrong type. -/
def MistypedEntry (entry : Value) : Prop :=
  ∃ given, entry.fields.get? "params" = some given ∧ MistypedParams given

/-- A record has an entry that gives parameters of a wrong type. -/
def Mistyped (v : Value) : Prop :=
  ∃ entries, v.field "abilities" = .list entries ∧ ∃ entry ∈ entries, MistypedEntry entry

theorem documentedParams_iff {given : Option Value} {params : Value} :
    DocumentedParams given params ↔
      (∀ v, given = some v → ¬ MistypedParams v) ∧ PassingParams given params := by
  constructor
  · intro h
    refine ⟨?_, .documented h⟩
    rintro v rfl hmistyped
    cases h with
    | null => exact hmistyped.1 rfl
    | object fields => exact hmistyped.2 fields rfl
  · rintro ⟨htyped, h | ⟨habsent⟩⟩
    · exact h
    · next v =>
        have hv := htyped v rfl
        cases v with
        | null => exact .null
        | object fields =>
            -- An object without fields does not count as present, but it is no wrong type.
            cases fields with
            | nil => exact .object []
            | cons e rest => cases habsent
        | _ => exact absurd ⟨nofun, nofun⟩ hv

theorem entrySays_documented_iff {entry : Value} {spec : AbilitySpec} :
    EntrySays DocumentedParams entry spec ↔
      ¬ MistypedEntry entry ∧ EntrySays PassingParams entry spec := by
  constructor
  · rintro (name | ⟨hname, hparams⟩)
    · refine ⟨?_, .name name⟩
      rintro ⟨given, hgiven, -⟩
      cases hgiven
    · rcases documentedParams_iff.1 hparams with ⟨htyped, hpassing⟩
      refine ⟨?_, .object hname hpassing⟩
      rintro ⟨given, hgiven, hmistyped⟩
      exact htyped given hgiven hmistyped
  · rintro ⟨htyped, name | ⟨hname, hparams⟩⟩
    · exact .name name
    · refine .object hname (documentedParams_iff.2 ⟨?_, hparams⟩)
      intro given hgiven hmistyped
      exact htyped ⟨given, hgiven, hmistyped⟩

theorem abilitiesSay_documented_iff {given : Option Value} {specs : List AbilitySpec} :
    AbilitiesSay DocumentedParams given specs ↔
      (∀ entries, given = some (.list entries) → ∀ entry ∈ entries, ¬ MistypedEntry entry) ∧
        AbilitiesSay PassingParams given specs := by
  have heach : ∀ entries : List Value,
      List.Forall₂ (EntrySays DocumentedParams) entries specs ↔
        (∀ entry ∈ entries, ¬ MistypedEntry entry) ∧
          List.Forall₂ (EntrySays PassingParams) entries specs := by
    intro entries
    rw [← List.forall₂_and_left]
    exact ⟨List.Forall₂.imp fun _ _ => entrySays_documented_iff.1,
      List.Forall₂.imp fun _ _ => entrySays_documented_iff.2⟩
  constructor
  · rintro (_ | ⟨each⟩)
    · exact ⟨nofun, .missing⟩
    · rcases (heach _).1 each with ⟨htyped, hpassing⟩
      refine ⟨?_, .list hpassing⟩
      intro entries hentries
      cases hentries
      exact htyped
  · rintro ⟨htyped, _ | ⟨each⟩⟩
    · exact .missing
    · exact .list ((heach _).2 ⟨htyped _ rfl, each⟩)

theorem field_eq_list_iff {fields : Fields} {name : Text} {entries : List Value} :
    (Value.object fields).field name = .list entries ↔
      fields.get? name = some (.list entries) := by
  show (fields.get? name).getD .null = _ ↔ _
  cases fields.get? name with
  | none => exact iff_of_false nofun nofun
  | some v => exact (Option.some_inj).symm

theorem says_documented_iff {v : Value} {b : Blueprint} :
    Says DocumentedParams v b ↔ ¬ Mistyped v ∧ Says PassingParams v b := by
  constructor
  · rintro ⟨fields, rfl, h⟩
    rcases abilitiesSay_documented_iff.1 h.abilities with ⟨htyped, habilities⟩
    refine ⟨?_, fields, rfl, { h with abilities := habilities }⟩
    rintro ⟨entries, hentries, entry, hentry, hmistyped⟩
    exact htyped entries (field_eq_list_iff.1 hentries) entry hentry hmistyped
  · rintro ⟨htyped, fields, rfl, h⟩
    refine ⟨fields, rfl, { h with abilities := abilitiesSay_documented_iff.2 ⟨?_, h.abilities⟩ }⟩
    intro entries hentries entry hentry hmistyped
    exact htyped ⟨entries, field_eq_list_iff.2 hentries, entry, hentry, hmistyped⟩

/-- A record is accepted for the blueprint that it is documented to stand for, and refused if there is
none. -/
structure AcceptedAsDocumented (v : Value) : Prop where
  accepted : ∀ b, ofValue v = .ok b ↔ Says DocumentedParams v b
  refused : (∀ b, ¬ Says DocumentedParams v b) →
    ∃ fault, ofValue v = .error fault ∧ fault.concernsRecord = true

/-- Records are treated as documented, but for those that pass although an entry of theirs gives
parameters that are neither null nor an object.  Such parameters are read as none. -/
theorem acceptedAsDocumented_iff (v : Value) :
    (∀ b, ofValue v = .ok b ↔ Says PassingParams v b) ∧
    (∀ fault, ofValue v = .error fault → fault.concernsRecord = true) ∧
    (AcceptedAsDocumented v ↔ ¬ (Mistyped v ∧ ∃ b, Says PassingParams v b)) := by
  refine ⟨fun b => ofValue_eq_ok_iff, fun fault => concernsRecord_of_ofValue, ?_⟩
  constructor
  · rintro h ⟨hmistyped, b, hb⟩
    have hdocumented := (h.accepted b).1 (ofValue_eq_ok_iff.2 hb)
    exact (says_documented_iff.1 hdocumented).1 hmistyped
  · intro htyped
    have haccepted : ∀ b, ofValue v = .ok b ↔ Says DocumentedParams v b := by
      intro b
      rw [ofValue_eq_ok_iff, says_documented_iff]
      exact ⟨fun hb => ⟨fun hmistyped => htyped ⟨hmistyped, b, hb⟩, hb⟩, fun hb => hb.2⟩
    refine ⟨haccepted, ?_⟩
    intro hnone
    cases hread : ofValue v with
    | ok b => exact absurd ((haccepted b).1 hread) (hnone b)
    | error fault => exact ⟨fault, rfl, concernsRecord_of_ofValue hread⟩

/-- A record that gives a text in place of the parameters of an ability. -/
def careless : Value :=
  .object [("name", .str "Pawn"), ("emoji", .str "P"), ("movement", .object step),
    ("attack", .object step),
    ("abilities", .list [.object [("name", .str "King"), ("params", .str "")]])]
where
  step : Fields := [("kind", .str "square"), ("size", .int 1)]

theorem not_acceptedAsDocumented_of_careless : ¬ AcceptedAsDocumented careless := by
  intro h
  have hread : ofValue careless =
      .ok ⟨"Pawn", "P", .object careless.step, .object careless.step, [{ name := "King" }]⟩ := rfl
  have hdocumented := says_documented_iff.1 ((h.accepted _).1 hread)
  exact hdocumented.1 ⟨_, rfl, _, List.mem_singleton_self _, _, rfl, nofun, nofun⟩

end Blueprint
end Boardcraft
