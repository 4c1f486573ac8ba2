import Boardcraft.Proofs.Shape.Grammar
import Boardcraft.Proofs.Shape.Inspection

/-!
# The first flaw

An inspection lists all that is wrong with a value.  The reader stops, and builds a shape besides.
It reports the first flaw of the list and reads the values that have none: each reading of a field is
held against the flaws of that field, and readings in a row against the flaws in a row.

## Main statements

* `reports_ofValue` says so of every value;
* `reports_the_first_flaw` adds where that flaw lies and what a path has to do with it.
-/

namespace Boardcraft

namespace Shape

/-! ## Reports -/

/-- A reading reports the first of some flaws, or ends well if there is none. -/
def Reports {α : Type} (path : Path) (flaws : List Flaw) (result : Except Error α) : Prop :=
  match flaws with
  | [] => ∃ a, result = .ok a
  | first :: _ => result = .error (first.report path)

namespace Reports

variable {α β : Type} {path : Path} {flaws later : List Flaw} {m : Except Error α}

theorem ok (path : Path) (a : α) : Reports path [] (.ok a) := ⟨a, rfl⟩

theorem error (path : Path) (f : Flaw) (rest : List Flaw) :
    Reports path (f :: rest) (.error (f.report path) : Except Error α) := rfl

/-- Of two readings, one after the other, the second is heard only if the first has nothing to
report. -/
theorem bind {k : α → Except Error β} (h : Reports path flaws m)
    (hk : ∀ a, m = .ok a → Reports path later (k a)) : Reports path (flaws ++ later) (m >>= k) := by
  cases flaws with
  | nil =>
      rcases h with ⟨a, rfl⟩
      exact hk a rfl
  | cons first rest =>
      have herror : m = .error (first.report path) := h
      rw [herror]
      exact error path first _

theorem map (h : Reports path flaws m) (f : α → β) :
    Reports path flaws (m >>= fun a => pure (f a)) := by
  have hread := h.bind fun a _ => ok path (f a)
  rw [List.append_nil] at hread
  exact hread

theorem map_under {step : PathStep} {place : Path}
    (hplace : ∀ f : Flaw, (f.under step).report path = f.report place) (h : Reports place flaws m) :
    Reports path (flaws.map (.under step)) m := by
  cases flaws with
  | nil => exact h
  | cons first rest => exact Eq.trans h (congrArg _ (hplace first).symm)

theorem under_field {name : String} (h : Reports (path.field name) flaws m) :
    Reports path (flaws.map (.under (.field name))) m :=
  h.map_under (Flaw.report_under_field path name)

theorem under_item {index : Nat} (h : Reports (path.item index) flaws m) :
    Reports path (flaws.map (.under (.item index))) m :=
  h.map_under (Flaw.report_under_item path index)

end Reports

/-! ## The reader stops at the first flaw -/

theorem reports_bounded (path : Path) (name : String) (least n : Int) :
    Reports path ((belowFault? (some least) n).map fun fault => (⟨[.field name], fault⟩ : Flaw)).toList
      (if n < least then .error ⟨path.field name, .belowMinimum least n⟩ else .ok n) := by
  unfold belowFault?
  rw [Option.bind_some]
  split
  · exact .error path ⟨[.field name], _⟩ []
  · exact .ok path n

theorem reports_readInt (path : Path) (fields : Fields) (name : String) (minimum : Option Int) :
    Reports path (wholeFlaws fields name minimum) (readInt path fields name minimum) := by
  unfold wholeFlaws readInt
  generalize (fields.get? name).getD .null = v
  cases v with
  | int n =>
      cases minimum with
      | none => exact .ok path n
      | some least => exact reports_bounded path name least n
  | float x =>
      dsimp only [wholeFault?]
      cases x.whole? with
      | none => exact .error path ⟨[.field name], _⟩ []
      | some n =>
          cases minimum with
          | none => exact .ok path n
          | some least => exact reports_bounded path name least n
  | _ => exact .error path ⟨[.field name], _⟩ []

theorem whole?_of_readInt {path : Path} {fields : Fields} {name : String} {minimum : Option Int}
    {n : Int} (h : readInt path fields name minimum = .ok n) :
    (fields.get? name).bind whole? = some n := by
  rcases (readInt_eq_ok_iff.1 h).1 with ⟨v, hv, hspells⟩
  rw [hv, Option.bind_some]
  cases hspells with
  | int n => rfl
  | float equal => exact spellsInt_float_iff.1 (.float equal)

theorem reports_readDirectionsFrom (path : Path) (index : Nat) (vs : List Value) :
    Reports path (directionFlaws index vs) (readDirectionsFrom path index vs) := by
  induction vs generalizing index with
  | nil => exact .ok path []
  | cons v rest ih =>
      rw [directionFlaws, readDirectionsFrom]
      cases direction? v with
      | none => exact .error path ⟨[.item index], _⟩ _
      | some d => exact (ih (index + 1)).map fun ds => d :: ds

theorem reports_readDirections (path : Path) (fields : Fields) :
    Reports path (Demand.directions.flaws fields "dirs") (readDirections path fields) := by
  unfold Demand.flaws readDirections
  dsimp only
  generalize fields.get? "dirs" = given
  cases given with
  | none => exact .error path ⟨[.field "dirs"], _⟩ []
  | some v =>
      cases v with
      | list items =>
          cases items with
          | nil => exact .error path ⟨[.field "dirs"], _⟩ []
          | cons v rest =>
              have hitems := reports_readDirectionsFrom (path.field "dirs") 0 (v :: rest)
              exact hitems.under_field.map distinct
      | _ => exact .error path ⟨[.field "dirs"], _⟩ []

theorem reports_offset (path : Path) (fields : Fields) :
    Reports path (Demand.offset.flaws fields "delta")
      (match fields.get? "delta" with
        | some (.object delta) => do
            let x ← readInt (path.field "delta") delta "x"
            let y ← readInt (path.field "delta") delta "y"
            return point ⟨x, y⟩
        | _ => throw ⟨path.field "delta", .notADelta⟩) := by
  unfold Demand.flaws
  dsimp only
  generalize fields.get? "delta" = given
  cases given with
  | none => exact .error path ⟨[.field "delta"], _⟩ []
  | some v =>
      cases v with
      | object delta =>
          have hx := reports_readInt (path.field "delta") delta "x" none
          have hy := reports_readInt (path.field "delta") delta "y" none
          have hboth := hx.bind fun x _ => hy.map fun y => point ⟨x, y⟩
          exact hboth.under_field
      | _ => exact .error path ⟨[.field "delta"], _⟩ []

theorem reports_ordered {path : Path} {fields : Fields} {nearest farthest : Int}
    (hnearest : readInt path fields "min" (some 1) = .ok nearest)
    (hfarthest : readInt path fields "max" (some 1) = .ok farthest) (s : Shape) :
    Reports path ((Demand.notBelow "min").flaws fields "max")
      (if farthest < nearest then .error ⟨path.field "max", .belowNearest nearest farthest⟩
        else .ok s) := by
  unfold Demand.flaws
  dsimp only
  rw [whole?_of_readInt hnearest, whole?_of_readInt hfarthest]
  dsimp only
  split
  · exact .error path ⟨[.field "max"], _⟩ []
  · exact .ok path s

theorem reports_readPrimitive? {path : Path} {fields : Fields} {kind : Text}
    {result : Except Error Shape} (h : readPrimitive? path fields kind = some result) :
    ∃ demands, demands? kind = some demands ∧ listed fields kind = [] ∧
      Reports path (demandFlaws fields demands) result := by
  unfold readPrimitive? at h
  split at h
  · next hkind =>
      cases h
      refine ⟨_, by simp only [demands?, hkind]; rfl, by simp [listed, hkind], ?_⟩
      exact (reports_readInt path fields "radius" (some 0)).bind fun radius _ => .ok path _
  · next hkind =>
      cases h
      refine ⟨_, by simp only [demands?, hkind]; rfl, by simp [listed, hkind], ?_⟩
      exact (reports_readInt path fields "size" (some 0)).bind fun size _ => .ok path _
  · next hkind =>
      cases h
      refine ⟨_, by simp only [demands?, hkind]; rfl, by simp [listed, hkind], ?_⟩
      rw [demandFlaws_cons, demandFlaws_cons, demandFlaws_cons, demandFlaws_singleton]
      -- the last demand is of two numbers, so that the readings of both are kept
      refine (reports_readDirections path fields).bind fun directions _ => ?_
      refine (reports_readInt path fields "min" (some 1)).bind fun nearest hnearest => ?_
      refine (reports_readInt path fields "max" (some 1)).bind fun farthest hfarthest => ?_
      exact reports_ordered hnearest hfarthest (ray directions nearest.toNat farthest.toNat)
  · next hkind =>
      cases h
      refine ⟨_, by simp only [demands?, hkind]; rfl, by simp [listed, hkind], ?_⟩
      rw [demandFlaws_singleton]
      exact reports_offset path fields
  · next hkind =>
      cases h
      refine ⟨_, by simp only [demands?, hkind]; rfl, by simp [listed, hkind], ?_⟩
      rw [demandFlaws_cons, Demand.flaws]
      dsimp only
      cases direction? ((fields.get? "dir").getD .null) with
      | none => exact .error path ⟨[.field "dir"], _⟩ _
      | some d =>
          exact (reports_readInt path fields "length" (some 1)).bind fun length _ => .ok path _
  · cases h

theorem listed_of_parts {fields : Fields} {kind : Text} {word : String} {parts : List Value}
    (hkind : kind.string? = some word) (hword : word ∈ ["union", "intersect", "subtract", "reflect"])
    (hparts : fields.get? "shapes" = some (.list parts)) : listed fields kind = parts := by
  simp only [List.mem_cons, List.not_mem_nil, or_false] at hword
  unfold listed
  rw [hkind, hparts]
  rcases hword with rfl | rfl | rfl | rfl <;> rfl

/-- A combination demands a list of parts, after whatever else it demands. -/
theorem reports_readJoin? {path : Path} {fields : Fields} {kind : Text} {result : Except Error Join}
    (h : readJoin? path fields kind = some result) :
    ∃ first minimum, demands? kind = some (first ++ [("shapes", .parts kind minimum)]) ∧
      Reports path (demandFlaws fields first) result ∧
      (∀ join, result = .ok join → join.minimum = minimum) ∧
      ∀ parts, fields.get? "shapes" = some (.list parts) → listed fields kind = parts := by
  unfold readJoin? at h
  split at h
  iterate 3
    next hkind =>
      cases h
      refine ⟨[], _, by simp only [demands?, hkind]; rfl, .ok path _, ?_, ?_⟩
      · intro join hjoin
        cases hjoin
        rfl
      · exact fun parts => listed_of_parts hkind (by simp)
  · next hkind =>
      refine ⟨[("axis", .axis)], 1, by simp only [demands?, hkind]; rfl, ?_, ?_, ?_⟩
      · rw [demandFlaws_singleton, Demand.flaws]
        dsimp only at h ⊢
        cases haxis : axis? ((fields.get? "axis").getD .null) with
        | none =>
            rw [haxis] at h
            cases h
            exact .error path ⟨[.field "axis"], _⟩ []
        | some axis =>
            rw [haxis] at h
            cases h
            exact .ok path _
      · intro join hjoin
        subst hjoin
        dsimp only at h
        split at h
        · cases h
          rfl
        · cases h
      · exact fun parts => listed_of_parts hkind (by simp)
  · cases h

/-- A kind that is neither read as a pattern nor as a combination is unknown. -/
theorem demands?_of_unread {path : Path} {fields : Fields} {kind : Text}
    (hprimitive : readPrimitive? path fields kind = none) (hjoin : readJoin? path fields kind = none) :
    demands? kind = none := by
  unfold readPrimitive? at hprimitive
  split at hprimitive
  iterate 5 cases hprimitive
  unfold readJoin? at hjoin
  split at hjoin
  iterate 3 cases hjoin
  · dsimp only at hjoin
    split at hjoin <;> cases hjoin
  · unfold demands?
    split <;> first | contradiction | rfl

/-- What remains to be read of a combination when its other fields have been. -/
def readParts (path : Path) (fields : Fields) (kind : Text) (join : Join) : Except Error Shape :=
  match fields.get? "shapes" with
  | some (.list parts) =>
      if parts.length < join.minimum then
        .error ⟨path.field "shapes", .tooFewParts kind join.minimum⟩
      else do
        let shapes ← ofValues (path.field "shapes") 0 parts
        return join.assemble shapes
  | _ => .error ⟨path.field "shapes", .tooFewParts kind join.minimum⟩

theorem ofValue_of_readJoin? {path : Path} {fields : Fields} {kind : Text}
    {result : Except Error Join} (hkind : fields.get? "kind" = some (.str kind))
    (hprimitive : readPrimitive? path fields kind = none)
    (hjoin : readJoin? path fields kind = some result) :
    ofValue path (.object fields) = result >>= readParts path fields kind := by
  rw [ofValue]
  simp only [hkind, hprimitive, hjoin]
  cases result with
  | error e => rfl
  | ok join =>
      dsimp only [bind, Except.bind, readParts]
      cases hparts : fields.get? "shapes" with
      | none => rfl
      | some v => cases v <;> rfl

theorem reports_readParts {path : Path} {fields : Fields} {kind : Text} {join : Join}
    (hlisted : ∀ parts, fields.get? "shapes" = some (.list parts) → listed fields kind = parts)
    (hparts : ∀ parts, fields.get? "shapes" = some (.list parts) →
      Reports (path.field "shapes") (partFlaws 0 parts) (ofValues (path.field "shapes") 0 parts)) :
    Reports path
      ((Demand.parts kind join.minimum).flaws fields "shapes" ++
        (partFlaws 0 (listed fields kind)).map (.under (.field "shapes")))
      (readParts path fields kind join) := by
  unfold Demand.flaws readParts
  dsimp only
  cases hfield : fields.get? "shapes" with
  | none => exact .error path ⟨[.field "shapes"], _⟩ _
  | some v =>
      cases v with
      | list parts =>
          rw [hlisted parts hfield]
          dsimp only
          by_cases hfew : parts.length < join.minimum
          · rw [if_pos hfew, if_pos hfew]
            exact .error path ⟨[.field "shapes"], _⟩ _
          · rw [if_neg hfew, if_neg hfew]
            exact (hparts parts hfield).under_field.map join.assemble
      | _ => exact .error path ⟨[.field "shapes"], _⟩ _

mutual

/-- The reader reports the first flaw of a value and reads the values that have none. -/
theorem reports_ofValue (path : Path) (v : Value) : Reports path (flaws v) (ofValue path v) := by
  cases v with
  | object fields =>
      -- the parts are smaller than the value, whatever its kind
      have hparts : ∀ parts, Fields.get? fields "shapes" = some (.list parts) →
          Reports (path.field "shapes") (partFlaws 0 parts)
            (ofValues (path.field "shapes") 0 parts) := by
        intro parts hfield
        have hsmaller : sizeOf parts < 1 + sizeOf fields := by
          have hlist := Fields.sizeOf_get? hfield
          rw [Value.list.sizeOf_spec] at hlist
          omega
        exact reports_ofValues (path.field "shapes") 0 parts
      rw [flaws, ownFlaws, partsOf]
      split
      · next kind hkind =>
          cases hprimitive : readPrimitive? path fields kind with
          | some result =>
              rcases reports_readPrimitive? hprimitive with ⟨demands, hdemands, hlisted, hreports⟩
              rw [hdemands, hlisted, partFlaws, List.map_nil, List.append_nil, ofValue]
              simpa only [hkind, hprimitive] using hreports
          | none =>
              cases hjoin : readJoin? path fields kind with
              | none =>
                  rw [demands?_of_unread hprimitive hjoin, ofValue]
                  simp only [hkind, hprimitive, hjoin]
                  exact .error path ⟨[.field "kind"], _⟩ _
              | some result =>
                  rcases reports_readJoin? hjoin with
                    ⟨first, minimum, hdemands, hreports, hminimum, hlisted⟩
                  rw [hdemands, ofValue_of_readJoin? hkind hprimitive hjoin]
                  dsimp only
                  rw [demandFlaws_append,
                    demandFlaws_singleton, List.append_assoc]
                  refine hreports.bind fun join hresult => ?_
                  rw [← hminimum join hresult]
                  exact reports_readParts hlisted hparts
      · next hnone =>
          rw [ofValue]
          split
          · next kind hkind => exact absurd hkind (hnone kind)
          · exact .error path ⟨[.field "kind"], _⟩ _
  | _ =>
      rw [flaws, ofValue, ← Flaw.report_here]
      · exact .error path ⟨[], _⟩ _
      · simp
termination_by (sizeOf v, 1)

theorem reports_ofValues (path : Path) (index : Nat) (vs : List Value) :
    Reports path (partFlaws index vs) (ofValues path index vs) := by
  rw [partFlaws.eq_def, ofValues.eq_def]
  cases vs with
  | nil => exact .ok path []
  | cons v rest =>
      exact (reports_ofValue (path.item index) v).under_item.bind fun s _ =>
        (reports_ofValues path (index + 1) rest).map fun ss => s :: ss
termination_by (sizeOf vs, 0)

end

/-! ## Main theorem -/

theorem ofValue_eq_error_iff {path : Path} {v : Value} {e : Error} :
    ofValue path v = .error e ↔ ∃ first rest, flaws v = first :: rest ∧ e = first.report path := by
  have hreports := reports_ofValue path v
  cases hflaws : flaws v with
  | nil =>
      rw [hflaws] at hreports
      rcases hreports with ⟨s, hs⟩
      simp [hs]
  | cons first rest =>
      rw [hflaws] at hreports
      have herror : ofValue path v = .error (first.report path) := hreports
      rw [herror]
      simp [eq_comm]

theorem exists_ofValue_eq_ok_iff {path : Path} {v : Value} :
    (∃ s, ofValue path v = .ok s) ↔ flaws v = [] := by
  have hreports := reports_ofValue path v
  cases hflaws : flaws v with
  | nil =>
      rw [hflaws] at hreports
      rcases hreports with ⟨s, hs⟩
      exact ⟨fun _ => rfl, fun _ => ⟨s, hs⟩⟩
  | cons first rest =>
      rw [hflaws] at hreports
      have herror : ofValue path v = .error (first.report path) := hreports
      simp [herror]

theorem ofValue_eq_error_extend_iff {path : Path} {v : Value} {steps : List PathStep}
    {fault : Fault} :
    ofValue path v = .error ⟨path.extend steps, fault⟩ ↔ (flaws v).head? = some ⟨steps, fault⟩ := by
  rw [ofValue_eq_error_iff, List.head?_eq_some_iff]
  constructor
  · rintro ⟨⟨steps', fault'⟩, rest, hflaws, heq⟩
    simp only [Flaw.report, Path.extend, Error.mk.injEq, Path.mk.injEq, List.append_cancel_left_eq,
      true_and] at heq
    rcases heq with ⟨rfl, rfl⟩
    exact ⟨rest, hflaws⟩
  · rintro ⟨rest, hflaws⟩
    exact ⟨_, rest, hflaws, rfl⟩

theorem message_report (path : Path) (f : Flaw) :
    (f.report path).message =
      path.text ++ String.join (f.steps.map PathStep.text) ++ ": " ++ f.fault.message := by
  apply Text.ext
  simp only [Error.message, Flaw.report, Path.extend, Path.text, List.map_append,
    String.join_append, Text.ofString_append, Text.points_append, List.append_assoc]

/-- A value without flaws of its own has those of its parts. -/
theorem ofValue_eq_error_iff_part {path : Path} {fields : Fields}
    (hown : ownFlaws (.object fields) = []) {e : Error} :
    ofValue path (.object fields) = .error e ↔
      ∃ i part, (partsOf (.object fields))[i]? = some part ∧
        (∀ j < i, ∀ earlier, (partsOf (.object fields))[j]? = some earlier →
          ∃ s, ofValue ((path.field "shapes").item j) earlier = .ok s) ∧
        ofValue ((path.field "shapes").item i) part = .error e := by
  have hflaws : flaws (.object fields) =
      (partFlaws 0 (partsOf (.object fields))).map (.under (.field "shapes")) := by
    rw [flaws, hown, List.nil_append]
  constructor
  · intro h
    rcases ofValue_eq_error_iff.1 h with ⟨f, rest, hf, rfl⟩
    rw [hflaws] at hf
    rcases List.map_eq_cons_iff.1 hf with ⟨g, later, hparts, rfl, -⟩
    rcases partFlaws_eq_cons hparts with ⟨i, part, first, others, hpart, hearlier, hfirst, rfl⟩
    refine ⟨i, part, hpart, ?_, ?_⟩
    · intro j hj earlier hget
      exact exists_ofValue_eq_ok_iff.2 (hearlier j hj earlier hget)
    · rw [Flaw.report_under_field, Flaw.report_under_item, Nat.zero_add]
      exact ofValue_eq_error_iff.2 ⟨first, others, hfirst, rfl⟩
  · rintro ⟨i, part, hpart, hearlier, hpartError⟩
    rcases ofValue_eq_error_iff.1 hpartError with ⟨first, others, hfirst, rfl⟩
    have hparts : ∃ later, partFlaws 0 (partsOf (.object fields)) =
        first.under (.item (0 + i)) :: later :=
      partFlaws_of_first hpart (fun j hj earlier hget =>
        exists_ofValue_eq_ok_iff.1 (hearlier j hj earlier hget)) hfirst
    rcases hparts with ⟨later, hparts⟩
    rw [Nat.zero_add] at hparts
    refine ofValue_eq_error_iff.2 ⟨_, _, by rw [hflaws, hparts, List.map_cons], ?_⟩
    rw [Flaw.report_under_field, Flaw.report_under_item]

/-- For every value: the reader accepts it when nothing is wrong with it, and otherwise reports the
first thing that is.  If a combination is right in itself, that is the error of its first part that
is refused.  The error lies at a node of the value or at one of its fields, and only the root of its
path is owed to where the reading began. -/
theorem reports_the_first_flaw :
    (∀ path v,
      ((∃ s, ofValue path v = .ok s) ↔ flaws v = []) ∧
      ∀ e, ofValue path v = .error e ↔
        ∃ first rest, flaws v = first :: rest ∧ e = first.report path) ∧
    (∀ path fields, ownFlaws (.object fields) = [] → ∀ e,
      ofValue path (.object fields) = .error e ↔
        ∃ i part, (partsOf (.object fields))[i]? = some part ∧
          (∀ j < i, ∀ earlier, (partsOf (.object fields))[j]? = some earlier →
            ∃ s, ofValue ((path.field "shapes").item j) earlier = .ok s) ∧
          ofValue ((path.field "shapes").item i) part = .error e) ∧
    (∀ path v e, ofValue path v = .error e →
      ∃ indices node own others, follow? v (partSteps indices) = some node ∧
        ownFlaws node = own :: others ∧
        (∃ holder, follow? node own.steps.dropLast = some holder) ∧
        e = ⟨path.extend (partSteps indices ++ own.steps), own.fault⟩ ∧
        e.message = path.text ++ String.join ((partSteps indices ++ own.steps).map PathStep.text) ++
          ": " ++ own.fault.message) ∧
    ∀ path path' v,
      (∀ s, ofValue path v = .ok s ↔ ofValue path' v = .ok s) ∧
      ∀ steps fault, ofValue path v = .error ⟨path.extend steps, fault⟩ ↔
        ofValue path' v = .error ⟨path'.extend steps, fault⟩ := by
  refine ⟨?_, ?_, ?_, ?_⟩
  · exact fun path v => ⟨exists_ofValue_eq_ok_iff, fun e => ofValue_eq_error_iff⟩
  · exact fun path fields hown e => ofValue_eq_error_iff_part hown
  · intro path v e he
    rcases ofValue_eq_error_iff.1 he with ⟨f, rest, hf, rfl⟩
    rcases flaws_eq_cons hf with ⟨indices, node, own, others, hnode, hown, rfl⟩
    have hholder := holder_of_mem_ownFlaws (v := node) (hown ▸ List.mem_cons_self)
    exact ⟨indices, node, own, others, hnode, hown, hholder, rfl, message_report path _⟩
  · intro path path' v
    refine ⟨fun s => ofValue_eq_ok_iff_spells.trans ofValue_eq_ok_iff_spells.symm, ?_⟩
    intro steps fault
    exact ofValue_eq_error_extend_iff.trans ofValue_eq_error_extend_iff.symm

/-- Three of the four parts are wrong, the first of them in three ways. -/
theorem names_the_second_direction :
    let broken : Value := .object [("kind", .str "union"), ("shapes", .list [
      .object [("kind", .str "circle"), ("radius", .int 1)],
      .object [("kind", .str "ray"), ("dirs", .list [.str "N", .str "Q"]), ("min", .int 0)],
      .object [("kind", .str "disc")],
      .int 7])]
    ofValue .shape broken =
        .error ⟨⟨"shape", [.field "shapes", .item 1, .field "dirs", .item 1]⟩,
          .notADirection (.str "Q")⟩ ∧
      ofValue ⟨"pawn", [.field "shape"]⟩ broken =
        .error ⟨⟨"pawn", [.field "shape", .field "shapes", .item 1, .field "dirs", .item 1]⟩,
          .notADirection (.str "Q")⟩ := by
  intro broken
  have hread : ofValue .shape broken =
      .error ⟨Path.shape.extend [.field "shapes", .item 1, .field "dirs", .item 1],
        .notADirection (.str "Q")⟩ := by
    simp [broken, ofValue, ofValues, Fields.get?, Table.lookupIn, readPrimitive?, readJoin?,
      Text.ofString_inj]
    rfl
  exact ⟨hread, ((reports_the_first_flaw.2.2.2 _ _ _).2 _ _).1 hread⟩

end Shape

end Boardcraft
