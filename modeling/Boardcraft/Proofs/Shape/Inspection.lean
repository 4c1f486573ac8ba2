import Boardcraft.Shape.Reader

/-!
# What is wrong with a shape

An inspection of a value goes through all that the notation demands of a shape and lists every flaw:
first those of the value's own fields, in the order in which the demands of its kind are written
down, then those of its parts from left to right.  Nothing stops it.

Each flaw lies at some steps from the value.  These lead from part to part to a node, and from there
to one of its fields or into what such a field holds.

## Main statements

* `flaws_eq_cons` finds the node that has the first flaw of a value;
* `holder_of_mem_ownFlaws` says that the steps to a flaw lead through what is there.
-/

namespace Boardcraft

namespace Shape

/-! ## Flaws -/

/-- Something wrong at a place within a value. -/
structure Flaw where
  steps : List PathStep
  fault : Fault

def Path.extend (p : Path) (steps : List PathStep) : Path := ⟨p.root, p.steps ++ steps⟩

namespace Flaw

/-- A flaw of a value as one of what the value is a part of. -/
def under (step : PathStep) (f : Flaw) : Flaw := ⟨step :: f.steps, f.fault⟩

def report (path : Path) (f : Flaw) : Error := ⟨path.extend f.steps, f.fault⟩

theorem report_here (path : Path) (fault : Fault) :
    (⟨[], fault⟩ : Flaw).report path = ⟨path, fault⟩ := by
  simp [report, Path.extend]

theorem report_under_field (path : Path) (name : String) (f : Flaw) :
    (f.under (.field name)).report path = f.report (path.field name) := by
  simp [report, under, Path.extend, Path.field]

theorem report_under_item (path : Path) (index : Nat) (f : Flaw) :
    (f.under (.item index)).report path = f.report (path.item index) := by
  simp [report, under, Path.extend, Path.item]

end Flaw

/-! ## Demands -/

inductive Demand where
  /-- A whole number that is not below a minimum where one is given. -/
  | whole (minimum : Option Int)
  /-- A number that is not below that of another field. -/
  | notBelow (other : String)
  /-- A list of directions that is not empty. -/
  | directions
  | direction
  | axis
  /-- An object of two whole numbers. -/
  | offset
  /-- A list of so many parts at least. -/
  | parts (kind : Text) (minimum : Nat)

/-- The fields that a kind of shape has and what is demanded of them, in their order.  The largest
distance of a ray is held against the smallest one when both have been looked at. -/
def demands? (kind : Text) : Option (List (String × Demand)) :=
  match kind.string? with
  | some "circle" => some [("radius", .whole (some 0))]
  | some "square" => some [("size", .whole (some 0))]
  | some "ray" =>
      some [("dirs", .directions), ("min", .whole (some 1)), ("max", .whole (some 1)),
        ("max", .notBelow "min")]
  | some "point" => some [("delta", .offset)]
  | some "cone" => some [("dir", .direction), ("length", .whole (some 1))]
  | some "union" => some [("shapes", .parts kind 1)]
  | some "intersect" => some [("shapes", .parts kind 1)]
  | some "subtract" => some [("shapes", .parts kind 2)]
  | some "reflect" => some [("axis", .axis), ("shapes", .parts kind 1)]
  | _ => none

def whole? : Value → Option Int
  | .int n => some n
  | .float x => x.whole?
  | _ => none

def belowFault? (minimum : Option Int) (n : Int) : Option Fault :=
  minimum.bind fun least => if n < least then some (.belowMinimum least n) else none

def wholeFault? (minimum : Option Int) : Value → Option Fault
  | .int n => belowFault? minimum n
  | .float x =>
      match x.whole? with
      | some n => belowFault? minimum n
      | none => some (.notWhole x)
  | given => some (.notANumber given)

/-- The flaws of the items of a list of directions, the first of which has the given index. -/
def directionFlaws (index : Nat) : List Value → List Flaw
  | [] => []
  | v :: rest =>
      (if (direction? v).isNone then [⟨[.item index], .notADirection v⟩] else []) ++
        directionFlaws (index + 1) rest

def wholeFlaws (fields : Fields) (name : String) (minimum : Option Int) : List Flaw :=
  ((wholeFault? minimum ((fields.get? name).getD .null)).map fun fault =>
    ⟨[.field name], fault⟩).toList

def Demand.flaws (fields : Fields) (name : String) : Demand → List Flaw
  | whole minimum => wholeFlaws fields name minimum
  | notBelow other =>
      match (fields.get? other).bind whole?, (fields.get? name).bind whole? with
      | some nearest, some farthest =>
          if farthest < nearest then [⟨[.field name], .belowNearest nearest farthest⟩] else []
      | _, _ => []
  | directions =>
      match fields.get? name with
      | some (.list (v :: rest)) => (directionFlaws 0 (v :: rest)).map (.under (.field name))
      | _ => [⟨[.field name], .noDirections⟩]
  | direction =>
      let given := (fields.get? name).getD .null
      if (direction? given).isNone then [⟨[.field name], .notADirection given⟩] else []
  | axis =>
      let given := (fields.get? name).getD .null
      if (axis? given).isNone then [⟨[.field name], .notAnAxis given⟩] else []
  | offset =>
      match fields.get? name with
      | some (.object delta) =>
          (wholeFlaws delta "x" none ++ wholeFlaws delta "y" none).map (.under (.field name))
      | _ => [⟨[.field name], .notADelta⟩]
  | parts kind minimum =>
      match fields.get? name with
      | some (.list given) =>
          if given.length < minimum then [⟨[.field name], .tooFewParts kind minimum⟩] else []
      | _ => [⟨[.field name], .tooFewParts kind minimum⟩]

def demandFlaws (fields : Fields) (demands : List (String × Demand)) : List Flaw :=
  demands.flatMap fun d => d.2.flaws fields d.1

theorem demandFlaws_cons (fields : Fields) (name : String) (d : Demand)
    (rest : List (String × Demand)) :
    demandFlaws fields ((name, d) :: rest) = d.flaws fields name ++ demandFlaws fields rest := rfl

theorem demandFlaws_singleton (fields : Fields) (name : String) (d : Demand) :
    demandFlaws fields [(name, d)] = d.flaws fields name := List.append_nil _

theorem demandFlaws_append (fields : Fields) (first later : List (String × Demand)) :
    demandFlaws fields (first ++ later) = demandFlaws fields first ++ demandFlaws fields later :=
  List.flatMap_append

/-! ## Inspection -/

/-- The flaws that a value has apart from those of its parts. -/
def ownFlaws : Value → List Flaw
  | .object fields =>
      match Fields.get? fields "kind" with
      | some (.str kind) =>
          match demands? kind with
          | some demands => demandFlaws fields demands
          | none => [⟨[.field "kind"], .unknownKind kind⟩]
      | _ => [⟨[.field "kind"], .missingKind⟩]
  | given => [⟨[], .notAnObject given⟩]

def listed (fields : Fields) (kind : Text) : List Value :=
  match kind.string?, fields.get? "shapes" with
  | some "union", some (.list parts) | some "intersect", some (.list parts)
  | some "subtract", some (.list parts) | some "reflect", some (.list parts) => parts
  | _, _ => []

def partsOf : Value → List Value
  | .object fields =>
      match Fields.get? fields "kind" with
      | some (.str kind) => listed fields kind
      | _ => []
  | _ => []

theorem sizeOf_partsOf_le (v : Value) : sizeOf (partsOf v) ≤ sizeOf v := by
  have hlisted : ∀ (fields : Fields) (kind : Text),
      sizeOf (listed fields kind) ≤ sizeOf (Value.object fields) := by
    intro fields kind
    have hshapes : ∀ parts, fields.get? "shapes" = some (.list parts) →
        sizeOf parts ≤ sizeOf (Value.object fields) := by
      intro parts hparts
      have hsmaller := Fields.sizeOf_get? hparts
      rw [Value.list.sizeOf_spec] at hsmaller
      rw [Value.object.sizeOf_spec]
      omega
    unfold listed
    split
    iterate 4 next hparts => exact hshapes _ hparts
    rw [List.nil.sizeOf_spec, Value.object.sizeOf_spec]
    omega
  unfold partsOf
  split
  · split
    · exact hlisted _ _
    · rw [List.nil.sizeOf_spec, Value.object.sizeOf_spec]
      omega
  · cases v <;> simp

mutual

/-- All flaws of a value: its own and then those of its parts, each part as a whole before the
next. -/
def flaws (v : Value) : List Flaw :=
  ownFlaws v ++ (partFlaws 0 (partsOf v)).map (.under (.field "shapes"))
termination_by (sizeOf v, 1)
decreasing_by
  have hle := sizeOf_partsOf_le v
  simp only [Prod.lex_def]
  omega

def partFlaws (index : Nat) (vs : List Value) : List Flaw :=
  match vs with
  | [] => []
  | v :: rest => (flaws v).map (.under (.item index)) ++ partFlaws (index + 1) rest
termination_by (sizeOf vs, 0)

end

/-! ## Where the first flaw lies -/

/-- The value that steps lead to from a value, if they lead anywhere. -/
def follow? : Value → List PathStep → Option Value
  | v, [] => some v
  | .object fields, .field name :: rest => (Fields.get? fields name).bind (follow? · rest)
  | .list items, .item index :: rest => items[index]?.bind (follow? · rest)
  | _, _ :: _ => none

theorem follow?_nil (v : Value) : follow? v [] = some v := by rw [follow?]

/-- The steps that lead from part to part. -/
def partSteps (indices : List Nat) : List PathStep :=
  indices.flatMap fun i => [.field "shapes", .item i]

theorem shapes_of_mem_listed {fields : Fields} {kind : Text} {part : Value}
    (h : part ∈ listed fields kind) :
    fields.get? "shapes" = some (.list (listed fields kind)) := by
  unfold listed at h ⊢
  split at h
  iterate 4 next hparts => rw [hparts]
  cases h

/-- The parts of a value are the items of one of its fields. -/
theorem follow?_part {v part : Value} {i : Nat} (h : (partsOf v)[i]? = some part)
    (steps : List PathStep) :
    follow? v (.field "shapes" :: .item i :: steps) = follow? part steps := by
  unfold partsOf at h
  split at h
  · split at h
    · have hlisted := shapes_of_mem_listed (List.mem_of_getElem? h)
      rw [follow?, hlisted, Option.bind_some, follow?, h, Option.bind_some]
    · cases h
  · cases h

theorem sizeOf_lt_of_mem_partsOf {v part : Value} (h : part ∈ partsOf v) : sizeOf part < sizeOf v :=
  Nat.lt_of_lt_of_le (List.sizeOf_lt_of_mem h) (sizeOf_partsOf_le v)

theorem partFlaws_eq_cons {index : Nat} {vs : List Value} {f : Flaw} {rest : List Flaw}
    (h : partFlaws index vs = f :: rest) :
    ∃ i part first others, vs[i]? = some part ∧ (∀ j < i, ∀ earlier, vs[j]? = some earlier →
      flaws earlier = []) ∧ flaws part = first :: others ∧ f = first.under (.item (index + i)) := by
  induction vs generalizing index with
  | nil =>
      rw [partFlaws] at h
      cases h
  | cons v vs ih =>
      rw [partFlaws] at h
      cases hv : flaws v with
      | cons first others =>
          rw [hv] at h
          cases h
          exact ⟨0, v, first, others, rfl, fun j hj => absurd hj (Nat.not_lt_zero j), hv, rfl⟩
      | nil =>
          rw [hv] at h
          rcases ih h with ⟨i, part, first, others, hpart, hearlier, hfirst, hf⟩
          refine ⟨i + 1, part, first, others, hpart, ?_, hfirst, ?_⟩
          · intro j hj earlier hj'
            cases j with
            | zero =>
                cases hj'
                exact hv
            | succ j => exact hearlier j (Nat.lt_of_succ_lt_succ hj) earlier hj'
          · rw [hf, Nat.add_assoc, Nat.add_comm 1 i]

theorem partFlaws_of_first {index i : Nat} {vs : List Value} {part : Value} {first : Flaw}
    {others : List Flaw} (hpart : vs[i]? = some part)
    (hearlier : ∀ j < i, ∀ earlier, vs[j]? = some earlier → flaws earlier = [])
    (hfirst : flaws part = first :: others) :
    ∃ later, partFlaws index vs = first.under (.item (index + i)) :: later := by
  induction vs generalizing index i with
  | nil => cases hpart
  | cons v vs ih =>
      rw [partFlaws]
      cases i with
      | zero =>
          cases hpart
          rw [hfirst]
          exact ⟨_, rfl⟩
      | succ i =>
          rw [hearlier 0 i.succ_pos v rfl, List.map_nil, List.nil_append]
          have hlater : ∃ later, partFlaws (index + 1) vs =
              first.under (.item (index + 1 + i)) :: later :=
            ih hpart fun j hj earlier hget => hearlier (j + 1) (Nat.succ_lt_succ hj) earlier hget
          rwa [Nat.add_assoc, Nat.add_comm 1 i] at hlater

/-- The first flaw of a value is the first one that a node has of its own. -/
theorem flaws_eq_cons {v : Value} {f : Flaw} {rest : List Flaw} (h : flaws v = f :: rest) :
    ∃ indices node own others, follow? v (partSteps indices) = some node ∧
      ownFlaws node = own :: others ∧ f = ⟨partSteps indices ++ own.steps, own.fault⟩ := by
  rw [flaws] at h
  cases hown : ownFlaws v with
  | cons own others =>
      rw [hown, List.cons_append] at h
      obtain ⟨rfl, -⟩ := List.cons.inj h
      exact ⟨[], v, own, others, rfl, hown, rfl⟩
  | nil =>
      rw [hown, List.nil_append] at h
      rcases List.map_eq_cons_iff.1 h with ⟨g, later, hparts, rfl, -⟩
      -- all flaws are those of the parts, so that the node is found in the first part that has one
      rcases partFlaws_eq_cons hparts with ⟨i, part, first, others, hpart, -, hfirst, rfl⟩
      have hsmaller := sizeOf_lt_of_mem_partsOf (List.mem_of_getElem? hpart)
      rcases flaws_eq_cons hfirst with ⟨indices, node, own, more, hnode, hown, rfl⟩
      refine ⟨i :: indices, node, own, more, ?_, hown, ?_⟩
      · exact (follow?_part hpart _).trans hnode
      · simp [Flaw.under, partSteps]
termination_by sizeOf v

theorem steps_of_mem_directionFlaws {index : Nat} {vs : List Value} {f : Flaw}
    (h : f ∈ directionFlaws index vs) : ∃ i, f.steps = [.item i] := by
  induction vs generalizing index with
  | nil => cases h
  | cons v rest ih =>
      rw [directionFlaws] at h
      rcases List.mem_append.1 h with h | h
      · split at h
        · rw [List.mem_singleton.1 h]
          exact ⟨index, rfl⟩
        · cases h
      · exact ih h

/-- What is demanded of a field is missed by the field or by what the field holds. -/
theorem steps_of_mem_flaws {fields : Fields} {name : String} {d : Demand} {f : Flaw}
    (h : f ∈ d.flaws fields name) :
    f.steps = [.field name] ∨
      ∃ v step, fields.get? name = some v ∧ f.steps = [.field name, step] := by
  have hwhole : ∀ {fields : Fields} {name : String} {minimum : Option Int} {f : Flaw},
      f ∈ wholeFlaws fields name minimum → f.steps = [.field name] := by
    intro fields name minimum f hf
    unfold wholeFlaws at hf
    rcases Option.map_eq_some_iff.1 (Option.mem_toList.1 hf) with ⟨fault, -, rfl⟩
    rfl
  cases d with
  | whole minimum => exact .inl (hwhole h)
  | directions =>
      unfold Demand.flaws at h
      dsimp only at h
      split at h
      · next v rest hdirs =>
          rcases List.mem_map.1 h with ⟨g, hg, rfl⟩
          rcases steps_of_mem_directionFlaws hg with ⟨i, hi⟩
          exact .inr ⟨_, .item i, hdirs, congrArg _ hi⟩
      · rw [List.mem_singleton.1 h]
        exact .inl rfl
  | offset =>
      unfold Demand.flaws at h
      dsimp only at h
      split at h
      · next delta hdelta =>
          rcases List.mem_map.1 h with ⟨g, hg, rfl⟩
          rcases List.mem_append.1 hg with hg | hg
          · exact .inr ⟨_, .field "x", hdelta, congrArg _ (hwhole hg)⟩
          · exact .inr ⟨_, .field "y", hdelta, congrArg _ (hwhole hg)⟩
      · rw [List.mem_singleton.1 h]
        exact .inl rfl
  | _ =>
      left
      unfold Demand.flaws at h
      grind

/-- A flaw of a value's own lies at the value, at one of its fields or in what such a field
holds. -/
theorem holder_of_mem_ownFlaws {v : Value} {own : Flaw} (h : own ∈ ownFlaws v) :
    ∃ holder, follow? v own.steps.dropLast = some holder := by
  unfold ownFlaws at h
  split at h
  · next fields =>
      split at h
      · split at h
        · rcases List.mem_flatMap.1 h with ⟨d, -, hd⟩
          rcases steps_of_mem_flaws hd with hsteps | ⟨v, step, hv, hsteps⟩
          · rw [hsteps]
            exact ⟨_, follow?_nil _⟩
          · rw [hsteps]
            refine ⟨v, ?_⟩
            simp [follow?, hv]
        · rw [List.mem_singleton.1 h]
          exact ⟨_, follow?_nil _⟩
      · rw [List.mem_singleton.1 h]
        exact ⟨_, follow?_nil _⟩
  · rw [List.mem_singleton.1 h]
    exact ⟨_, follow?_nil _⟩

end Shape

end Boardcraft
