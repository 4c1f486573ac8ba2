import Boardcraft.Proofs.Data.Reading
import Boardcraft.Shape.Reader

/-!
# What the reader lets pass

The shapes that can be read are the well-formed ones: distances do not start on the origin,
directions are named once, and no combination is empty.  The reader is taken apart here once; what
else is said about the shapes it returns is an induction on `Shape.WellFormed`.

## Main statements

* `ofValue_eq_ok_iff` says which values are read, and `wellFormed_ofValue` what that makes of its shape.
-/

namespace Boardcraft

namespace Shape

/-- A shape within the bounds of the notation. -/
inductive WellFormed : Shape → Prop
  | circle (radius : Nat) : WellFormed (circle radius)
  | square (size : Nat) : WellFormed (square size)
  | ray {directions : List Direction} {nearest farthest : Nat} (named : directions ≠ [])
      (once : directions.Nodup) (away : 1 ≤ nearest) (ordered : nearest ≤ farthest) :
      WellFormed (ray directions nearest farthest)
  | point (delta : Square) : WellFormed (point delta)
  | cone (direction : Direction) {length : Nat} (long : 1 ≤ length) :
      WellFormed (cone direction length)
  | union {parts : List Shape} (some : parts ≠ []) (each : ∀ s ∈ parts, WellFormed s) :
      WellFormed (union parts)
  | intersect {parts : List Shape} (some : parts ≠ []) (each : ∀ s ∈ parts, WellFormed s) :
      WellFormed (intersect parts)
  | subtract {base : Shape} {cutters : List Shape} (whole : WellFormed base)
      (some : cutters ≠ []) (each : ∀ s ∈ cutters, WellFormed s) :
      WellFormed (subtract base cutters)
  | reflect (axis : Axis) {parts : List Shape} (some : parts ≠ [])
      (each : ∀ s ∈ parts, WellFormed s) : WellFormed (reflect axis parts)

/-! ## Fields -/

theorem le_of_readInt {path : Path} {fields : Fields} {name : String} {least n : Int}
    (h : readInt path fields name (some least) = .ok n) : least ≤ n := by
  have hbounded : ∀ m : Int, (if m < least then
      (.error ⟨path.field name, .belowMinimum least m⟩ : Except Error Int) else .ok m) = .ok n →
      least ≤ n := by
    intro m hm
    split at hm
    · cases hm
    · next hle =>
        injection hm with hm
        rw [← hm]
        exact Int.not_lt.1 hle
  unfold readInt at h
  dsimp only at h
  split at h
  · exact hbounded _ h
  · split at h
    · exact hbounded _ h
    · cases h
  · cases h

theorem directions_of_readDirections {path : Path} {fields : Fields} {ds : List Direction}
    (h : readDirections path fields = .ok ds) : ds ≠ [] ∧ ds.Nodup := by
  unfold readDirections at h
  split at h
  · next v rest _ =>
      rcases exists_of_bind_eq_ok h with ⟨all, hall, h⟩
      cases h
      refine ⟨?_, nodup_distinct all⟩
      unfold readDirectionsFrom at hall
      split at hall
      · next d _ =>
          rcases exists_of_bind_eq_ok hall with ⟨others, _, hall⟩
          cases hall
          exact List.ne_nil_of_mem (mem_distinct.2 (List.mem_cons_self (a := d)))
      · cases hall
  · cases h

/-! ## Patterns and combinations -/

theorem wellFormed_of_readPrimitive? {path : Path} {fields : Fields} {kind : Text} {s : Shape}
    (h : readPrimitive? path fields kind = some (.ok s)) : s.WellFormed := by
  unfold readPrimitive? at h
  split at h
  · injection h with h
    rcases exists_of_bind_eq_ok h with ⟨radius, _, h⟩
    cases h
    exact .circle _
  · injection h with h
    rcases exists_of_bind_eq_ok h with ⟨size, _, h⟩
    cases h
    exact .square _
  · injection h with h
    rcases exists_of_bind_eq_ok h with ⟨directions, hdirections, h⟩
    rcases exists_of_bind_eq_ok h with ⟨nearest, hnearest, h⟩
    rcases exists_of_bind_eq_ok h with ⟨farthest, _, h⟩
    split at h
    · cases h
    · next hordered =>
        cases h
        have hdirs := directions_of_readDirections hdirections
        have haway := le_of_readInt hnearest
        exact .ray hdirs.1 hdirs.2 (by omega) (by omega)
  · injection h with h
    split at h
    · rcases exists_of_bind_eq_ok h with ⟨x, _, h⟩
      rcases exists_of_bind_eq_ok h with ⟨y, _, h⟩
      cases h
      exact .point _
    · cases h
  · injection h with h
    dsimp only at h
    split at h
    · rcases exists_of_bind_eq_ok h with ⟨length, hlength, h⟩
      cases h
      have hlong := le_of_readInt hlength
      exact .cone _ (by omega)
    · cases h
  · cases h

theorem wellFormed_assemble {join : Join} {parts : List Shape}
    (hmany : join.minimum ≤ parts.length) (heach : ∀ s ∈ parts, s.WellFormed) :
    (join.assemble parts).WellFormed := by
  have hsome : parts ≠ [] := by
    rintro rfl
    cases join <;> exact Nat.not_succ_le_zero _ hmany
  cases join with
  | union => exact .union hsome heach
  | intersect => exact .intersect hsome heach
  | reflect axis => exact .reflect axis hsome heach
  | subtract =>
      match parts, hmany, heach with
      | base :: cutter :: cutters, _, heach =>
          exact .subtract (heach base (by simp)) (List.cons_ne_nil cutter cutters)
            fun s hs => heach s (List.mem_cons_of_mem base hs)

/-! ## Values -/

/-- A value that describes a shape is an object with a kind.  Either the kind is that of a pattern,
or it is that of a combination, whose parts are read from a list that is long enough. -/
theorem ofValue_eq_ok_iff {path : Path} {v : Value} {s : Shape} :
    ofValue path v = .ok s ↔
      ∃ (fields : Fields) (kind : Text), v = .object fields ∧
        fields.get? "kind" = some (.str kind) ∧
        (readPrimitive? path fields kind = some (.ok s) ∨
          readPrimitive? path fields kind = none ∧
          ∃ (join : Join) (parts : List Value) (shapes : List Shape),
            readJoin? path fields kind = some (.ok join) ∧
            fields.get? "shapes" = some (.list parts) ∧ join.minimum ≤ parts.length ∧
            ofValues (path.field "shapes") 0 parts = .ok shapes ∧ s = join.assemble shapes) := by
  rw [ofValue.eq_def]
  constructor
  · intro h
    split at h
    · next fields =>
        split at h
        · next kind hkind =>
            refine ⟨fields, kind, rfl, hkind, ?_⟩
            split at h
            · next hprimitive => exact .inl (hprimitive.trans (congrArg some h))
            · next hprimitive =>
                refine .inr ⟨hprimitive, ?_⟩
                split at h
                · cases h
                · cases h
                · next join hjoin =>
                    dsimp only at h
                    split at h
                    · next parts hparts =>
                        split at h
                        · cases h
                        · next hmany =>
                            rcases exists_of_bind_eq_ok h with ⟨shapes, hshapes, h⟩
                            cases h
                            exact ⟨join, parts, shapes, hjoin, hparts, Nat.not_lt.1 hmany,
                              hshapes, rfl⟩
                    · cases h
        · cases h
    · cases h
  · rintro ⟨fields, kind, rfl, hkind, hprimitive | ⟨hprimitive, hjoined⟩⟩
    · simp only [hkind, hprimitive]
    · rcases hjoined with ⟨join, parts, shapes, hjoin, hparts, hmany, hshapes, rfl⟩
      simp only [hkind, hprimitive, hjoin]
      split
      · next given hgiven =>
          cases hparts.symm.trans hgiven
          rw [if_neg (Nat.not_lt.2 hmany), hshapes]
          rfl
      · next hnone => exact absurd hparts (hnone parts)

theorem forall₂_ofValues {path : Path} {index : Nat} {vs : List Value} {shapes : List Shape}
    (h : ofValues path index vs = .ok shapes) :
    List.Forall₂ (fun v s => ∃ i, ofValue (path.item i) v = .ok s) vs shapes := by
  induction vs generalizing index shapes with
  | nil =>
      rw [ofValues] at h
      cases h
      exact .nil
  | cons v rest ih =>
      rw [ofValues] at h
      rcases exists_of_bind_eq_ok h with ⟨s, hs, h⟩
      rcases exists_of_bind_eq_ok h with ⟨others, hothers, h⟩
      cases h
      exact .cons ⟨index, hs⟩ (ih hothers)

/-- The parts of a combination are smaller than the value that it was read from. -/
theorem wellFormed_ofValue {path : Path} {v : Value} {s : Shape} (h : ofValue path v = .ok s) :
    s.WellFormed := by
  rcases ofValue_eq_ok_iff.1 h with ⟨fields, kind, hv, _, hprimitive | ⟨_, hjoined⟩⟩
  · exact wellFormed_of_readPrimitive? hprimitive
  · rcases hjoined with ⟨join, parts, shapes, _, hparts, hmany, hshapes, rfl⟩
    have hread := forall₂_ofValues hshapes
    refine wellFormed_assemble (hread.length_eq ▸ hmany) fun s hs => ?_
    rcases List.mem_iff_getElem.1 hs with ⟨i, hi, rfl⟩
    have hi' : i < parts.length := hread.length_eq ▸ hi
    rcases hread.get hi' hi with ⟨j, hpart⟩
    have hsmaller : sizeOf parts[i] < sizeOf v := by
      have hitem := List.sizeOf_lt_of_mem (List.getElem_mem hi')
      have hfields := Fields.sizeOf_get? hparts
      rw [hv]
      simp only [Value.object.sizeOf_spec, Value.list.sizeOf_spec] at hfields ⊢
      omega
    exact wellFormed_ofValue hpart
termination_by sizeOf v
decreasing_by exact hsmaller

theorem wellFormed_ofDocument {result : Except Json.Fault Value} {s : Shape}
    (h : ofDocument result = .ok s) : s.WellFormed := by
  unfold ofDocument at h
  cases result with
  | error fault => cases h
  | ok v =>
      dsimp only at h
      cases hread : ofValue .shape v with
      | error e =>
          rw [hread] at h
          cases h
      | ok shape =>
          rw [hread] at h
          cases h
          exact wellFormed_ofValue hread

end Shape

end Boardcraft
