import Boardcraft.Proofs.Data.Distinct
import Boardcraft.Proofs.Shape.WellFormed
import Mathlib.Algebra.Order.Field.Rat
import Mathlib.Data.Rat.Cast.Lemmas

/-!
# The notation for shapes

A shape is written as an object whose kind says which shape it is and which other fields count.  The
notation is stated here as a relation between values and shapes, one clause for each kind, without
regard to the order in which the reader looks at fields or to what it reports.

## Main statements

* `whole?_eq_some_iff` says which floating-point numbers pass for whole numbers;
* `ofValue_eq_ok_iff_spells` says that the reader goes by the notation;
* `reads_the_notation` adds what the reader makes of all other values, what it returns, and how
  every well-formed shape can be written.
-/

namespace Boardcraft

/-!
## Whole numbers
-/

namespace Binary64

def rational? : Binary64 → Option ℚ
  | finite negative m e => some (signed negative m * (2 : ℚ) ^ e)
  | _ => none

theorem cast_twoTo (n : Nat) : (((twoTo n : Nat) : Int) : ℚ) = 2 ^ n := by
  show (((2 ^ n : Nat) : Int) : ℚ) = 2 ^ n
  push_cast
  rfl

theorem signed_mul (negative : Bool) (m n : Nat) :
    signed negative (m * n) = signed negative m * n := by
  cases negative <;> simp [signed]

theorem dvd_signed_iff (negative : Bool) (k m : Nat) : (k : Int) ∣ signed negative m ↔ k ∣ m := by
  cases negative <;> simp [signed, Int.natCast_dvd_natCast]

/-- A number with a power of two below the line is whole if the power divides its significand. -/
theorem rational_eq_iff_of_neg {e : Int} (he : ¬ 0 ≤ e) (m n : Int) :
    (m : ℚ) * 2 ^ e = n ↔ m = n * (twoTo (-e).toNat : Nat) := by
  have hexponent : e = -(((-e).toNat : Nat) : Int) := by omega
  have hpower : ((2 : ℚ) ^ (-e).toNat) ≠ 0 := pow_ne_zero _ two_ne_zero
  have hquotient : (m : ℚ) * 2 ^ e = m / 2 ^ (-e).toNat := by
    conv_lhs => rw [hexponent]
    rw [zpow_neg, zpow_natCast, div_eq_mul_inv]
  rw [hquotient, div_eq_iff hpower, ← cast_twoTo, ← Int.cast_mul, Int.cast_inj]

theorem whole?_eq_some_iff {x : Binary64} {n : Int} :
    x.whole? = some n ↔ x.rational? = some (n : ℚ) := by
  cases x with
  | nan => simp [whole?, rational?]
  | infinite negative => simp [whole?, rational?]
  | finite negative m e =>
      rw [whole?, rational?, Option.some_inj]
      split
      · next he =>
          have hexponent : (2 : ℚ) ^ e = 2 ^ e.toNat := by
            rw [← zpow_natCast, Int.toNat_of_nonneg he]
          rw [Option.some_inj, hexponent, ← cast_twoTo, ← Int.cast_mul, Int.cast_inj, signed_mul]
      · next he =>
          rw [rational_eq_iff_of_neg he]
          have hpower : ((twoTo (-e).toNat : Nat) : Int) ≠ 0 :=
            Int.natCast_ne_zero.2 (Nat.pow_pos Nat.two_pos).ne'
          split
          · next hdivides =>
              have hm : signed negative m =
                  signed negative (m / twoTo (-e).toNat) * (twoTo (-e).toNat : Nat) := by
                rw [← signed_mul, Nat.div_mul_cancel (Nat.dvd_of_mod_eq_zero hdivides)]
              rw [Option.some_inj, hm, mul_left_inj' hpower]
          · next hdivides =>
              constructor
              · exact fun h => by cases h
              · intro h
                have hsigned : ((twoTo (-e).toNat : Nat) : Int) ∣ signed negative m :=
                  ⟨n, by rw [h, mul_comm]⟩
                exact absurd (Nat.mod_eq_zero_of_dvd ((dvd_signed_iff _ _ _).1 hsigned)) hdivides

end Binary64

namespace Shape

/-- A value that is a whole number: an integer, or a floating-point number equal to one.  The truth
values are no numbers. -/
inductive SpellsInt : Value → Int → Prop
  | int (n : Int) : SpellsInt (.int n) n
  | float {x : Binary64} {n : Int} (equal : x.rational? = some (n : ℚ)) : SpellsInt (.float x) n

theorem spellsInt_float_iff {x : Binary64} {n : Int} :
    SpellsInt (.float x) n ↔ x.whole? = some n := by
  rw [Binary64.whole?_eq_some_iff]
  constructor
  · intro h
    cases h with
    | float equal => exact equal
  · exact .float

def HasInt (fields : Fields) (name : Text) (n : Int) : Prop :=
  ∃ v, fields.get? name = some v ∧ SpellsInt v n

theorem hasInt_iff {fields : Fields} {name : Text} {n : Int} :
    HasInt fields name n ↔ SpellsInt ((fields.get? name).getD .null) n := by
  unfold HasInt
  cases fields.get? name with
  | some v => simp
  | none =>
      constructor
      · rintro ⟨v, hv, _⟩
        cases hv
      · exact fun h => by cases h

theorem spellsInt_int_iff {m n : Int} : SpellsInt (.int m) n ↔ m = n := by
  constructor
  · intro h
    cases h
    rfl
  · rintro rfl
    exact .int m

theorem bounded_eq_ok_iff {error : Error} {least m n : Int} :
    (if m < least then (.error error : Except Error Int) else .ok m) = .ok n ↔
      m = n ∧ least ≤ n := by
  split
  · next hless =>
      constructor
      · exact fun h => by cases h
      · rintro ⟨rfl, hleast⟩
        exact absurd hless (Int.not_lt.2 hleast)
  · next hleast =>
      constructor
      · intro h
        injection h with h
        exact ⟨h, h ▸ Int.not_lt.1 hleast⟩
      · rintro ⟨rfl, _⟩
        rfl

theorem readInt_eq_ok_iff {path : Path} {fields : Fields} {name : String} {minimum : Option Int}
    {n : Int} :
    readInt path fields name minimum = .ok n ↔
      HasInt fields name n ∧ ∀ least, minimum = some least → least ≤ n := by
  rw [hasInt_iff, readInt]
  dsimp only
  generalize (fields.get? name).getD .null = v
  cases v with
  | int m =>
      rw [spellsInt_int_iff]
      cases minimum with
      | none => simp
      | some least => simp [bounded_eq_ok_iff]
  | float x =>
      rw [spellsInt_float_iff]
      dsimp only
      cases x.whole? with
      | none => simp
      | some m =>
          cases minimum with
          | none => simp
          | some least => simp [bounded_eq_ok_iff]
  | _ =>
      constructor
      · exact fun h => by cases h
      · exact fun h => by cases h.1

/-!
## Tokens
-/

/-- A field that reads as text is given, since one that is missing reads as null. -/
theorem get?_of_getD_eq_str {fields : Fields} {name : String} {word : Text}
    (h : (fields.get? name).getD .null = .str word) : fields.get? name = some (.str word) := by
  cases hfield : fields.get? name with
  | none =>
      rw [hfield] at h
      cases h
  | some v =>
      rw [hfield] at h
      exact congrArg some h

theorem direction?_eq_some_iff {v : Value} {d : Direction} :
    direction? v = some d ↔ v = .str d.token := by
  constructor
  · intro h
    cases v with
    | str token =>
        have htoken := List.find?_some h
        rw [← eq_of_beq htoken]
    | _ => cases h
  · rintro rfl
    cases d <;> cbv

theorem axis?_eq_some_iff {v : Value} {axis : Axis} :
    axis? v = some axis ↔ v = .str axis.word := by
  constructor
  · intro h
    cases v with
    | str word =>
        have hword := List.find?_some h
        rw [← eq_of_beq hword]
    | _ => cases h
  · rintro rfl
    cases axis <;> cbv

/-!
### Lists of directions
-/

/-- The directions of a list, each once, in the order in which they first occur in it. -/
structure FirstOccurrences (given once : List Direction) : Prop where
  mem_iff : ∀ d, d ∈ once ↔ d ∈ given
  inOrder : once.Pairwise fun d d' => given.idxOf d < given.idxOf d'

theorem firstOccurrences_distinct (given : List Direction) :
    FirstOccurrences given (distinct given) :=
  ⟨fun _ => mem_distinct, pairwise_distinct given⟩

theorem FirstOccurrences.eq_distinct {given once : List Direction}
    (h : FirstOccurrences given once) : once = distinct given := by
  have hdistinct := firstOccurrences_distinct given
  have hnodup : once.Nodup := h.inOrder.imp fun hlt heq => by
    subst heq
    exact Nat.lt_irrefl _ hlt
  have hperm : once.Perm (distinct given) := by
    apply (List.perm_ext_iff_of_nodup hnodup (nodup_distinct given)).2
    intro d
    rw [h.mem_iff, hdistinct.mem_iff]
  exact hperm.eq_of_pairwise (fun _ _ _ _ hlt hgt => absurd hlt (Nat.lt_asymm hgt))
    h.inOrder hdistinct.inOrder

theorem FirstOccurrences.of_nodup {given : List Direction} (h : given.Nodup) :
    FirstOccurrences given given := by
  have hself := firstOccurrences_distinct given
  rwa [distinct_of_nodup h] at hself

theorem readDirectionsFrom_eq_ok_iff {path : Path} {index : Nat} {vs : List Value}
    {ds : List Direction} :
    readDirectionsFrom path index vs = .ok ds ↔ vs = ds.map fun d => .str d.token := by
  induction vs generalizing index ds with
  | nil =>
      rw [readDirectionsFrom]
      cases ds <;> simp
  | cons v rest ih =>
      rw [readDirectionsFrom]
      cases hdirection : direction? v with
      | none =>
          constructor
          · exact fun h => by cases h
          · intro h
            cases ds with
            | nil => cases h
            | cons d ds =>
                injection h with hv _
                rw [direction?_eq_some_iff.2 hv] at hdirection
                cases hdirection
      | some d =>
          have hv := direction?_eq_some_iff.1 hdirection
          constructor
          · intro h
            rcases exists_of_bind_eq_ok h with ⟨ds', hds', h⟩
            cases h
            rw [hv, ih.1 hds', List.map_cons]
          · intro h
            cases ds with
            | nil => cases h
            | cons d' ds =>
                injection h with hv' hrest
                have hsame := direction?_eq_some_iff.2 hv'
                rw [hdirection] at hsame
                injection hsame with hsame
                show (readDirectionsFrom path (index + 1) rest >>= _) = _
                rw [ih.2 hrest, hsame]
                rfl

/-- The field of directions: a list that is not empty and holds tokens only. -/
def HasDirections (fields : Fields) (directions : List Direction) : Prop :=
  ∃ given : List Direction, fields.get? "dirs" = some (.list (given.map fun d => .str d.token)) ∧
    given ≠ [] ∧ FirstOccurrences given directions

theorem readDirections_eq_ok_iff {path : Path} {fields : Fields} {ds : List Direction} :
    readDirections path fields = .ok ds ↔ HasDirections fields ds := by
  unfold readDirections HasDirections
  constructor
  · intro h
    split at h
    · next v rest hfield =>
        rcases exists_of_bind_eq_ok h with ⟨given, hgiven, h⟩
        cases h
        have htokens := readDirectionsFrom_eq_ok_iff.1 hgiven
        refine ⟨given, htokens ▸ hfield, ?_, firstOccurrences_distinct given⟩
        rintro rfl
        cases htokens
    · cases h
  · rintro ⟨given, hfield, hsome, honce⟩
    cases given with
    | nil => exact absurd rfl hsome
    | cons d rest =>
        rw [hfield, honce.eq_distinct]
        show (readDirectionsFrom _ 0 ((d :: rest).map fun d => .str d.token) >>= _) = _
        rw [readDirectionsFrom_eq_ok_iff.2 rfl]
        rfl

/-!
## Patterns
-/

inductive SpellsPattern (fields : Fields) : Text → Shape → Prop
  | circle {radius : Nat} (reach : HasInt fields "radius" radius) :
      SpellsPattern fields "circle" (circle radius)
  | square {size : Nat} (reach : HasInt fields "size" size) :
      SpellsPattern fields "square" (square size)
  | ray {directions : List Direction} {nearest farthest : Nat}
      (dirs : HasDirections fields directions) (min : HasInt fields "min" nearest)
      (max : HasInt fields "max" farthest) (away : 1 ≤ nearest) (ordered : nearest ≤ farthest) :
      SpellsPattern fields "ray" (ray directions nearest farthest)
  | point {delta : Fields} {x y : Int} (given : fields.get? "delta" = some (.object delta))
      (across : HasInt delta "x" x) (up : HasInt delta "y" y) :
      SpellsPattern fields "point" (point ⟨x, y⟩)
  | cone {direction : Direction} {length : Nat}
      (dir : fields.get? "dir" = some (.str direction.token))
      (reach : HasInt fields "length" length) (long : 1 ≤ length) :
      SpellsPattern fields "cone" (cone direction length)

theorem readInt_eq_ok {path : Path} {fields : Fields} {name : String} {least n : Int}
    (h : HasInt fields name n) (hle : least ≤ n) :
    readInt path fields name (some least) = .ok n :=
  readInt_eq_ok_iff.2 ⟨h, fun _ heq => by injection heq with heq; exact heq ▸ hle⟩

/-- A number that is read above zero is a natural number. -/
theorem exists_of_readInt {path : Path} {fields : Fields} {name : String} {least n : Int}
    (h : readInt path fields name (some least) = .ok n) (hleast : 0 ≤ least) :
    HasInt fields name (n.toNat : Nat) ∧ least ≤ n := by
  have hle := (readInt_eq_ok_iff.1 h).2 least rfl
  rw [Int.toNat_of_nonneg (hleast.trans hle)]
  exact ⟨(readInt_eq_ok_iff.1 h).1, hle⟩

theorem spellsPattern_of_read {path : Path} {fields : Fields} {kind : Text} {s : Shape}
    (h : readPrimitive? path fields kind = some (.ok s)) : SpellsPattern fields kind s := by
  unfold readPrimitive? at h
  split at h
  · next hkind =>
      injection h with h
      rw [Text.string?_eq_some_iff.1 hkind]
      rcases exists_of_bind_eq_ok h with ⟨radius, hradius, h⟩
      cases h
      exact .circle (exists_of_readInt hradius le_rfl).1
  · next hkind =>
      injection h with h
      rw [Text.string?_eq_some_iff.1 hkind]
      rcases exists_of_bind_eq_ok h with ⟨size, hsize, h⟩
      cases h
      exact .square (exists_of_readInt hsize le_rfl).1
  · next hkind =>
      injection h with h
      rw [Text.string?_eq_some_iff.1 hkind]
      rcases exists_of_bind_eq_ok h with ⟨directions, hdirections, h⟩
      rcases exists_of_bind_eq_ok h with ⟨nearest, hnearest, h⟩
      rcases exists_of_bind_eq_ok h with ⟨farthest, hfarthest, h⟩
      split at h
      · cases h
      · next hordered =>
          cases h
          have hmin := exists_of_readInt hnearest Int.one_nonneg
          have hmax := exists_of_readInt hfarthest Int.one_nonneg
          exact .ray (readDirections_eq_ok_iff.1 hdirections) hmin.1 hmax.1 (by omega) (by omega)
  · next hkind =>
      injection h with h
      rw [Text.string?_eq_some_iff.1 hkind]
      split at h
      · next delta hdelta =>
          rcases exists_of_bind_eq_ok h with ⟨x, hx, h⟩
          rcases exists_of_bind_eq_ok h with ⟨y, hy, h⟩
          cases h
          exact .point hdelta (readInt_eq_ok_iff.1 hx).1 (readInt_eq_ok_iff.1 hy).1
      · cases h
  · next hkind =>
      injection h with h
      rw [Text.string?_eq_some_iff.1 hkind]
      dsimp only at h
      split at h
      · next d hd =>
          rcases exists_of_bind_eq_ok h with ⟨length, hlength, h⟩
          cases h
          have hreach := exists_of_readInt hlength Int.one_nonneg
          have htoken := direction?_eq_some_iff.1 hd
          exact .cone (get?_of_getD_eq_str htoken) hreach.1 (by omega)
      · cases h
  · cases h

theorem readPrimitive?_of_spells {path : Path} {fields : Fields} {kind : Text} {s : Shape}
    (h : SpellsPattern fields kind s) : readPrimitive? path fields kind = some (.ok s) := by
  cases h with
  | circle reach =>
      rw [readPrimitive?, Text.string?_ofString]
      dsimp only
      rw [readInt_eq_ok reach (Int.natCast_nonneg _)]
      rfl
  | square reach =>
      rw [readPrimitive?, Text.string?_ofString]
      dsimp only
      rw [readInt_eq_ok reach (Int.natCast_nonneg _)]
      rfl
  | ray dirs min max away ordered =>
      rw [readPrimitive?, Text.string?_ofString]
      dsimp only
      rw [readDirections_eq_ok_iff.2 dirs, readInt_eq_ok min (by omega),
        readInt_eq_ok max (by omega)]
      refine congrArg some ?_
      show (if _ then _ else _) = _
      rw [if_neg (by omega)]
      rfl
  | @point delta x y given across up =>
      have hx : readInt (path.field "delta") delta "x" = .ok x :=
        readInt_eq_ok_iff.2 ⟨across, fun _ h => by cases h⟩
      have hy : readInt (path.field "delta") delta "y" = .ok y :=
        readInt_eq_ok_iff.2 ⟨up, fun _ h => by cases h⟩
      rw [readPrimitive?, Text.string?_ofString]
      dsimp only
      rw [given]
      dsimp only
      rw [hx, hy]
      rfl
  | cone dir reach long =>
      rw [readPrimitive?, Text.string?_ofString]
      dsimp only
      rw [dir, Option.getD_some, direction?_eq_some_iff.2 rfl]
      dsimp only
      rw [readInt_eq_ok reach (by omega)]
      rfl

/-!
## Combinations
-/

inductive Spells : Value → Shape → Prop
  | pattern {fields : Fields} {kind : Text} {s : Shape}
      (named : fields.get? "kind" = some (.str kind)) (fits : SpellsPattern fields kind s) :
      Spells (.object fields) s
  | union {fields : Fields} {parts : List Value} {shapes : List Shape}
      (named : fields.get? "kind" = some (.str "union"))
      (listed : fields.get? "shapes" = some (.list parts)) (some : shapes ≠ [])
      (each : List.Forall₂ Spells parts shapes) : Spells (.object fields) (union shapes)
  | intersect {fields : Fields} {parts : List Value} {shapes : List Shape}
      (named : fields.get? "kind" = some (.str "intersect"))
      (listed : fields.get? "shapes" = some (.list parts)) (some : shapes ≠ [])
      (each : List.Forall₂ Spells parts shapes) : Spells (.object fields) (intersect shapes)
  | subtract {fields : Fields} {parts : List Value} {base : Shape} {cutters : List Shape}
      (named : fields.get? "kind" = some (.str "subtract"))
      (listed : fields.get? "shapes" = some (.list parts)) (some : cutters ≠ [])
      (each : List.Forall₂ Spells parts (base :: cutters)) :
      Spells (.object fields) (subtract base cutters)
  | reflect {fields : Fields} {axis : Axis} {parts : List Value} {shapes : List Shape}
      (named : fields.get? "kind" = some (.str "reflect"))
      (across : fields.get? "axis" = some (.str axis.word))
      (listed : fields.get? "shapes" = some (.list parts)) (some : shapes ≠ [])
      (each : List.Forall₂ Spells parts shapes) : Spells (.object fields) (reflect axis shapes)

/-- The fields that name a combination of a kind. -/
inductive SpellsJoin (fields : Fields) : Text → Join → Prop
  | union : SpellsJoin fields "union" .union
  | intersect : SpellsJoin fields "intersect" .intersect
  | subtract : SpellsJoin fields "subtract" .subtract
  | reflect {axis : Axis} (across : fields.get? "axis" = some (.str axis.word)) :
      SpellsJoin fields "reflect" (.reflect axis)

theorem readJoin?_eq_ok_iff {path : Path} {fields : Fields} {kind : Text} {join : Join} :
    readJoin? path fields kind = some (.ok join) ↔ SpellsJoin fields kind join := by
  constructor
  · intro h
    unfold readJoin? at h
    split at h
    · next hkind =>
        rw [Text.string?_eq_some_iff.1 hkind]
        cases h
        exact .union
    · next hkind =>
        rw [Text.string?_eq_some_iff.1 hkind]
        cases h
        exact .intersect
    · next hkind =>
        rw [Text.string?_eq_some_iff.1 hkind]
        cases h
        exact .subtract
    · next hkind =>
        rw [Text.string?_eq_some_iff.1 hkind]
        dsimp only at h
        split at h
        · next axis haxis =>
            cases h
            exact .reflect (get?_of_getD_eq_str (axis?_eq_some_iff.1 haxis))
        · cases h
    · cases h
  · intro h
    cases h with
    | union =>
        rw [readJoin?, Text.string?_ofString]
        rfl
    | intersect =>
        rw [readJoin?, Text.string?_ofString]
        rfl
    | subtract =>
        rw [readJoin?, Text.string?_ofString]
        rfl
    | reflect across =>
        rw [readJoin?, Text.string?_ofString]
        dsimp only
        rw [across, Option.getD_some, axis?_eq_some_iff.2 rfl]
        rfl

theorem readPrimitive?_of_join {path : Path} {fields : Fields} {kind : Text} {join : Join}
    (h : SpellsJoin fields kind join) : readPrimitive? path fields kind = none := by
  cases h <;>
    · rw [readPrimitive?, Text.string?_ofString]
      rfl

theorem spells_combination {fields : Fields} {kind : Text} {join : Join} {parts : List Value}
    {shapes : List Shape} (named : fields.get? "kind" = some (.str kind))
    (h : SpellsJoin fields kind join) (listed : fields.get? "shapes" = some (.list parts))
    (many : join.minimum ≤ parts.length) (each : List.Forall₂ Spells parts shapes) :
    Spells (.object fields) (join.assemble shapes) := by
  have hmany : join.minimum ≤ shapes.length := each.length_eq ▸ many
  have hsome : shapes ≠ [] := by
    rintro rfl
    cases join <;> exact Nat.not_succ_le_zero _ hmany
  cases h with
  | union => exact .union named listed hsome each
  | intersect => exact .intersect named listed hsome each
  | subtract =>
      match shapes, hmany, each with
      | base :: cutter :: cutters, _, each =>
          exact .subtract named listed (List.cons_ne_nil cutter cutters) each
  | reflect across => exact .reflect named across listed hsome each

/-- Either a value spells a pattern, or it names a combination and lists what spells its parts. -/
theorem spells_iff {v : Value} {s : Shape} :
    Spells v s ↔
      ∃ (fields : Fields) (kind : Text), v = .object fields ∧
        fields.get? "kind" = some (.str kind) ∧
        (SpellsPattern fields kind s ∨
          ∃ (join : Join) (parts : List Value) (shapes : List Shape),
            SpellsJoin fields kind join ∧ fields.get? "shapes" = some (.list parts) ∧
            join.minimum ≤ parts.length ∧ List.Forall₂ Spells parts shapes ∧
            s = join.assemble shapes) := by
  constructor
  · intro h
    cases h with
    | pattern named fits => exact ⟨_, _, rfl, named, .inl fits⟩
    | union named listed hsome each =>
        refine ⟨_, _, rfl, named, .inr ⟨.union, _, _, .union, listed, ?_, each, rfl⟩⟩
        exact each.length_eq ▸ List.length_pos_iff.2 hsome
    | intersect named listed hsome each =>
        refine ⟨_, _, rfl, named, .inr ⟨.intersect, _, _, .intersect, listed, ?_, each, rfl⟩⟩
        exact each.length_eq ▸ List.length_pos_iff.2 hsome
    | subtract named listed hsome each =>
        refine ⟨_, _, rfl, named, .inr ⟨.subtract, _, _, .subtract, listed, ?_, each, rfl⟩⟩
        exact each.length_eq ▸ Nat.succ_le_succ (List.length_pos_iff.2 hsome)
    | @reflect _ axis _ _ named across listed hsome each =>
        refine ⟨_, _, rfl, named,
          .inr ⟨.reflect axis, _, _, .reflect across, listed, ?_, each, rfl⟩⟩
        exact each.length_eq ▸ List.length_pos_iff.2 hsome
  · rintro ⟨fields, kind, rfl, named, fits | ⟨join, parts, shapes, hjoin, listed, many, each, rfl⟩⟩
    · exact .pattern named fits
    · exact spells_combination named hjoin listed many each

/-!
## The reader
-/

theorem ofValues_eq_ok_iff {path : Path} {index : Nat} {vs : List Value} {shapes : List Shape}
    (h : ∀ v ∈ vs, ∀ (path : Path) (s : Shape), ofValue path v = .ok s ↔ Spells v s) :
    ofValues path index vs = .ok shapes ↔ List.Forall₂ Spells vs shapes := by
  induction vs generalizing index shapes with
  | nil =>
      rw [ofValues, List.forall₂_nil_left_iff]
      constructor
      · intro heq
        injection heq with heq
        exact heq.symm
      · rintro rfl
        rfl
  | cons v rest ih =>
      have hrest := fun v' hv' => h v' (List.mem_cons_of_mem v hv')
      rw [ofValues]
      constructor
      · intro heq
        rcases exists_of_bind_eq_ok heq with ⟨s, hs, heq⟩
        rcases exists_of_bind_eq_ok heq with ⟨others, hothers, heq⟩
        cases heq
        exact .cons ((h v List.mem_cons_self _ s).1 hs) ((ih hrest).1 hothers)
      · intro heach
        cases heach with
        | cons hs hothers =>
            rw [(h v List.mem_cons_self _ _).2 hs, (ih hrest).2 hothers]
            rfl

/-- The reader goes by the notation.  The parts of a combination are smaller than the value that
lists them. -/
theorem ofValue_eq_ok_iff_spells {path : Path} {v : Value} {s : Shape} :
    ofValue path v = .ok s ↔ Spells v s := by
  have hparts : ∀ {fields : Fields} {parts : List Value}, v = .object fields →
      fields.get? "shapes" = some (.list parts) →
      ∀ part ∈ parts, ∀ (path : Path) (s : Shape), ofValue path part = .ok s ↔ Spells part s := by
    intro fields parts hv hlisted part hpart path s
    have hsmaller : sizeOf part < sizeOf v := by
      have hitem := List.sizeOf_lt_of_mem hpart
      have hfields := Fields.sizeOf_get? hlisted
      rw [hv]
      simp only [Value.object.sizeOf_spec, Value.list.sizeOf_spec] at hfields ⊢
      omega
    exact ofValue_eq_ok_iff_spells
  rw [ofValue_eq_ok_iff, spells_iff]
  constructor
  · rintro ⟨fields, kind, hv, named, hpattern | ⟨_, hjoined⟩⟩
    · exact ⟨fields, kind, hv, named, .inl (spellsPattern_of_read hpattern)⟩
    · rcases hjoined with ⟨join, parts, shapes, hjoin, hlisted, hmany, hshapes, hs⟩
      exact ⟨fields, kind, hv, named, .inr ⟨join, parts, shapes, readJoin?_eq_ok_iff.1 hjoin, hlisted,
        hmany, (ofValues_eq_ok_iff (hparts hv hlisted)).1 hshapes, hs⟩⟩
  · rintro ⟨fields, kind, hv, named, hpattern | hjoined⟩
    · exact ⟨fields, kind, hv, named, .inl (readPrimitive?_of_spells hpattern)⟩
    · rcases hjoined with ⟨join, parts, shapes, hjoin, hlisted, hmany, hshapes, hs⟩
      exact ⟨fields, kind, hv, named, .inr ⟨readPrimitive?_of_join hjoin, join, parts, shapes,
        readJoin?_eq_ok_iff.2 hjoin, hlisted, hmany,
        (ofValues_eq_ok_iff (hparts hv hlisted)).2 hshapes, hs⟩⟩
termination_by sizeOf v
decreasing_by exact hsmaller

/-!
## Writing shapes down
-/

def written (kind : String) (others : Fields) : Value :=
  .object (("kind", .str kind) :: others)

mutual

def spelling : Shape → Value
  | circle radius => written "circle" [("radius", .int radius)]
  | square size => written "square" [("size", .int size)]
  | ray directions nearest farthest =>
      written "ray"
        [("dirs", .list (directions.map fun d => .str d.token)), ("min", .int nearest),
          ("max", .int farthest)]
  | point delta =>
      written "point" [("delta", .object [("x", .int delta.x), ("y", .int delta.y)])]
  | cone direction length =>
      written "cone" [("dir", .str direction.token), ("length", .int length)]
  | union parts => written "union" [("shapes", .list (spellings parts))]
  | intersect parts => written "intersect" [("shapes", .list (spellings parts))]
  | subtract base cutters =>
      written "subtract" [("shapes", .list (spelling base :: spellings cutters))]
  | reflect axis parts =>
      written "reflect" [("axis", .str axis.word), ("shapes", .list (spellings parts))]

def spellings : List Shape → List Value
  | [] => []
  | s :: rest => spelling s :: spellings rest

end

theorem hasInt_of_get? {fields : Fields} {name : Text} {n : Int}
    (h : fields.get? name = some (.int n)) : HasInt fields name n :=
  ⟨.int n, h, .int n⟩

theorem spells_spellings {parts : List Shape} (h : ∀ s ∈ parts, Spells (spelling s) s) :
    List.Forall₂ Spells (spellings parts) parts := by
  induction parts with
  | nil => exact .nil
  | cons s rest ih =>
      rw [spellings]
      exact .cons (h s List.mem_cons_self) (ih fun s' hs' => h s' (List.mem_cons_of_mem s hs'))

/-- By induction on the shape, one case for each kind. -/
theorem spells_spelling {s : Shape} (h : s.WellFormed) : Spells (spelling s) s := by
  induction h with
  | circle radius =>
      rw [spelling]
      exact .pattern rfl (.circle (hasInt_of_get? rfl))
  | square size =>
      rw [spelling]
      exact .pattern rfl (.square (hasInt_of_get? rfl))
  | @ray directions nearest farthest named once away ordered =>
      rw [spelling]
      have hdirs := FirstOccurrences.of_nodup once
      exact .pattern rfl (.ray ⟨directions, rfl, named, hdirs⟩ (hasInt_of_get? rfl)
        (hasInt_of_get? rfl) away ordered)
  | point delta =>
      rw [spelling]
      exact .pattern rfl (.point rfl (hasInt_of_get? rfl) (hasInt_of_get? rfl))
  | cone direction long =>
      rw [spelling]
      exact .pattern rfl (.cone rfl (hasInt_of_get? rfl) long)
  | union hsome _ each =>
      rw [spelling]
      exact .union rfl rfl hsome (spells_spellings each)
  | intersect hsome _ each =>
      rw [spelling]
      exact .intersect rfl rfl hsome (spells_spellings each)
  | subtract _ hsome _ whole each =>
      rw [spelling]
      exact .subtract rfl rfl hsome (.cons whole (spells_spellings each))
  | reflect axis hsome _ each =>
      rw [spelling]
      exact .reflect rfl rfl rfl hsome (spells_spellings each)

/-- What the reader makes of values.  It reads those that spell a shape and returns the shape, and
reports a fault for all others.  The shapes that it returns are the well-formed ones, and each of
these is read from its spelling. -/
theorem reads_the_notation (path : Path) :
    (∀ v s, ofValue path v = .ok s ↔ Spells v s) ∧
    (∀ v, (∃ e, ofValue path v = .error e) ↔ ∀ s, ¬ Spells v s) ∧
    (∀ v s, ofValue path v = .ok s → s.WellFormed) ∧
    (∀ s : Shape, s.WellFormed → ofValue path (spelling s) = .ok s) := by
  refine ⟨fun v s => ofValue_eq_ok_iff_spells, ?_, fun v s => wellFormed_ofValue, ?_⟩
  · intro v
    constructor
    · rintro ⟨e, he⟩ s hs
      rw [ofValue_eq_ok_iff_spells.2 hs] at he
      cases he
    · intro hnone
      cases hread : ofValue path v with
      | error e => exact ⟨e, rfl⟩
      | ok s => exact absurd (ofValue_eq_ok_iff_spells.1 hread) (hnone s)
  · exact fun s hs => ofValue_eq_ok_iff_spells.2 (spells_spelling hs)

end Shape
end Boardcraft
