import Boardcraft.Proofs.Data.Distinct
import Boardcraft.Proofs.Shape.Meaning
import Mathlib.Data.List.Sort

/-!
# The algebra of offset lists

Lists of offsets stand for sets, but they have an order too.  The combinations obey laws of sets, and
they do so as equations between lists: whichever way lists with repetitions are combined, the same
offsets are listed in the same order.

## Main statements

* `combination_laws` collects the laws.
-/

namespace Boardcraft

namespace Offsets

/-! ## Combinations as filters -/

theorem intersect_eq_filter (first : List Square) (others : List (List Square)) :
    intersect (first :: others) = (distinct first).filter fun s => others.all (·.contains s) := by
  have hlook : ∀ s, (others.map members).all (·.contains s) = others.all (·.contains s) := by
    intro s
    rw [List.all_map]
    exact List.all_congr rfl fun l => contains_members l s
  rw [← distinct_filter, intersect]
  simp only [hlook]

theorem subtract_eq_filter (base : List Square) (cutters : List (List Square)) :
    subtract base cutters = (distinct base).filter fun s => !cutters.flatten.contains s := by
  rw [← distinct_filter, subtract]
  simp only [contains_members]

/-! ## Nesting -/

theorem union_union (lists others : List (List Square)) :
    union (union lists :: others) = union (lists ++ others) := by
  rw [union, union, union, List.flatten_cons, List.flatten_append]
  exact distinct_distinct_append _ _

theorem intersect_append (first : List Square) (near far : List (List Square)) :
    intersect (first :: (near ++ far)) = intersect (intersect (first :: near) :: far) := by
  rw [intersect_eq_filter, intersect_eq_filter, intersect_eq_filter, distinct_filter,
    distinct_of_nodup (nodup_distinct first), List.filter_filter]
  apply List.filter_congr
  intro s _
  rw [List.all_append, Bool.and_comm]

theorem subtract_append (base : List Square) (near far : List (List Square)) :
    subtract base (near ++ far) = subtract (subtract base near) far := by
  rw [subtract_eq_filter, subtract_eq_filter, subtract_eq_filter, distinct_filter,
    distinct_of_nodup (nodup_distinct base), List.filter_filter]
  apply List.filter_congr
  intro s _
  rw [List.flatten_append, List.contains_append, Bool.not_or, Bool.and_comm]

theorem subtract_union (base : List Square) (cutters : List (List Square)) :
    subtract base [union cutters] = subtract base cutters := by
  have hsame : ∀ s, (union cutters).contains s = cutters.flatten.contains s := by
    intro s
    simp only [union, List.contains_eq_mem, mem_distinct]
  rw [subtract_eq_filter, subtract_eq_filter, List.flatten_singleton]
  simp only [hsame]

/-! ## Mirror images -/

/-- Mirror images of mirror images are mirror images or the offset itself. -/
theorem eq_or_mem_images {axis : Axis} {s t u : Square} (ht : t ∈ axis.images s)
    (hu : u ∈ axis.images t) : u = s ∨ u ∈ axis.images s := by
  cases s
  cases t
  cases u
  cases axis <;>
    simp only [Axis.images, Square.flipX, Square.flipY, Square.halfTurn, List.mem_cons,
      List.not_mem_nil, Square.mk.injEq, or_false] at ht hu ⊢ <;>
    omega

/-- A reflection holds the mirror images of all that it holds. -/
theorem images_subset_reflect (axis : Axis) (offsets : List Square) :
    (reflect axis offsets).flatMap axis.images ⊆ reflect axis offsets := by
  intro s hs
  rcases List.mem_flatMap.1 hs with ⟨t, ht, hst⟩
  apply mem_reflect.2
  rcases mem_reflect.1 ht with hmember | ⟨u, hu, hmember⟩
  · exact .inr ⟨t, mem_images_comm.1 hst, hmember⟩
  · rcases eq_or_mem_images (mem_images_comm.1 hu) hst with rfl | hsu
    · exact .inl hmember
    · exact .inr ⟨u, mem_images_comm.1 hsu, hmember⟩

theorem nodup_reflect (axis : Axis) (offsets : List Square) : (reflect axis offsets).Nodup :=
  nodup_distinct _

theorem reflect_reflect (axis : Axis) (offsets : List Square) :
    reflect axis (reflect axis offsets) = reflect axis offsets := by
  have hclosed := distinct_append_of_subset (images_subset_reflect axis offsets)
  rw [distinct_of_nodup (nodup_reflect axis offsets)] at hclosed
  exact hclosed

/-- What a reflection already holds adds nothing to it. -/
theorem union_reflect (axis : Axis) (lists : List (List Square)) :
    union (reflect axis (union lists) :: lists) = reflect axis (union lists) := by
  have hheld : lists.flatten ⊆ reflect axis (union lists) := by
    intro s hs
    exact mem_reflect.2 (.inl (mem_distinct.2 hs))
  rw [union, List.flatten_cons, distinct_append_of_subset hheld]
  exact distinct_of_nodup (nodup_reflect axis _)

/-! ## What is cut and what is kept -/

theorem subtract_disjoint_intersect (l cut : List Square) :
    (subtract l [cut]).Disjoint (intersect [l, cut]) := by
  intro s hs hs'
  exact (mem_subtract.1 hs).2 cut List.mem_cons_self ((mem_intersect.1 hs').2 cut List.mem_cons_self)

/-- Whether an offset comes no later in a list than another one. -/
def noLater (l : List Square) (s t : Square) : Bool := l.idxOf s ≤ l.idxOf t

theorem pairwise_noLater (l : List Square) :
    (distinct l).Pairwise fun s t => noLater l s t = true :=
  (pairwise_distinct l).imp fun hlt => decide_eq_true hlt.le

/-- Both lists keep the order of the first one, so that there is one way only to merge them. -/
theorem merge_subtract_intersect (l cut : List Square) :
    (subtract l [cut]).merge (intersect [l, cut]) (noLater l) = union [l] := by
  have hsubtract : subtract l [cut] = (distinct l).filter fun s => !cut.contains s := by
    rw [subtract_eq_filter, List.flatten_singleton]
  have hintersect : intersect [l, cut] = (distinct l).filter fun s => cut.contains s := by
    rw [intersect_eq_filter]
    simp only [List.all_cons, List.all_nil, Bool.and_true]
  have hunion : union [l] = distinct l := by
    rw [union, List.flatten_singleton]
  have hperm : ((subtract l [cut]).merge (intersect [l, cut]) (noLater l)).Perm (union [l]) := by
    rw [hsubtract, hintersect, hunion]
    refine (List.merge_perm_append (noLater l)).trans (List.perm_append_comm.trans ?_)
    exact List.filter_append_perm _ _
  have hmerged : ((subtract l [cut]).merge (intersect [l, cut]) (noLater l)).Pairwise
      fun s t => noLater l s t = true := by
    rw [hsubtract, hintersect]
    apply List.pairwise_merge _ _ _ _ ((pairwise_noLater l).filter _) ((pairwise_noLater l).filter _)
    · intro s t u hst htu
      simp only [noLater, decide_eq_true_eq] at hst htu ⊢
      exact hst.trans htu
    · intro s t
      simpa [noLater] using le_total (l.idxOf s) (l.idxOf t)
  refine hperm.eq_of_pairwise ?_ hmerged (hunion ▸ pairwise_noLater l)
  intro s t _ ht hst hts
  simp only [noLater, decide_eq_true_eq] at hst hts
  have hmember : t ∈ l := by simpa [hunion] using ht
  exact ((List.idxOf_inj hmember).1 (hts.antisymm hst)).symm

/-! ## Main theorem -/

/-- Combining lists of offsets, with whatever repetitions, obeys the laws of sets in the order of the
lists.  Unions may be nested, what is cut or shared may be cut or shared in two goes, and a second
reflection on the same axis changes nothing.  What a list loses by a cut and what it keeps are two
parts of it, and a reflection of shapes is that of all their offsets. -/
theorem combination_laws :
    (∀ lists others, union (union lists :: others) = union (lists ++ others)) ∧
    (∀ first near far,
      intersect (first :: (near ++ far)) = intersect (intersect (first :: near) :: far)) ∧
    (∀ base near far, subtract base (near ++ far) = subtract (subtract base near) far) ∧
    (∀ base cutters, subtract base cutters = subtract base [union cutters]) ∧
    (∀ axis offsets, reflect axis (reflect axis offsets) = reflect axis offsets) ∧
    (∀ l cut, (subtract l [cut]).Disjoint (intersect [l, cut]) ∧
      (subtract l [cut]).merge (intersect [l, cut]) (noLater l) = union [l]) ∧
    ∀ axis (parts : List Shape),
      (Shape.reflect axis parts).compile = reflect axis (union (parts.map Shape.compile)) := by
  refine ⟨union_union, intersect_append, subtract_append, ?_, reflect_reflect, ?_, ?_⟩
  · intro base cutters
    exact (subtract_union base cutters).symm
  · intro l cut
    exact ⟨subtract_disjoint_intersect l cut, merge_subtract_intersect l cut⟩
  · intro axis parts
    rw [← Shape.compileAll_eq_map]
    exact union_reflect axis (Shape.compileAll parts)

end Offsets

end Boardcraft
