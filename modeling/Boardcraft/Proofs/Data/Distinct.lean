import Boardcraft.Shape.Offsets
import Mathlib.Data.List.Basic

/-!
# Lists without repetitions

Dropping repetitions from a list keeps the first occurrence of each member.  So it commutes with
whatever looks at members one by one, and what is left stands in the order of first appearance.

The look-up in a set of members seen so far ends with `distinctFrom_eq_filter`; all else goes by
`distinct_cons`.
-/

namespace Boardcraft

section Distinct

variable {α : Type} [Ord α]

theorem distinct_cons_eq_distinctFrom (b : α) (l : List α) :
    distinct (b :: l) = b :: distinctFrom ((∅ : Std.TreeSet α).insert b) l := by
  rw [distinct, distinctFrom, if_neg]
  simp

variable [Std.TransOrd α] [Std.LawfulEqOrd α] [DecidableEq α]

/-- By induction on the list, for all sets at once: the head of a list is seen by what follows. -/
theorem distinctFrom_eq_filter (seen : Std.TreeSet α) (l : List α) :
    distinctFrom seen l = (distinct l).filter fun a => a ∉ seen := by
  induction l generalizing seen with
  | nil => rfl
  | cons b rest ih =>
      rw [distinct_cons_eq_distinctFrom, ih, distinctFrom]
      split
      · next hseen =>
          have hb : b ∈ seen := hseen
          rw [ih, List.filter_cons_of_neg (by simp [hb]), List.filter_filter]
          apply List.filter_congr
          intro a _
          by_cases hba : b = a
          · subst hba
            simp [hb]
          · simp [hba]
      · next hunseen =>
          have hb : b ∉ seen := hunseen
          rw [ih, List.filter_cons_of_pos (by simp [hb]), List.filter_filter]
          congr 1
          apply List.filter_congr
          intro a _
          by_cases hba : b = a <;> simp [hba]

theorem distinct_cons (b : α) (l : List α) :
    distinct (b :: l) = b :: (distinct l).filter fun a => b ≠ a := by
  rw [distinct_cons_eq_distinctFrom, distinctFrom_eq_filter]
  simp

/-- Members are kept or dropped before or after repetitions are. -/
theorem distinct_filter (p : α → Bool) (l : List α) :
    distinct (l.filter p) = (distinct l).filter p := by
  induction l with
  | nil => rfl
  | cons b rest ih =>
      rw [distinct_cons]
      cases hb : p b with
      | true =>
          rw [List.filter_cons_of_pos hb, List.filter_cons_of_pos hb, distinct_cons, ih,
            List.filter_comm]
      | false =>
          have hdrop : ¬ p b = true := Bool.eq_false_iff.1 hb
          rw [List.filter_cons_of_neg hdrop, List.filter_cons_of_neg hdrop, ih, List.filter_filter]
          apply List.filter_congr
          intro a _
          by_cases hba : b = a
          · simp [← hba, hb]
          · simp [hba]

/-- What follows a list adds the members that the list does not have. -/
theorem distinct_append (l l' : List α) :
    distinct (l ++ l') = distinct l ++ (distinct l').filter fun a => a ∉ l := by
  induction l with
  | nil => simp [distinct, distinctFrom]
  | cons b rest ih =>
      rw [List.cons_append, distinct_cons, distinct_cons, ih, List.filter_append,
        List.filter_filter, List.cons_append]
      congr 2
      apply List.filter_congr
      intro a _
      simp [eq_comm]

theorem distinct_append_of_subset {l l' : List α} (h : l' ⊆ l) :
    distinct (l ++ l') = distinct l := by
  have hnothing : (distinct l').filter (fun a => a ∉ l) = [] := by
    apply List.filter_eq_nil_iff.2
    intro a ha
    simp [h (mem_distinct.1 ha)]
  rw [distinct_append, hnothing, List.append_nil]

theorem distinct_distinct_append (l l' : List α) :
    distinct (distinct l ++ l') = distinct (l ++ l') := by
  rw [distinct_append, distinct_append, distinct_of_nodup (nodup_distinct l)]
  simp only [mem_distinct]

theorem pairwise_distinct (l : List α) :
    (distinct l).Pairwise fun a a' => l.idxOf a < l.idxOf a' := by
  induction l with
  | nil => exact .nil
  | cons b rest ih =>
      rw [distinct_cons]
      have hne : ∀ a ∈ (distinct rest).filter fun a => b ≠ a, b ≠ a := by
        intro a ha
        exact of_decide_eq_true (List.mem_filter.1 ha).2
      apply List.pairwise_cons.2
      constructor
      · intro a ha
        rw [List.idxOf_cons_self, List.idxOf_cons_ne rest (hne a ha)]
        exact Nat.succ_pos _
      · apply List.Pairwise.imp_of_mem _ (ih.filter _)
        intro a a' ha ha' hlt
        rw [List.idxOf_cons_ne rest (hne a ha), List.idxOf_cons_ne rest (hne a' ha')]
        exact Nat.succ_lt_succ hlt

end Distinct

end Boardcraft
