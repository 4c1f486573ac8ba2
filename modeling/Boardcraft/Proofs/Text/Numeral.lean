import Boardcraft.Proofs.Grid.Walk
import Boardcraft.Text.Numeral

/-!
# Numbers that are read can be written

A numeral has no more digits than the limit allows, and no digit counts for more than nine.  So
whatever number is read from a text has a numeral itself, and squares between two squares that are
written down can be written as well.

## Main statements

* `isWritable_of_readInt?` and `Square.isWritable_of_mem_between`.
-/

namespace Boardcraft
namespace Text

theorem digit?_le {c : CodePoint} {d : Nat} (h : digit? c = some d) : d ≤ 9 := by
  rcases Option.map_eq_some_iff.1 h with ⟨first, hfirst, rfl⟩
  have hrange := List.find?_some hfirst
  rw [Bool.and_eq_true, decide_eq_true_eq, decide_eq_true_eq] at hrange
  omega

theorem digits_le {fresh : Bool} {cs : List CodePoint} {digits : List Nat}
    (h : readDigits? fresh cs = some digits) : ∀ d ∈ digits, d ≤ 9 := by
  induction cs generalizing fresh digits with
  | nil =>
      cases fresh with
      | true => cases h
      | false =>
          cases h
          intro d hd
          cases hd
  | cons c rest ih =>
      rw [readDigits?] at h
      split at h
      · split at h
        · cases h
        · exact ih h
      · split at h
        · next d hdigit =>
            rcases Option.map_eq_some_iff.1 h with ⟨later, hlater, rfl⟩
            exact List.forall_mem_cons.2 ⟨digit?_le hdigit, ih hlater⟩
        · cases h

/-- A row of digits stands for less than the power of ten that has one digit more. -/
theorem ofDigits_lt {digits : List Nat} (h : ∀ d ∈ digits, d ≤ 9) :
    ofDigits digits < Nat.pow 10 digits.length := by
  -- The last digit is taken off, since digits are read from the front.
  induction digits using List.reverseRecOn with
  | nil => exact Nat.one_pos
  | append_singleton front last ih =>
      have hfront := ih fun d hd => h d (List.mem_append_left [last] hd)
      have hlast := h last List.mem_concat_self
      have hstep : ofDigits (front ++ [last]) = 10 * ofDigits front + last :=
        List.foldl_concat _ _ _ _
      have hpow : Nat.pow 10 (front ++ [last]).length = Nat.pow 10 front.length * 10 := by
        rw [List.length_append]
        rfl
      rw [hstep, hpow]
      omega

theorem lt_of_readNat? {cs : List CodePoint} {n : Nat} (h : readNat? cs = some n) :
    n < Nat.pow 10 numeralLimit := by
  unfold readNat? at h
  split at h
  · next digits hdigits =>
      split at h
      · next hlength =>
          cases h
          have hbound := ofDigits_lt (digits_le hdigits)
          generalize numeralLimit = limit at hlength ⊢
          exact hbound.trans_le (Nat.pow_le_pow_right (by decide) hlength)
      · cases h
  · cases h

theorem isWritable_of_readInt? {t : Text} {n : Int} (h : readInt? t = some n) :
    isWritable n = true := by
  have hread : ∃ cs m, readNat? cs = some m ∧ n.natAbs = m := by
    unfold readInt? at h
    split at h
    · rcases Option.map_eq_some_iff.1 h with ⟨m, hm, rfl⟩
      exact ⟨_, m, hm, by rw [Int.natAbs_neg, Int.natAbs_natCast]⟩
    · rcases Option.map_eq_some_iff.1 h with ⟨m, hm, rfl⟩
      exact ⟨_, m, hm, Int.natAbs_natCast m⟩
    · rcases Option.map_eq_some_iff.1 h with ⟨m, hm, rfl⟩
      exact ⟨_, m, hm, Int.natAbs_natCast m⟩
  rcases hread with ⟨cs, m, hm, habs⟩
  exact decide_eq_true (habs ▸ lt_of_readNat? hm)

end Text

theorem Square.isWritable_of_mem_between {a b s : Square} (ha : a.isWritable = true)
    (hb : b.isWritable = true) (hs : s ∈ between a b) : s.isWritable = true := by
  have hbetween := strictlyBetween_of_mem hs
  have hx := hbetween.within_x
  have hy := hbetween.within_y
  unfold isWritable Text.isWritable at ha hb ⊢
  generalize Nat.pow 10 Text.numeralLimit = limit at ha hb ⊢
  rw [Bool.and_eq_true, decide_eq_true_eq, decide_eq_true_eq] at ha hb ⊢
  omega

end Boardcraft
