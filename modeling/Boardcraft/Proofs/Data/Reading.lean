import Mathlib.Data.List.Forall2

/-!
# Readers that may fail

A reader either answers or fails with an error.  What readers one after the other come to is taken
apart and put together here, and so is what a reader makes of a list.
-/

namespace Boardcraft

variable {ε α β : Type}

theorem not_exists_error_iff {m : Except ε α} : (¬ ∃ e, m = .error e) ↔ ∃ a, m = .ok a := by
  cases m with
  | error e => exact iff_of_false (fun h => h ⟨e, rfl⟩) fun ⟨_, h⟩ => by cases h
  | ok a => exact iff_of_true (fun ⟨_, h⟩ => by cases h) ⟨a, rfl⟩

theorem exists_of_bind_eq_ok {m : Except ε α} {f : α → Except ε β} {b : β}
    (h : (m >>= f) = .ok b) : ∃ a, m = .ok a ∧ f a = .ok b := by
  cases m with
  | error e => cases h
  | ok a => exact ⟨a, rfl, h⟩

theorem bind_of_eq_ok {m : Except ε α} {a : α} (h : m = .ok a) (f : α → Except ε β) :
    (m >>= f) = f a := by
  rw [h]
  rfl

theorem bind_eq_error {m : Except ε α} {f : α → Except ε β} {e : ε}
    (h : (m >>= f) = .error e) : m = .error e ∨ ∃ a, m = .ok a ∧ f a = .error e := by
  cases m with
  | error e' =>
      cases h
      exact Or.inl rfl
  | ok a => exact Or.inr ⟨a, rfl, h⟩

theorem mapM_eq_ok_iff {f : α → Except ε β} {l : List α} {l' : List β} :
    l.mapM f = .ok l' ↔ List.Forall₂ (fun a b => f a = .ok b) l l' := by
  induction l generalizing l' with
  | nil =>
      rw [List.mapM_nil, List.forall₂_nil_left_iff]
      constructor
      · intro h
        cases h
        rfl
      · rintro rfl
        rfl
  | cons a rest ih =>
      rw [List.mapM_cons, List.forall₂_cons_left_iff]
      constructor
      · intro h
        rcases exists_of_bind_eq_ok h with ⟨b, hhead, h⟩
        rcases exists_of_bind_eq_ok h with ⟨rest', htail, h⟩
        cases h
        exact ⟨b, rest', hhead, ih.1 htail, rfl⟩
      · rintro ⟨b, rest', hhead, htail, rfl⟩
        rw [bind_of_eq_ok hhead, bind_of_eq_ok (ih.2 htail)]
        rfl

theorem exists_of_mapM_eq_error {f : α → Except ε β} {l : List α} {e : ε}
    (h : l.mapM f = .error e) : ∃ a ∈ l, f a = .error e := by
  induction l with
  | nil => cases h
  | cons a rest ih =>
      rw [List.mapM_cons] at h
      rcases bind_eq_error h with hhead | ⟨b, -, h⟩
      · exact ⟨a, List.mem_cons_self, hhead⟩
      rcases bind_eq_error h with htail | ⟨rest', -, h⟩
      · rcases ih htail with ⟨a', ha', herror⟩
        exact ⟨a', List.mem_cons_of_mem a ha', herror⟩
      · cases h

end Boardcraft
