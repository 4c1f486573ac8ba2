import Mathlib.Data.List.Infix

/-!
# Initial parts of lists

Whoever goes through a list until something happens goes through an initial part of it: the shortest
after which it has happened, or the whole list where it never does.
-/

namespace Boardcraft

variable {α : Type}

/-- An initial part of a list that is the shortest to have a property, or the whole list where no
initial part has it. -/
structure ShortestInitial (Stops : List α → Prop) (p l : List α) : Prop where
  initial : p <+: l
  stops_or_whole : Stops p ∨ p = l
  shortest : ∀ q, q <+: p → Stops q → q = p

namespace ShortestInitial

variable {Stops : List α → Prop} {p p' l : List α}

theorem eq_of_initial (h : ShortestInitial Stops p l) (h' : ShortestInitial Stops p' l)
    (hinitial : p <+: p') : p = p' := by
  rcases h.stops_or_whole with hstops | hwhole
  · exact h'.shortest p hinitial hstops
  · apply hinitial.eq_of_length_le
    rw [hwhole]
    exact h'.initial.length_le

theorem unique (h : ShortestInitial Stops p l) (h' : ShortestInitial Stops p' l) : p = p' := by
  rcases List.prefix_or_prefix_of_prefix h.initial h'.initial with hinitial | hinitial
  · exact h.eq_of_initial h' hinitial
  · exact (h'.eq_of_initial h hinitial).symm

/-- Where nothing is needed, nothing is taken. -/
theorem nil_of_stops (h : Stops []) (l : List α) : ShortestInitial Stops [] l := by
  refine ⟨List.nil_prefix, Or.inl h, ?_⟩
  intro q hq _
  exact List.prefix_nil.1 hq

theorem nil : ShortestInitial Stops [] [] := by
  refine ⟨List.nil_prefix, Or.inr rfl, ?_⟩
  intro q hq _
  exact List.prefix_nil.1 hq

/-- Where something is needed, the first member is taken, and then it depends on the rest. -/
theorem cons {x : α} (hgo : ¬ Stops []) (h : ShortestInitial (fun q => Stops (x :: q)) p l) :
    ShortestInitial Stops (x :: p) (x :: l) := by
  constructor
  · exact List.prefix_cons_inj x |>.2 h.initial
  · rcases h.stops_or_whole with hstops | hwhole
    · exact Or.inl hstops
    · exact Or.inr (congrArg (x :: ·) hwhole)
  · intro q hq hstops
    cases q with
    | nil => exact absurd hstops hgo
    | cons y q' =>
        rcases List.cons_prefix_cons.1 hq with ⟨rfl, hq'⟩
        rw [h.shortest q' hq' hstops]

end ShortestInitial
end Boardcraft
