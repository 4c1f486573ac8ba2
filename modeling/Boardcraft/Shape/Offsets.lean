import Boardcraft.Grid.Square
import Boardcraft.Text.Basic
import Std.Data.TreeSet.Lemmas

/-!
# Ordered sets of offsets

Lists of offsets in which no offset occurs twice, and the operations that combine them.  Every
operation keeps a definite order: that of first appearance in a union and in a reflection, that of
the first list elsewhere.
-/

namespace Boardcraft

section Distinct

variable {α : Type} [Ord α]

/-- The members of a list that are not in a set, each once, in the order of first appearance. -/
def distinctFrom (seen : Std.TreeSet α) : List α → List α
  | [] => []
  | a :: rest =>
      if seen.contains a then distinctFrom seen rest else a :: distinctFrom (seen.insert a) rest

/-- The members of a list, each once, in the order of first appearance. -/
def distinct (l : List α) : List α := distinctFrom ∅ l

variable [Std.TransOrd α] [Std.LawfulEqOrd α]

theorem mem_distinctFrom {a : α} {seen : Std.TreeSet α} {l : List α} :
    a ∈ distinctFrom seen l ↔ a ∈ l ∧ a ∉ seen := by
  induction l generalizing seen with
  | nil => simp [distinctFrom]
  | cons b rest ih =>
      simp only [distinctFrom]
      split
      · next h =>
          have hb : b ∈ seen := h
          rw [ih, List.mem_cons]
          constructor
          · exact fun ⟨h₁, h₂⟩ => ⟨.inr h₁, h₂⟩
          · rintro ⟨rfl | h₁, h₂⟩
            · exact absurd hb h₂
            · exact ⟨h₁, h₂⟩
      · next h =>
          have hb : b ∉ seen := h
          rw [List.mem_cons, ih, Std.TreeSet.mem_insert, Std.LawfulEqCmp.compare_eq_iff_eq,
            List.mem_cons]
          by_cases e : a = b
          · subst e
            simp [hb]
          · have e' : b ≠ a := fun h => e h.symm
            simp [e, e']

theorem nodup_distinctFrom (seen : Std.TreeSet α) (l : List α) : (distinctFrom seen l).Nodup := by
  induction l generalizing seen with
  | nil => exact List.nodup_nil
  | cons b rest ih =>
      simp only [distinctFrom]
      split
      · exact ih seen
      · rw [List.nodup_cons, mem_distinctFrom]
        exact ⟨fun h => h.2 Std.TreeSet.mem_insert_self, ih _⟩

theorem distinctFrom_of_nodup {seen : Std.TreeSet α} {l : List α} (h : l.Nodup)
    (hs : ∀ a ∈ l, a ∉ seen) : distinctFrom seen l = l := by
  induction l generalizing seen with
  | nil => rfl
  | cons b rest ih =>
      have h' := List.nodup_cons.1 h
      have hb : seen.contains b = false := Bool.eq_false_iff.2 (hs b (by simp))
      simp only [distinctFrom, hb, Bool.false_eq_true, if_false, List.cons.injEq, true_and]
      refine ih h'.2 fun a ha => ?_
      rw [Std.TreeSet.mem_insert, Std.LawfulEqCmp.compare_eq_iff_eq]
      rintro (rfl | hm)
      · exact h'.1 ha
      · exact hs a (by simp [ha]) hm

@[simp] theorem mem_distinct {a : α} {l : List α} : a ∈ distinct l ↔ a ∈ l := by
  simp [distinct, mem_distinctFrom]

theorem nodup_distinct (l : List α) : (distinct l).Nodup := nodup_distinctFrom ∅ l

theorem distinct_of_nodup {l : List α} (h : l.Nodup) : distinct l = l :=
  distinctFrom_of_nodup h fun _ _ => by simp

end Distinct

inductive Axis where
  | horizontal
  | vertical
  | both
  deriving DecidableEq, Inhabited, Repr

namespace Axis

def all : List Axis := [horizontal, vertical, both]

def word : Axis → String
  | horizontal => "horizontal"
  | vertical => "vertical"
  | both => "both"

def ofWord? (word : Text) : Option Axis := all.find? fun a => a.word == word

def words : String := ",".intercalate (all.map word)

/-- The mirror images that a reflection adds for one offset: a horizontal one changes east and
west, a vertical one north and south, and both together add the half turn as well. -/
def images : Axis → Square → List Square
  | horizontal, s => [s.flipX]
  | vertical, s => [s.flipY]
  | both, s => [s.flipX, s.flipY, s.halfTurn]

end Axis

namespace Offsets

def union (lists : List (List Square)) : List Square := distinct lists.flatten

/-- The set of the offsets of a list, for look-up. -/
def members (l : List Square) : Std.TreeSet Square := .ofList l

theorem contains_members (l : List Square) (s : Square) :
    (members l).contains s = l.contains s :=
  Std.TreeSet.contains_ofList

def intersect : List (List Square) → List Square
  | [] => []
  | first :: others =>
      let sets := others.map members
      distinct (first.filter fun s => sets.all fun set => set.contains s)

def subtract (base : List Square) (cutters : List (List Square)) : List Square :=
  let cut := members cutters.flatten
  distinct (base.filter fun s => !cut.contains s)

theorem mem_union {lists : List (List Square)} {s : Square} :
    s ∈ union lists ↔ ∃ l ∈ lists, s ∈ l := by
  simp [union]

theorem mem_intersect {first : List Square} {others : List (List Square)} {s : Square} :
    s ∈ intersect (first :: others) ↔ s ∈ first ∧ ∀ l ∈ others, s ∈ l := by
  simp [intersect, contains_members]

theorem mem_subtract {base : List Square} {cutters : List (List Square)} {s : Square} :
    s ∈ subtract base cutters ↔ s ∈ base ∧ ∀ l ∈ cutters, s ∉ l := by
  simp [subtract, contains_members]

def reflect (axis : Axis) (offsets : List Square) : List Square :=
  distinct (offsets ++ offsets.flatMap axis.images)

/-- The mirror images of offsets for a piece that faces south. -/
def flipVertical (offsets : List Square) : List Square := offsets.map Square.flipY

end Offsets

end Boardcraft
