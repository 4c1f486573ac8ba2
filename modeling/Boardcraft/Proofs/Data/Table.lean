import Boardcraft.Data.Table
import Mathlib.Data.List.Nodup

/-!
# The members of a table

Look-up says which pairs a table holds.  Here the other views of a table are read off from it: the
pairs themselves, the list of values in their order, and how an insertion or an erasure changes
that list.  The images of a table under a renaming of its keys and under a function on its values
are built up by the same changes as the table itself.
-/

namespace Boardcraft
namespace Table

universe u v

variable {κ : Type u} {α : Type v} [DecidableEq κ]

/-!
## Pairs
-/

theorem lookupIn_eq_some_iff {k : κ} {a : α} {l : List (κ × α)}
    (hnodup : (l.map Prod.fst).Nodup) : lookupIn k l = some a ↔ (k, a) ∈ l := by
  induction l with
  | nil => simp [lookupIn]
  | cons e rest ih =>
      rcases e with ⟨k', a'⟩
      rw [List.map_cons, List.nodup_cons] at hnodup
      rw [lookupIn, List.mem_cons]
      by_cases hk : k' = k
      · subst hk
        rw [if_pos rfl]
        constructor
        · intro h
          injection h with h
          exact Or.inl (by rw [h])
        · intro h
          rcases h with h | h
          · injection h with _ h
            rw [h]
          · exact absurd (List.mem_map_of_mem h) hnodup.1
      · rw [if_neg hk, ih hnodup.2]
        constructor
        · exact Or.inr
        · intro h
          rcases h with h | h
          · injection h with h _
            exact absurd h.symm hk
          · exact h

theorem find?_eq_some_iff {t : Table κ α} {k : κ} {a : α} :
    t.find? k = some a ↔ (k, a) ∈ t.entries :=
  lookupIn_eq_some_iff t.nodup_keys

theorem mem_values_iff {t : Table κ α} {a : α} : a ∈ t.values ↔ ∃ k, t.find? k = some a := by
  rw [values, List.mem_map]
  constructor
  · intro h
    rcases h with ⟨⟨k, a'⟩, he, ha⟩
    cases ha
    exact ⟨k, find?_eq_some_iff.2 he⟩
  · intro h
    rcases h with ⟨k, hk⟩
    exact ⟨(k, a), find?_eq_some_iff.1 hk, rfl⟩

theorem contains_eq_false_iff {t : Table κ α} {k : κ} :
    t.contains k = false ↔ t.find? k = none := by
  rw [contains, Option.isSome_eq_false_iff, Option.isNone_iff_eq_none]

theorem find?_insert_self (t : Table κ α) (k : κ) (a : α) :
    (t.insert k a).find? k = some a := by
  rw [find?_insert, if_pos rfl]

theorem find?_insert_of_ne (t : Table κ α) {k k' : κ} (a : α) (h : k ≠ k') :
    (t.insert k a).find? k' = t.find? k' := by
  rw [find?_insert, if_neg h]

/-!
## Values
-/

/-- A value that determines its key stands in the table once. -/
theorem nodup_values {t : Table κ α}
    (h : ∀ k k' a, t.find? k = some a → t.find? k' = some a → k = k') : t.values.Nodup := by
  have hentries : t.entries.Nodup := List.Nodup.of_map Prod.fst t.nodup_keys
  refine List.Nodup.map_on ?_ hentries
  intro e he e' he' hvalue
  rcases e with ⟨k, a⟩
  rcases e' with ⟨k', a'⟩
  have haa : a = a' := hvalue
  subst haa
  rw [h k k' a (find?_eq_some_iff.2 he) (find?_eq_some_iff.2 he')]

theorem insertIn_of_lookupIn_eq_none {k : κ} {a : α} {l : List (κ × α)}
    (h : lookupIn k l = none) : insertIn k a l = l ++ [(k, a)] := by
  induction l with
  | nil => rfl
  | cons e rest ih =>
      rcases e with ⟨k', a'⟩
      rw [lookupIn] at h
      by_cases hk : k' = k
      · rw [if_pos hk] at h
        cases h
      · rw [if_neg hk] at h
        rw [insertIn, if_neg hk, ih h]
        rfl

theorem values_insert_of_find?_eq_none {t : Table κ α} {k : κ} (a : α)
    (h : t.find? k = none) : (t.insert k a).values = t.values ++ [a] := by
  show (insertIn k a t.entries).map Prod.snd = t.values ++ [a]
  rw [insertIn_of_lookupIn_eq_none h, List.map_append]
  rfl

theorem perm_values_erase {t : Table κ α} {k : κ} {a : α} (h : t.find? k = some a) :
    t.values.Perm (a :: (t.erase k).values) := by
  have hentries : t.entries.Perm ((k, a) :: t.entries.filter fun e => e.1 ≠ k) := by
    refine (List.perm_ext_iff_of_nodup (List.Nodup.of_map Prod.fst t.nodup_keys) ?_).2 ?_
    · rw [List.nodup_cons, List.mem_filter]
      refine ⟨?_, (List.Nodup.of_map Prod.fst t.nodup_keys).filter _⟩
      intro hmem
      simp at hmem
    · intro e
      rcases e with ⟨k', a'⟩
      rw [List.mem_cons, List.mem_filter]
      constructor
      · intro he
        by_cases hk : k' = k
        · subst hk
          have hfind := find?_eq_some_iff.2 he
          rw [h] at hfind
          injection hfind with ha
          exact Or.inl (by rw [ha])
        · exact Or.inr ⟨he, by simpa using hk⟩
      · intro he
        rcases he with he | he
        · rw [he]
          exact find?_eq_some_iff.1 h
        · exact he.1
  exact hentries.map Prod.snd

/-!
## Images
-/

section Images

universe w

variable {β : Type w}

omit [DecidableEq κ] in
theorem ext_entries {t t' : Table κ α} (h : t.entries = t'.entries) : t = t' := by
  cases t
  cases t'
  cases h
  rfl

def mapValues (f : α → β) (t : Table κ α) : Table κ β where
  entries := t.entries.map fun e => (e.1, f e.2)
  nodup_keys := by
    rw [List.map_map]
    exact t.nodup_keys

theorem find?_mapValues (f : α → β) (t : Table κ α) (k : κ) :
    (t.mapValues f).find? k = (t.find? k).map f := by
  unfold find? mapValues
  dsimp only
  induction t.entries with
  | nil => rfl
  | cons e rest ih =>
      rw [List.map_cons, lookupIn, lookupIn, ih]
      split <;> rfl

theorem mapValues_insert (f : α → β) (t : Table κ α) (k : κ) (a : α) :
    (t.insert k a).mapValues f = (t.mapValues f).insert k (f a) := by
  apply ext_entries
  show (insertIn k a t.entries).map _ = insertIn k (f a) (t.entries.map _)
  induction t.entries with
  | nil => rfl
  | cons e rest ih =>
      rw [insertIn, List.map_cons, insertIn]
      split
      · rfl
      · rw [List.map_cons, ih]

def mapKeys (f : κ → κ) (hf : Function.Injective f) (t : Table κ α) : Table κ α where
  entries := t.entries.map fun e => (f e.1, e.2)
  nodup_keys := by
    rw [List.map_map]
    have hkeys : (t.entries.map Prod.fst).map f = t.entries.map (Prod.fst ∘ fun e => (f e.1, e.2)) :=
      List.map_map
    rw [← hkeys]
    exact t.nodup_keys.map hf

section Renaming

variable {f : κ → κ} (hf : Function.Injective f) (t : Table κ α)

theorem find?_mapKeys (k : κ) : (t.mapKeys f hf).find? (f k) = t.find? k := by
  unfold find? mapKeys
  dsimp only
  induction t.entries with
  | nil => rfl
  | cons e rest ih =>
      rw [List.map_cons, lookupIn, lookupIn, ih]
      by_cases h : e.1 = k
      · rw [if_pos h, if_pos (congrArg f h)]
      · rw [if_neg h, if_neg fun heq => h (hf heq)]

theorem contains_mapKeys (k : κ) : (t.mapKeys f hf).contains (f k) = t.contains k := by
  unfold contains
  rw [find?_mapKeys]

theorem mapKeys_insert (k : κ) (a : α) :
    (t.insert k a).mapKeys f hf = (t.mapKeys f hf).insert (f k) a := by
  apply ext_entries
  show (insertIn k a t.entries).map _ = insertIn (f k) a (t.entries.map _)
  induction t.entries with
  | nil => rfl
  | cons e rest ih =>
      rw [insertIn, List.map_cons, insertIn]
      by_cases h : e.1 = k
      · rw [if_pos h, if_pos (congrArg f h), List.map_cons]
      · rw [if_neg h, if_neg fun heq => h (hf heq), List.map_cons, ih]

theorem mapKeys_erase (k : κ) : (t.erase k).mapKeys f hf = (t.mapKeys f hf).erase (f k) := by
  apply ext_entries
  show (t.entries.filter _).map _ = (t.entries.map _).filter _
  rw [List.filter_map]
  refine congrArg _ (List.filter_congr fun e _ => ?_)
  exact decide_eq_decide.2 (not_congr hf.eq_iff.symm)

omit [DecidableEq κ] in
theorem values_mapKeys : (t.mapKeys f hf).values = t.values := by
  unfold values mapKeys
  dsimp only
  rw [List.map_map]
  rfl

omit [DecidableEq κ] in
theorem size_mapKeys : (t.mapKeys f hf).size = t.size := List.length_map _

end Renaming

end Images

end Table
end Boardcraft
