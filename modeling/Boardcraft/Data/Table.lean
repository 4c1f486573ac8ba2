/-!
# Ordered tables

A table binds every key to at most one value and remembers the order in which its keys were first
bound.  Binding a key again changes the value and keeps the place; a key that was erased and is
bound again comes last.

## Main statements

* `find?_insert` and `find?_erase` say what look-up answers after each change;
* `keys_insert` and `keys_erase` say what each change does to the order of the keys.
-/

namespace Boardcraft

universe u v

/-- Key-value pairs in order, with no key twice. -/
structure Table (κ : Type u) (α : Type v) where
  entries : List (κ × α)
  nodup_keys : (entries.map Prod.fst).Nodup

namespace Table

variable {κ : Type u} {α : Type v}

def empty : Table κ α := ⟨[], List.nodup_nil⟩

instance : Inhabited (Table κ α) := ⟨empty⟩

instance : EmptyCollection (Table κ α) := ⟨empty⟩

def keys (t : Table κ α) : List κ := t.entries.map Prod.fst

def values (t : Table κ α) : List α := t.entries.map Prod.snd

def size (t : Table κ α) : Nat := t.entries.length

theorem nodup (t : Table κ α) : t.keys.Nodup := t.nodup_keys

section Lookup

variable [DecidableEq κ]

/-- The value of a key in a list of pairs: that of its first pair. -/
def lookupIn (k : κ) : List (κ × α) → Option α
  | [] => none
  | (k', a) :: rest => if k' = k then some a else lookupIn k rest

def find? (t : Table κ α) (k : κ) : Option α := lookupIn k t.entries

def contains (t : Table κ α) (k : κ) : Bool := (t.find? k).isSome

/-- The pairs of a list after a key is bound: in place if it occurs, else at the end. -/
def insertIn (k : κ) (a : α) : List (κ × α) → List (κ × α)
  | [] => [(k, a)]
  | (k', a') :: rest => if k' = k then (k, a) :: rest else (k', a') :: insertIn k a rest

theorem keys_insertIn (k : κ) (a : α) (l : List (κ × α)) :
    (insertIn k a l).map Prod.fst =
      if k ∈ l.map Prod.fst then l.map Prod.fst else l.map Prod.fst ++ [k] := by
  induction l with
  | nil => simp [insertIn]
  | cons e rest ih =>
      obtain ⟨k', a'⟩ := e
      by_cases h : k' = k
      · simp [insertIn, h]
      · have h' : k ≠ k' := fun e => h e.symm
        simp only [insertIn, h, if_false, List.map_cons, ih, List.mem_cons, h', false_or]
        split <;> simp

theorem nodup_insertIn (k : κ) (a : α) (l : List (κ × α)) (h : (l.map Prod.fst).Nodup) :
    ((insertIn k a l).map Prod.fst).Nodup := by
  rw [keys_insertIn]
  split
  · exact h
  · next hk =>
      rw [List.nodup_append]
      refine ⟨h, by simp, ?_⟩
      intro x hx y hy e
      simp only [List.mem_singleton] at hy
      exact hk (hy ▸ e ▸ hx)

def insert (t : Table κ α) (k : κ) (a : α) : Table κ α :=
  ⟨insertIn k a t.entries, nodup_insertIn k a t.entries t.nodup_keys⟩

def erase (t : Table κ α) (k : κ) : Table κ α :=
  ⟨t.entries.filter fun e => e.1 ≠ k,
    t.nodup_keys.sublist (List.filter_sublist.map Prod.fst)⟩

def ofList (l : List (κ × α)) : Table κ α :=
  l.foldl (fun t e => t.insert e.1 e.2) empty

/-! ## Looking up after a change -/

theorem lookupIn_insertIn (k k' : κ) (a : α) (l : List (κ × α)) :
    lookupIn k' (insertIn k a l) = if k = k' then some a else lookupIn k' l := by
  induction l with
  | nil => simp [insertIn, lookupIn]
  | cons e rest ih =>
      obtain ⟨k₀, a₀⟩ := e
      by_cases h : k₀ = k
      · subst h
        simp only [insertIn, if_true, lookupIn]
        split <;> rfl
      · simp only [insertIn, h, if_false, lookupIn, ih]
        by_cases hk : k = k'
        · subst hk
          simp [h]
        · simp [hk]

@[simp] theorem find?_empty (k : κ) : (empty : Table κ α).find? k = none := rfl

theorem find?_insert (t : Table κ α) (k k' : κ) (a : α) :
    (t.insert k a).find? k' = if k = k' then some a else t.find? k' :=
  lookupIn_insertIn k k' a t.entries

theorem find?_erase (t : Table κ α) (k k' : κ) :
    (t.erase k).find? k' = if k = k' then none else t.find? k' := by
  simp only [find?, erase]
  induction t.entries with
  | nil => simp [lookupIn]
  | cons e rest ih =>
      obtain ⟨k₀, a₀⟩ := e
      by_cases h : k₀ = k
      · subst h
        simp only [ne_eq, not_true, decide_false, Bool.false_eq_true, not_false_eq_true,
          List.filter_cons_of_neg, ih, lookupIn]
        split <;> rfl
      · simp only [ne_eq, h, not_false_eq_true, decide_true, List.filter_cons_of_pos, lookupIn, ih]
        by_cases hk : k = k'
        · subst hk
          simp [h]
        · simp [hk]

theorem keys_insert (t : Table κ α) (k : κ) (a : α) :
    (t.insert k a).keys = if k ∈ t.keys then t.keys else t.keys ++ [k] :=
  keys_insertIn k a t.entries

theorem keys_erase (t : Table κ α) (k : κ) :
    (t.erase k).keys = t.keys.filter fun k' => k' ≠ k := by
  simp only [keys, erase]
  induction t.entries with
  | nil => rfl
  | cons e rest ih =>
      simp only [List.filter_cons, List.map_cons]
      split <;> simp_all

end Lookup

end Table

end Boardcraft
