/-!
# Text

Text as documents hold it: a list of code points.  A document may write half of a surrogate pair
where its other half is missing.  Such a half is no character, yet it is kept, compared and quoted
like one, so that text has code points of two kinds.

## Contents

The two types with the embedding of strings, the order by code points, and the operations on text
that need no knowledge of scripts: joining, splitting and replacing.

## Main statements

* `CodePoint.value_ofNat` says that a code point is read from its own number;
* `Text.string?_ofString` says that text without halves is a string;
* `Text.intercalate_split` says that the parts of a text, joined by what parted them, are the text.
-/

namespace Boardcraft

/-! ## Code points -/

/-- A code point: a character, or half of a surrogate pair that stands without the other half,
counted from the first of the high halves. -/
inductive CodePoint where
  | char (c : Char)
  | half (n : Fin 0x800)
  deriving DecidableEq, Inhabited, Repr

namespace CodePoint

instance : Coe Char CodePoint := ⟨char⟩

def firstHalf : Nat := 0xD800

def value : CodePoint → Nat
  | char c => c.toNat
  | half n => firstHalf + n

def ofNat (n : Nat) : CodePoint :=
  if h : n - firstHalf < 0x800 ∧ firstHalf ≤ n then half ⟨n - firstHalf, h.1⟩
  else char (Char.ofNat n)

theorem value_ofNat {n : Nat} (h : n < 0x110000) : (ofNat n).value = n := by
  unfold ofNat
  split
  · next h' =>
      change firstHalf + (n - firstHalf) = n
      omega
  · next h' =>
      have hv : n.isValidChar := by
        simp only [firstHalf] at h'
        simp only [Nat.isValidChar]
        omega
      change (Char.ofNat n).toNat = n
      rw [Char.ofNat, dif_pos hv]
      rfl

/-- The character that a code point is, if it is one. -/
def char? : CodePoint → Option Char
  | char c => some c
  | half _ => none

/-- The character that a code point is; the replacement character for a half. -/
def shown : CodePoint → Char
  | char c => c
  | half _ => '\ufffd'

end CodePoint

/-! ## Text -/

@[ext] structure Text where
  points : List CodePoint
  deriving DecidableEq, Inhabited, Repr

namespace Text

def ofChars (cs : List Char) : Text := ⟨cs.map .char⟩

def ofString (s : String) : Text := ofChars s.toList

instance : Coe String Text := ⟨ofString⟩

def string? (t : Text) : Option String := (t.points.mapM CodePoint.char?).map String.ofList

theorem mapM_char?_map (cs : List Char) :
    (cs.map CodePoint.char).mapM CodePoint.char? = some cs := by
  induction cs with
  | nil => rfl
  | cons c rest ih =>
      rw [List.map_cons, List.mapM_cons, ih]
      rfl

@[simp] theorem string?_ofString (s : String) : (ofString s).string? = some s := by
  rw [string?, ofString, ofChars, mapM_char?_map]
  simp

theorem eq_of_mapM_char? {points : List CodePoint} {cs : List Char}
    (h : points.mapM CodePoint.char? = some cs) : points = cs.map CodePoint.char := by
  induction points generalizing cs with
  | nil =>
      cases h
      rfl
  | cons point rest ih =>
      rw [List.mapM_cons] at h
      cases point with
      | half n => cases h
      | char c =>
          cases hrest : rest.mapM CodePoint.char? with
          | none =>
              rw [hrest] at h
              cases h
          | some cs' =>
              rw [hrest] at h
              cases h
              rw [ih hrest, List.map_cons]

theorem string?_eq_some_iff {t : Text} {s : String} : t.string? = some s ↔ t = s := by
  constructor
  · intro h
    rcases Option.map_eq_some_iff.1 h with ⟨cs, hcs, rfl⟩
    ext1
    rw [eq_of_mapM_char? hcs, ofString, ofChars, String.toList_ofList]
  · rintro rfl
    exact string?_ofString s

theorem ofString_inj {s s' : String} : ofString s = ofString s' ↔ s = s' := by
  constructor
  · intro h
    have h' := congrArg string? h
    simpa using h'
  · rintro rfl
    rfl

/-- The string that shows a text where nothing but characters can be shown. -/
def shown (t : Text) : String := String.ofList (t.points.map CodePoint.shown)

/-- Text is ordered by the numbers of its code points, earlier ones first. -/
instance : Ord Text := ⟨compareOn fun t => t.points.map CodePoint.value⟩

instance : Std.TransOrd Text :=
  inferInstanceAs (Std.TransCmp (compareOn fun t : Text => t.points.map CodePoint.value))

/-- Whether a text comes no later than another in order. -/
def le (a b : Text) : Bool := (compare a b).isLE

/-! ## Joining -/

instance : Append Text := ⟨fun a b => ⟨a.points ++ b.points⟩⟩

@[simp] theorem points_append (a b : Text) : (a ++ b).points = a.points ++ b.points := rfl

theorem ofString_append (s s' : String) : ofString (s ++ s') = ofString s ++ ofString s' := by
  ext1
  simp [ofString, ofChars]

/-- Texts one after the other with a text between any two neighbours. -/
def intercalate (between : Text) (ts : List Text) : Text :=
  ⟨between.points.intercalate (ts.map points)⟩

/-! ## Taking apart -/

def isEmpty (t : Text) : Bool := t.points.isEmpty

/-- The parts of a list of code points between those that are the given one. -/
def splitPoints (mark : CodePoint) : List CodePoint → List (List CodePoint)
  | [] => [[]]
  | c :: rest =>
      if c = mark then [] :: splitPoints mark rest
      else
        match splitPoints mark rest with
        | [] => [[c]]
        | part :: parts => (c :: part) :: parts

def split (t : Text) (mark : CodePoint) : List Text := (splitPoints mark t.points).map Text.mk

theorem splitPoints_ne_nil (mark : CodePoint) (cs : List CodePoint) :
    splitPoints mark cs ≠ [] := by
  cases cs with
  | nil => simp [splitPoints]
  | cons c rest =>
      simp only [splitPoints]
      split
      · simp
      · split <;> simp

/-- The parts of a list, joined by what parted them, are the list. -/
theorem intercalate_splitPoints (mark : CodePoint) (cs : List CodePoint) :
    [mark].intercalate (splitPoints mark cs) = cs := by
  induction cs with
  | nil => rfl
  | cons c rest ih =>
      have hne := splitPoints_ne_nil mark rest
      simp only [splitPoints]
      split
      · next h =>
          subst h
          cases h' : splitPoints c rest with
          | nil => exact absurd h' hne
          | cons part parts =>
              rw [h'] at ih
              simp only [List.intercalate, List.intersperse] at ih ⊢
              simp [ih]
      · cases h' : splitPoints mark rest with
        | nil => exact absurd h' hne
        | cons part parts =>
            rw [h'] at ih
            cases parts <;> simp_all [List.intercalate, List.intersperse]

theorem intercalate_split (t : Text) (mark : CodePoint) :
    intercalate ⟨[mark]⟩ (t.split mark) = t := by
  ext1
  simp [intercalate, split, Function.comp_def, intercalate_splitPoints]

def endsWith (t ending : Text) : Bool := ending.points.isSuffixOf t.points

def dropEnd (t : Text) (n : Nat) : Text := ⟨t.points.take (t.points.length - n)⟩

def replace (t : Text) (old new : CodePoint) : Text :=
  ⟨t.points.map fun c => if c = old then new else c⟩

end Text

end Boardcraft
