import Boardcraft.Proofs.Board

/-!
# Requests to a board

A board keeps two records: which piece each square holds, and on which square each piece was put
last.  A game puts a piece on the board once, when it comes into play, and moves it afterwards.  The
board itself can be asked to place any piece on any square, to clear any square and to move whatever
stands on it, in any order, and some of these requests fail.

A piece that is placed while it stands on another square keeps that square as well.  This is the one
way in which the two records come apart: requests that overwrite a piece, place one anew on its own
square, move one onto another or fail all keep them together.

## Main statements

* `Tidy.after` and `keepsApart_of_apart_after` say which requests keep a board tidy;
* `tidy_iff_none_placed_elsewhere` says the same of any number of requests.
-/

namespace Boardcraft

inductive Board.Request where
  | place (piece : PieceNumber) (s : Square)
  | remove (s : Square)
  | move (origin destination : Square)
  deriving DecidableEq, Repr

namespace Board

def Request.carryOut : Request → BoardM Unit
  | place piece s => Board.place piece s
  | remove s => (fun _ => ()) <$> Board.remove s
  | move origin destination => Board.move origin destination

def after (b : Board) (r : Request) : Board :=
  match r.carryOut b with
  | .ok _ b' => b'
  | .error _ b' => b'

def handled (b : Board) (requests : List Request) : Board := requests.foldl after b

def Within (b : Board) : Prop := ∀ s n, b.pieceAt s = some n → b.Holds s

/-- Every occupied square lies on the board and holds a piece that remembers it. -/
structure Tidy (b : Board) : Prop where
  within : b.Within
  square : ∀ s n, b.pieceAt s = some n → b.squareOf n = s

def Apart (b : Board) : Prop :=
  ∀ n s s', b.pieceAt s = some n → b.pieceAt s' = some n → s = s'

/-- Whether a piece stands on no square but one. -/
def standsAtMostOn (b : Board) (piece : PieceNumber) (s : Square) : Bool :=
  b.cells.entries.all fun e => e.2 != piece || e.1 == s

/-- Whether a request does not place a piece on the board that stands on another square of it. -/
def keepsApart (b : Board) : Request → Bool
  | .place piece s => !decide (b.Holds s) || b.standsAtMostOn piece s
  | .remove _ => true
  | .move _ _ => true

/-- Whether each of some requests keeps pieces apart when its turn comes. -/
def allKeepApart : Board → List Request → Bool
  | _, [] => true
  | b, r :: rest => b.keepsApart r && (b.after r).allKeepApart rest

/-! ## One request -/

section Requests

variable {b : Board} {n : PieceNumber} {s : Square}

theorem after_of_eq_ok {b' : Board} {r : Request} (h : r.carryOut b = .ok () b') :
    b.after r = b' := by
  rw [after, h]

theorem after_of_eq_error {b' : Board} {r : Request} {fault : Fault}
    (h : r.carryOut b = .error fault b') : b.after r = b' := by
  rw [after, h]

theorem after_place (b : Board) (n : PieceNumber) (s : Square) :
    b.after (.place n s) = if b.Holds s then b.put n s else b := by
  by_cases hon : b.Holds s
  · rw [if_pos hon]
    exact after_of_eq_ok (place_of_holds hon n)
  · rw [if_neg hon]
    exact after_of_eq_error (place_of_not_holds hon n)

theorem after_remove (b : Board) (s : Square) :
    b.after (.remove s) = if b.Holds s then b.clear s else b := by
  by_cases hon : b.Holds s
  · rw [if_pos hon]
    exact after_of_eq_ok (map_of_eq_ok _ (remove_of_holds hon))
  · rw [if_neg hon]
    exact after_of_eq_error (map_of_eq_error _ (remove_of_not_holds hon))

theorem after_move_of_vacant (h : b.pieceAt s = none) (destination : Square) :
    b.after (.move s destination) = b :=
  after_of_eq_error (move_of_vacant h destination)

theorem after_move_of_pieceAt (h : b.pieceAt s = some n) (destination : Square) :
    b.after (.move s destination) =
      if b.Holds destination then (b.clear s).put n destination else b := by
  by_cases hon : b.Holds destination
  · rw [if_pos hon]
    exact after_of_eq_ok (move_of_pieceAt h hon)
  · rw [if_neg hon]
    exact after_of_eq_error (move_of_not_holds h hon)

theorem standsAtMostOn_iff :
    b.standsAtMostOn n s = true ↔ ∀ s', b.pieceAt s' = some n → s' = s := by
  unfold standsAtMostOn
  rw [List.all_eq_true]
  constructor
  · intro h s' hs'
    have hentry := h (s', n) (Table.find?_eq_some_iff.1 hs')
    simpa using hentry
  · intro h e he
    by_cases hpiece : e.2 = n
    · have hsquare := h e.1 (Table.find?_eq_some_iff.2 (hpiece ▸ he))
      simp [hsquare]
    · simp [hpiece]

theorem keepsApart_place_iff :
    b.keepsApart (.place n s) = true ↔ (b.Holds s → ∀ s', b.pieceAt s' = some n → s' = s) := by
  rw [keepsApart, Bool.or_eq_true, standsAtMostOn_iff, Bool.not_eq_true', decide_eq_false_iff_not]
  exact imp_iff_not_or.symm

/-! ## What keeps a board tidy -/

theorem pieceAt_of_clear {s' : Square} (h : (b.clear s).pieceAt s' = some n) :
    s ≠ s' ∧ b.pieceAt s' = some n := by
  rw [pieceAt_clear] at h
  split at h
  · cases h
  · next hne => exact ⟨hne, h⟩

theorem pieceAt_of_put {m : PieceNumber} {s' : Square} (h : (b.put n s).pieceAt s' = some m) :
    (s = s' ∧ n = m) ∨ (s ≠ s' ∧ b.pieceAt s' = some m) := by
  rw [pieceAt_put] at h
  split at h
  · next heq =>
      injection h with h
      exact Or.inl ⟨heq, h⟩
  · next hne => exact Or.inr ⟨hne, h⟩

theorem Within.clear (h : b.Within) (s : Square) : (b.clear s).Within := by
  intro s' n hs'
  exact h s' n (pieceAt_of_clear hs').2

theorem Within.put (h : b.Within) (n : PieceNumber) (on : b.Holds s) : (b.put n s).Within := by
  intro s' m hs'
  rcases pieceAt_of_put hs' with ⟨rfl, -⟩ | ⟨-, hs'⟩
  · exact on
  · exact h s' m hs'

/-- Whether tidy or not, a board holds pieces on its own squares only. -/
theorem Within.after (h : b.Within) (r : Request) : (b.after r).Within := by
  cases r with
  | place n s =>
      rw [after_place]
      split
      · next hon => exact h.put n hon
      · exact h
  | remove s =>
      rw [after_remove]
      split
      · exact h.clear s
      · exact h
  | move origin destination =>
      cases held : b.pieceAt origin with
      | none =>
          rw [after_move_of_vacant held]
          exact h
      | some n =>
          rw [after_move_of_pieceAt held]
          split
          · next hon => exact (h.clear origin).put n hon
          · exact h

theorem Tidy.apart (h : b.Tidy) : b.Apart := by
  intro n s s' hs hs'
  rw [← h.square s n hs, h.square s' n hs']

theorem tidy_of_make {width height : Int} (h : make width height = .ok b) : b.Tidy := by
  constructor
  · intro s n hs
    rw [pieceAt_of_make h] at hs
    cases hs
  · intro s n hs
    rw [pieceAt_of_make h] at hs
    cases hs

theorem Tidy.clear (h : b.Tidy) (s : Square) : (b.clear s).Tidy := by
  refine ⟨h.within.clear s, ?_⟩
  intro s' n hs'
  exact h.square s' n (pieceAt_of_clear hs').2

theorem Tidy.put (h : b.Tidy) (on : b.Holds s) (only : ∀ s', b.pieceAt s' = some n → s' = s) :
    (b.put n s).Tidy := by
  refine ⟨h.within.put n on, ?_⟩
  intro s' m hs'
  rw [squareOf_put]
  rcases pieceAt_of_put hs' with ⟨heq, hn⟩ | ⟨hne, hs'⟩
  · rw [if_pos hn, heq]
  · rw [if_neg ?_]
    · exact h.square s' m hs'
    · intro hn
      exact hne (only s' (hn ▸ hs')).symm

/-- A piece that moves has left its square, so that it stands nowhere when it is put on the
other. -/
theorem Tidy.shifted (h : b.Tidy) (held : b.pieceAt s = some n) {destination : Square}
    (on : b.Holds destination) : ((b.clear s).put n destination).Tidy := by
  refine (h.clear s).put on ?_
  intro s' hs'
  rcases pieceAt_of_clear hs' with ⟨hne, hs'⟩
  exact absurd (h.apart n s s' held hs') hne

theorem Tidy.after (h : b.Tidy) {r : Request} (apart : b.keepsApart r = true) :
    (b.after r).Tidy := by
  cases r with
  | place n s =>
      rw [keepsApart_place_iff] at apart
      rw [after_place]
      split
      · next hon => exact h.put hon (apart hon)
      · exact h
  | remove s =>
      rw [after_remove]
      split
      · exact h.clear s
      · exact h
  | move origin destination =>
      cases held : b.pieceAt origin with
      | none =>
          rw [after_move_of_vacant held]
          exact h
      | some n =>
          rw [after_move_of_pieceAt held]
          split
          · next hon => exact h.shifted held hon
          · exact h

/-- A piece that is placed while it stands on another square stands on both. -/
theorem keepsApart_of_apart_after {r : Request} (h : (b.after r).Apart) :
    b.keepsApart r = true := by
  cases r with
  | place n s =>
      rw [keepsApart_place_iff]
      intro hon s' hs'
      rw [after_place, if_pos hon] at h
      by_contra hne
      -- putting the piece on one square has not cleared the other
      have hthere : (b.put n s).pieceAt s = some n := by rw [pieceAt_put, if_pos rfl]
      have hstill : (b.put n s).pieceAt s' = some n := by
        rw [pieceAt_put, if_neg (Ne.symm hne)]
        exact hs'
      exact hne (h n s' s hstill hthere)
  | remove s => rfl
  | move origin destination => rfl

end Requests

/-! ## Any number of requests -/

section Handling

variable {b : Board}

theorem Within.handled (h : b.Within) (requests : List Request) :
    (b.handled requests).Within := by
  induction requests generalizing b with
  | nil => exact h
  | cons r rest ih => exact ih (h.after r)

theorem Tidy.handled {requests : List Request} (h : b.Tidy)
    (apart : b.allKeepApart requests = true) : (b.handled requests).Tidy := by
  induction requests generalizing b with
  | nil => exact h
  | cons r rest ih =>
      rw [allKeepApart, Bool.and_eq_true] at apart
      exact ih (h.after apart.1) apart.2

theorem allKeepApart_of_isPrefix {first requests : List Request} (h : first <+: requests)
    (apart : b.allKeepApart requests = true) : b.allKeepApart first = true := by
  induction first generalizing b requests with
  | nil => rfl
  | cons r rest ih =>
      rcases h with ⟨others, rfl⟩
      rw [List.cons_append, allKeepApart, Bool.and_eq_true] at apart
      rw [allKeepApart, apart.1, ih (List.prefix_append rest others) apart.2]
      rfl

theorem allKeepApart_of_apart {requests : List Request}
    (h : ∀ first, first <+: requests → (b.handled first).Apart) :
    b.allKeepApart requests = true := by
  induction requests generalizing b with
  | nil => rfl
  | cons r rest ih =>
      have hfirst : b.keepsApart r = true :=
        keepsApart_of_apart_after (h [r] (List.prefix_append [r] rest))
      rw [allKeepApart, hfirst, Bool.true_and]
      exact ih fun first hprefix => h (r :: first) (List.cons_prefix_cons.2 ⟨rfl, hprefix⟩)

/-- Whatever is asked of a board that was made, it holds pieces on its own squares only.  Each of
them remembers the square that holds it, and none stands on two squares, throughout some requests if
and only if none of these places a piece on the board that stands on another square at that time. -/
theorem tidy_iff_none_placed_elsewhere {width height : Int} (made : make width height = .ok b)
    (requests : List Request) :
    (b.handled requests).Within ∧
    ((∀ first, first <+: requests → (b.handled first).Tidy) ↔ b.allKeepApart requests = true) ∧
    ((∀ first, first <+: requests → (b.handled first).Apart) ↔ b.allKeepApart requests = true) := by
  have hbare := tidy_of_make made
  have htidy : b.allKeepApart requests = true →
      ∀ first, first <+: requests → (b.handled first).Tidy := by
    intro apart first hprefix
    exact hbare.handled (allKeepApart_of_isPrefix hprefix apart)
  refine ⟨hbare.within.handled requests, ⟨?_, htidy⟩, ⟨allKeepApart_of_apart, ?_⟩⟩
  · intro h
    exact allKeepApart_of_apart fun first hprefix => (h first hprefix).apart
  · intro apart first hprefix
    exact (htidy apart first hprefix).apart

end Handling

/-! ## Pieces placed again -/

def bare : Board := { width := usualSize, height := usualSize }

theorem make_bare : make usualSize usualSize = .ok bare := rfl

/-- One piece is put in the place of another, then anew on its own square, and the other comes back
and takes the first.  In between some requests fail. -/
def shuffling : List Request :=
  [.place 1 ⟨0, 0⟩, .place 2 ⟨0, 0⟩, .place 2 ⟨0, 0⟩, .place 2 ⟨8, 0⟩, .place 1 ⟨3, 3⟩,
    .move ⟨5, 5⟩ ⟨0, 0⟩, .move ⟨3, 3⟩ ⟨3, 3⟩, .move ⟨3, 3⟩ ⟨0, -1⟩, .remove ⟨-1, 0⟩,
    .move ⟨3, 3⟩ ⟨0, 0⟩, .remove ⟨3, 3⟩]

theorem tidy_after_shuffling :
    make usualSize usualSize = .ok bare ∧ bare.allKeepApart shuffling = true ∧
    (bare.handled shuffling).pieces = [1] ∧ (bare.handled shuffling).Tidy := by
  have hall := tidy_iff_none_placed_elsewhere make_bare shuffling
  have hkeeps : bare.allKeepApart shuffling = true := by decide +kernel
  exact ⟨make_bare, hkeeps, by decide +kernel,
    hall.2.1.2 hkeeps shuffling (List.prefix_refl shuffling)⟩

/-- A piece that is placed a second time stands on two squares and remembers one of them. -/
theorem not_tidy_of_placed_again :
    make usualSize usualSize = .ok bare ∧
    (bare.handled [.place 1 ⟨0, 0⟩, .place 1 ⟨0, 1⟩]).pieces = [1, 1] ∧
    ¬ (bare.handled [.place 1 ⟨0, 0⟩, .place 1 ⟨0, 1⟩]).Tidy ∧
    ¬ (bare.handled [.place 1 ⟨0, 0⟩, .place 1 ⟨0, 1⟩]).Apart := by
  have hfirst : (bare.handled [.place 1 ⟨0, 0⟩, .place 1 ⟨0, 1⟩]).pieceAt ⟨0, 0⟩ = some 1 := by
    decide +kernel
  have hsecond : (bare.handled [.place 1 ⟨0, 0⟩, .place 1 ⟨0, 1⟩]).pieceAt ⟨0, 1⟩ = some 1 := by
    decide +kernel
  have hapart : ¬ (bare.handled [.place 1 ⟨0, 0⟩, .place 1 ⟨0, 1⟩]).Apart := by
    intro h
    exact absurd (h 1 _ _ hfirst hsecond) (by decide)
  exact ⟨make_bare, by decide +kernel, fun h => hapart h.apart, hapart⟩

end Board
end Boardcraft
