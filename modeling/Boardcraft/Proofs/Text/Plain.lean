import Mathlib.Data.List.Basic
import Boardcraft.Drawing
import Boardcraft.Grid.Square

/-!
# Whole and plain text

Text is whole if it holds no half of a surrogate pair: then it is made of characters, and a terminal
has a form for it.  Text is plain if, besides, it holds no code point to which markup gives a
meaning.  Numbers and squares are written in plain text, and drawings in whole text as long as the
emojis are whole.

## Main statements

* `Square.isPlain_text` and `Drawing.isWhole_board`.
-/

namespace Boardcraft
namespace Text

/-- A text without halves of surrogate pairs. -/
def IsWhole (t : Text) : Prop := ∀ c ∈ t.points, c.char?.isSome = true

/-- A whole text without brackets that open a tag and without backslashes. -/
def IsPlain (t : Text) : Prop := t.IsWhole ∧ CodePoint.char '[' ∉ t.points ∧
  CodePoint.char '\\' ∉ t.points

instance (t : Text) : Decidable t.IsPlain :=
  inferInstanceAs (Decidable ((∀ c ∈ t.points, _) ∧ _))

/-!
## Whole text
-/

theorem isWhole_ofString (s : String) : (ofString s).IsWhole := by
  intro c hc
  rcases List.mem_map.1 hc with ⟨char, _, rfl⟩
  rfl

theorem IsWhole.append {s t : Text} (hs : s.IsWhole) (ht : t.IsWhole) : (s ++ t).IsWhole := by
  intro c hc
  rcases List.mem_append.1 hc with hc | hc
  · exact hs c hc
  · exact ht c hc

theorem isWhole_intercalate {between : Text} (hbetween : between.IsWhole) {ts : List Text}
    (hts : ∀ t ∈ ts, t.IsWhole) : (intercalate between ts).IsWhole := by
  induction ts with
  | nil => exact List.forall_mem_nil _
  | cons first rest ih =>
      have hfirst := hts first List.mem_cons_self
      have hothers := ih fun t ht => hts t (List.mem_cons_of_mem first ht)
      cases rest with
      | nil =>
          intro c hc
          exact hfirst c (by simpa [intercalate] using hc)
      | cons second rest =>
          have hsplit : intercalate between (first :: second :: rest) =
              first ++ between ++ intercalate between (second :: rest) :=
            congrArg Text.mk List.intercalate_cons_cons
          rw [hsplit]
          exact (hfirst.append hbetween).append hothers

/-!
## Plain text
-/

theorem IsPlain.append {s t : Text} (hs : s.IsPlain) (ht : t.IsPlain) : (s ++ t).IsPlain := by
  refine ⟨hs.1.append ht.1, ?_, ?_⟩
  · rw [points_append, List.mem_append]
    exact not_or.2 ⟨hs.2.1, ht.2.1⟩
  · rw [points_append, List.mem_append]
    exact not_or.2 ⟨hs.2.2, ht.2.2⟩

theorem mem_points_ofString {s : String} {c : Char} :
    CodePoint.char c ∈ (ofString s).points ↔ c ∈ s.toList :=
  List.mem_map_of_injective fun _ _ h => CodePoint.char.inj h

theorem isPlain_ofString {s : String}
    (h : (s.toList.all fun c => c != '[' && c != '\\') = true) : (ofString s).IsPlain := by
  have hchars : ∀ c ∈ s.toList, c ≠ '[' ∧ c ≠ '\\' := by simpa using h
  refine ⟨isWhole_ofString s, fun hopening => ?_, fun hbackslash => ?_⟩
  · exact (hchars _ (mem_points_ofString.1 hopening)).1 rfl
  · exact (hchars _ (mem_points_ofString.1 hbackslash)).2 rfl

theorem isPlain_nat (n : Nat) : (ofString (toString n)).IsPlain := by
  refine isPlain_ofString (List.all_eq_true.2 fun c hc => ?_)
  have hdigit : c ∈ Nat.toDigits 10 n := by simpa [Nat.repr] using hc
  have hdecimal : c.isDigit = true :=
    Nat.isDigit_of_mem_toDigits (by decide) (by decide) hdigit
  rw [Bool.and_eq_true, bne_iff_ne, bne_iff_ne]
  constructor <;> rintro rfl <;> cases hdecimal

theorem isPlain_int (n : Int) : (ofString (toString n)).IsPlain := by
  cases n with
  | ofNat m => exact isPlain_nat m
  | negSucc m =>
      have hsign : ofString (toString (Int.negSucc m)) = ofString "-" ++ ofString (toString (m + 1)) :=
        ofString_append _ _
      rw [hsign]
      exact .append (isPlain_ofString rfl) (isPlain_nat (m + 1))

end Text

theorem Square.isPlain_text (s : Square) : (Text.ofString s.text).IsPlain := by
  unfold Square.text
  simp only [Text.ofString_append]
  have hopening : (Text.ofString "(").IsPlain := Text.isPlain_ofString rfl
  have hcomma : (Text.ofString ",").IsPlain := Text.isPlain_ofString rfl
  have hclosing : (Text.ofString ")").IsPlain := Text.isPlain_ofString rfl
  exact (((hopening.append (Text.isPlain_int s.x)).append hcomma).append
    (Text.isPlain_int s.y)).append hclosing

/-!
## Drawings
-/

namespace Drawing

variable {v : View}

theorem isWhole_mark (hmarker : v.marker.IsWhole)
    (hemoji : ∀ s emoji, v.emoji s = some emoji → emoji.IsWhole) (s : Square) :
    (v.mark s).IsWhole := by
  unfold View.mark
  split
  · exact Text.isWhole_ofString "X"
  · split
    · exact hmarker
    · cases hs : v.emoji s with
      | none => exact Text.isWhole_ofString " "
      | some emoji => exact hemoji s emoji hs

theorem isWhole_row (hmark : ∀ s, (v.mark s).IsWhole) (y : Int) : (v.row y).IsWhole := by
  have hsquares : ∀ t ∈ (Square.run 0 (v.width - 1)).map fun x =>
      (Text.ofString "[" ++ v.mark ⟨x, y⟩ ++ Text.ofString "]"), t.IsWhole := by
    intro t ht
    rcases List.mem_map.1 ht with ⟨x, _, rfl⟩
    exact ((Text.isWhole_ofString _).append (hmark ⟨x, y⟩)).append (Text.isWhole_ofString _)
  have hlabel := (Text.isWhole_ofString (label y)).append (Text.isWhole_ofString " ")
  have hrow := hlabel.append (Text.isWhole_intercalate (Text.isWhole_ofString " ") hsquares)
  exact (hrow.append (Text.isWhole_ofString " ")).append (Text.isWhole_ofString (toString y))

theorem isWhole_board (hmarker : v.marker.IsWhole)
    (hemoji : ∀ s emoji, v.emoji s = some emoji → emoji.IsWhole) : (board v).IsWhole := by
  have hheader (labels : String) : (Text.ofString "   " ++ Text.ofString labels).IsWhole :=
    (Text.isWhole_ofString _).append (Text.isWhole_ofString _)
  refine Text.isWhole_intercalate (Text.isWhole_ofString "\n") ?_
  intro t ht
  rcases List.mem_append.1 ht with ht | ht
  · rcases List.mem_cons.1 ht with rfl | ht
    · exact hheader _
    · rcases List.mem_map.1 ht with ⟨y, _, rfl⟩
      exact isWhole_row (isWhole_mark hmarker hemoji) y
  · rw [List.mem_singleton.1 ht]
    exact hheader _

end Drawing
end Boardcraft
