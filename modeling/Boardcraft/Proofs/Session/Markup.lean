import Boardcraft.Proofs.Session.Lines
import Boardcraft.Proofs.Text.Plain
import Boardcraft.Session.Console

/-!
# Markup that is in order

Markup puts tags into a text: `[bold]` opens a style and `[/]` closes the one that was opened last.
A tag that closes a style where none is open is an error, and a console raises it instead of showing
anything.  Texts that a session makes up on its own are in order.  What it takes from elsewhere, the
names and ids of pieces, goes into its markup as it is, so that markup stays in order if these are
plain, and need not if they hold tags themselves.

## Main statements

* `Text.IsPlain.leads` and `Leads.append` put texts in order together;
* `Console.keepsToMarkup_strict` gives a console of the kind that a session relies upon.
-/

namespace Boardcraft

/-!
## Reading markup
-/

/-- How far a text with markup has been read. -/
inductive Markup where
  /-- Outside of tags, with so many styles open. -/
  | text (depth : Nat)
  /-- Within a tag, of which some code points have been read, last first. -/
  | tag (depth : Nat) (read : List CodePoint)
  /-- Behind a tag that closes a style where none is open. -/
  | overclosed
  /-- Behind something else than the tags of a session. -/
  | other
  deriving DecidableEq

namespace Markup

def styles : List Text := ["bold", "bold green", "bold red", "dim", "green", "red", "yellow"]

def close : Nat → Markup
  | 0 => overclosed
  | depth + 1 => text depth

def endTag (depth : Nat) (name : Text) : Markup :=
  if name = "/" then close depth else if name ∈ styles then text (depth + 1) else other

def read : Markup → CodePoint → Markup
  | text depth, c => if c = '[' then tag depth [] else if c = '\\' then other else text depth
  | tag depth begun, c => if c = ']' then endTag depth ⟨begun.reverse⟩ else tag depth (c :: begun)
  | overclosed, _ => overclosed
  | other, _ => other

def after (m : Markup) (t : Text) : Markup := t.points.foldl read m

theorem after_append (m : Markup) (s t : Text) : m.after (s ++ t) = (m.after s).after t :=
  List.foldl_append

/-- Plain text means nothing but itself. -/
theorem after_of_isPlain {t : Text} (h : t.IsPlain) (depth : Nat) :
    (text depth).after t = text depth := by
  rcases t with ⟨points⟩
  rcases h with ⟨-, hopening, hbackslash⟩
  induction points with
  | nil => rfl
  | cons c rest ih =>
      rcases not_or.1 (mt List.mem_cons.2 hopening) with ⟨hc, hopening⟩
      rcases not_or.1 (mt List.mem_cons.2 hbackslash) with ⟨hc', hbackslash⟩
      have hread : (text depth).read c = text depth := by
        rw [read, if_neg (Ne.symm hc), if_neg (Ne.symm hc')]
      exact (congrArg (rest.foldl read) hread).trans (ih hopening hbackslash)

/-- The styles that are open where a text has been read to its end. -/
def depth? : Markup → Option Nat
  | text depth => some depth
  | _ => none

end Markup

open Markup

/-- A whole text leads from a number of open styles to another. -/
structure Leads (t : Text) (before after : Nat) : Prop where
  whole : t.IsWhole
  reads : (Markup.text before).after t = .text after

theorem Leads.append {s t : Text} {a b c : Nat} (hs : Leads s a b) (ht : Leads t b c) :
    Leads (s ++ t) a c := by
  refine ⟨hs.whole.append ht.whole, ?_⟩
  rw [after_append, hs.reads, ht.reads]

theorem Text.IsPlain.leads {t : Text} (h : t.IsPlain) (depth : Nat) : Leads t depth depth :=
  ⟨h.1, after_of_isPlain h depth⟩

theorem leads_ofString {s : String} {before after : Nat}
    (h : (Markup.text before).after (Text.ofString s) = .text after) :
    Leads (Text.ofString s) before after :=
  ⟨Text.isWhole_ofString s, h⟩

/-!
## Things in order
-/

/-- A whole text whose tags close nothing but what is open. -/
def Text.IsInOrder (t : Text) : Prop := t.IsWhole ∧ ((Markup.text 0).after t).depth?.isSome = true

def Text.Overcloses (t : Text) : Prop := (Markup.text 0).after t = .overclosed

def Body.IsInOrder : Body → Prop
  | markup t => t.IsInOrder
  | plain t => t.IsWhole

def Body.Overcloses : Body → Prop
  | markup t => t.Overcloses
  | plain _ => False

def Item.IsInOrder : Item → Prop
  | line t | prompt t => t.IsInOrder
  | panel p => p.body.IsInOrder ∧ (∀ t ∈ p.title.toList, t.IsInOrder) ∧
      ∀ t ∈ p.subtitle.toList, t.IsInOrder

def Item.Overcloses : Item → Prop
  | line t | prompt t => t.Overcloses
  | panel p => p.body.Overcloses ∨ (∃ t ∈ p.title.toList, t.Overcloses) ∨
      ∃ t ∈ p.subtitle.toList, t.Overcloses

/-- A console shows what is in order, and raises an error for a tag that closes nothing.  What it
does with anything else is left open. -/
structure Console.KeepsToMarkup (console : Console) : Prop where
  shown : ∀ item : Item, item.IsInOrder → console.shows item = true
  unshown : ∀ item : Item, item.Overcloses → console.shows item = false

theorem Leads.isInOrder {t : Text} {depth : Nat} (h : Leads t 0 depth) : t.IsInOrder := by
  refine ⟨h.whole, ?_⟩
  rw [h.reads]
  rfl

theorem Text.not_overcloses_of_isInOrder {t : Text} (h : t.IsInOrder) : ¬ t.Overcloses := by
  intro hover
  have hdepth := h.2
  rw [hover] at hdepth
  cases hdepth

theorem Item.not_overcloses_of_isInOrder {item : Item} (h : item.IsInOrder) :
    ¬ item.Overcloses := by
  cases item with
  | line t => exact Text.not_overcloses_of_isInOrder h
  | prompt t => exact Text.not_overcloses_of_isInOrder h
  | panel p =>
      rcases h with ⟨hbody, htitle, hsubtitle⟩
      rintro (hover | ⟨t, ht, hover⟩ | ⟨t, ht, hover⟩)
      · cases hp : p.body with
        | markup t =>
            rw [hp] at hbody hover
            exact Text.not_overcloses_of_isInOrder hbody hover
        | plain t =>
            rw [hp] at hover
            exact hover
      · exact Text.not_overcloses_of_isInOrder (htitle t ht) hover
      · exact Text.not_overcloses_of_isInOrder (hsubtitle t ht) hover

instance (t : Text) : Decidable t.IsInOrder :=
  inferInstanceAs (Decidable ((∀ c ∈ t.points, _) ∧ _))

instance (b : Body) : Decidable b.IsInOrder :=
  match b with
  | .markup t => inferInstanceAs (Decidable t.IsInOrder)
  | .plain t => inferInstanceAs (Decidable (∀ c ∈ t.points, _))

instance (item : Item) : Decidable item.IsInOrder :=
  match item with
  | .line t | .prompt t => inferInstanceAs (Decidable t.IsInOrder)
  | .panel _ => inferInstanceAs (Decidable (_ ∧ _ ∧ _))

def Console.strict : Console := ⟨fun item => decide item.IsInOrder⟩

theorem Console.keepsToMarkup_strict : Console.strict.KeepsToMarkup := by
  refine ⟨fun _ h => decide_eq_true h, fun item hover => decide_eq_false fun h => ?_⟩
  exact Item.not_overcloses_of_isInOrder h hover

end Boardcraft
