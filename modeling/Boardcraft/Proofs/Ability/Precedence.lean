import Boardcraft.Proofs.Ability.Dispatcher
import Mathlib.Data.List.Induction

/-!
# Who is heard first

A dispatcher puts a new entry behind all others of its priority, and it takes entries away when an
ability stops listening.  Whatever has been asked of it, the listeners of an event stand as a stable
sort by priority arranges the subscriptions to the event that nobody has taken back.

Two lists that are sorted by priority are the same if they hold the same entries of each priority in
the same order.  So it is enough to follow the entries of one priority.
-/

namespace Boardcraft
namespace Dispatcher

/-!
## Sorting by priority
-/

/-- Subscriptions in the order of their priorities.  Those of one priority stay as they were. -/
def byPriority (l : List Subscription) : List Subscription :=
  l.mergeSort fun s t => s.priority ≤ t.priority

def Ascending (l : List Subscription) : Prop :=
  l.Pairwise fun s t => s.priority ≤ t.priority

def ofPriority (p : Int) (l : List Subscription) : List Subscription :=
  l.filter fun s => s.priority = p

theorem ofPriority_append (p : Int) (l l' : List Subscription) :
    ofPriority p (l ++ l') = ofPriority p l ++ ofPriority p l' :=
  List.filter_append l l'

theorem mem_ofPriority_self {s : Subscription} {l : List Subscription} :
    s ∈ ofPriority s.priority l ↔ s ∈ l := by
  simp [ofPriority]

theorem priority_trans (s t u : Subscription) (h : decide (s.priority ≤ t.priority) = true)
    (h' : decide (t.priority ≤ u.priority) = true) : decide (s.priority ≤ u.priority) = true :=
  decide_eq_true (Int.le_trans (of_decide_eq_true h) (of_decide_eq_true h'))

theorem priority_total (s t : Subscription) :
    (decide (s.priority ≤ t.priority) || decide (t.priority ≤ s.priority)) = true := by
  simpa using Int.le_total s.priority t.priority

theorem ascending_byPriority (l : List Subscription) : Ascending (byPriority l) := by
  have hsorted : (byPriority l).Pairwise fun s t => decide (s.priority ≤ t.priority) = true :=
    List.pairwise_mergeSort priority_trans priority_total l
  simpa [Ascending] using hsorted

/-- The entries of one priority are a sorted part of the list, which a stable sort keeps. -/
theorem ofPriority_byPriority (p : Int) (l : List Subscription) :
    ofPriority p (byPriority l) = ofPriority p l := by
  have hpart : (ofPriority p l).Sublist (byPriority l) := by
    apply List.sublist_mergeSort priority_trans priority_total
    · have hall : ∀ s ∈ ofPriority p l, s.priority = p := by
        simp [ofPriority]
      apply List.Pairwise.imp_of_mem _ (List.pairwise_of_forall (fun _ _ => trivial))
      intro s t hs ht _
      simp [hall s hs, hall t ht]
    · exact List.filter_sublist
  have hsame : ofPriority p (ofPriority p l) = ofPriority p l := by
    simp [ofPriority]
  have hlength : (ofPriority p (byPriority l)).length = (ofPriority p l).length :=
    ((List.mergeSort_perm l _).filter _).length_eq
  have hsub : (ofPriority p l).Sublist (ofPriority p (byPriority l)) := by
    have h := hpart.filter fun s => s.priority = p
    change (ofPriority p (ofPriority p l)).Sublist _ at h
    rwa [hsame] at h
  exact (hsub.eq_of_length hlength.symm).symm

theorem Ascending.priority_le {s t : Subscription} {l : List Subscription}
    (h : Ascending (s :: l)) (ht : t ∈ s :: l) : s.priority ≤ t.priority := by
  rcases List.mem_cons.1 ht with rfl | ht
  · exact Int.le_refl t.priority
  · exact (List.pairwise_cons.1 h).1 t ht

/-- By induction on both lists: each begins with an entry of the least priority in it. -/
theorem eq_of_ofPriority_eq {l l' : List Subscription} (h : Ascending l) (h' : Ascending l')
    (same : ∀ p, ofPriority p l = ofPriority p l') : l = l' := by
  induction l generalizing l' with
  | nil =>
      cases l' with
      | nil => rfl
      | cons t rest' =>
          have hnone := same t.priority
          simp [ofPriority] at hnone
  | cons s rest ih =>
      cases l' with
      | nil =>
          have hnone := same s.priority
          simp [ofPriority] at hnone
      | cons t rest' =>
          have hs : s ∈ t :: rest' := by
            rw [← mem_ofPriority_self, ← same, mem_ofPriority_self]
            exact List.mem_cons_self
          have ht : t ∈ s :: rest := by
            rw [← mem_ofPriority_self, same, mem_ofPriority_self]
            exact List.mem_cons_self
          have hpriority : s.priority = t.priority :=
            Int.le_antisymm (h.priority_le ht) (h'.priority_le hs)
          have hhead := same s.priority
          simp only [ofPriority, List.filter_cons, hpriority, decide_true, if_true] at hhead
          injection hhead with hst _
          subst hst
          apply congrArg (s :: ·)
          apply ih (List.pairwise_cons.1 h).2 (List.pairwise_cons.1 h').2
          intro p
          have hp := same p
          by_cases hsp : s.priority = p
          · simpa [ofPriority, hsp] using hp
          · simpa [ofPriority, hsp] using hp

theorem eq_byPriority {l l' : List Subscription} (h : Ascending l')
    (same : ∀ p, ofPriority p l' = ofPriority p l) : l' = byPriority l := by
  apply eq_of_ofPriority_eq h (ascending_byPriority l)
  intro p
  rw [same, ofPriority_byPriority]

/-!
## One entry more, or some fewer
-/

theorem mem_place_iff {s t : Subscription} {l : List Subscription} :
    t ∈ place s l ↔ t = s ∨ t ∈ l := by
  rw [(perm_place s l).mem_iff, List.mem_cons]

theorem ascending_place {l : List Subscription} (h : Ascending l) (s : Subscription) :
    Ascending (place s l) := by
  induction l with
  | nil => simp [place, Ascending]
  | cons t rest ih =>
      have hrest := List.pairwise_cons.1 h
      rw [place]
      split
      · next hle =>
          apply List.pairwise_cons.2
          constructor
          · intro u hu
            rcases mem_place_iff.1 hu with rfl | hu
            · exact hle
            · exact hrest.1 u hu
          · exact ih hrest.2
      · next hlt =>
          apply List.pairwise_cons.2
          constructor
          · intro u hu
            have hle := h.priority_le hu
            omega
          · exact h

theorem ofPriority_place {l : List Subscription} (h : Ascending l) (s : Subscription) (p : Int) :
    ofPriority p (place s l) = ofPriority p l ++ ofPriority p [s] := by
  induction l with
  | nil => rfl
  | cons t rest ih =>
      have hrest := List.pairwise_cons.1 h
      rw [place]
      split
      · rw [← List.singleton_append, ofPriority_append, ih hrest.2, ← List.append_assoc,
          ← ofPriority_append, List.singleton_append]
      · next hlt =>
          by_cases hp : s.priority = p
          · have hlater : ofPriority p (t :: rest) = [] := by
              apply List.filter_eq_nil_iff.2
              intro u hu
              have hle := h.priority_le hu
              simp
              omega
            rw [hlater, List.nil_append, ← List.singleton_append, ofPriority_append, hlater,
              List.append_nil]
          · simp [ofPriority, hp]

theorem place_byPriority (s : Subscription) (l : List Subscription) :
    place s (byPriority l) = byPriority (l ++ [s]) := by
  apply eq_byPriority (ascending_place (ascending_byPriority l) s)
  intro p
  rw [ofPriority_place (ascending_byPriority l), ofPriority_byPriority, ofPriority_append]

theorem filter_byPriority (keep : Subscription → Bool) (l : List Subscription) :
    (byPriority l).filter keep = byPriority (l.filter keep) := by
  apply eq_byPriority ((ascending_byPriority l).filter keep)
  intro p
  have hcomm : ∀ l : List Subscription,
      ofPriority p (l.filter keep) = (ofPriority p l).filter keep := by
    intro l
    simp [ofPriority, List.filter_filter, Bool.and_comm]
  rw [hcomm, hcomm, ofPriority_byPriority]

/-!
## Histories of calls
-/

inductive Call where
  | subscribe (event : Event) (ability : Ability) (priority : Int)
  | unsubscribe (event : Event) (ability : Ability)
  | subscribeAbility (ability : Ability)
  | unsubscribeAbility (ability : Ability)

namespace Call

def perform (d : Dispatcher) : Call → Dispatcher
  | subscribe event ability priority => d.subscribe event ability priority
  | unsubscribe event ability => d.unsubscribe event ability
  | subscribeAbility ability => d.subscribeAbility ability
  | unsubscribeAbility ability => d.unsubscribeAbility ability

def subscriptions : Call → List Subscription
  | subscribe event ability priority => [⟨event, priority, ability⟩]
  | subscribeAbility ability => ability.subscriptions
  | _ => []

/-- Whether a call stops the ability of a subscription, which is known by its serial number, from
listening to the event of the subscription. -/
def takesBack (s : Subscription) : Call → Bool
  | unsubscribe event ability => s.event == event && s.ability.serial == ability.serial
  | unsubscribeAbility ability => stops ability s
  | _ => false

end Call

/-- The subscriptions of a history, in the order in which they were asked for, that no later call
takes back. -/
def standing : List Call → List Subscription
  | [] => []
  | call :: later =>
      (call.subscriptions.filter fun s => !later.any fun call' => call'.takesBack s) ++ standing later

def ofCalls (calls : List Call) : Dispatcher := calls.foldl Call.perform {}

theorem standing_concat (calls : List Call) (call : Call) :
    standing (calls ++ [call]) =
      ((standing calls).filter fun s => !call.takesBack s) ++ call.subscriptions := by
  induction calls with
  | nil => simp [standing]
  | cons first rest ih =>
      rw [List.cons_append, standing, ih, standing, List.filter_append, List.filter_filter,
        List.append_assoc]
      congr 2
      funext s
      simp [Bool.and_comm]

theorem entries_subscribeAbility {d : Dispatcher} {l : List Subscription}
    (h : d.entries = byPriority l) (a : Ability) :
    (d.subscribeAbility a).entries = byPriority (l ++ a.subscriptions) := by
  unfold subscribeAbility Ability.subscriptions
  induction a.triggers generalizing d l with
  | nil => simpa using h
  | cons event rest ih =>
      have hfirst : (d.subscribe event a a.priority).entries =
          byPriority (l ++ [⟨event, a.priority, a⟩]) := by
        rw [subscribe, h, place_byPriority]
      rw [List.foldl_cons, ih hfirst]
      simp

theorem entries_perform {d : Dispatcher} {l : List Subscription} (h : d.entries = byPriority l)
    (call : Call) :
    (call.perform d).entries =
      byPriority ((l.filter fun s => !call.takesBack s) ++ call.subscriptions) := by
  cases call with
  | subscribe event ability priority =>
      simp [Call.perform, Call.takesBack, Call.subscriptions, subscribe, h, place_byPriority]
  | unsubscribe event ability =>
      simp [Call.perform, Call.takesBack, Call.subscriptions, unsubscribe, h, filter_byPriority]
  | subscribeAbility ability =>
      simp [Call.perform, Call.takesBack, Call.subscriptions, entries_subscribeAbility h]
  | unsubscribeAbility ability =>
      simp [Call.perform, Call.takesBack, Call.subscriptions, entries_unsubscribeAbility, h,
        filter_byPriority]

/-- By induction on the history, whose last call comes last. -/
theorem entries_ofCalls (calls : List Call) :
    (ofCalls calls).entries = byPriority (standing calls) := by
  induction calls using List.reverseRecOn with
  | nil => simp [ofCalls, standing, byPriority]
  | append_singleton calls call ih =>
      unfold ofCalls at ih ⊢
      rw [List.foldl_append, List.foldl_cons, List.foldl_nil, standing_concat]
      exact entries_perform ih call

/-- Whatever has been asked of a dispatcher, the listeners of an event are the subscriptions to it
that no later call has taken back, arranged by a stable sort in ascending order of priority. -/
theorem listeners_ofCalls (calls : List Call) (event : Event) :
    (ofCalls calls).listeners event =
      ((standing calls).filter fun s => s.event == event).mergeSort
        fun s t => s.priority ≤ t.priority := by
  rw [listeners, entries_ofCalls, filter_byPriority, byPriority]

end Dispatcher
end Boardcraft
