import Mathlib.Data.List.Chain
import BulkStream.Proofs.LinkFrame

/-!
The calls of a session one at a time. A course is what leads from one link to another, with all that
it adds to the transcript; a way is the links that it passes through, so that what holds between any
two calls, in the midst of a step, is a statement about the links of a way.
-/
namespace BulkStream.Session

variable {σ : Type} {env : Surroundings σ}

/-- A call to the consumer. -/
def Action.isAsked : Action → Bool
  | .payload _ _ _ | .fill _ _ _ _ | .progress _ _ => true
  | .setMode _ _ | .purge _ | .submit _ _ | .wait _ _ _ | .cancelAll | .log _ => false

/-- Payload that a call passes to the consumer. -/
def Action.delivered : Action → Bytes
  | .payload _ span _ => span
  | .fill _ _ _ _ | .progress _ _ | .setMode _ _ | .purge _ | .submit _ _ | .wait _ _ _ | .cancelAll
  | .log _ => []

namespace Link

/-- What the consumer was asked. -/
def asked (l : Link σ) : List Action := l.transcript.filter Action.isAsked

/-- All payload passed to the consumer, in order. -/
def delivered (l : Link σ) : Bytes := l.transcript.flatMap Action.delivered

theorem transcript_after (l : Link σ) (action : Action) (world : σ) :
    (l.after action world).transcript = l.transcript ++ [action] := List.reverse_cons

/-- One call, and what it adds to the transcript. The consumer is only called while no stop is
requested. -/
inductive Passage (env : Surroundings σ) (l : Link σ) : List Action → Link σ → Prop
  | setMode (mode : Mode) :
      Passage env l [.setMode mode (l.setMode env mode).1] (l.setMode env mode).2
  | purge : Passage env l [.purge (l.purge env).1] (l.purge env).2
  | submit (request : Request) :
      Passage env l [.submit request (l.submit env request).1] (l.submit env request).2
  | wait (milliseconds : Nat) :
      Passage env l
        [.wait milliseconds (l.wait env milliseconds).1.1 (l.wait env milliseconds).1.2]
        (l.wait env milliseconds).2
  | cancelAll : Passage env l [.cancelAll] (l.cancelAll env)
  | payload (slot : Nat) (span : Bytes) (down : l.stopRequested env = false) :
      Passage env l [.payload slot span (l.payload env slot span).1] (l.payload env slot span).2
  | fill (slot : Nat) (offered : Bytes) (down : l.stopRequested env = false) :
      Passage env l
        [.fill slot offered (l.fill env slot offered).1.2 (l.fill env slot offered).1.1]
        (l.fill env slot offered).2
  | progress (snapshot : Snapshot) (down : l.stopRequested env = false) :
      Passage env l [.progress snapshot (l.progress env snapshot).1] (l.progress env snapshot).2
  | log (event : Event) : Passage env l [.log event] (l.log env event)
  | transition (state : State) :
      Passage env l [.log (.stateChanged l.state state)] (l.transition env state)
  | now : Passage env l [] (l.now env).2

section

variable {l : Link σ}

theorem payload_down (down : l.stopRequested env = false) (slot : Nat) (span : Bytes) :
    l.payload env slot span =
      ((env.payload span l.world).1,
        l.after (.payload slot span (env.payload span l.world).1) (env.payload span l.world).2) :=
  if_neg (Bool.eq_false_iff.mp down)

theorem fill_down (down : l.stopRequested env = false) (slot : Nat) (offered : Bytes) :
    l.fill env slot offered =
      (((env.fill offered l.world).1.1, fit offered.length (env.fill offered l.world).1.2),
        l.after (.fill slot offered (fit offered.length (env.fill offered l.world).1.2)
          (env.fill offered l.world).1.1) (env.fill offered l.world).2) :=
  if_neg (Bool.eq_false_iff.mp down)

theorem progress_down (down : l.stopRequested env = false) (snapshot : Snapshot) :
    l.progress env snapshot =
      ((env.progress snapshot l.world).1,
        l.after (.progress snapshot (env.progress snapshot l.world).1)
          (env.progress snapshot l.world).2) :=
  if_neg (Bool.eq_false_iff.mp down)

end

theorem Passage.transcript_eq {added : List Action} {l m : Link σ} (h : l.Passage env added m) :
    m.transcript = l.transcript ++ added := by
  cases h with
  | now => exact (List.append_nil _).symm
  | payload slot span down =>
      rw [Link.payload_down down]
      exact l.transcript_after _ _
  | fill slot offered down =>
      rw [Link.fill_down down]
      exact l.transcript_after _ _
  | progress snapshot down =>
      rw [Link.progress_down down]
      exact l.transcript_after _ _
  | setMode mode | purge | submit request | wait milliseconds | cancelAll | log event
  | transition state => exact transcript_after _ _ _

theorem Passage.delivered_eq {added : List Action} {l m : Link σ} (h : l.Passage env added m) :
    m.delivered = l.delivered ++ added.flatMap Action.delivered := by
  rw [delivered, h.transcript_eq, List.flatMap_append, delivered]

/-- The calls that lead from one link to another, and all that they add to the transcript. -/
inductive Course (env : Surroundings σ) (l : Link σ) : List Action → Link σ → Prop
  | refl : Course env l [] l
  | call {actions added : List Action} {m n : Link σ} (h : Course env l actions m)
      (passage : m.Passage env added n) : Course env l (actions ++ added) n

namespace Course

variable {l m n : Link σ} {actions more : List Action}

theorem trans (first : l.Course env actions m) (second : m.Course env more n) :
    l.Course env (actions ++ more) n := by
  induction second with
  | refl =>
      rw [List.append_nil]
      exact first
  | call _ passage ih =>
      rw [← List.append_assoc]
      exact ih.call passage

theorem transcript_eq (h : l.Course env actions m) : m.transcript = l.transcript ++ actions := by
  induction h with
  | refl => exact (List.append_nil _).symm
  | call _ passage ih => rw [passage.transcript_eq, ih, List.append_assoc]

/-- What each call keeps is kept by all of them. -/
theorem keeps {P : Link σ → Prop} (h : l.Course env actions m)
    (kept : ∀ m n added, m.Passage env added n → P m → P n) (holds : P l) : P m := by
  induction h with
  | refl => exact holds
  | call _ passage ih => exact kept _ _ _ passage ih

end Course

/-- The links that one call after another leads through, from the first to the last. -/
structure Way (env : Surroundings σ) (first last : Link σ) (links : List (Link σ)) : Prop where
  first : links.head? = some first
  last : links.getLast? = some last
  calls : links.IsChain fun l m => ∃ added, l.Passage env added m

namespace Way

variable {l m n : Link σ} {links : List (Link σ)}

theorem refl (l : Link σ) : Way env l l [l] := ⟨rfl, rfl, .singleton l⟩

theorem call {added : List Action} (h : Way env l m links) (passage : m.Passage env added n) :
    Way env l n (links ++ [n]) := by
  refine ⟨?_, List.getLast?_concat .., ?_⟩
  · rw [List.head?_append, h.first, Option.some_or]
  · refine List.isChain_append.mpr ⟨h.calls, .singleton n, ?_⟩
    intro last isLast next isNext
    rw [h.last] at isLast
    cases isLast
    cases isNext
    exact ⟨added, passage⟩

/-- A way goes on by a course, passing through all links that it did. -/
theorem extend {actions : List Action} (h : Way env l m links) (course : m.Course env actions n) :
    ∃ more, Way env l n (links ++ more) := by
  induction course with
  | refl => exact ⟨[], by rwa [List.append_nil]⟩
  | call _ passage ih =>
      obtain ⟨more, way⟩ := ih
      exact ⟨more ++ [_], List.append_assoc links more _ ▸ way.call passage⟩

/-- A relation that holds over each call, and over two of them if over each, holds between any link
of a way and any later one. -/
theorem pairwise {R : Link σ → Link σ → Prop} (h : Way env l m links)
    (each : ∀ l m added, l.Passage env added m → R l m)
    (compose : ∀ {l m n}, R l m → R m n → R l n) : links.Pairwise R := by
  have : Trans R R R := ⟨compose⟩
  refine List.isChain_iff_pairwise.mp (h.calls.imp ?_)
  rintro l m ⟨added, passage⟩
  exact each l m added passage

theorem last_mem (h : Way env l m links) : m ∈ links := List.mem_of_getLast? h.last

end Way

end Link

end BulkStream.Session
