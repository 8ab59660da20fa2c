import BulkStream.Session.Surroundings

/-!
What each call through a link leaves alone. A call to the transport is added behind the earlier
ones; calls to the consumer, the log and the clock leave the calls to the transport as they are. What
the consumer is offered stands apart in the same way.
-/
namespace BulkStream.Session

variable {σ : Type}

/-- The numbers that a session notes when it has drained. -/
def Action.drained? : Action → Option (Nat × Nat)
  | .log (.drained collected abandoned) => some (collected, abandoned)
  | _ => none

/-- What a wait hands over. -/
def Action.completions : Action → List Completion
  | .wait _ _ completions => completions
  | .setMode _ _ | .purge _ | .submit _ _ | .cancelAll | .payload _ _ _ | .fill _ _ _ _
  | .progress _ _ | .log _ => []

/-- Payload passed on, or a buffer to be filled. -/
def Action.isOffer : Action → Bool
  | .payload _ _ _ | .fill _ _ _ _ => true
  | _ => false

namespace Link

def calls (l : Link σ) : List Action := l.transcript.filter Action.isTransport

def drains (l : Link σ) : List (Nat × Nat) := l.transcript.filterMap Action.drained?

/-- What a session does beside calling the transport, short of noting that it has drained. -/
inductive Aside (env : Surroundings σ) (l : Link σ) : Link σ → Prop
  | refl : Aside env l l
  | log {m : Link σ} (event : Event) (ordinary : (Action.log event).drained? = none)
      (h : Aside env l m) : Aside env l (m.log env event)
  | transition {m : Link σ} (state : State) (h : Aside env l m) :
      Aside env l (m.transition env state)
  | now {m : Link σ} (h : Aside env l m) : Aside env l (m.now env).2
  | payload {m : Link σ} (slot : Nat) (span : Bytes) (h : Aside env l m) :
      Aside env l (m.payload env slot span).2
  | fill {m : Link σ} (slot : Nat) (offered : Bytes) (h : Aside env l m) :
      Aside env l (m.fill env slot offered).2
  | progress {m : Link σ} (snapshot : Snapshot) (h : Aside env l m) :
      Aside env l (m.progress env snapshot).2

/-- The same, with no payload passed on and no buffer filled. -/
inductive Quiet (env : Surroundings σ) (l : Link σ) : Link σ → Prop
  | refl : Quiet env l l
  | log {m : Link σ} (event : Event) (ordinary : (Action.log event).drained? = none)
      (h : Quiet env l m) : Quiet env l (m.log env event)
  | transition {m : Link σ} (state : State) (h : Quiet env l m) :
      Quiet env l (m.transition env state)
  | now {m : Link σ} (h : Quiet env l m) : Quiet env l (m.now env).2
  | progress {m : Link σ} (snapshot : Snapshot) (h : Quiet env l m) :
      Quiet env l (m.progress env snapshot).2

theorem Quiet.aside {env : Surroundings σ} {l m : Link σ} (h : l.Quiet env m) : l.Aside env m := by
  induction h with
  | refl => exact .refl
  | log event ordinary _ ih => exact ih.log event ordinary
  | transition state _ ih => exact ih.transition state
  | now _ ih => exact ih.now
  | progress snapshot _ ih => exact ih.progress snapshot

theorem Aside.trans {env : Surroundings σ} {l m n : Link σ} (first : l.Aside env m)
    (second : m.Aside env n) : l.Aside env n := by
  induction second with
  | refl => exact first
  | log event ordinary _ ih => exact ih.log event ordinary
  | transition state _ ih => exact ih.transition state
  | now _ ih => exact ih.now
  | payload slot span _ ih => exact ih.payload slot span
  | fill slot offered _ ih => exact ih.fill slot offered
  | progress snapshot _ ih => exact ih.progress snapshot

theorem Aside.of_fill {env : Surroundings σ} {l m : Link σ} {slot : Nat} {offered left : Bytes}
    {flow : Flow} (answer : l.fill env slot offered = ((flow, left), m)) : l.Aside env m := by
  have aside : l.Aside env (l.fill env slot offered).2 := Aside.refl.fill slot offered
  rwa [answer] at aside

theorem calls_after (l : Link σ) (action : Action) (world : σ) :
    (l.after action world).calls = l.calls ++ [action].filter Action.isTransport := by
  simp only [calls, transcript, after, List.reverse_cons, List.filter_append]

section

variable (env : Surroundings σ) (l : Link σ)

theorem calls_setMode (mode : Mode) :
    (l.setMode env mode).2.calls = l.calls ++ [.setMode mode (l.setMode env mode).1] :=
  calls_after l _ _

theorem calls_purge : (l.purge env).2.calls = l.calls ++ [.purge (l.purge env).1] :=
  calls_after l _ _

theorem calls_submit (request : Request) :
    (l.submit env request).2.calls = l.calls ++ [.submit request (l.submit env request).1] :=
  calls_after l _ _

theorem calls_wait (milliseconds : Nat) :
    (l.wait env milliseconds).2.calls = l.calls ++
      [.wait milliseconds (l.wait env milliseconds).1.1 (l.wait env milliseconds).1.2] :=
  calls_after l _ _

theorem calls_cancelAll : (l.cancelAll env).calls = l.calls ++ [.cancelAll] := calls_after l _ _

@[simp] theorem calls_log (event : Event) : (l.log env event).calls = l.calls := by
  rw [log, calls_after]
  exact List.append_nil _

@[simp] theorem calls_transition (state : State) : (l.transition env state).calls = l.calls :=
  calls_log env { l with state } _

@[simp] theorem calls_now : (l.now env).2.calls = l.calls := rfl

@[simp] theorem calls_payload (slot : Nat) (span : Bytes) :
    (l.payload env slot span).2.calls = l.calls := by
  rw [payload]
  split
  · rfl
  · exact (calls_after l _ _).trans (List.append_nil _)

@[simp] theorem calls_fill (slot : Nat) (offered : Bytes) :
    (l.fill env slot offered).2.calls = l.calls := by
  rw [fill]
  split
  · rfl
  · exact (calls_after l _ _).trans (List.append_nil _)

@[simp] theorem calls_progress (snapshot : Snapshot) :
    (l.progress env snapshot).2.calls = l.calls := by
  rw [progress]
  split
  · rfl
  · exact (calls_after l _ _).trans (List.append_nil _)

end

theorem Aside.calls_eq {env : Surroundings σ} {l m : Link σ} (h : l.Aside env m) :
    m.calls = l.calls := by
  induction h with
  | refl => rfl
  | log event _ _ ih => rw [calls_log, ih]
  | transition state _ ih => rw [calls_transition, ih]
  | now _ ih => rw [calls_now, ih]
  | payload slot span _ ih => rw [calls_payload, ih]
  | fill slot offered _ ih => rw [calls_fill, ih]
  | progress snapshot _ ih => rw [calls_progress, ih]

theorem drains_after (l : Link σ) (action : Action) (world : σ) :
    (l.after action world).drains = l.drains ++ [action].filterMap Action.drained? := by
  simp only [drains, transcript, after, List.reverse_cons, List.filterMap_append]

theorem drains_after_ordinary (l : Link σ) {action : Action} (world : σ)
    (ordinary : action.drained? = none) : (l.after action world).drains = l.drains := by
  rw [drains_after, List.filterMap_cons_none ordinary, List.filterMap_nil, List.append_nil]

section

variable (env : Surroundings σ) (l : Link σ)

@[simp] theorem drains_setMode (mode : Mode) : (l.setMode env mode).2.drains = l.drains :=
  drains_after_ordinary l _ rfl

@[simp] theorem drains_purge : (l.purge env).2.drains = l.drains := drains_after_ordinary l _ rfl

@[simp] theorem drains_submit (request : Request) : (l.submit env request).2.drains = l.drains :=
  drains_after_ordinary l _ rfl

@[simp] theorem drains_wait (milliseconds : Nat) : (l.wait env milliseconds).2.drains = l.drains :=
  drains_after_ordinary l _ rfl

@[simp] theorem drains_cancelAll : (l.cancelAll env).drains = l.drains :=
  drains_after_ordinary l _ rfl

end

theorem Aside.drains_eq {env : Surroundings σ} {l m : Link σ} (h : l.Aside env m) :
    m.drains = l.drains := by
  induction h with
  | refl => rfl
  | log event ordinary _ ih => rw [Link.log, drains_after_ordinary _ _ ordinary, ih]
  | transition state _ ih => exact (drains_after_ordinary _ _ rfl).trans ih
  | now _ ih => exact ih
  | payload slot span _ ih =>
      rw [Link.payload]
      split
      · exact ih
      · exact (drains_after_ordinary _ _ rfl).trans ih
  | fill slot offered _ ih =>
      rw [Link.fill]
      split
      · exact ih
      · exact (drains_after_ordinary _ _ rfl).trans ih
  | progress snapshot _ ih =>
      rw [Link.progress]
      split
      · exact ih
      · exact (drains_after_ordinary _ _ rfl).trans ih

def offers (l : Link σ) : List Action := l.transcript.filter Action.isOffer

theorem offers_after (l : Link σ) (action : Action) (world : σ) :
    (l.after action world).offers = l.offers ++ [action].filter Action.isOffer := by
  simp only [offers, transcript, after, List.reverse_cons, List.filter_append]

theorem offers_after_other (l : Link σ) {action : Action} (world : σ)
    (other : action.isOffer = false) : (l.after action world).offers = l.offers := by
  rw [offers_after, List.filter_cons_of_neg (Bool.eq_false_iff.mp other), List.filter_nil,
    List.append_nil]

section

variable (env : Surroundings σ) (l : Link σ)

@[simp] theorem offers_setMode (mode : Mode) : (l.setMode env mode).2.offers = l.offers :=
  offers_after_other l _ rfl

@[simp] theorem offers_purge : (l.purge env).2.offers = l.offers := offers_after_other l _ rfl

@[simp] theorem offers_submit (request : Request) : (l.submit env request).2.offers = l.offers :=
  offers_after_other l _ rfl

@[simp] theorem offers_wait (milliseconds : Nat) : (l.wait env milliseconds).2.offers = l.offers :=
  offers_after_other l _ rfl

@[simp] theorem offers_cancelAll : (l.cancelAll env).offers = l.offers :=
  offers_after_other l _ rfl

@[simp] theorem offers_log (event : Event) : (l.log env event).offers = l.offers :=
  offers_after_other l _ rfl

end

theorem Quiet.offers_eq {env : Surroundings σ} {l m : Link σ} (h : l.Quiet env m) :
    m.offers = l.offers := by
  induction h with
  | refl => rfl
  | log event _ _ ih => rw [offers_log, ih]
  | transition state _ ih => exact (offers_log env _ _).trans ih
  | now _ ih => exact ih
  | progress snapshot _ ih =>
      rw [Link.progress]
      split
      · exact ih
      · exact (offers_after_other _ _ rfl).trans ih

end Link

end BulkStream.Session
