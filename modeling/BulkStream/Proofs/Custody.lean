import Mathlib.Data.Finset.Erase
import Mathlib.Data.Finset.Insert
import Mathlib.Data.Multiset.AddSub
import BulkStream.Proofs.CycleSteps
import BulkStream.Proofs.Holding
import BulkStream.Session.Assembly

/-!
A session among surroundings whose transport holds the requests it accepts. The session's slots
agree with the transport when those in flight are the slots that are held and those handed back and
not handled yet, each once. Every call that a session makes keeps them in agreement.
-/
namespace BulkStream.Session

variable {σ : Type} {env : Surroundings σ}

/-- Surroundings whose transport holds what it accepts, whatever else goes on in them. -/
structure Custody (env : Surroundings σ) extends env.toTransport.Holding where
  payload (span : Bytes) (world : σ) : held (env.payload span world).2 = held world
  fill (buffer : Bytes) (world : σ) : held (env.fill buffer world).2 = held world
  progress (snapshot : Snapshot) (world : σ) : held (env.progress snapshot world).2 = held world
  now (world : σ) : held (env.now world).2 = held world
  log (event : Event) (world : σ) : held (env.log event world) = held world

def account (slots : Multiset Nat) : Action → Multiset Nat
  | .submit request (.ok ()) => request.slot ::ₘ slots
  | .wait _ _ completions => slots - (completions.map Completion.slot : Multiset Nat)
  | _ => slots

/-- Slots of the requests that were accepted and have not come back. -/
def outstanding (calls : List Action) : Multiset Nat := calls.foldl account 0

/-- No slot is submitted while an earlier request for it is outstanding. -/
def OneAtATime (calls : List Action) : Prop :=
  ∀ before request result after, calls = before ++ .submit request result :: after →
    request.slot ∉ outstanding before

theorem outstanding_append (calls : List Action) (call : Action) :
    outstanding (calls ++ [call]) = account (outstanding calls) call := by
  rw [outstanding, List.foldl_append]
  rfl

theorem OneAtATime.append {calls : List Action} {call : Action} (h : OneAtATime calls)
    (fresh : ∀ request result, call = .submit request result → request.slot ∉ outstanding calls) :
    OneAtATime (calls ++ [call]) := by
  intro before request result after split
  -- The submission in question is the new call or one of the calls before it.
  cases after using List.reverseRecOn with
  | nil =>
      obtain ⟨rfl, last⟩ := List.append_inj' split rfl
      exact fresh request result (List.singleton_inj.mp last)
  | append_singleton after last _ =>
      rw [← List.cons_append, ← List.append_assoc] at split
      obtain ⟨earlier, -⟩ := List.append_inj' split rfl
      exact h before request result after earlier

/-- A complaint of a stray completion is not the session's own: the transport failed a wait in the
same words. -/
def Explained (fatal : Option StreamError) (calls : List Action) : Prop :=
  ∀ index, fatal = some (Pool.notInFlight index) → ∃ milliseconds source completions,
    Action.wait milliseconds (.failed source) completions ∈ calls ∧
      StreamError.transport source = Pool.notInFlight index

theorem Explained.append {fatal : Option StreamError} {calls : List Action}
    (h : Explained fatal calls) (more : List Action) : Explained fatal (calls ++ more) := by
  intro index same
  obtain ⟨milliseconds, source, completions, member, words⟩ := h index same
  exact ⟨milliseconds, source, completions, List.mem_append_left more member, words⟩

theorem Explained.or {fatal next : Option StreamError} {calls : List Action}
    (h : Explained fatal calls) (later : Explained next calls) :
    Explained (fatal.or next) calls := by
  cases fatal with
  | none => exact later
  | some error => exact h

theorem Explained.unrelated {error : StreamError} (calls : List Action)
    (other : ∀ index, error ≠ Pool.notInFlight index) : Explained (some error) calls := by
  intro index same
  exact absurd (Option.some.inj same) (other index)

theorem explained_wait {l : Link σ} {milliseconds : Nat} {result : WaitResult}
    {completions : List Completion}
    (answer : (l.wait env milliseconds).1 = (result, completions)) :
    Explained (result.error?.map .transport) (l.wait env milliseconds).2.calls := by
  intro index same
  rw [Link.calls_wait, answer]
  cases result with
  | ok => contradiction
  | interrupted => cases same
  | failed source =>
      exact ⟨milliseconds, source, completions, List.mem_append_right _ List.mem_cons_self,
        Option.some.inj same⟩

namespace Custody

/-- Parts that do not see each other leave what the transport holds to the transport. -/
def ofHolding {τ η κ : Type} {t : Transport τ} (h : t.Holding) (o : Outside η) (c : Consumer κ) :
    Custody (Assembly.surroundings t o c) where
  held a := h.held a.transport
  submit_ok request a accepted := h.submit_ok request a.transport accepted
  submit_error request a source refused := h.submit_error request a.transport source refused
  wait milliseconds a := h.wait milliseconds a.transport
  setMode mode a := h.setMode mode a.transport
  purge a := h.purge a.transport
  cancelAll a := h.cancelAll a.transport
  payload _ _ := rfl
  fill _ _ := rfl
  progress _ _ := rfl
  now _ := rfl
  log _ _ := rfl

variable (custody : Custody env)

def slots (l : Link σ) : Multiset Nat := (custody.held l.world).map Request.slot

theorem slots_aside {l m : Link σ} (h : l.Aside env m) : custody.slots m = custody.slots l := by
  induction h with
  | refl => rfl
  | log event _ _ ih => exact (congrArg _ (custody.log event _)).trans ih
  | transition state _ ih => exact (congrArg _ (custody.log _ _)).trans ih
  | now _ ih => exact (congrArg _ (custody.now _)).trans ih
  | payload slot span _ ih =>
      rw [Link.payload]
      split
      · exact ih
      · exact (congrArg _ (custody.payload span _)).trans ih
  | fill slot offered _ ih =>
      rw [Link.fill]
      split
      · exact ih
      · exact (congrArg _ (custody.fill offered _)).trans ih
  | progress snapshot _ ih =>
      rw [Link.progress]
      split
      · exact ih
      · exact (congrArg _ (custody.progress snapshot _)).trans ih

/-- A set of slots agrees with the transport, in a session that has made these calls and whose first
error is as given. -/
structure Agrees (fatal : Option StreamError) (slots : Finset Nat) (l : Link σ)
    (unhandled : List Completion) : Prop where
  slots_eq : slots.val = custody.slots l + (unhandled.map Completion.slot : Multiset Nat)
  outstanding_eq : outstanding l.calls = custody.slots l
  oneAtATime : OneAtATime l.calls
  explained : Explained fatal l.calls
  undrained : l.drains = []

namespace Agrees

variable {custody} {fatal : Option StreamError} {slots : Finset Nat} {l m : Link σ}
  {unhandled : List Completion}

theorem not_outstanding (h : custody.Agrees fatal slots l unhandled) {index : Nat}
    (fresh : index ∉ slots) : index ∉ outstanding l.calls := by
  intro member
  have held : index ∈ custody.slots l + (unhandled.map Completion.slot : Multiset Nat) := by
    rw [← h.outstanding_eq]
    exact Multiset.mem_add.mpr (.inl member)
  rw [← h.slots_eq] at held
  exact fresh held

theorem aside (h : custody.Agrees fatal slots l unhandled) (aside : l.Aside env m) :
    custody.Agrees fatal slots m unhandled := by
  have same := custody.slots_aside aside
  have calls := aside.calls_eq
  refine ⟨?_, ?_, ?_, ?_, ?_⟩
  · rw [same]
    exact h.slots_eq
  · rw [same, calls]
    exact h.outstanding_eq
  · rw [calls]
    exact h.oneAtATime
  · rw [calls]
    exact h.explained
  · rw [aside.drains_eq]
    exact h.undrained

theorem fail (h : custody.Agrees fatal slots l unhandled) {error : StreamError}
    (other : ∀ index, error ≠ Pool.notInFlight index) :
    custody.Agrees (fatal.or (some error)) slots l unhandled :=
  ⟨h.slots_eq, h.outstanding_eq, h.oneAtATime, h.explained.or (.unrelated l.calls other),
    h.undrained⟩

theorem call (h : custody.Agrees fatal slots l unhandled) {next : Finset Nat}
    {left : List Completion} {action : Action} (calls : m.calls = l.calls ++ [action])
    (drains : m.drains = l.drains)
    (slots_eq : next.val = custody.slots m + (left.map Completion.slot : Multiset Nat))
    (accounted : account (custody.slots l) action = custody.slots m)
    (fresh : ∀ request result, action = .submit request result → request.slot ∉ slots) :
    custody.Agrees fatal next m left := by
  refine ⟨slots_eq, ?_, ?_, ?_, drains.trans h.undrained⟩
  · rw [calls, outstanding_append, h.outstanding_eq, accounted]
  · rw [calls]
    exact h.oneAtATime.append fun request result same =>
      h.not_outstanding (fresh request result same)
  · rw [calls]
    exact h.explained.append _

/-- A call that neither hands a request over nor back. -/
theorem neutral (h : custody.Agrees fatal slots l unhandled) {action : Action}
    (calls : m.calls = l.calls ++ [action]) (drains : m.drains = l.drains)
    (held : custody.held m.world = custody.held l.world)
    (accounted : ∀ out, account out action = out)
    (other : ∀ request result, action ≠ .submit request result) :
    custody.Agrees fatal slots m unhandled := by
  have same : custody.slots m = custody.slots l := congrArg (Multiset.map Request.slot) held
  refine h.call calls drains ?_ ?_ fun request result this => absurd this (other request result)
  · rw [same]
    exact h.slots_eq
  · rw [same]
    exact accounted _

theorem setMode (h : custody.Agrees fatal slots l unhandled) (mode : Mode) :
    custody.Agrees fatal slots (l.setMode env mode).2 unhandled :=
  h.neutral (l.calls_setMode env mode) (l.drains_setMode env mode) (custody.setMode mode l.world)
    (fun _ => rfl) (fun _ _ => by simp)

theorem purge (h : custody.Agrees fatal slots l unhandled) :
    custody.Agrees fatal slots (l.purge env).2 unhandled :=
  h.neutral (l.calls_purge env) (l.drains_purge env) (custody.purge l.world) (fun _ => rfl)
    (fun _ _ => by simp)

theorem cancelAll (h : custody.Agrees fatal slots l unhandled) :
    custody.Agrees fatal slots (l.cancelAll env) unhandled :=
  h.neutral (l.calls_cancelAll env) (l.drains_cancelAll env) (custody.cancelAll l.world)
    (fun _ => rfl) (fun _ _ => by simp)

theorem submit_ok (h : custody.Agrees fatal slots l unhandled) {request : Request}
    (fresh : request.slot ∉ slots) (accepted : (l.submit env request).1 = .ok ()) :
    custody.Agrees fatal (insert request.slot slots) (l.submit env request).2 unhandled := by
  have held : custody.slots (l.submit env request).2 = request.slot ::ₘ custody.slots l :=
    (congrArg _ (custody.submit_ok request l.world accepted)).trans (Multiset.map_cons _ _ _)
  refine h.call (l.calls_submit env request) (l.drains_submit env request) ?_ ?_ ?_
  · rw [held, Finset.insert_val_of_notMem fresh, h.slots_eq, Multiset.cons_add]
  · rw [held, accepted, account]
  · intro other result same
    cases same
    exact fresh

theorem submit_error (h : custody.Agrees fatal slots l unhandled) {request : Request}
    (fresh : request.slot ∉ slots) {source : TransportError}
    (refused : (l.submit env request).1 = .error source) :
    custody.Agrees fatal slots (l.submit env request).2 unhandled := by
  have held : custody.slots (l.submit env request).2 = custody.slots l :=
    congrArg (Multiset.map Request.slot) (custody.submit_error request l.world source refused)
  refine h.call (l.calls_submit env request) (l.drains_submit env request) ?_ ?_ ?_
  · rw [held]
    exact h.slots_eq
  · rw [held, refused]
    rfl
  · intro other result same
    cases same
    exact fresh

theorem wait (h : custody.Agrees fatal slots l unhandled) (milliseconds : Nat) :
    custody.Agrees fatal slots (l.wait env milliseconds).2
      (unhandled ++ (l.wait env milliseconds).1.2) := by
  -- What comes back leaves the transport and joins what is to be handled, so the sum stays.
  obtain ⟨back, split, same⟩ := custody.wait milliseconds l.world
  have held : custody.slots l = custody.slots (l.wait env milliseconds).2 +
      ((l.wait env milliseconds).1.2.map Completion.slot : Multiset Nat) :=
    (congrArg _ split).trans ((Multiset.map_add _ _ _).trans (congrArg _ same.symm))
  refine h.call (l.calls_wait env milliseconds) (l.drains_wait env milliseconds) ?_ ?_ ?_
  · rw [h.slots_eq, held, List.map_append, ← Multiset.coe_add, Multiset.add_assoc,
      Multiset.add_comm ((List.map _ unhandled : List Nat) : Multiset Nat)]
  · rw [account, held, Multiset.add_sub_cancel_right]
  · intro request result impossible
    cases impossible

theorem await {milliseconds : Nat} {failure : Option StreamError} {completions : List Completion}
    (h : custody.Agrees fatal slots l [])
    (awaited : Stream.Awaited env milliseconds l ((failure, completions), m)) :
    custody.Agrees (fatal.or failure) slots m completions := by
  cases awaited with
  | once result _ answer whole =>
      have waited := h.wait milliseconds
      rw [answer, List.nil_append] at waited
      exact { waited with explained := waited.explained.or (explained_wait answer) }
  | again first result more cut answer =>
      have waited := h.wait milliseconds
      rw [cut, List.nil_append] at waited
      have again := (waited.aside (Link.Aside.refl.log .waitInterrupted rfl)).wait milliseconds
      rw [answer] at again
      exact { again with explained := again.explained.or (explained_wait answer) }

theorem handle {c : Completion} (h : custody.Agrees fatal slots l (c :: unhandled)) :
    c.slot ∈ slots ∧ custody.Agrees fatal (slots.erase c.slot) l unhandled := by
  have all : slots.val =
      c.slot ::ₘ (custody.slots l + (unhandled.map Completion.slot : Multiset Nat)) := by
    rw [h.slots_eq, List.map_cons, ← Multiset.cons_coe, Multiset.add_cons]
  refine ⟨?_, ?_, h.outstanding_eq, h.oneAtATime, h.explained, h.undrained⟩
  · rw [← Finset.mem_val, all]
    exact Multiset.mem_cons_self _ _
  · rw [Finset.erase_val, all, Multiset.erase_cons_head]

end Agrees

end Custody

end BulkStream.Session
