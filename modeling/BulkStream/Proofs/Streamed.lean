import Mathlib.Data.List.TakeWhile
import BulkStream.Proofs.CallOrder
import BulkStream.Proofs.Totals

/-!
The completions of a session in order. What its waits hand over before a cancellation is asked for is
handled one by one in that order, what an interrupted wait handed over included, and all of it by the
time that the session drains.
-/
namespace BulkStream.Session

variable {σ : Type} {env : Surroundings σ} {config : Config} {state : State} {world : σ}

def Action.isCancelAll : Action → Bool
  | .cancelAll => true
  | .setMode _ _ | .purge _ | .submit _ _ | .wait _ _ _ | .payload _ _ _ | .fill _ _ _ _
  | .progress _ _ | .log _ => false

/-- What is handed over by the waits that are made before a cancellation is asked for. -/
def streamed (calls : List Action) : List Completion :=
  (calls.takeWhile fun call => !call.isCancelAll).flatMap Action.completions

def Uncancelled (calls : List Action) : Prop := ∀ call ∈ calls, call.isCancelAll = false

/-- Calls that hand over nothing, and do not ask for a cancellation. -/
def Barren (calls : List Action) : Prop :=
  ∀ call ∈ calls, call.isCancelAll = false ∧ call.completions = []

section

variable {calls more : List Action}

theorem uncancelled_append : Uncancelled (calls ++ more) ↔ Uncancelled calls ∧ Uncancelled more :=
  List.forall_mem_append

theorem streamed_uncancelled (h : Uncancelled calls) :
    streamed calls = calls.flatMap Action.completions := by
  have all : ∀ call ∈ calls, (!call.isCancelAll) = true := fun call member => by
    rw [h call member]
    rfl
  rw [streamed, List.takeWhile_eq_self_iff.mpr all]

theorem streamed_append (h : Uncancelled calls) (more : List Action) :
    streamed (calls ++ more) = streamed calls ++ streamed more := by
  have all : ∀ call ∈ calls, (!call.isCancelAll) = true := fun call member => by
    rw [h call member]
    rfl
  rw [streamed_uncancelled h, streamed, List.takeWhile_append_of_pos all, List.flatMap_append,
    streamed]

theorem streamed_append_cancelled (h : ¬ Uncancelled calls) (more : List Action) :
    streamed (calls ++ more) = streamed calls := by
  induction calls with
  | nil => exact absurd (List.forall_mem_nil _) h
  | cons call calls ih =>
      rw [streamed, streamed, List.cons_append, List.takeWhile_cons, List.takeWhile_cons]
      cases cancels : call.isCancelAll with
      | true => rfl
      | false =>
          have later : ¬ Uncancelled calls := fun all => h (List.forall_mem_cons.mpr ⟨cancels, all⟩)
          have same := ih later
          rw [streamed, streamed] at same
          simp only [Bool.not_false, if_true, List.flatMap_cons, same]

theorem Barren.uncancelled (h : Barren more) : Uncancelled more := fun call member => (h call member).1

theorem streamed_append_barren (h : Barren more) : streamed (calls ++ more) = streamed calls := by
  by_cases uncancelled : Uncancelled calls
  · rw [streamed_append uncancelled, streamed_uncancelled h.uncancelled,
      List.flatMap_eq_nil_iff.mpr fun call member => (h call member).2, List.append_nil]
  · exact streamed_append_cancelled uncancelled more

theorem Waits.uncancelled {milliseconds : Nat} {waits : List Action} (h : Waits milliseconds waits) :
    Uncancelled waits := by
  cases h with
  | once result completions whole => exact List.forall_mem_singleton.mpr rfl
  | again completions result more =>
      exact List.forall_mem_cons.mpr ⟨rfl, List.forall_mem_singleton.mpr rfl⟩

end

/-- What a session has still to handle. -/
def Phase.pending : Phase → List Completion
  | .handling completions => completions
  | .priming _ | .cycling | .closing | .draining _ _ | .collecting _ _ _ _ _ | .settling _ => []

/-- A cancellation is asked for as a session that has something to wait for begins to drain. -/
def Phase.Marks : Phase → List Action → Prop
  | .priming _, calls | .cycling, calls | .handling _, calls | .closing, calls => Uncancelled calls
  | .draining _ _, calls | .collecting _ _ _ _ _, calls => ¬ Uncancelled calls
  | .settling _, _ => True

/-- What was handed over while streaming is handled, or is still to be. -/
structure Fed (handled : List Completion) (phase : Phase) (calls : List Action) : Prop where
  streamed : streamed calls = handled ++ phase.pending
  marks : phase.Marks calls

namespace Fed

variable {handled : List Completion} {phase : Phase} {l m : Link σ}

theorem barren {calls more : List Action} (h : Fed handled phase calls) (barren : Barren more) :
    Fed handled phase (calls ++ more) := by
  refine ⟨(streamed_append_barren barren).trans h.streamed, ?_⟩
  have same : Uncancelled (calls ++ more) ↔ Uncancelled calls :=
    uncancelled_append.trans (and_iff_left barren.uncancelled)
  have marks := h.marks
  cases phase with
  | priming | cycling | handling | closing => exact same.mpr marks
  | draining | collecting => exact fun all => marks (same.mp all)
  | settling => trivial

theorem aside (h : Fed handled phase l.calls) (aside : l.Aside env m) : Fed handled phase m.calls :=
  aside.calls_eq.symm ▸ h

theorem submit (h : Fed handled phase l.calls) (request : Request) :
    Fed handled phase (l.submit env request).2.calls := by
  rw [Link.calls_submit]
  exact h.barren (List.forall_mem_singleton.mpr ⟨rfl, rfl⟩)

theorem setMode (h : Fed handled phase l.calls) (mode : Mode) :
    Fed handled phase (l.setMode env mode).2.calls := by
  rw [Link.calls_setMode]
  exact h.barren (List.forall_mem_singleton.mpr ⟨rfl, rfl⟩)

theorem await {failure : Option StreamError} {completions : List Completion} {milliseconds : Nat}
    (h : Fed handled .cycling l.calls)
    (awaited : Stream.Awaited env milliseconds l ((failure, completions), m)) :
    Fed handled (.handling completions) m.calls := by
  obtain ⟨waits, waited, handed, calls⟩ := awaited_calls awaited
  have uncancelled : Uncancelled l.calls := h.marks
  rw [calls]
  refine ⟨?_, uncancelled_append.mpr ⟨uncancelled, waited.uncancelled⟩⟩
  rw [streamed_append uncancelled, h.streamed, streamed_uncancelled waited.uncancelled, handed]
  exact congrArg (· ++ completions) (List.append_nil handled)

theorem cancelAll (h : Fed handled .closing l.calls) :
    Fed handled (.draining 0 false) (l.cancelAll env).calls := by
  rw [Link.calls_cancelAll]
  refine ⟨?_, fun all => ?_⟩
  · rw [streamed_append h.marks]
    exact (List.append_nil _).trans h.streamed
  · have last := List.forall_mem_singleton.mp (uncancelled_append.mp all).2
    cases last

theorem wait {collected : Nat} {interrupted : Bool}
    (h : Fed handled (.draining collected interrupted) l.calls) (milliseconds : Nat)
    (answer : WaitResult) (before : Nat) (completions : List Completion) :
    Fed handled (.collecting answer interrupted before collected completions)
      (l.wait env milliseconds).2.calls := by
  rw [Link.calls_wait]
  refine ⟨(streamed_append_cancelled h.marks _).trans h.streamed, fun all => ?_⟩
  exact h.marks (uncancelled_append.mp all).1

end Fed

namespace Run

variable {run next : Run σ} {handled : List Completion}

def Fed (handled : List Completion) : Run σ → Prop
  | .active phase s => Session.Fed handled phase s.link.calls
  | .ended _ l => streamed l.calls = handled

def pending : Run σ → List Completion
  | .active phase _ => phase.pending
  | .ended _ _ => []

/-- The completion that the next step of a run handles while streaming, and the stream that it finds. -/
def handling? : Run σ → Option (Completion × Stream σ)
  | .active (.handling (c :: _)) s => some (c, s)
  | _ => none

theorem handling?_eq_some {c : Completion} {s : Stream σ} (h : run.handling? = some (c, s)) :
    ∃ completions, run = .active (.handling (c :: completions)) s := by
  cases run with
  | ended result l => cases h
  | active phase s =>
      cases phase with
      | handling completions =>
          cases completions with
          | nil => cases h
          | cons c completions =>
              cases h
              exact ⟨completions, rfl⟩
      | priming | cycling | closing | draining | collecting | settling => cases h

/-- The completions that the first `n` steps of a run handle while streaming, each with the stream that
it finds. -/
def handlings (env : Surroundings σ) (config : Config) (n : Nat) (run : Run σ) :
    List (Completion × Stream σ) :=
  (path env config n run).flatMap fun point => point.handling?.toList

theorem handlings_succ {n : Nat} (come : advance env config n run = .ok next) :
    handlings env config (n + 1) run = handlings env config n run ++ next.handling?.toList := by
  rw [handlings, path_succ come, List.flatMap_append, handlings, List.flatMap_singleton]

theorem Fed.started (h : Started env config state world run) : run.Fed [] := by
  have reset : (resetting env state world).2.calls =
      [.setMode .reset (resetting env state world).1] := by
    rw [resetting, Link.calls_setMode, (quiet_configuring env state world).aside.calls_eq]
    rfl
  have purged : (purging env state world).2.calls =
      [.setMode .reset (resetting env state world).1, .purge (purging env state world).1] := by
    rw [purging, Link.calls_purge, reset]
    rfl
  have failed (error : StreamError) {l : Link σ} (nothing : streamed l.calls = []) :
      (failEarly env error l).Fed [] :=
    (congrArg streamed (quiet_failEarly error l).aside.calls_eq).trans nothing
  have priming : (purging env state world).2.Aside env
      ((purging env state world).2.transition env .priming) := .transition .priming .refl
  cases h with
  | unset source _ => exact failed _ (congrArg streamed reset)
  | unpurged source _ _ => exact failed _ (congrArg streamed purged)
  | narrow size _ _ _ _ => exact failed _ (congrArg streamed purged)
  | unallocated size _ _ reported wide error refused =>
      exact failed _ (congrArg streamed (priming.calls_eq.trans purged))
  | opened size _ _ reported wide pool allocated =>
      have calls := priming.calls_eq.trans purged
      refine ⟨congrArg streamed calls, ?_⟩
      change Uncancelled ((purging env state world).2.transition env .priming).calls
      rw [calls]
      exact List.forall_mem_cons.mpr ⟨rfl, List.forall_mem_singleton.mpr rfl⟩

/-- A step that handles nothing keeps what is handled and what is still to be. -/
theorem Fed.kept (h : run.Fed handled) (stepped : Stepped env config run next)
    (idle : run.handling? = none) : next.Fed handled := by
  cases stepped with
  | ended result l => exact h
  | queued index s buffer l inside prepared accepted =>
      obtain ⟨fed, marks⟩ := (Session.Fed.aside h prepared.aside).submit (s.pool.request index buffer)
      exact ⟨fed, marks⟩
  | refused index s buffer l inside prepared source answer =>
      obtain ⟨fed, marks⟩ := (Session.Fed.aside h prepared.aside).submit (s.pool.request index buffer)
      exact ⟨fed, marks⟩
  | spared index s offered buffer l inside write held answer =>
      obtain ⟨fed, marks⟩ := Session.Fed.aside h (.of_fill answer)
      exact ⟨fed, marks⟩
  | denied index s all source answer =>
      obtain ⟨fed, marks⟩ :=
        (Session.Fed.aside h (quiet_announced config s).aside).setMode .syncFifo
      exact ⟨fed, marks⟩
  | entered index s all answer =>
      obtain ⟨fed, marks⟩ := ((Session.Fed.aside h (quiet_announced config s).aside).setMode
        .syncFifo).aside (quiet_opened _).aside
      exact ⟨fed, marks⟩
  | gathered s failure completions l awaited => exact Session.Fed.await h awaited
  | handled c completions s t handled => cases idle
  | concluded s again t concluded =>
      cases concluded with
      | finished quitting => exact ⟨h.streamed, h.marks⟩
      | stalled running idle =>
          obtain ⟨fed, marks⟩ := Session.Fed.aside h (.log (.stalled config.waitMilliseconds) rfl .refl)
          exact ⟨fed, marks⟩
      | again running busy t sampled beside =>
          obtain ⟨fed, marks⟩ := Session.Fed.aside h beside.aside
          exact ⟨fed, marks⟩
  | emptied s none =>
      obtain ⟨fed, -⟩ := Session.Fed.aside h (quiet_idled s).aside
      exact ⟨fed, trivial⟩
  | cancelled s some =>
      have undisturbed : s.link.Aside env (idled env s).link := (quiet_idled s).aside
      exact (Session.Fed.aside h undisturbed).cancelAll
  | cleared collected interrupted s none => exact ⟨h.streamed, trivial⟩
  | waited collected interrupted s some answer completions answered =>
      exact Session.Fed.wait h config.waitMilliseconds answer collected completions
  | collected | ignored => exact ⟨h.streamed, h.marks⟩
  | emptyHanded answer interrupted before collected s =>
      rcases afterWait_cases answer interrupted before collected with ⟨again, next⟩ | next
      · rw [next]
        exact ⟨h.streamed, h.marks⟩
      · rw [next]
        exact ⟨h.streamed, trivial⟩
  | settled collected s =>
      obtain ⟨l, finished, quiet⟩ := finish_read_out env (abandoned env collected s)
      have told : (abandoned env collected s).link.calls = s.link.calls := Link.calls_log env s.link _
      rw [finished]
      change streamed l.calls = handled
      rw [quiet.aside.calls_eq, told]
      exact h.streamed.trans (List.append_nil handled)

theorem Fed.handle {c : Completion} {completions : List Completion} {s t : Stream σ}
    (h : (active (.handling (c :: completions)) s).Fed handled) (taken : Stream.Handled env c s t) :
    (active (.handling completions) t).Fed (handled ++ [c]) := by
  have calls : Session.Fed handled (.handling (c :: completions)) t.link.calls := by
    refine taken.keeps (P := fun l => Session.Fed handled (.handling (c :: completions)) l.calls)
      ?_ ?_ h
    · exact fun l m aside fed => fed.aside aside
    · exact fun l request fed => fed.submit request
  exact ⟨calls.streamed.trans (List.append_cons handled c completions), calls.marks⟩

theorem fed_at {n : Nat} (come : advance env config n (start env config state world) = .ok run) :
    run.Fed ((handlings env config n (start env config state world)).map Prod.fst) := by
  refine holds_at (fun _ => Fed.started) ?_ come
  intro n last next before stepped fed
  rw [handlings_succ before, List.map_append]
  cases point : last.handling? with
  | none => exact (List.append_nil _).symm ▸ fed.kept stepped point
  | some handling =>
      obtain ⟨completions, rfl⟩ := handling?_eq_some point
      cases stepped with
      | handled _ _ _ t handled => exact Fed.handle fed handled

/-- What was handed over while streaming has been handled in order, or is still to be. -/
theorem streamed_eq_handled {n : Nat}
    (come : advance env config n (start env config state world) = .ok run) :
    streamed run.link.calls =
      (handlings env config n (start env config state world)).map Prod.fst ++ run.pending := by
  have fed := fed_at come
  cases run with
  | active phase s => exact fed.streamed
  | ended result l => exact fed.trans (List.append_nil _).symm

end Run

end BulkStream.Session
