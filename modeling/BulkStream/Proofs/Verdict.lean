import BulkStream.Proofs.DrainEnds
import BulkStream.Rehearsal.Audience
import BulkStream.Rehearsal.Device
import BulkStream.Rehearsal.Timeline

/-!
How a session is judged. What it ends with is the first error that any step of it met before it
began to drain, and whether a stop was requested by the time it had drained; a later error changes
nothing. A session that met none had released every slot by then.
-/
namespace BulkStream.Session

variable {σ : Type} {env : Surroundings σ} {config : Config} {state : State} {world : σ}

namespace Stream

variable {first : Option StreamError} {accepted : Nat} {s t : Stream σ}

/-- The error that submitting a buffer meets. -/
def refusal? (env : Surroundings σ) (slot : Nat) (buffer : Bytes) (s : Stream σ) :
    Option StreamError :=
  match (s.link.submit env (s.pool.request slot buffer)).1 with
  | .ok () => none
  | .error source => some (.submission slot source)

/-- The error that comes of what a consumer made of a transfer. -/
def onward? (env : Surroundings σ) (slot : Nat) :
    Flow × Bytes × Stream σ → Option StreamError
  | (.stop, _, _) => none
  | (.proceed, buffer, t) => t.refusal? env slot buffer

/-- The error that handling a completion meets. -/
def mishap? (env : Surroundings σ) (c : Completion) (s : Stream σ) : Option StreamError :=
  if s.pool.slots[c.slot]? ≠ some .inFlight then some (Pool.notInFlight c.slot)
  else if c.status ≠ .completed then some (.transport (.status c.status))
  else if s.fatal.isSome || s.stopAll then none
  else onward? env c.slot ((s.succeeded c.slot).consumed env c)

/-- Whether a completion tells of a successful transfer of a slot in flight. -/
def accepts (c : Completion) (s : Stream σ) : Bool :=
  s.pool.slots[c.slot]? = some .inFlight ∧ c.status = .completed

theorem mishap?_running {c : Completion} (own : s.pool.slots[c.slot]? = some .inFlight)
    (status : c.status = .completed) (running : (s.fatal.isSome || s.stopAll) = false) :
    s.mishap? env c = onward? env c.slot ((s.succeeded c.slot).consumed env c) := by
  rw [mishap?, if_neg (not_not.mpr own), if_neg (not_not.mpr status), running,
    if_neg Bool.false_ne_true]

/-- Handling a completion records what it meets, unless something was recorded before. -/
theorem Handled.fatal_eq {c : Completion} (h : Handled env c s t) :
    t.fatal = s.fatal.or (s.mishap? env c) := by
  cases h with
  | stray stray =>
      rw [mishap?, if_pos stray]
      rfl
  | failed own status =>
      rw [mishap?, if_neg (not_not.mpr own), if_pos status]
      rfl
  | dropped own status quitting =>
      rw [mishap?, if_neg (not_not.mpr own), if_neg (not_not.mpr status), if_pos quitting,
        Option.or_none]
      rfl
  | stopped own status running buffer t consumed beside =>
      rw [mishap?_running own status running, consumed, onward?, Option.or_none]
      cases beside
      rfl
  | resubmitted own status running buffer t consumed beside accepted =>
      rw [mishap?_running own status running, consumed, onward?, refusal?, accepted, Option.or_none]
      cases beside
      rfl
  | refused own status running buffer t consumed beside source answer =>
      rw [mishap?_running own status running, consumed, onward?, refusal?, answer]
      cases beside
      rfl

theorem Handled.transfers_eq {c : Completion} (h : Handled env c s t) :
    t.transfers = s.transfers + (s.accepts c).toNat := by
  cases h with
  | stray stray =>
      have unchanged : s.accepts c = false := decide_eq_false fun yes => stray yes.1
      rw [unchanged]
      rfl
  | failed own status =>
      have unchanged : s.accepts c = false := decide_eq_false fun yes => status yes.2
      rw [unchanged]
      rfl
  | dropped own status quitting =>
      have accepting : s.accepts c = true := decide_eq_true ⟨own, status⟩
      rw [accepting]
      rfl
  | stopped own status running buffer t consumed beside
  | resubmitted own status running buffer t consumed beside accepted
  | refused own status running buffer t consumed beside source answer =>
      have accepting : s.accepts c = true := decide_eq_true ⟨own, status⟩
      rw [accepting]
      cases beside
      rfl

/-- What a session has recorded that has met this error first, if any, and accepted so many
completions. -/
structure Recorded (config : Config) (first : Option StreamError) (accepted : Nat) (s : Stream σ) :
    Prop where
  fatal : s.fatal = first
  transfers : s.transfers = accepted
  capacity : s.pool.capacity = config.transferCount
  drains : s.link.drains = []

namespace Recorded

theorem aside (h : s.Recorded config first accepted) {link : Link σ}
    (aside : s.link.Aside env link) : { s with link }.Recorded config first accepted :=
  ⟨h.fatal, h.transfers, h.capacity, aside.drains_eq.trans h.drains⟩

theorem put (h : s.Recorded config first accepted) (index : Nat) (slot : Slot) :
    { s with pool := s.pool.put index slot }.Recorded config first accepted :=
  ⟨h.fatal, h.transfers, (Pool.put_capacity _ _ _).trans h.capacity, h.drains⟩

theorem log (h : s.Recorded config first accepted) (env : Surroundings σ) (event : Event)
    (ordinary : (Action.log event).drained? = none) :
    (s.log env event).Recorded config first accepted :=
  h.aside (Link.Aside.refl.log event ordinary)

theorem submit (h : s.Recorded config first accepted) (env : Surroundings σ) (request : Request) :
    { s with link := (s.link.submit env request).2 }.Recorded config first accepted :=
  ⟨h.fatal, h.transfers, h.capacity, (Link.drains_submit env s.link request).trans h.drains⟩

theorem fail (h : s.Recorded config first accepted) (error : StreamError) :
    (s.fail error).Recorded config (first.or (some error)) accepted :=
  ⟨congrArg (Option.or · _) h.fatal, h.transfers, h.capacity, h.drains⟩

theorem handled {c : Completion} (h : s.Recorded config first accepted)
    (handled : Handled env c s t) :
    t.Recorded config (first.or (s.mishap? env c)) (accepted + (s.accepts c).toNat) := by
  refine ⟨?_, ?_, handled.capacity_eq.trans h.capacity, ?_⟩
  · rw [handled.fatal_eq, h.fatal]
  · rw [handled.transfers_eq, h.transfers]
  · refine handled.keeps (P := fun l => l.drains = []) ?_ ?_ h.drains
    · exact fun l m aside none => aside.drains_eq.trans none
    · exact fun l request none => (Link.drains_submit env l request).trans none

end Recorded

/-- The error that the waits of a cycle end in. -/
def waitMishap? (env : Surroundings σ) (milliseconds : Nat) (l : Link σ) : Option StreamError :=
  match (l.wait env milliseconds).1.1 with
  | .ok => none
  | .failed error => some (.transport error)
  | .interrupted =>
      let again := ((l.wait env milliseconds).2.log env .waitInterrupted).wait env milliseconds
      again.1.1.error?.map .transport

theorem Awaited.failure_eq {milliseconds : Nat} {l m : Link σ} {failure : Option StreamError}
    {completions : List Completion} (h : Awaited env milliseconds l ((failure, completions), m)) :
    failure = waitMishap? env milliseconds l := by
  cases h with
  | once result _ answer whole =>
      rw [waitMishap?, answer]
      cases result with
      | interrupted => contradiction
      | ok => rfl
      | failed error => rfl
  | again first result more cut answer =>
      rw [waitMishap?, cut]
      simp only [answer]

theorem Awaited.drains_eq {milliseconds : Nat} {l m : Link σ} {failure : Option StreamError}
    {completions : List Completion} (h : Awaited env milliseconds l ((failure, completions), m)) :
    m.drains = l.drains := by
  cases h with
  | once result _ answer whole => exact l.drains_wait env milliseconds
  | again first result more cut answer =>
      rw [Link.drains_wait, (Link.Aside.refl.log .waitInterrupted rfl).drains_eq,
        Link.drains_wait]

end Stream

namespace Run

variable {first : Option StreamError} {accepted : Nat}

/-- The buffer that a slot is first submitted with, and the link by then; none if it is not
submitted at all. -/
def prepared? (env : Surroundings σ) (index : Nat) (s : Stream σ) : Option (Bytes × Link σ) :=
  match s.pool.slots[index]?, s.pool.direction with
  | some (.held buffer), .read => some (buffer, s.link)
  | some (.held offered), .write =>
      match s.link.fill env index offered with
      | ((.proceed, buffer), link) => some (buffer, link)
      | ((.stop, _), _) => none
  | _, _ => none

theorem Prepared.eq_some {index : Nat} {s : Stream σ} {buffer : Bytes} {l : Link σ}
    (h : Prepared env index s buffer l) : prepared? env index s = some (buffer, l) := by
  cases h with
  | blank _ read held => simp only [prepared?, held, read]
  | filled offered _ _ write held answer => simp only [prepared?, held, write, answer]

/-- The error that priming a slot meets, or switching to streaming where there are no more. -/
def primingMishap? (env : Surroundings σ) (config : Config) (index : Nat) (s : Stream σ) :
    Option StreamError :=
  if index < s.pool.capacity then
    match prepared? env index s with
    | some (buffer, link) => { s with link }.refusal? env index buffer
    | none => none
  else
    match ((announced env config s).setMode env .syncFifo).1 with
    | .ok () => none
    | .error source => some (.configuration "enter synchronous FIFO mode" source)

/-- The error that the next step of a run meets, if the run has not begun to drain. -/
def mishap? (env : Surroundings σ) (config : Config) : Run σ → Option StreamError
  | .active (.priming index) s => primingMishap? env config index s
  | .active .cycling s => Stream.waitMishap? env config.waitMilliseconds s.link
  | .active (.handling (c :: _)) s => s.mishap? env c
  | .active (.handling []) s =>
      if s.pool.live ≠ 0 ∧ s.activity = 0 then some (.livenessTimeout config.waitMilliseconds)
      else none
  | _ => none

def accepts : Run σ → Bool
  | .active (.handling (c :: _)) s => s.accepts c
  | _ => false

/-- The first error that any of the first `n` steps of a run meets. -/
def firstMishap (env : Surroundings σ) (config : Config) (n : Nat) (run : Run σ) :
    Option StreamError :=
  (path env config n run).findSome? (mishap? env config)

/-- Successful transfers that the first `n` steps of a run take in. -/
def acceptances (env : Surroundings σ) (config : Config) (n : Nat) (run : Run σ) : Nat :=
  (path env config n run).countP accepts

theorem firstMishap_succ {n : Nat} {run next : Run σ}
    (come : advance env config n run = .ok next) :
    firstMishap env config (n + 1) run =
      (firstMishap env config n run).or (next.mishap? env config) := by
  rw [firstMishap, path_succ come, List.findSome?_append, List.findSome?_singleton, firstMishap]

theorem acceptances_succ {n : Nat} {run next : Run σ}
    (come : advance env config n run = .ok next) :
    acceptances env config (n + 1) run = acceptances env config n run + next.accepts.toNat := by
  rw [acceptances, path_succ come, List.countP_append, acceptances, List.countP_singleton]
  cases next.accepts <;> rfl

/-- Up to where it begins to drain, a session has recorded what it met. What brings it there without
an error is the release of the last slot. -/
def Recorded (config : Config) (first : Option StreamError) (accepted : Nat) : Run σ → Prop
  | .active .closing s =>
      s.Recorded config first accepted ∧ (first = none → s.pool.live = 0)
  | .active (.priming _) s | .active .cycling s | .active (.handling _) s =>
      s.Recorded config first accepted
  | _ => True

theorem Recorded.started {run : Run σ} (h : Started env config state world run) :
    run.Recorded config none 0 := by
  cases h with
  | unset source reset | unpurged source reset purged => trivial
  | narrow size reset purged reported narrow => trivial
  | unallocated size reset purged reported wide error refused => trivial
  | opened size reset purged reported wide pool allocated =>
      obtain ⟨bufferLength, rfl⟩ := Pool.allocate_fresh allocated
      have priming : (purging env state world).2.Aside env
          ((purging env state world).2.transition env .priming) := Link.Aside.refl.transition .priming
      refine ⟨rfl, rfl, Pool.fresh_capacity _ _ _, ?_⟩
      exact priming.drains_eq.trans (drains_purging env state world)

theorem primingMishap?_prepared {index : Nat} {s : Stream σ} {buffer : Bytes} {l : Link σ}
    (inside : index < s.pool.capacity) (prepared : Prepared env index s buffer l) :
    primingMishap? env config index s = { s with link := l }.refusal? env index buffer := by
  rw [primingMishap?, if_pos inside, prepared.eq_some]

theorem recorded_failed {s : Stream σ} {error : StreamError}
    (h : s.Recorded config first accepted) :
    (Run.active .closing (s.fail error)).Recorded config (first.or (some error)) accepted := by
  refine ⟨h.fail error, ?_⟩
  intro none
  exact absurd (Option.or_eq_none_iff.mp none).2 (Option.some_ne_none error)

theorem Recorded.concluded {s t : Stream σ} {again : Bool} (h : s.Recorded config first accepted)
    (concluded : Stream.Concluded env config.waitMilliseconds s (again, t)) :
    (Run.active (if again then .cycling else .closing) t).Recorded config
      (first.or ((Run.active (.handling []) s).mishap? env config)) accepted := by
  rw [mishap?]
  cases concluded with
  | finished quitting =>
      rcases Bool.or_eq_true_iff.mp quitting with failed | empty
      · obtain ⟨error, met⟩ := Option.isSome_iff_exists.mp failed
        rw [h.fatal] at met
        subst met
        refine ⟨h, ?_⟩
        intro none
        cases none
      · have live : s.pool.live = 0 := eq_of_beq empty
        rw [if_neg fun stuck => stuck.1 live, Option.or_none]
        exact ⟨h, fun _ => live⟩
  | stalled running idle =>
      have live : s.pool.live ≠ 0 := ne_of_beq_false (Bool.or_eq_false_iff.mp running).2
      rw [if_pos ⟨live, idle⟩]
      exact recorded_failed (h.log env (.stalled config.waitMilliseconds) rfl)
  | again running busy t sampled beside =>
      rw [if_neg fun stuck => busy stuck.2, Option.or_none]
      refine ⟨beside.fatal.trans h.fatal, beside.transfers.trans h.transfers, ?_,
        beside.aside.drains_eq.trans h.drains⟩
      rw [beside.pool]
      exact h.capacity

theorem Recorded.stepped {run next : Run σ} (h : run.Recorded config first accepted)
    (stepped : Stepped env config run next) :
    next.Recorded config (first.or (run.mishap? env config)) (accepted + run.accepts.toNat) := by
  cases stepped with
  | ended result l => trivial
  | queued index s buffer l inside prepared granted =>
      have aside := Stream.Recorded.aside h prepared.aside
      rw [mishap?, primingMishap?_prepared inside prepared, Stream.refusal?, granted,
        Option.or_none]
      exact (aside.submit env (s.pool.request index buffer)).put index .inFlight
  | refused index s buffer l inside prepared source answer =>
      have aside := Stream.Recorded.aside h prepared.aside
      rw [mishap?, primingMishap?_prepared inside prepared, Stream.refusal?, answer]
      exact recorded_failed ((aside.submit env (s.pool.request index buffer)).put index .released)
  | spared index s offered buffer l inside write held answer =>
      have stopped : prepared? env index s = none := by simp only [prepared?, held, write, answer]
      rw [mishap?, primingMishap?, if_pos inside, stopped, Option.or_none]
      exact (Stream.Recorded.aside h (.of_fill answer)).put index .released
  | denied index s all source answer =>
      rw [mishap?, primingMishap?, if_neg all, answer]
      refine recorded_failed ⟨h.fatal, h.transfers, h.capacity, ?_⟩
      exact (Link.drains_setMode env _ _).trans (Stream.Recorded.log h env _ rfl).drains
  | entered index s all answer =>
      rw [mishap?, primingMishap?, if_neg all, answer, Option.or_none]
      refine ⟨h.fatal, h.transfers, h.capacity, (quiet_opened _).aside.drains_eq.trans ?_⟩
      exact (Link.drains_setMode env _ _).trans (Stream.Recorded.log h env _ rfl).drains
  | gathered s failure completions l awaited =>
      rw [mishap?, ← awaited.failure_eq]
      exact ⟨congrArg (Option.or · failure) h.fatal, h.transfers, h.capacity,
        awaited.drains_eq.trans h.drains⟩
  | handled c completions s t handled => exact Stream.Recorded.handled h handled
  | concluded s again t concluded => exact Recorded.concluded h concluded
  | emptied s none => trivial
  | cancelled s some => trivial
  | cleared collected interrupted s none => trivial
  | waited collected interrupted s some answer completions answered => trivial
  | collected answer interrupted before collected c completions s own => trivial
  | ignored answer interrupted before collected c completions s stray => trivial
  | emptyHanded answer interrupted before collected s =>
      rcases afterWait_cases answer interrupted before collected with ⟨again, next⟩ | next <;>
        rw [next] <;> trivial
  | settled => exact finish_of_ended (fun _ _ => trivial) _

/-- The result that is due to a session which met this error first, if any, and has drained while a
stop was requested or not. -/
structure Verdict (first : Option StreamError) (stop : Bool) (result : Except StreamError Summary) :
    Prop where
  stopped : (∃ summary, result = .ok summary ∧ summary.termination = .stopped) ↔
    first = none ∧ stop = false
  cancelled : (∃ summary, result = .ok summary ∧ summary.termination = .cancelled) ↔
    stop = true ∧ (first = none ∨ ∃ milliseconds, first = some (.livenessTimeout milliseconds))
  failed (error : StreamError) : result = .error error ↔
    first = some error ∧ (stop = true → ∀ milliseconds, error ≠ .livenessTimeout milliseconds)

theorem isGraceful_iff {error : StreamError} :
    error.isGraceful = true ↔ ∃ milliseconds, error = .livenessTimeout milliseconds := by
  cases error with
  | livenessTimeout milliseconds => exact ⟨fun _ => ⟨milliseconds, rfl⟩, fun _ => rfl⟩
  | configuration _ _ | allocation _ _ | submission _ _ | transport _ =>
      constructor
      · intro graceful
        cases graceful
      · rintro ⟨milliseconds, impossible⟩
        cases impossible

theorem outcome_verdict (first : Option StreamError) (stop : Bool) {read : Termination → Summary}
    (named : ∀ termination, (read termination).termination = termination) :
    Verdict first stop ((outcome first stop).map read) := by
  have graceful (error : StreamError) : (∃ milliseconds, some error =
      some (.livenessTimeout milliseconds)) ↔ error.isGraceful = true := by
    simp only [Option.some.injEq, isGraceful_iff]
  refine ⟨?_, ?_, ?_⟩
  · rw [termination_iff named]
    cases first with
    | none => cases stop <;> simp [outcome]
    | some error => cases stop <;> cases h : error.isGraceful <;> simp [outcome, h]
  · rw [termination_iff named]
    cases first with
    | none => cases stop <;> simp [outcome]
    | some error =>
        rw [graceful error]
        cases stop <;> cases h : error.isGraceful <;> simp [outcome, h]
  · intro error
    have failed : (outcome first stop).map read = .error error ↔
        outcome first stop = .error error := by
      cases outcome first stop <;> simp [Except.map]
    have harsh : (∀ milliseconds, error ≠ .livenessTimeout milliseconds) ↔
        error.isGraceful = false := by
      rw [← Bool.not_eq_true, isGraceful_iff, not_exists]
    rw [failed, harsh]
    cases first with
    | none => simp [outcome]
    | some met =>
        rw [outcome, Option.some.injEq]
        by_cases spared : (stop && met.isGraceful) = true
        · rw [if_pos spared]
          rw [Bool.and_eq_true] at spared
          constructor
          · intro impossible
            cases impossible
          · rintro ⟨rfl, kept⟩
            rw [kept spared.1] at spared
            cases spared.2
        · rw [if_neg spared]
          constructor
          · intro same
            cases same
            refine ⟨rfl, fun stopping => ?_⟩
            rw [stopping, Bool.true_and, Bool.not_eq_true] at spared
            exact spared
          · rintro ⟨rfl, -⟩
            rfl

theorem drains_abandoned (env : Surroundings σ) (collected : Nat) (s : Stream σ) :
    (abandoned env collected s).link.drains =
      s.link.drains ++ [(collected, s.pool.slotsInFlight.card)] :=
  Link.drains_after s.link _ _

/-- A session that begins to drain comes to its end, with the result that is due for what it has
recorded. -/
theorem Recorded.judged {s : Stream σ}
    (h : (Run.active .closing s).Recorded config first accepted) (sound : s.Sound) :
    ∃ total d result l, Leads env config (.active .closing s) (.active (.settling total) d) ∧
      step env config (.active (.settling total) d) = .ok (.ended result l) ∧
      Verdict first (stopAtEnd env (abandoned env total d)) result ∧
      (∀ summary, result = .ok summary →
        summary.slotsReleased = config.transferCount ∧ summary.transfers = accepted) ∧
      (first = none → (∀ (i : Nat) (slot : Slot), s.pool.slots[i]? = some slot →
        slot = .released) ∧ l.drains = [(0, 0)]) := by
  obtain ⟨recorded, released⟩ := h
  obtain ⟨total, d, -, -, winding, -, idle, leads, taken⟩ := closing_leads env config s sound.pool
  obtain ⟨l, finished, quiet⟩ := finish_read_out env (abandoned env total d)
  have fatal : (abandoned env total d).fatal = first := winding.fatal.trans recorded.fatal
  rw [finished, fatal] at taken
  refine ⟨total, d, _, l, leads, taken, outcome_verdict first _ fun _ => rfl, ?_, ?_⟩
  · intro summary same
    cases ending : outcome first (stopAtEnd env (abandoned env total d)) with
    | error error =>
        rw [ending] at same
        cases same
    | ok termination =>
        rw [ending] at same
        cases same
        have all : (d.pool.mapSlots Pool.ifIdle).released = d.pool.capacity :=
          (winding.vacating (Pool.vacating_releaseIdle s.pool)).released_abandoned
        have capacity : d.pool.capacity = s.pool.capacity :=
          winding.capacity.trans (Pool.capacity_mapSlots _ _)
        exact ⟨all.trans (capacity.trans recorded.capacity),
          winding.transfers.trans recorded.transfers⟩
  · intro none
    have empty := sound.pool.slotsInFlight_empty (released none)
    obtain ⟨rfl, rfl⟩ := idle empty
    have drained : (idled env s).link.drains = [] :=
      (quiet_idled s).aside.drains_eq.trans recorded.drains
    have nothing : (idled env s).pool.slotsInFlight = ∅ :=
      (Pool.slotsInFlight_releaseIdle s.pool).trans empty
    refine ⟨sound.pool.all_released (released none), ?_⟩
    rw [quiet.aside.drains_eq, drains_abandoned, drained, nothing]
    rfl

theorem recorded_at {n : Nat} {run : Run σ}
    (come : advance env config n (start env config state world) = .ok run) :
    run.Recorded config (firstMishap env config n (start env config state world))
      (acceptances env config n (start env config state world)) := by
  refine holds_at (fun _ => Recorded.started) ?_ come
  intro n last next before stepped recorded
  rw [firstMishap_succ before, acceptances_succ before]
  exact recorded.stepped stepped

/-- Whatever its surroundings do, a session that begins to drain comes to its end, with the result
that is due for the first error it met before and the stop flag by then. A summary tells that all
slots are released, and counts the successful transfers taken in. Without an error the slots were
released before, and the drain finds nothing to do. -/
theorem drained_run_result (env : Surroundings σ) (config : Config) (state : State) (world : σ)
    {m : Nat} {s : Stream σ}
    (reached : advance env config m (start env config state world) = .ok (.active .closing s)) :
    ∃ n total d result l, m ≤ n ∧
      advance env config n (start env config state world) = .ok (.active (.settling total) d) ∧
      advance env config (n + 1) (start env config state world) = .ok (.ended result l) ∧
      Verdict (firstMishap env config m (start env config state world))
        (stopAtEnd env (abandoned env total d)) result ∧
      (∀ summary, result = .ok summary → summary.slotsReleased = config.transferCount ∧
        summary.transfers = acceptances env config m (start env config state world)) ∧
      (firstMishap env config m (start env config state world) = none →
        (∀ (i : Nat) (slot : Slot), s.pool.slots[i]? = some slot → slot = .released) ∧
          l.drains = [(0, 0)]) := by
  have kept : ∀ n run next, advance env config n (start env config state world) = .ok run →
      run.Sound → run.Recorded config (firstMishap env config n (start env config state world))
        (acceptances env config n (start env config state world)) →
      step env config run = .ok next → Stepped env config run next →
      next.Recorded config (firstMishap env config (n + 1) (start env config state world))
        (acceptances env config (n + 1) (start env config state world)) := by
    intro n run next come _ recorded _ stepped
    rw [firstMishap_succ come, acceptances_succ come]
    exact recorded.stepped stepped
  have held := run_keeps_at (P := fun n run => run.Recorded config
    (firstMishap env config n (start env config state world))
    (acceptances env config n (start env config state world))) (fun _ => Recorded.started) kept m
  rw [reached] at held
  rcases held with ⟨run, same, sound, recorded⟩ | ⟨impossible, -⟩
  · cases same
    obtain ⟨total, d, result, l, ⟨k, come⟩, taken, judged⟩ := recorded.judged sound
    have way : advance env config (m + k) (start env config state world) =
        .ok (.active (.settling total) d) := by
      rw [advance_add, reached]
      exact come
    refine ⟨m + k, total, d, result, l, Nat.le_add_right m k, way, ?_, judged⟩
    rw [advance_succ, way]
    exact taken
  · cases impossible

section

open Rehearsal

/-- A device that is lost in the first wait, which also hands back a slot that there is not. -/
def lost : Assembly Script Timeline Audience where
  transport := { steps := [{ cues := [{ slot := some 7 }], result := .failed .disconnected }] }
  outside := {}
  consumer := {}

def scripted : Surroundings (Assembly Script Timeline Audience) :=
  Assembly.surroundings Script.transport Timeline.outside Audience.consumer

theorem lost_run_result : ∃ n l,
    advance scripted { transferCount := 1 } n (start scripted { transferCount := 1 } .idle lost) =
      .ok (.ended (.error (.transport .disconnected)) l) := by
  have first : firstMishap scripted { transferCount := 1 } 5
      (start scripted { transferCount := 1 } .idle lost) = some (.transport .disconnected) := rfl
  obtain ⟨n, total, d, result, l, -, -, come, verdict, -, -⟩ :=
    drained_run_result scripted { transferCount := 1 } .idle lost (m := 5) rfl
  rw [first] at verdict
  have failed : result = .error (.transport .disconnected) :=
    (verdict.failed _).mpr ⟨rfl, fun _ _ => by simp⟩
  exact ⟨n + 1, l, failed ▸ come⟩

end

end Run

end BulkStream.Session
