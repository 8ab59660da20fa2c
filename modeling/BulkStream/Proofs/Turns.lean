import BulkStream.Proofs.Courses
import BulkStream.Proofs.Runs

/-!
What a step of a run adds to its transcript. Payload is passed on, a buffer filled or a slot
submitted only where a slot is served, and then the step is about that slot alone: what its consumer
answers decides whether the slot is submitted or released.
-/
namespace BulkStream.Session

variable {σ : Type} {env : Surroundings σ} {config : Config} {state : State} {world : σ}

/-- The slot whose payload is passed on, whose buffer is filled or which is submitted. -/
def Action.slot? : Action → Option Nat
  | .submit request _ => some request.slot
  | .payload slot _ _ | .fill slot _ _ _ => some slot
  | .setMode _ _ | .purge _ | .wait _ _ _ | .cancelAll | .progress _ _ | .log _ => none

/-- A call that serves no slot, asks the consumer nothing and tells no totals. -/
def Action.isPlain : Action → Bool
  | .submit _ _ | .payload _ _ _ | .fill _ _ _ _ | .progress _ _ | .log (.finished _ _ _) => false
  | _ => true

/-- What the consumer of a slot is asked as the slot is served, and how that ends. -/
inductive Served (slot : Nat) : Flow → List Action → Prop
  | unasked : Served slot .proceed []
  /-- A stop was requested by the time the consumer would have been asked. -/
  | withheld : Served slot .stop []
  | stopped (span : Bytes) : Served slot .stop [.payload slot span .stop]
  | passed (span : Bytes) {flow : Flow} {later : List Action} (h : Served slot flow later) :
      Served slot flow (.payload slot span .proceed :: later)
  | filled (offered left : Bytes) (flow : Flow) : Served slot flow [.fill slot offered left flow]

namespace Link

theorem offer_served (slot : Nat) (spans : List Bytes) (l : Link σ) :
    ∃ said, l.Course env said (l.offer env slot spans).2 ∧
      Served slot (l.offer env slot spans).1 said := by
  induction spans generalizing l with
  | nil => exact ⟨[], .refl, .unasked⟩
  | cons span spans ih =>
      rw [offer]
      split
      · exact ih l
      · cases flag : l.stopRequested env with
        | true =>
            rw [payload, if_pos flag]
            exact ⟨[], .refl, .withheld⟩
        | false =>
            have passage := Passage.payload slot span flag
            generalize l.payload env slot span = answered at passage ⊢
            obtain ⟨flow, m⟩ := answered
            cases flow with
            | stop => exact ⟨_, .call .refl passage, .stopped span⟩
            | proceed =>
                obtain ⟨said, course, served⟩ := ih m
                exact ⟨_, .trans (.call .refl passage) course, .passed span served⟩

theorem fill_served (env : Surroundings σ) (slot : Nat) (offered : Bytes) (l : Link σ) :
    ∃ said, l.Course env said (l.fill env slot offered).2 ∧
      Served slot (l.fill env slot offered).1.1 said := by
  cases flag : l.stopRequested env with
  | true =>
      rw [fill, if_pos flag]
      exact ⟨[], .refl, .withheld⟩
  | false => exact ⟨_, .call .refl (.fill slot offered flag), .filled offered _ _⟩

end Link

namespace Stream

theorem consumed_served (env : Surroundings σ) (c : Completion) (s : Stream σ) :
    ∃ said, s.link.Course env said (s.consumed env c).2.2.link ∧
      Served c.slot (s.consumed env c).1 said := by
  rw [consumed]
  split
  · exact s.link.offer_served c.slot _
  · exact s.link.fill_served env c.slot _

theorem Awaited.course {milliseconds : Nat} {l m : Link σ} {failure : Option StreamError}
    {completions : List Completion} (h : Awaited env milliseconds l ((failure, completions), m)) :
    ∃ actions, l.Course env actions m ∧ actions.all Action.isPlain = true := by
  cases h with
  | once result _ answer whole => exact ⟨_, .call .refl (.wait milliseconds), rfl⟩
  | again first result more cut answer =>
      have noted : l.Course env _ ((l.wait env milliseconds).2.log env .waitInterrupted) :=
        .call (.call .refl (.wait milliseconds)) (.log .waitInterrupted)
      exact ⟨_, noted.call (.wait milliseconds), rfl⟩

/-- What a sample adds: a note of it, and what the consumer says to it if it is asked. -/
inductive Measured (stopAll : Bool) : List Action → Prop
  | untold {actions : List Action} (plain : actions.all Action.isPlain = true) :
      Measured stopAll actions
  | told (bytes : Nat) (rate : Option Float) (snapshot : Snapshot) (flow : Flow)
      (heeded : flow = .stop → stopAll = true) :
      Measured stopAll [.log (.progress bytes rate), .progress snapshot flow]

theorem sample_measured {s t : Stream σ} (h : s.sample env = .ok t) :
    ∃ actions, s.link.Course env actions t.link ∧ Measured t.stopAll actions := by
  have clock : s.link.Course env [] (s.link.now env).2 := .call .refl .now
  rw [sample] at h
  dsimp only at h
  cases polled : s.tracker.poll (s.link.now env).1 with
  | error fault =>
      rw [polled] at h
      cases h
  | ok sampled =>
      rw [polled] at h
      cases sampled with
      | none =>
          cases h
          exact ⟨[], clock, .untold rfl⟩
      | some tracker =>
          cases h
          let event := Event.progress tracker.snapshot.bytes tracker.snapshot.currentRate
          let m := (s.link.now env).2.log env event
          have noted : s.link.Course env [.log event] m := clock.call (.log event)
          change ∃ actions, s.link.Course env actions (m.progress env tracker.snapshot).2 ∧
            Measured (s.stopAll || (m.progress env tracker.snapshot).1 == .stop) actions
          cases flag : m.stopRequested env with
          | true =>
              have unasked : m.progress env tracker.snapshot = (.stop, m) := if_pos flag
              rw [unasked]
              exact ⟨_, noted, .untold rfl⟩
          | false =>
              refine ⟨_, noted.call (.progress tracker.snapshot flag), .told _ _ _ _ ?_⟩
              intro stop
              rw [stop]
              exact Bool.or_true _

end Stream

namespace Run

/-- A slot may be served in the next step. -/
def Serving : Run σ → Prop
  | .active (.priming _) _ => True
  | .active (.handling _) s => (s.fatal.isSome || s.stopAll) = false
  | _ => False

/-- The next step may take a sample. -/
def Sampling : Run σ → Prop
  | .active (.handling _) s => s.fatal = none
  | _ => False

/-- A slot is released, as every slot is in the end. -/
def Released (slot : Nat) : Run σ → Prop
  | .active _ s => s.pool.slots[slot]? = some .released
  | .ended _ _ => True

/-- Every slot is to be released as it completes. -/
def StopsAll : Run σ → Prop
  | .active _ s => s.stopAll = true
  | .ended _ _ => True

/-- What a step from one point to the next adds to the transcript. -/
inductive Turn (run next : Run σ) : List Action → Prop
  | plain {actions : List Action} (plain : actions.all Action.isPlain = true) :
      Turn run next actions
  | submitted (slot : Nat) {said tail : List Action} (request : Request)
      (result : Except TransportError Unit) (serving : run.Serving) (live : ¬ run.Released slot)
      (served : Served slot .proceed said) (own : request.slot = slot)
      (plain : tail.all Action.isPlain = true) :
      Turn run next (said ++ .submit request result :: tail)
  | stopped (slot : Nat) {said tail : List Action} (serving : run.Serving)
      (live : ¬ run.Released slot) (served : Served slot .stop said)
      (released : next.Released slot) (plain : tail.all Action.isPlain = true) :
      Turn run next (said ++ tail)
  | sampled (bytes : Nat) (rate : Option Float) (snapshot : Snapshot) (flow : Flow)
      (sampling : run.Sampling) (heeded : flow = .stop → next.StopsAll) :
      Turn run next [.log (.progress bytes rate), .progress snapshot flow]
  | finished (collected : Nat) (s : Stream σ) (before after : List Action) (milliseconds : Nat)
      (settling : run = .active (.settling collected) s)
      (plain : (before ++ after).all Action.isPlain = true) :
      Turn run next
        (before ++ .log (.finished s.tracker.snapshot.bytes s.transfers milliseconds) :: after)

theorem released_put {p : Pool} {index : Nat} (inside : index < p.capacity) :
    (p.put index .released).slots[index]? = some .released :=
  Pool.put_found (Array.getElem?_eq_getElem inside) .released

theorem Prepared.served {index : Nat} {s : Stream σ} {buffer : Bytes} {l : Link σ}
    (h : Prepared env index s buffer l) :
    ∃ said, s.link.Course env said l ∧ Served index .proceed said := by
  cases h with
  | blank _ _ _ => exact ⟨[], .refl, .unasked⟩
  | filled offered buffer link write held answer =>
      have served := s.link.fill_served env index offered
      rwa [answer] at served

theorem Prepared.live {index : Nat} {s : Stream σ} {buffer : Bytes} {l : Link σ}
    (h : Prepared env index s buffer l) (phase : Phase) : ¬ (active phase s).Released index := by
  intro released
  cases h with
  | blank _ _ held => exact absurd (held.symm.trans released) (by simp)
  | filled _ _ _ _ held _ => exact absurd (held.symm.trans released) (by simp)

theorem handled_turn {c : Completion} {completions : List Completion} {s t : Stream σ}
    (handled : Stream.Handled env c s t) :
    ∃ actions, s.link.Course env actions t.link ∧
      Turn (.active (.handling (c :: completions)) s) (.active (.handling completions) t)
        actions := by
  have live (own : s.pool.slots[c.slot]? = some .inFlight) :
      ¬ (active (.handling (c :: completions)) s).Released c.slot :=
    fun released => absurd (own.symm.trans released) (by simp)
  have inside (own : s.pool.slots[c.slot]? = some .inFlight) : c.slot < s.pool.capacity :=
    (Array.getElem?_eq_some_iff.mp own).1
  cases handled with
  | stray stray => exact ⟨[], .refl, .plain rfl⟩
  | failed own status => exact ⟨_, .call .refl (.log _), .plain rfl⟩
  | dropped own status quitting => exact ⟨_, .call .refl (.log _), .plain rfl⟩
  | stopped own status running buffer t consumed beside =>
      obtain ⟨said, course, served⟩ := (s.succeeded c.slot).consumed_served env c
      rw [consumed] at course served
      refine ⟨_, course.call (.log _), .stopped c.slot running (live own) served ?_ rfl⟩
      have capacity : (s.pool.put c.slot .lent).capacity = s.pool.capacity :=
        Pool.put_capacity _ _ _
      refine released_put ?_
      rw [beside.pool_eq]
      exact capacity.symm ▸ inside own
  | resubmitted own status running buffer t consumed beside accepted =>
      obtain ⟨said, course, served⟩ := (s.succeeded c.slot).consumed_served env c
      rw [consumed] at course served
      exact ⟨_, course.call (.submit _),
        .submitted c.slot _ _ running (live own) served rfl rfl⟩
  | refused own status running buffer t consumed beside source answer =>
      obtain ⟨said, course, served⟩ := (s.succeeded c.slot).consumed_served env c
      rw [consumed] at course served
      have submitted := (course.call (.submit (t.pool.request c.slot buffer))).call
        (.log (.error (StreamError.submission c.slot source).message))
      rw [List.append_assoc] at submitted
      exact ⟨_, submitted, .submitted c.slot _ _ running (live own) served rfl rfl⟩

theorem concluded_turn {s t : Stream σ} {again : Bool}
    (concluded : Stream.Concluded env config.waitMilliseconds s (again, t)) :
    ∃ actions, s.link.Course env actions t.link ∧
      Turn (.active (.handling []) s) (.active (if again then .cycling else .closing) t)
        actions := by
  cases concluded with
  | finished quitting => exact ⟨[], .refl, .plain rfl⟩
  | stalled running idle => exact ⟨_, .call .refl (.log _), .plain rfl⟩
  | again running busy t sampled beside =>
      obtain ⟨actions, course, measured⟩ := Stream.sample_measured sampled
      refine ⟨actions, course, ?_⟩
      cases measured with
      | untold plain => exact .plain plain
      | told bytes rate snapshot flow heeded =>
          have unfailed : s.fatal = none := by
            rw [← Option.isNone_iff_eq_none, ← Option.isSome_eq_false_iff]
            exact (Bool.or_eq_false_iff.mp running).1
          exact .sampled bytes rate snapshot flow unfailed heeded

/-- The end of a session tells its totals once. -/
theorem finish_course (env : Surroundings σ) (collected : Nat) (s : Stream σ) :
    ∃ before after milliseconds,
      s.link.Course env
        (before ++ .log (.finished s.tracker.snapshot.bytes s.transfers milliseconds) :: after)
        (finish env (abandoned env collected s)).link ∧
      (before ++ after).all Action.isPlain = true := by
  let d := abandoned env collected s
  let before := [Action.log (.drained collected s.pool.slotsInFlight.card),
    .log (.stateChanged s.link.state .terminated)]
  have drained : s.link.Course env before ((d.link.transition env .terminated).now env).2 :=
    .call (.call (.call .refl (.log _)) (.transition .terminated)) .now
  rw [finish]
  dsimp only
  split
  · rename_i error settled
    exact ⟨before, [.log (.error error.message)], _, (drained.call (.log _)).call (.log _), rfl⟩
  · exact ⟨before, [], _, drained.call (.log _), rfl⟩

theorem Stepped.turn {run next : Run σ} (h : Stepped env config run next) :
    ∃ actions, run.link.Course env actions next.link ∧ Turn run next actions := by
  cases h with
  | ended result l => exact ⟨[], .refl, .plain rfl⟩
  | queued index s buffer l inside prepared accepted =>
      obtain ⟨said, course, served⟩ := prepared.served
      exact ⟨_, course.call (.submit _),
        .submitted index _ _ trivial (prepared.live _) served rfl rfl⟩
  | refused index s buffer l inside prepared source answer =>
      obtain ⟨said, course, served⟩ := prepared.served
      exact ⟨_, course.call (.submit _),
        .submitted index _ _ trivial (prepared.live _) served rfl rfl⟩
  | spared index s offered buffer l inside write held answer =>
      have served := s.link.fill_served env index offered
      rw [answer] at served
      obtain ⟨said, course, served⟩ := served
      have live : ¬ (active (.priming index) s).Released index :=
        fun released => absurd (held.symm.trans released) (by simp)
      refine ⟨said ++ [], course.trans .refl, .stopped index trivial live served ?_ rfl⟩
      exact released_put inside
  | denied index s all source answer =>
      have noted : s.link.Course env _ (announced env config s) := .call .refl (.log _)
      exact ⟨_, noted.call (.setMode .syncFifo), .plain rfl⟩
  | entered index s all answer =>
      have noted : s.link.Course env _ (announced env config s) := .call .refl (.log _)
      exact ⟨_, ((noted.call (.setMode .syncFifo)).call (.transition .streaming)).call .now,
        .plain rfl⟩
  | gathered s failure completions l awaited =>
      obtain ⟨actions, course, plain⟩ := awaited.course
      exact ⟨actions, course, .plain plain⟩
  | handled c completions s t handled => exact handled_turn handled
  | concluded s again t concluded => exact concluded_turn concluded
  | emptied s none => exact ⟨_, .call .refl (.transition .draining), .plain rfl⟩
  | cancelled s some =>
      exact ⟨_, .call (.call .refl (.transition .draining)) .cancelAll, .plain rfl⟩
  | cleared collected interrupted s none => exact ⟨[], .refl, .plain rfl⟩
  | waited collected interrupted s some answer completions answered =>
      exact ⟨_, .call .refl (.wait _), .plain rfl⟩
  | collected answer interrupted before collected c completions s own =>
      exact ⟨[], .refl, .plain rfl⟩
  | ignored answer interrupted before collected c completions s stray =>
      exact ⟨[], .refl, .plain rfl⟩
  | emptyHanded answer interrupted before collected s => exact ⟨[], .refl, .plain rfl⟩
  | settled collected s =>
      obtain ⟨before, after, milliseconds, course, plain⟩ := finish_course env collected s
      exact ⟨_, course, .finished collected s before after milliseconds rfl plain⟩

/-- Setting up the peripheral serves no slot and asks the consumer nothing. -/
theorem Started.course {run : Run σ} (h : Started env config state world run) :
    ∃ actions, (Link.opened state world).Course env actions run.link ∧
      actions.all Action.isPlain = true := by
  have reset : (Link.opened state world).Course env _ (resetting env state world).2 :=
    .call (.call (.call .refl .now) (.transition .configuring)) (.setMode .reset)
  have purged : (Link.opened state world).Course env _ (purging env state world).2 :=
    reset.call .purge
  cases h with
  | unset source _ => exact ⟨_, (reset.call (.log _)).call (.transition .terminated), rfl⟩
  | unpurged source _ _ | narrow size _ _ _ _ =>
      exact ⟨_, (purged.call (.log _)).call (.transition .terminated), rfl⟩
  | unallocated size _ _ reported wide error refused =>
      have priming := purged.call (.transition .priming)
      exact ⟨_, (priming.call (.log _)).call (.transition .terminated), rfl⟩
  | opened size _ _ reported wide pool allocated =>
      exact ⟨_, purged.call (.transition .priming), rfl⟩

/-- A run comes to each of its points by single calls. -/
theorem course_to {n : Nat} {run : Run σ}
    (come : advance env config n (start env config state world) = .ok run) :
    ∃ actions, (Link.opened state world).Course env actions run.link := by
  refine holds_at (fun run started => ?_) ?_ come
  · obtain ⟨actions, course, -⟩ := started.course
    exact ⟨actions, course⟩
  · rintro n last next - stepped ⟨earlier, led⟩
    obtain ⟨actions, course, -⟩ := stepped.turn
    exact ⟨earlier ++ actions, led.trans course⟩

/-- The links that the calls of a run lead through, one by one, with every point of the run among
them. -/
theorem way_to {n : Nat} {run : Run σ}
    (come : advance env config n (start env config state world) = .ok run) :
    ∃ links, Link.Way env (Link.opened state world) run.link links ∧
      ∀ m ≤ n, ∀ earlier, advance env config m (start env config state world) = .ok earlier →
        earlier.link ∈ links := by
  induction n generalizing run with
  | zero =>
      cases come
      obtain ⟨actions, course, -⟩ := (start_started env config state world).course
      obtain ⟨links, way⟩ := (Link.Way.refl (Link.opened state world)).extend course
      refine ⟨_, way, fun m none earlier come => ?_⟩
      cases Nat.le_zero.mp none
      cases come
      exact way.last_mem
  | succ n ih =>
      obtain ⟨last, before, -, stepped⟩ := last_step come
      obtain ⟨actions, course, -⟩ := stepped.turn
      obtain ⟨links, way, points⟩ := ih before
      obtain ⟨more, further⟩ := way.extend course
      refine ⟨_, further, fun m within earlier reached => ?_⟩
      rcases Nat.le_succ_iff.mp within with inside | rfl
      · exact List.mem_append_left more (points m inside earlier reached)
      · rw [come] at reached
        cases reached
        exact further.last_mem

end Run

end BulkStream.Session
