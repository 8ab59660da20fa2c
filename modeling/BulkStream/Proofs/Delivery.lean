import BulkStream.Proofs.ReadTotals
import BulkStream.Proofs.Streamed

/-!
What a reading session passes to its consumer. Of each completion that is due it is the payload, span by
span and without the empty ones, as far as the consumer answers no span with a stop and no stop is
found requested. The slot is submitted again if that is all of it, and released otherwise.
-/
namespace BulkStream.Session

variable {σ : Type} {env : Surroundings σ} {config : Config} {state : State} {world : σ}

def Action.isPayload : Action → Bool
  | .payload _ _ _ => true
  | .setMode _ _ | .purge _ | .submit _ _ | .wait _ _ _ | .cancelAll | .fill _ _ _ _ | .progress _ _
  | .log _ => false

/-- The payload that a completion carries in packets of a size, span by span and without the empty
ones. -/
def payloadSpans (size : Nat) (c : Completion) : List Bytes :=
  (Received.mk (c.buffer.take c.length) size).spans.filter fun span => !span.isEmpty

/-- The calls that pass all of some spans to a consumer who goes on. -/
def allPassed (slot : Nat) (spans : List Bytes) : List Action :=
  spans.map fun span => .payload slot span .proceed

namespace Link

/-- What the consumer was passed. -/
def payloads (l : Link σ) : List Action := l.transcript.filter Action.isPayload

/-- The calls that pass spans to the consumer one after another, up to the first that is answered with a
stop, and up to the first at which a stop is found requested. -/
def passing (env : Surroundings σ) (slot : Nat) : List Bytes → Link σ → List Action
  | [], _ => []
  | span :: spans, l =>
      if l.stopRequested env then []
      else match l.payload env slot span with
        | (.proceed, l) => .payload slot span .proceed :: passing env slot spans l
        | (.stop, _) => [.payload slot span .stop]

theorem payloads_services (l : Link σ) : l.payloads = l.services.filter Action.isPayload := by
  rw [payloads, services, List.filter_filter]
  refine List.filter_congr fun a _ => ?_
  cases a <;> rfl

theorem payloads_offers (l : Link σ) : l.payloads = l.offers.filter Action.isPayload := by
  rw [payloads, offers, List.filter_filter]
  refine List.filter_congr fun a _ => ?_
  cases a <;> rfl

theorem offer_filter (slot : Nat) (spans : List Bytes) (l : Link σ) :
    l.offer env slot (spans.filter fun span => !span.isEmpty) = l.offer env slot spans := by
  induction spans generalizing l with
  | nil => rfl
  | cons span spans ih =>
      rw [List.filter_cons]
      cases empty : span.isEmpty with
      | true =>
          have skipped : l.offer env slot (span :: spans) = l.offer env slot spans := by
            rw [offer, if_pos empty]
          exact (ih l).trans skipped.symm
      | false =>
          simp only [Bool.not_false, if_true, offer, empty, if_neg Bool.false_ne_true, ih]

/-- Offering spans passes them on as far as it goes, and goes on if that was all of them. -/
theorem offer_passing (env : Surroundings σ) (slot : Nat) {spans : List Bytes}
    (full : ∀ span ∈ spans, span.isEmpty = false) (l : Link σ) :
    (l.offer env slot spans).2.transcript = l.transcript ++ l.passing env slot spans ∧
      ((l.offer env slot spans).1 = .proceed ↔
        l.passing env slot spans = allPassed slot spans) := by
  induction spans generalizing l with
  | nil => exact ⟨(List.append_nil _).symm, iff_of_true rfl rfl⟩
  | cons span spans ih =>
      rw [offer, passing, full span List.mem_cons_self, if_neg Bool.false_ne_true]
      cases flag : l.stopRequested env with
      | true =>
          have unasked : l.payload env slot span = (.stop, l) := if_pos flag
          rw [unasked]
          exact ⟨(List.append_nil _).symm, iff_of_false (by simp) (List.cons_ne_nil _ _).symm⟩
      | false =>
          rw [if_neg Bool.false_ne_true]
          have said := (Passage.payload slot span flag).transcript_eq
          generalize l.payload env slot span = answered at said ⊢
          obtain ⟨flow, m⟩ := answered
          cases flow with
          | stop => exact ⟨said, iff_of_false (by simp) (by simp [allPassed])⟩
          | proceed =>
              obtain ⟨later, goes⟩ := ih (fun span member => full span (List.mem_cons_of_mem _ member)) m
              refine ⟨?_, goes.trans (List.cons_inj_right _).symm⟩
              rw [later, said, List.append_assoc]
              rfl

theorem mem_passing {slot : Nat} {spans : List Bytes} {l : Link σ} {a : Action}
    (member : a ∈ l.passing env slot spans) : ∃ span ∈ spans, ∃ flow, a = .payload slot span flow := by
  induction spans generalizing l with
  | nil => cases member
  | cons span spans ih =>
      rw [passing] at member
      split at member
      · cases member
      · generalize l.payload env slot span = answered at member
        obtain ⟨flow, m⟩ := answered
        cases flow with
        | stop => exact ⟨span, List.mem_cons_self, .stop, List.mem_singleton.mp member⟩
        | proceed =>
            cases List.mem_cons.mp member with
            | inl first => exact ⟨span, List.mem_cons_self, .proceed, first⟩
            | inr later =>
                obtain ⟨other, among, flow, same⟩ := ih later
                exact ⟨other, List.mem_cons_of_mem span among, flow, same⟩

end Link

namespace Stream

variable {c : Completion} {s t : Stream σ}

/-- A completion of a slot in flight tells of a successful transfer, no error is recorded and not every
slot is to be released. -/
def Due (c : Completion) (s : Stream σ) : Prop :=
  s.pool.slots[c.slot]? = some .inFlight ∧ c.status = .completed ∧ s.fatal = none ∧ s.stopAll = false

instance (c : Completion) (s : Stream σ) : Decidable (s.Due c) :=
  inferInstanceAs (Decidable (_ ∧ _ ∧ _ ∧ _))

/-- What handling a completion passes to the consumer. -/
def delivery (env : Surroundings σ) (size : Nat) (c : Completion) (s : Stream σ) : List Action :=
  if s.Due c then s.link.passing env c.slot (payloadSpans size c) else []

/-- What handling a completion comes to for its slot, in a session that reads packets of this size into
buffers of this length. -/
inductive Tended (env : Surroundings σ) (size length : Nat) (c : Completion) (s t : Stream σ) : Prop
  | resubmitted (due : s.Due c)
      (all : s.link.passing env c.slot (payloadSpans size c) = allPassed c.slot (payloadSpans size c))
      (result : Except TransportError Unit)
      (services : t.link.services = s.link.services ++ allPassed c.slot (payloadSpans size c) ++
        [.submit ⟨c.slot, .read, fit length c.buffer, length⟩ result])
  | released (due : s.Due c)
      (cut : s.link.passing env c.slot (payloadSpans size c) ≠ allPassed c.slot (payloadSpans size c))
      (services : t.link.services =
        s.link.services ++ s.link.passing env c.slot (payloadSpans size c))
      (gone : t.pool.slots[c.slot]? = some .released)
  | undue (other : ¬ s.Due c) (services : t.link.services = s.link.services)
      (gone : s.pool.slots[c.slot]? = some .inFlight → t.pool.slots[c.slot]? = some .released)

theorem due_of_running (own : s.pool.slots[c.slot]? = some .inFlight) (status : c.status = .completed)
    (running : (s.fatal.isSome || s.stopAll) = false) : s.Due c := by
  obtain ⟨unfailed, going⟩ := Bool.or_eq_false_iff.mp running
  exact ⟨own, status, Option.isNone_iff_eq_none.mp (Option.isSome_eq_false_iff.mp unfailed), going⟩

theorem not_due_of_quitting (quitting : (s.fatal.isSome || s.stopAll) = true) : ¬ s.Due c := by
  rintro ⟨-, -, unfailed, going⟩
  rw [unfailed, going] at quitting
  cases quitting

theorem consumed_passing {size : Nat} (read : s.pool.direction = .read) (sized : s.packetSize = size)
    {flow : Flow} {buffer : Bytes}
    (consumed : (s.succeeded c.slot).consumed env c = (flow, buffer, t)) :
    t.link.services = s.link.services ++ s.link.passing env c.slot (payloadSpans size c) ∧
      (flow = .proceed ↔ s.link.passing env c.slot (payloadSpans size c) =
        allPassed c.slot (payloadSpans size c)) := by
  have spans : (s.received c).spans.filter (fun span => !span.isEmpty) = payloadSpans size c := by
    rw [← sized]
    rfl
  have full : ∀ span ∈ payloadSpans size c, span.isEmpty = false := fun span member => by
    have some := (List.mem_filter.mp member).2
    rwa [Bool.not_eq_true'] at some
  have offered := Link.offer_passing env c.slot full s.link
  rw [← spans, Link.offer_filter, (consumed_answer read consumed).1, spans] at offered
  refine ⟨?_, offered.2⟩
  rw [Link.services, offered.1, List.filter_append, Link.services]
  congr 1
  refine List.filter_eq_self.mpr fun a member => ?_
  obtain ⟨span, -, flow, rfl⟩ := Link.mem_passing member
  rfl

theorem freed_found (own : s.pool.slots[c.slot]? = some .inFlight) {u : Stream σ}
    (lent : u.pool = s.pool.put c.slot .lent) :
    (u.pool.put c.slot .released).slots[c.slot]? = some .released := by
  rw [lent]
  exact Pool.put_found (Pool.put_found own .lent) .released

theorem Handled.tended {size length : Nat} (h : Handled env c s t) (read : s.pool.direction = .read)
    (sized : s.packetSize = size) (whole : s.pool.bufferLength = length) :
    Tended env size length c s t := by
  have request {flow : Flow} {buffer : Bytes} {u : Stream σ}
      (consumed : (s.succeeded c.slot).consumed env c = (flow, buffer, u))
      (beside : Beside env (s.succeeded c.slot) u) :
      u.pool.request c.slot buffer = ⟨c.slot, .read, fit length c.buffer, length⟩ := by
    rw [(consumed_answer read consumed).2, beside.pool_eq, ← whole, ← read]
    rfl
  cases h with
  | stray stray => exact .undue (fun due => stray due.1) rfl fun own => absurd own stray
  | failed own status =>
      exact .undue (fun due => status due.2.1) (Link.services_log env s.link _)
        fun _ => Pool.put_found own .released
  | dropped own status quitting =>
      exact .undue (not_due_of_quitting quitting) (Link.services_log env s.link _)
        fun _ => freed_found own rfl
  | stopped own status running buffer t consumed beside =>
      obtain ⟨services, goes⟩ := consumed_passing read sized consumed
      refine .released (due_of_running own status running) (fun all => ?_) ?_
        (freed_found own beside.pool_eq)
      · cases goes.mpr all
      · exact (Link.services_log env t.link _).trans services
  | resubmitted own status running buffer t consumed beside accepted =>
      obtain ⟨services, goes⟩ := consumed_passing read sized consumed
      have all := goes.mp rfl
      refine .resubmitted (due_of_running own status running) all
        (t.link.submit env (t.pool.request c.slot buffer)).1 ?_
      refine (Link.services_submit env t.link _).trans ?_
      rw [services, all, request consumed beside]
  | refused own status running buffer t consumed beside source answer =>
      obtain ⟨services, goes⟩ := consumed_passing read sized consumed
      have all := goes.mp rfl
      refine .resubmitted (due_of_running own status running) all
        (t.link.submit env (t.pool.request c.slot buffer)).1 ?_
      refine ((Link.services_log env _ _).trans (Link.services_submit env t.link _)).trans ?_
      rw [services, all, request consumed beside]

/-- What a handled completion passes to the consumer is its delivery. -/
theorem Tended.payloads_eq {size length : Nat} (h : Tended env size length c s t) :
    t.link.payloads = s.link.payloads ++ s.delivery env size c := by
  have passed (spans : List Bytes) :
      (s.link.passing env c.slot spans).filter Action.isPayload = s.link.passing env c.slot spans := by
    refine List.filter_eq_self.mpr fun a member => ?_
    obtain ⟨span, -, flow, rfl⟩ := Link.mem_passing member
    rfl
  rw [Link.payloads_services, Link.payloads_services, delivery]
  cases h with
  | resubmitted due all result services =>
      rw [services, if_pos due, ← all, List.append_assoc, List.filter_append, List.filter_append,
        passed]
      exact congrArg (_ ++ ·) (List.append_nil _)
  | released due cut services gone => rw [services, if_pos due, List.filter_append, passed]
  | undue other services gone => rw [services, if_neg other, List.append_nil]

end Stream

namespace Run

variable {run next : Run σ} {n : Nat}

theorem Stepped.payloads_eq (h : Stepped env config run next) (read : run.Directed .read)
    (idle : run.handling? = none) : next.link.payloads = run.link.payloads := by
  have offers : next.link.offers = run.link.offers := by
    refine h.offers_eq read ?_
    rintro c completions s rfl
    cases idle
  rw [Link.payloads_offers, Link.payloads_offers, offers]

theorem tended_at {c : Completion} {completions : List Completion} {s : Stream σ} {next : Run σ}
    (read : config.direction = .read)
    (come : advance env config n (start env config state world) =
      .ok (.active (.handling (c :: completions)) s))
    (onward : advance env config (n + 1) (start env config state world) = .ok next) :
    ∃ t, next = .active (.handling completions) t ∧
      Stream.Tended env (reportedSize env state world)
        (reportedSize env state world * config.packetsPerTransfer) c s t := by
  have directed : s.pool.direction = config.direction := directed_at come
  obtain ⟨sized, whole⟩ := shaped_at come
  cases step_between come onward with
  | handled _ _ _ t handled => exact ⟨t, rfl, handled.tended (directed.trans read) sized whole⟩

theorem Started.payloads_eq (h : Started env config state world run) : run.link.payloads = [] := by
  rw [Link.payloads_services, h.services_eq]
  rfl

/-- What a run has passed to its consumer is what its handled completions deliver. -/
theorem payloads_at (read : config.direction = .read)
    (come : advance env config n (start env config state world) = .ok run) :
    run.link.payloads = (handlings env config n (start env config state world)).flatMap
      fun handling => handling.2.delivery env (reportedSize env state world) handling.1 := by
  induction n generalizing run with
  | zero =>
      cases come
      exact (start_started env config state world).payloads_eq
  | succ n ih =>
      obtain ⟨last, before, -, stepped⟩ := last_step come
      rw [handlings_succ before, List.flatMap_append, ← ih before]
      cases point : last.handling? with
      | none =>
          have directed : last.Directed .read := read ▸ directed_at before
          exact (stepped.payloads_eq directed point).trans (List.append_nil _).symm
      | some handling =>
          obtain ⟨c, s⟩ := handling
          obtain ⟨completions, rfl⟩ := handling?_eq_some point
          obtain ⟨t, rfl, tended⟩ := tended_at read before come
          exact tended.payloads_eq.trans (congrArg (s.link.payloads ++ ·) (List.append_nil _).symm)

/-- What a reading session has done for its completions by the `n`-th point of its run. -/
structure Conveyed (env : Surroundings σ) (config : Config) (state : State) (world : σ) (n : Nat)
    (run : Run σ) : Prop where
  /-- They are handled in the order in which the waits handed them over. -/
  order : streamed run.link.calls =
    (handlings env config n (start env config state world)).map Prod.fst ++ run.pending
  /-- The consumer was passed their deliveries, one after the other. -/
  payloads : run.link.payloads =
    (handlings env config n (start env config state world)).flatMap fun handling =>
      handling.2.delivery env (reportedSize env state world) handling.1
  tended (m : Nat) (before : m < n) (c : Completion) (completions : List Completion) (s : Stream σ)
      (come : advance env config m (start env config state world) =
        .ok (.active (.handling (c :: completions)) s)) :
    ∃ t, advance env config (m + 1) (start env config state world) =
        .ok (.active (.handling completions) t) ∧
      Stream.Tended env (reportedSize env state world)
        (reportedSize env state world * config.packetsPerTransfer) c s t
  /-- No slot is submitted otherwise, nor one that is released. -/
  attended : Attended env config state world n run
  full (slot : Nat) (span : Bytes) (flow : Flow)
      (passed : .payload slot span flow ∈ run.link.transcript) : span ≠ []
  /-- Nothing is passed on any more from where the session drains. -/
  drained (m : Nat) (within : m ≤ n) (phase : Phase) (s : Stream σ)
      (come : advance env config m (start env config state world) = .ok (.active phase s))
      (drains : phase.drains = true) : run.link.payloads = s.link.payloads

theorem conveyed_at (read : config.direction = .read)
    (come : advance env config n (start env config state world) = .ok run) :
    Conveyed env config state world n run := by
  have payloads := payloads_at read come
  refine ⟨streamed_eq_handled come, payloads, ?_, attended_at come, ?_, ?_⟩
  · intro m before c completions s reached
    obtain ⟨next, onward⟩ := come_before come before
    obtain ⟨t, rfl, tended⟩ := tended_at read reached onward
    exact ⟨t, onward, tended⟩
  · intro slot span flow passed
    have among : .payload slot span flow ∈ run.link.payloads := List.mem_filter.mpr ⟨passed, rfl⟩
    rw [payloads, List.mem_flatMap] at among
    obtain ⟨⟨c, s⟩, -, delivered⟩ := among
    rw [Stream.delivery] at delivered
    split at delivered
    · obtain ⟨other, member, flow', same⟩ := Link.mem_passing delivered
      cases same
      have some := (List.mem_filter.mp member).2
      rintro rfl
      cases some
    · cases delivered
  · intro m within phase s reached drains
    refine (none_since (fun _ _ stepped still => Decided.stepped still stepped) ?_ come within
      reached (.inr drains)).2
    intro last next actions unspoiled still turn a member
    cases turn.part a member with
    | quiet none unasked =>
        cases a with
        | payload => cases unasked
        | submit | fill | setMode | purge | wait | cancelAll | progress | log => rfl
    | served slot about serving => exact absurd still (serving.open env unspoiled).1
    | sampled none sampling => exact absurd still sampling.undecided

/-- Whatever its surroundings do, a reading session passes on exactly what its completions deliver, in
their order, and submits a slot again just if all of it was passed on. -/
theorem read_session_conveys (env : Surroundings σ) (config : Config)
    (read : config.direction = .read) (state : State) (world : σ) (n : Nat) :
    (∃ run, advance env config n (start env config state world) = .ok run ∧
        Conveyed env config state world n run) ∨
      advance env config n (start env config state world) = .error .countOverflow := by
  cases comes env config state world n with
  | inl coming =>
      obtain ⟨run, come, -⟩ := coming
      exact .inl ⟨run, come, conveyed_at read come⟩
  | inr fault => exact .inr fault

section

open Rehearsal

/-- One slot completes in a wait that is interrupted, and another, with a short packet behind a whole one,
in the wait after it. The consumer answers the first span of the latter with a stop. -/
def cutShort : Assembly Script Timeline Audience where
  transport := {
    steps := [
      { cues := [{}], result := .interrupted },
      { cues := [{ length := some 11 }] }] }
  outside := {}
  consumer := { onPayload := { stop := [2] } }

def twoPackets : Config := { packetsPerTransfer := 2, transferCount := 2 }

theorem cut_session_conveys : ∃ run,
    advance scripted twoPackets 20 (start scripted twoPackets .idle cutShort) = .ok run ∧
      Conveyed scripted twoPackets .idle cutShort 20 run ∧
      run.link.payloads.length = 3 ∧ run.link.services.length = 6 := by
  have counts : (advance scripted twoPackets 20 (start scripted twoPackets .idle cutShort)).toOption.map
      (fun run => (run.link.payloads.length, run.link.services.length)) = some (3, 6) := by
    decide +kernel
  obtain ⟨run, come, conveyed, seen⟩ :=
    seen_with (read_session_conveys scripted twoPackets rfl .idle cutShort 20) counts
  obtain ⟨payloads, services⟩ := Prod.mk.inj seen
  exact ⟨run, come, conveyed, payloads, services⟩

end

end Run

end BulkStream.Session
