import BulkStream.Proofs.Silence
import BulkStream.Proofs.Totals

/-!
The totals of a reading session against what its consumer was passed. A span is credited before it
is offered, so that one which a requested stop withholds is counted all the same; of the spans that
are left in such a transfer, and of the transfers that are dropped later on, nothing is.
-/
namespace BulkStream.Session

variable {σ : Type} {env : Surroundings σ} {config : Config} {state : State} {world : σ}

/-- Bytes of payload that a call passes to the consumer. -/
def Action.passed (a : Action) : Nat := a.delivered.length

namespace Link

/-- Bytes of payload passed to the consumer. -/
def passed (l : Link σ) : Nat := (l.transcript.map Action.passed).sum

theorem passed_offers (l : Link σ) : (l.offers.map Action.passed).sum = l.passed := by
  rw [offers, passed]
  induction l.transcript with
  | nil => rfl
  | cons action actions ih =>
      cases action with
      | payload slot span flow => exact congrArg (span.length + ·) ih
      | fill slot offered left flow => exact congrArg (0 + ·) ih
      | setMode | purge | submit | wait | cancelAll | progress | log =>
          exact ih.trans (Nat.zero_add _).symm

theorem offers_services (l : Link σ) : l.offers = l.services.filter Action.isOffer := by
  rw [offers, services, List.filter_filter]
  refine List.filter_congr fun a _ => ?_
  cases a <;> rfl

theorem passed_of_offers {l m : Link σ} (h : m.offers = l.offers) : m.passed = l.passed := by
  rw [← passed_offers, h, passed_offers]

theorem passed_after (l : Link σ) (action : Action) (world : σ) :
    (l.after action world).passed = l.passed + action.passed := by
  rw [passed, transcript_after, List.map_append, List.sum_append, List.map_singleton,
    List.sum_singleton, passed]

/-- Length of the span at which spans that are offered meet a requested stop. -/
def withheld (env : Surroundings σ) (slot : Nat) : List Bytes → Link σ → Nat
  | [], _ => 0
  | span :: spans, l =>
      if span.isEmpty then withheld env slot spans l
      else if l.stopRequested env then span.length
      else match l.payload env slot span with
        | (.proceed, l) => withheld env slot spans l
        | (.stop, _) => 0

theorem offer_passed (slot : Nat) (spans : List Bytes) (l : Link σ) :
    (l.offer env slot spans).2.passed + l.withheld env slot spans =
      l.passed + l.offeredBytes env slot spans := by
  induction spans generalizing l with
  | nil => rfl
  | cons span spans ih =>
      rw [offer, withheld, offeredBytes]
      split
      · exact ih l
      · cases flag : l.stopRequested env with
        | true =>
            have unasked : l.payload env slot span = (.stop, l) := if_pos flag
            rw [unasked]
            rfl
        | false =>
            have counted := l.passed_after (.payload slot span (env.payload span l.world).1)
              (env.payload span l.world).2
            rw [payload_down flag]
            generalize l.after _ _ = m at counted ⊢
            cases (env.payload span l.world).1 with
            | stop => exact counted
            | proceed =>
                change m.passed = l.passed + span.length at counted
                have rest := ih m
                simp only [if_neg Bool.false_ne_true]
                omega

/-- Where something is withheld, a stop is requested in the end. -/
theorem withheld_raised {slot : Nat} {spans : List Bytes} {l : Link σ}
    (h : l.withheld env slot spans ≠ 0) : (l.offer env slot spans).2.stopRequested env = true := by
  induction spans generalizing l with
  | nil => exact absurd rfl h
  | cons span spans ih =>
      rw [offer]
      rw [withheld] at h
      split at h
      · rename_i empty
        rw [if_pos empty]
        exact ih h
      · rename_i full
        rw [if_neg full]
        cases flag : l.stopRequested env with
        | true =>
            have unasked : l.payload env slot span = (.stop, l) := if_pos flag
            rw [unasked]
            exact flag
        | false =>
            rw [flag, if_neg Bool.false_ne_true] at h
            generalize l.payload env slot span = answered at h ⊢
            obtain ⟨flow, m⟩ := answered
            cases flow with
            | stop => exact absurd rfl h
            | proceed => exact ih h

end Link

namespace Stream

variable {c : Completion} {s t : Stream σ}

/-- Bytes that handling a completion credits and a requested stop withholds. -/
def withholds (env : Surroundings σ) (c : Completion) (s : Stream σ) : Nat :=
  if s.pool.slots[c.slot]? = some .inFlight ∧ c.status = .completed ∧
      (s.fatal.isSome || s.stopAll) = false then
    s.link.withheld env c.slot (s.received c).spans
  else 0

theorem consumed_answer (read : s.pool.direction = .read) {flow : Flow} {buffer : Bytes}
    (consumed : (s.succeeded c.slot).consumed env c = (flow, buffer, t)) :
    s.link.offer env c.slot (s.received c).spans = (flow, t.link) ∧ buffer = c.buffer := by
  have direction : (s.succeeded c.slot).pool.direction = .read := read
  simp only [Stream.consumed, direction] at consumed
  cases consumed
  exact ⟨rfl, rfl⟩

theorem consumed_offer (read : s.pool.direction = .read) {flow : Flow} {buffer : Bytes}
    (consumed : (s.succeeded c.slot).consumed env c = (flow, buffer, t)) :
    t.link = (s.link.offer env c.slot (s.received c).spans).2 := by
  rw [(consumed_answer read consumed).1]

theorem worth_read (read : s.pool.direction = .read) :
    (s.succeeded c.slot).worth env c = s.link.offeredBytes env c.slot (s.received c).spans := by
  have direction : (s.succeeded c.slot).pool.direction = .read := read
  rw [worth, direction]
  rfl

/-- What handling a completion credits is passed on, or withheld. -/
theorem Handled.passed (read : s.pool.direction = .read) (h : Handled env c s t) :
    t.link.passed + s.withholds env c = s.link.passed + s.credits env c := by
  have served (own : s.pool.slots[c.slot]? = some .inFlight) (status : c.status = .completed)
      (running : (s.fatal.isSome || s.stopAll) = false) {l : Link σ}
      (offers : l.offers = (s.link.offer env c.slot (s.received c).spans).2.offers) :
      l.passed + s.withholds env c = s.link.passed + s.credits env c := by
    rw [withholds, if_pos ⟨own, status, running⟩, credits_running own status running,
      worth_read read, Link.passed_of_offers offers]
    exact s.link.offer_passed c.slot (s.received c).spans
  cases h with
  | stray stray =>
      rw [withholds, credits, if_neg fun all => stray all.1, if_neg fun all => stray all.1]
      rfl
  | failed own status =>
      rw [withholds, credits, if_neg fun all => status all.2.1, if_neg fun all => status all.2.1]
      exact Link.passed_of_offers (Link.offers_log env s.link _)
  | dropped own status quitting =>
      have quits : ¬ (s.fatal.isSome || s.stopAll) = false := by simp [quitting]
      rw [withholds, credits, if_neg fun all => quits all.2.2, if_neg fun all => quits all.2.2]
      exact Link.passed_of_offers (Link.offers_log env s.link _)
  | stopped own status running buffer t consumed beside =>
      refine served own status running ?_
      exact (Link.offers_log env t.link _).trans (congrArg Link.offers (consumed_offer read consumed))
  | resubmitted own status running buffer t consumed beside accepted =>
      refine served own status running ?_
      exact (Link.offers_submit env t.link _).trans
        (congrArg Link.offers (consumed_offer read consumed))
  | refused own status running buffer t consumed beside source answer =>
      refine served own status running ?_
      exact ((Link.offers_log env _ _).trans (Link.offers_submit env t.link _)).trans
        (congrArg Link.offers (consumed_offer read consumed))

theorem withholds_raised (oneWay : OneWay env) (read : s.pool.direction = .read)
    (h : Handled env c s t) (withheld : s.withholds env c ≠ 0) : t.link.stopRequested env = true := by
  rw [withholds] at withheld
  split at withheld
  · rename_i all
    have raised := Link.withheld_raised withheld
    cases h with
    | stray stray => exact absurd all.1 stray
    | failed own status => exact absurd all.2.1 status
    | dropped own status quitting => rw [quitting] at all; exact absurd all.2.2 (by simp)
    | stopped own status running buffer t consumed beside =>
        rw [← consumed_offer read consumed] at raised
        exact oneWay.log _ _ raised
    | resubmitted own status running buffer t consumed beside accepted =>
        rw [← consumed_offer read consumed] at raised
        exact oneWay.submit _ _ raised
    | refused own status running buffer t consumed beside source answer =>
        rw [← consumed_offer read consumed] at raised
        exact oneWay.log _ _ (oneWay.submit _ _ raised)
  · exact absurd rfl withheld

end Stream

namespace Run

variable {run next : Run σ}

/-- Bytes that the next step of a run credits and a requested stop withholds. -/
def withholds (env : Surroundings σ) : Run σ → Nat
  | .active (.handling (c :: _)) s => s.withholds env c
  | _ => 0

/-- All bytes that the first `n` steps of a run credit and do not pass on. -/
def withheld (env : Surroundings σ) (config : Config) (n : Nat) (run : Run σ) : Nat :=
  ((path env config n run).map (withholds env)).sum

theorem withheld_succ {n : Nat} (come : advance env config n run = .ok next) :
    withheld env config (n + 1) run = withheld env config n run + next.withholds env := by
  rw [withheld, path_succ come, List.map_append, List.sum_append, withheld, List.map_singleton,
    List.sum_singleton]

/-- A step of a reading session that handles no completion offers nothing. -/
theorem Stepped.offers_eq (h : Stepped env config run next) (read : run.Directed .read)
    (idle : ∀ c completions s, run ≠ .active (.handling (c :: completions)) s) :
    next.link.offers = run.link.offers := by
  have blank {index : Nat} {s : Stream σ} {buffer : Bytes} {l : Link σ}
      (prepared : Prepared env index s buffer l) (read : s.pool.direction = .read) :
      l.offers = s.link.offers := by
    cases prepared with
    | blank => rfl
    | filled _ _ _ write => rw [read] at write; cases write
  have unserved (idle : ¬ run.Attends) : next.link.offers = run.link.offers := by
    rw [Link.offers_services, Link.offers_services, h.services_eq idle]
  cases h with
  | queued index s buffer l inside prepared accepted =>
      exact (Link.offers_submit env l _).trans (blank prepared read)
  | refused index s buffer l inside prepared source answer =>
      exact (Link.offers_submit env l _).trans (blank prepared read)
  | spared index s offered buffer l inside write held answer =>
      rw [show s.pool.direction = .read from read] at write
      cases write
  | denied index s all | entered index s all => exact unserved all
  | handled c completions s t handled => exact absurd rfl (idle c completions s)
  | ended | gathered | concluded | emptied | cancelled | cleared | waited | collected | ignored
  | emptyHanded | settled => exact unserved id

/-- A step of a reading session passes on what it credits, or withholds it. -/
theorem Stepped.passed (h : Stepped env config run next) (read : run.Directed .read) :
    next.link.passed + run.withholds env = run.link.passed + run.credits env := by
  have offers := h.offers_eq read
  cases h with
  | handled c completions s t handled => exact handled.passed read
  | concluded s again t concluded =>
      exact Link.passed_of_offers (offers fun _ _ _ other => nomatch other)
  | ended | queued | refused | spared | denied | entered | gathered | emptied | cancelled | cleared
  | waited | collected | ignored | emptyHanded | settled =>
      exact Link.passed_of_offers (offers fun _ _ _ other => nomatch other)

theorem Stepped.raised (h : Stepped env config run next) (oneWay : OneWay env)
    (raised : run.link.stopRequested env = true) : next.link.stopRequested env = true := by
  obtain ⟨actions, course, -⟩ := h.turn
  exact course.keeps (fun l m added passage up => (passage.raised oneWay up).1) raised

theorem Stepped.withholds_raised (h : Stepped env config run next) (oneWay : OneWay env)
    (read : run.Directed .read) (withheld : run.withholds env ≠ 0) :
    next.link.stopRequested env = true := by
  cases h with
  | handled c completions s t handled => exact Stream.withholds_raised oneWay read handled withheld
  | ended | queued | refused | spared | denied | entered | gathered | concluded | emptied | cancelled
  | cleared | waited | collected | ignored | emptyHanded | settled => exact absurd rfl withheld

theorem Started.passed (h : Started env config state world run) : run.link.passed = 0 := by
  obtain ⟨actions, course, plain⟩ := h.course
  rw [Link.passed, course.transcript_eq]
  refine List.sum_eq_zero_iff_forall_eq_nat.mpr fun length member => ?_
  obtain ⟨a, among, rfl⟩ := List.mem_map.mp member
  have plainly := List.all_eq_true.mp plain a among
  cases a with
  | payload => cases plainly
  | submit | fill | setMode | purge | wait | cancelAll | progress | log => rfl

theorem passed_at {n : Nat} (read : config.direction = .read)
    (come : advance env config n (start env config state world) = .ok run) :
    run.link.passed + withheld env config n (start env config state world) =
        credited env config n (start env config state world) ∧
      (OneWay env → run.link.stopRequested env = false →
        withheld env config n (start env config state world) = 0) := by
  refine holds_at (fun run started => ⟨started.passed, fun _ _ => rfl⟩) ?_ come
  rintro n last next before stepped ⟨same, unraised⟩
  have directed : last.Directed .read := read ▸ directed_at before
  refine ⟨?_, fun oneWay down => ?_⟩
  · have passed := stepped.passed directed
    rw [withheld_succ before, credited_succ before]
    omega
  · rw [withheld_succ before]
    have was : last.link.stopRequested env = false :=
      Bool.eq_false_iff.mpr fun up => by
        rw [stepped.raised oneWay up] at down
        cases down
    have none : last.withholds env = 0 := by
      by_contra some
      rw [stepped.withholds_raised oneWay directed some] at down
      cases down
    rw [unraised oneWay was, none]

/-- Whatever its surroundings do, the bytes that a reading session tells of are those passed to its
consumer and those that a requested stop withheld as they were about to be passed. There are none of
these while no stop is requested, by a flag that is not lowered again. -/
theorem read_total_eq_passed_add_withheld (env : Surroundings σ) (config : Config)
    (read : config.direction = .read) (state : State) (world : σ) (n : Nat) :
    (∃ run, advance env config n (start env config state world) = .ok run ∧
        run.Reports
          (run.link.passed + withheld env config n (start env config state world))
          (acceptances env config n (start env config state world)) ∧
        (OneWay env → run.link.stopRequested env = false →
          withheld env config n (start env config state world) = 0)) ∨
      advance env config n (start env config state world) = .error .countOverflow := by
  rcases comes env config state world n with ⟨run, come, -⟩ | fault
  · obtain ⟨same, unraised⟩ := passed_at read come
    refine .inl ⟨run, come, ?_, unraised⟩
    rw [same]
    exact (reports_at come).1
  · exact .inr fault

section

open Rehearsal

/-- A transfer of one packet completes in the wait that raises the stop flag. -/
def overtaken : Assembly Script Timeline Audience where
  transport := { steps := [{ cues := [{}] }] }
  outside := { stopAtWait := some 0 }
  consumer := {}

def onePacket : Config := { packetsPerTransfer := 1, transferCount := 1 }

theorem overtaken_read_total : ∃ run,
    advance scripted onePacket 20 (start scripted onePacket .idle overtaken) = .ok run ∧
      run.Reports (run.link.passed + 6) 1 := by
  have kept : withheld scripted onePacket 20 (start scripted onePacket .idle overtaken) = 6 ∧
      acceptances scripted onePacket 20 (start scripted onePacket .idle overtaken) = 1 := by
    decide +kernel
  have ends : (advance scripted onePacket 20
      (start scripted onePacket .idle overtaken)).isOk = true := by decide +kernel
  rcases read_total_eq_passed_add_withheld scripted onePacket rfl .idle overtaken 20 with
    ⟨run, come, reports, -⟩ | fault
  · rw [kept.1, kept.2] at reports
    exact ⟨run, come, reports⟩
  · rw [fault] at ends
    cases ends

/-- The payload of that packet is in the total, and was passed to nobody. -/
theorem overtaken_total_exceeds_passed : ∃ summary l,
    advance scripted onePacket 20 (start scripted onePacket .idle overtaken) =
        .ok (.ended (.ok summary) l) ∧
      (summary.bytes, l.finishes, l.passed) = (6, [(6, 1)], 0) :=
  ended_of_summary? (fun ending => (ending.1.bytes, ending.2.finishes, ending.2.passed))
    (by decide +kernel)

end

end Run

end BulkStream.Session
