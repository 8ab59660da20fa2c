import BulkStream.Proofs.CaptureReplay
import BulkStream.Proofs.Verdict

/-!
How captures end. What the calls of a session ask of the dump is repeated on the dump alone, up to
the first operation that fails. From that operation on the sink stays as it is and asks for a stop;
whether there is one, how the session came out and whether the dump can be flushed decide the result
of the capture, and with the user's wish to end it the exit status. Whatever happens, the last that a
transport is asked for is reset mode.
-/
namespace BulkStream

/-- What the consumer answered. -/
def Session.Action.flow? : Session.Action → Option Flow
  | .payload _ _ flow | .fill _ _ _ flow | .progress _ flow => some flow
  | .setMode _ _ | .purge _ | .submit _ _ | .wait _ _ _ | .cancelAll | .log _ => none

/-- What each call of a way keeps holds all along it. -/
theorem Session.Link.Way.holds {σ : Type} {env : Surroundings σ} {l m : Link σ}
    {links : List (Link σ)} (h : Link.Way env l m links) {P : Link σ → Prop}
    (kept : ∀ l m added, l.Passage env added m → P l → P m) (first : P l) : ∀ n ∈ links, P n := by
  have later : links.Pairwise fun l m => P l → P m :=
    h.pairwise kept fun here there holds => there (here holds)
  cases links with
  | nil => exact nofun
  | cons head links =>
      cases h.first
      intro n member
      cases member with
      | head => exact first
      | tail _ behind => exact (List.pairwise_cons.mp later).1 n behind first

namespace Capture

open Session Integrity

variable {τ η δ : Type} {t : Transport τ} {o : Outside η} {file : DumpFile δ} {use : DumpUse}

namespace DumpFile

/-- What a call asks of a dump: to take payload if it is written, and to fill a buffer if it is
read. -/
def serve (file : DumpFile δ) (use : DumpUse) (dump : δ) : Action → Option DiskError × δ
  | .payload _ span _ =>
      match use with
      | .output =>
          match file.write span dump with
          | (.ok (), dump) => (none, dump)
          | (.error error, dump) => (some error, dump)
      | _ => (none, dump)
  | .fill _ offered _ _ =>
      match use with
      | .input =>
          let answer := file.fill offered.length dump
          (answer.1.error, answer.2)
      | _ => (none, dump)
  | _ => (none, dump)

/-- What calls ask of a dump one after another, up to the first failure. -/
def serveAll (file : DumpFile δ) (use : DumpUse) (dump : δ) : List Action → Option DiskError × δ
  | [] => (none, dump)
  | action :: actions =>
      match file.serve use dump action with
      | (none, dump) => file.serveAll use dump actions
      | (some error, dump) => (some error, dump)

theorem serveAll_append (file : DumpFile δ) (use : DumpUse) (dump : δ) (a b : List Action) :
    file.serveAll use dump (a ++ b) =
      match file.serveAll use dump a with
      | (none, dump) => file.serveAll use dump b
      | (some error, dump) => (some error, dump) := by
  induction a generalizing dump with
  | nil => rfl
  | cons action actions ih =>
      rw [List.cons_append, serveAll, serveAll]
      match file.serve use dump action with
      | (none, dump) => exact ih dump
      | (some error, dump) => rfl

theorem serveAll_singleton (file : DumpFile δ) (use : DumpUse) (dump : δ) (action : Action) :
    file.serveAll use dump [action] = file.serve use dump action := by
  rw [serveAll]
  split
  · rename_i same
    rw [same]
    rfl
  · rename_i same
    rw [same]

theorem serve_beside {action : Action} (beside : action.isOffer = false) (file : DumpFile δ)
    (use : DumpUse) (dump : δ) : file.serve use dump action = (none, dump) := by
  cases action with
  | payload _ _ _ | fill _ _ _ _ => cases beside
  | setMode _ _ | purge _ | submit _ _ | wait _ _ _ | cancelAll | progress _ _ | log _ => rfl

theorem serveAll_beside {actions : List Action} (beside : ∀ a ∈ actions, a.isOffer = false)
    (file : DumpFile δ) (use : DumpUse) (dump : δ) :
    file.serveAll use dump actions = (none, dump) := by
  induction actions with
  | nil => rfl
  | cons action actions ih =>
      rw [serveAll, serve_beside (beside action List.mem_cons_self)]
      exact ih fun a member => beside a (List.mem_cons_of_mem _ member)

end DumpFile

namespace Sink

variable {s : Sink δ}

/-- What a call does to a sink. -/
inductive Reached (file : DumpFile δ) (s : Sink δ) : List Action → Sink δ → Prop
  | beside {added : List Action} (beside : ∀ a ∈ added, a.isOffer = false) : Reached file s added s
  | payload (slot : Nat) (span : Bytes) :
      Reached file s [.payload slot span (s.payload file span).1.1] (s.payload file span).2
  | fill (slot : Nat) (offered left : Bytes) :
      Reached file s [.fill slot offered left (s.fill file offered).1.1] (s.fill file offered).2

theorem payload_broken {error : DiskError} (broken : s.failure = some error) (span : Bytes) :
    s.payload file span = ((.stop, []), s) := by
  rw [Sink.payload, broken]
  rfl

theorem fill_broken {error : DiskError} (broken : s.failure = some error) (offered : Bytes) :
    s.fill file offered = ((.stop, offered, []), s) := by
  rw [Sink.fill, broken]
  rfl

/-- After a failure of the dump the sink is left as it is, and asks for a stop. -/
theorem Reached.latched {added : List Action} {next : Sink δ} (h : s.Reached file added next)
    {error : DiskError} (broken : s.failure = some error) :
    next = s ∧ ∀ a ∈ added, a.isOffer = true → a.flow? = some .stop := by
  cases h with
  | beside beside =>
      refine ⟨rfl, fun a member offer => ?_⟩
      rw [beside a member] at offer
      cases offer
  | payload slot span =>
      rw [payload_broken broken]
      refine ⟨rfl, fun a member _ => ?_⟩
      cases List.mem_singleton.mp member
      rfl
  | fill slot offered left =>
      rw [fill_broken broken]
      refine ⟨rfl, fun a member _ => ?_⟩
      cases List.mem_singleton.mp member
      rfl

theorem payload_spared (spared : s.failure = none) (slot : Nat) (span : Bytes) (flow : Flow) :
    (s.payload file span).2.use = s.use ∧
      ((s.payload file span).2.failure, (s.payload file span).2.dump) =
        file.serve s.use s.dump (.payload slot span flow) := by
  obtain ⟨use, dump, checker, failure⟩ := s
  cases spared
  cases use with
  | none | input => exact ⟨rfl, rfl⟩
  | output =>
      simp only [Sink.payload, DumpFile.serve]
      match file.write span dump with
      | (.ok (), dump) | (.error error, dump) => exact ⟨rfl, rfl⟩

theorem fill_spared (spared : s.failure = none) (slot : Nat) (offered left : Bytes) (flow : Flow) :
    (s.fill file offered).2.use = s.use ∧
      ((s.fill file offered).2.failure, (s.fill file offered).2.dump) =
        file.serve s.use s.dump (.fill slot offered left flow) := by
  obtain ⟨use, dump, checker, failure⟩ := s
  cases spared
  cases use with
  | none | output => exact ⟨rfl, rfl⟩
  | input =>
      simp only [Sink.fill, DumpFile.serve]
      generalize file.fill offered.length dump = answer
      obtain ⟨⟨bytes, error⟩, dump⟩ := answer
      cases error with
      | none | some error => exact ⟨rfl, rfl⟩

/-- Up to then it passes on to the dump what is asked of it. -/
theorem Reached.spared {added : List Action} {next : Sink δ} (h : s.Reached file added next)
    (spared : s.failure = none) :
    next.use = s.use ∧ (next.failure, next.dump) = file.serveAll s.use s.dump added := by
  cases h with
  | beside beside =>
      rw [DumpFile.serveAll_beside beside, spared]
      exact ⟨rfl, rfl⟩
  | payload slot span =>
      rw [DumpFile.serveAll_singleton]
      exact payload_spared spared slot span _
  | fill slot offered left =>
      rw [DumpFile.serveAll_singleton]
      exact fill_spared spared slot offered left _

/-- A sink that has done to its dump what some calls asked for. -/
structure Follows (file : DumpFile δ) (use : DumpUse) (dump : δ) (actions : List Action)
    (s : Sink δ) : Prop where
  kept : s.use = use
  done : (s.failure, s.dump) = file.serveAll use dump actions

section

variable {actions : List Action} {dump : δ}

theorem Follows.failure_eq (h : s.Follows file use dump actions) :
    s.failure = (file.serveAll use dump actions).1 := by
  rw [← h.done]

theorem Follows.dump_eq (h : s.Follows file use dump actions) :
    s.dump = (file.serveAll use dump actions).2 := by
  rw [← h.done]

theorem Reached.follows {added : List Action} {next : Sink δ} (h : s.Reached file added next)
    (follows : s.Follows file use dump actions) :
    next.Follows file use dump (actions ++ added) := by
  obtain ⟨rfl, done⟩ := follows
  cases failed : s.failure with
  | some error =>
      obtain ⟨rfl, -⟩ := h.latched failed
      refine ⟨rfl, ?_⟩
      rw [DumpFile.serveAll_append, ← done, failed]
  | none =>
      obtain ⟨kept, reached⟩ := h.spared failed
      refine ⟨kept, ?_⟩
      rw [DumpFile.serveAll_append, ← done, failed]
      exact reached

end

end Sink

/-- The sink at the end of a link. -/
def sinkOf (l : Link (World τ η δ)) : Sink δ := l.world.consumer.sink

theorem reached_of_passage {l m : Link (World τ η δ)} {added : List Action}
    (passage : l.Passage (surroundings t o file) added m) :
    (sinkOf l).Reached file added (sinkOf m) := by
  have apart {action : Action} (beside : action.isOffer = false) :
      ∀ a ∈ [action], a.isOffer = false := by
    intro a member
    cases List.mem_singleton.mp member
    exact beside
  cases passage with
  | setMode mode | purge | submit request | wait milliseconds | cancelAll => exact .beside (apart rfl)
  | log event =>
      have same : sinkOf (l.log (surroundings t o file) event) = sinkOf l :=
        l.world.consumer.sink_log file event
      rw [same]
      exact .beside (apart rfl)
  | transition state =>
      have same : sinkOf (l.transition (surroundings t o file) state) = sinkOf l :=
        l.world.consumer.sink_log file (.stateChanged l.state state)
      rw [same]
      exact .beside (apart rfl)
  | now => exact .beside nofun
  | progress snapshot down =>
      rw [Link.progress_down down]
      exact .beside (apart rfl)
  | payload slot span down =>
      rw [Link.payload_down down]
      exact .payload slot span
  | fill slot offered down =>
      rw [Link.fill_down down]
      exact .fill slot offered _

/-- What leads from one link of a capture to a later one: if an operation of the dump has failed
before, the sink is the same at both, and all that it was offered between them was answered with a
stop. -/
def Latched (file : DumpFile δ) (use : DumpUse) (dump : δ) (l m : Link (World τ η δ)) : Prop :=
  ∃ actions, m.transcript = l.transcript ++ actions ∧
    ((file.serveAll use dump l.transcript).1.isSome = true →
      sinkOf m = sinkOf l ∧ ∀ a ∈ actions, a.isOffer = true → a.flow? = some .stop)

section

variable {dump : δ} {l m : Link (World τ η δ)}

theorem follows_of_passage (follows : (sinkOf l).Follows file use dump l.transcript)
    {added : List Action} (passage : l.Passage (surroundings t o file) added m) :
    (sinkOf m).Follows file use dump m.transcript := by
  rw [passage.transcript_eq]
  exact (reached_of_passage passage).follows follows

/-- All along a way the sink has done what was asked, and nothing after the first failure. -/
theorem latched_on_way {links : List (Link (World τ η δ))}
    (way : Link.Way (surroundings t o file) l m links)
    (follows : (sinkOf l).Follows file use dump l.transcript) :
    links.Pairwise (Latched file use dump) := by
  have all := way.holds (fun _ _ _ passage h => follows_of_passage h passage) follows
  have kept : links.Pairwise fun l m => ∃ actions, m.transcript = l.transcript ++ actions ∧
      ((sinkOf l).failure.isSome = true →
        sinkOf m = sinkOf l ∧ ∀ a ∈ actions, a.isOffer = true → a.flow? = some .stop) := by
    apply way.pairwise
    · intro l m added passage
      refine ⟨added, passage.transcript_eq, fun broken => ?_⟩
      obtain ⟨error, broken⟩ := Option.isSome_iff_exists.mp broken
      exact (reached_of_passage passage).latched broken
    · rintro l m n ⟨actions, first, here⟩ ⟨more, second, there⟩
      refine ⟨actions ++ more, by rw [second, first, List.append_assoc], fun broken => ?_⟩
      obtain ⟨same, stopped⟩ := here broken
      obtain ⟨same', stopped'⟩ := there (same ▸ broken)
      refine ⟨same'.trans same, fun a member => ?_⟩
      cases List.mem_append.mp member with
      | inl before => exact stopped a before
      | inr behind => exact stopped' a behind
  refine kept.imp_of_mem fun {l m} member _ latched => ?_
  rwa [Latched, ← (all l member).failure_eq]

end

/-- Whether the dump cannot be flushed. -/
def FlushFails (file : DumpFile δ) (use : DumpUse) (dump : δ) : Prop :=
  use = .output ∧ ∃ error, (file.flush dump).1 = .error error

/-- The session met an error, and not just a peripheral that went quiet. -/
def SessionFails (ended : Except StreamError Summary) : Prop :=
  ∃ error, ended = .error error ∧ ∀ milliseconds, error ≠ .livenessTimeout milliseconds

theorem Sink.finish_failed (file : DumpFile δ) (s : Sink δ) :
    (∃ failure, (s.finish file).1.1 = .error failure) ↔
      FlushFails file s.use s.dump ∨ s.failure.isSome = true := by
  obtain ⟨use, dump, checker, failure⟩ := s
  cases use with
  | none | input =>
      cases failure with
      | none => simp [Sink.finish, FlushFails]
      | some error => simp [Sink.finish]
  | output =>
      cases flushed : (file.flush dump).1 with
      | ok =>
          cases failure with
          | none => simp [Sink.finish, FlushFails, flushed]
          | some error => simp [Sink.finish, flushed]
      | error error => simp [Sink.finish, FlushFails, flushed]

theorem conclude_failed (ended : Except StreamError Summary) (integrity : Option Report) :
    (∃ failure, (conclude ended integrity).1 = .error failure) ↔ SessionFails ended := by
  cases ended with
  | ok summary => simp [conclude, SessionFails]
  | error error =>
      cases error with
      | livenessTimeout milliseconds => simp [conclude, SessionFails, StreamError.isGraceful]
      | configuration _ _ | allocation _ _ | submission _ _ | transport _ =>
          simp [conclude, SessionFails, StreamError.isGraceful]

/-- What is told of the session if the capture succeeds. -/
structure Told (ended : Except StreamError Summary) (outcome : Outcome) : Prop where
  summary (summary : Summary) : outcome.session = some summary ↔ ended = .ok summary
  quiet : outcome.session = none ↔
    ∃ milliseconds, ended = .error (.livenessTimeout milliseconds)

theorem conclude_told {ended : Except StreamError Summary} {integrity : Option Report}
    {outcome : Outcome} (h : (conclude ended integrity).1 = .ok outcome) : Told ended outcome := by
  cases ended with
  | ok summary =>
      cases h
      exact ⟨fun other => by simp, by simp⟩
  | error error =>
      cases error with
      | livenessTimeout milliseconds =>
          cases h
          exact ⟨fun other => by simp, by simp⟩
      | configuration _ _ | allocation _ _ | submission _ _ | transport _ => cases h

theorem restore_eq (t : Transport τ) (o : Outside η) (file : DumpFile δ) (l : Link (World τ η δ)) :
    (restore (surroundings t o file) l).transcript =
        l.transcript ++ [.setMode .reset (t.setMode .reset l.world.transport).1] ∧
      (restore (surroundings t o file) l).world.transport =
        (t.setMode .reset l.world.transport).2 ∧
      sinkOf (restore (surroundings t o file) l) = sinkOf l := by
  have reset : l.setMode (surroundings t o file) .reset =
      ((t.setMode .reset l.world.transport).1,
        l.after (.setMode .reset (t.setMode .reset l.world.transport).1)
          { l.world with
            transport := (t.setMode .reset l.world.transport).2
            outside := o.meanwhile .setMode l.world.outside }) := rfl
  rw [restore, reset]
  generalize t.setMode .reset l.world.transport = answered
  obtain ⟨answer, transport⟩ := answered
  cases answer with
  | ok | error error => exact ⟨l.transcript_after _ _, rfl, rfl⟩

/-- What is asked of the transport last is reset mode. -/
def ResetLast (t : Transport τ) (l m : Link (World τ η δ)) : Prop :=
  ∃ answer, m.transcript = l.transcript ++ [.setMode .reset answer] ∧
    t.setMode .reset l.world.transport = (answer, m.world.transport)

/-- The sink is settled as the session left it, after the transport was asked for reset mode. -/
theorem closeSink_restore (t : Transport τ) (o : Outside η) (file : DumpFile δ)
    (lines : List LogLine) (l : Link (World τ η δ)) :
    (closeSink file (restore (surroundings t o file) (note lines l))).1 =
        ((sinkOf l).finish file).1.1 ∧
      ResetLast t l (closeSink file (restore (surroundings t o file) (note lines l))).2 := by
  obtain ⟨transcript, transport, same⟩ := restore_eq t o file (note lines l)
  generalize restore (surroundings t o file) (note lines l) = r at transcript transport same ⊢
  have settled : (closeSink file r).1 = ((sinkOf r).finish file).1.1 := rfl
  refine ⟨?_, _, transcript, Prod.ext rfl transport.symm⟩
  rw [settled, same]
  rfl

/-- How a capture is wound up whose session left a link and a dump, with or without a failure of it
before. -/
structure Settled (t : Transport τ) (file : DumpFile δ) (use : DumpUse) (broken : Option DiskError)
    (dump : δ) (ended : Except StreamError Summary) (l : Link (World τ η δ))
    (result : Except Failure Outcome) (m : Link (World τ η δ)) : Prop where
  reset : ResetLast t l m
  failed : (∃ failure, result = .error failure) ↔
    FlushFails file use dump ∨ broken.isSome = true ∨ SessionFails ended
  succeeded (outcome : Outcome) (success : result = .ok outcome) : Told ended outcome

theorem settle_settled (t : Transport τ) (o : Outside η) (file : DumpFile δ)
    (ended : Except StreamError Summary) (l : Link (World τ η δ)) :
    Settled t file (sinkOf l).use (sinkOf l).failure (sinkOf l).dump ended l
      (settle t o file ended l).1 (settle t o file ended l).2 := by
  obtain ⟨finished, reset⟩ := closeSink_restore t o file [logLine .info "Capture ended."] l
  have failed := (sinkOf l).finish_failed file
  rw [← finished] at failed
  rw [settle]
  generalize closeSink file (restore (surroundings t o file) _) = settled at reset failed ⊢
  obtain ⟨result, m⟩ := settled
  cases result with
  | error failure =>
      have first := failed.mp ⟨failure, rfl⟩
      refine ⟨reset, ⟨fun _ => first.imp_right .inl, fun _ => ⟨failure, rfl⟩⟩, ?_⟩
      intro outcome success
      cases success
  | ok integrity =>
      refine ⟨reset, ?_, fun outcome success => conclude_told success⟩
      have spared : ¬ (FlushFails file (sinkOf l).use (sinkOf l).dump ∨
          (sinkOf l).failure.isSome = true) := by
        rw [← failed]
        rintro ⟨failure, impossible⟩
        cases impossible
      rw [← or_assoc, or_iff_right spared]
      exact conclude_failed ended integrity

theorem ending_status (result : Except Failure Outcome) (stopRequested : Bool) :
    (ending result stopRequested).status = 0 ↔
      (∃ outcome, result = .ok outcome) ∨ stopRequested = true := by
  cases result with
  | ok outcome => simp [ending]
  | error failure => cases stopRequested <;> simp [ending]

section

variable {world : World τ η δ}

theorem follows_opened (fresh : world.consumer.sink.failure = none) (state : State) :
    (sinkOf (Link.opened state world)).Follows file world.consumer.sink.use
      world.consumer.sink.dump (Link.opened state world).transcript :=
  ⟨rfl, congrArg (·, world.consumer.sink.dump) fresh⟩

theorem follows_at (fresh : world.consumer.sink.failure = none) {config : Session.Config}
    {steps : Nat} {run : Run (World τ η δ)}
    (come : Run.advance (surroundings t o file) config steps
      (Run.start (surroundings t o file) config .idle world) = .ok run) :
    (sinkOf run.link).Follows file world.consumer.sink.use world.consumer.sink.dump
      run.link.transcript := by
  obtain ⟨actions, course⟩ := Run.course_to come
  exact course.keeps (fun _ _ _ passage h => follows_of_passage h passage)
    (follows_opened fresh .idle)

end

/-- How captures end. At every point of a session, from the first failure of the dump on the sink is
left alone and every offer is answered with a stop. When the session has ended, reset mode is asked
for last; the capture fails if the dump cannot be flushed, or an operation of it failed in the
session, or the session met an error that is no quiet peripheral, and in no other case. Its exit
status tells of success if it did not fail or its end was asked for, whatever the check found. -/
theorem captures_end (t : Transport τ) (o : Outside η) (file : DumpFile δ)
    (config : Session.Config) (steps : Nat) (world : World τ η δ)
    (fresh : world.consumer.sink.failure = none) :
    let env := surroundings t o file
    let sink := world.consumer.sink
    (∀ run, Run.advance env config steps (Run.start env config .idle world) = .ok run →
      ∃ links, Link.Way env (Link.opened .idle world) run.link links ∧
        links.Pairwise (Latched file sink.use sink.dump)) ∧
    ((∃ ended l result m,
        Run.advance env config steps (Run.start env config .idle world) = .ok (.ended ended l) ∧
        runSession t o file config steps world = .ok (some (result, m)) ∧
        Settled t file sink.use (file.serveAll sink.use sink.dump l.transcript).1
          (file.serveAll sink.use sink.dump l.transcript).2 ended l result m ∧
        ∀ stopRequested, (ending result stopRequested).status = 0 ↔
          (∃ outcome, result = .ok outcome) ∨ stopRequested = true) ∨
      (∃ phase s,
        Run.advance env config steps (Run.start env config .idle world) = .ok (.active phase s) ∧
        runSession t o file config steps world = .ok none) ∨
      (Run.advance env config steps (Run.start env config .idle world) = .error .countOverflow ∧
        runSession t o file config steps world = .error .countOverflow)) := by
  intro env sink
  refine ⟨fun run come => ?_, ?_⟩
  · obtain ⟨links, way, -⟩ := Run.way_to come
    exact ⟨links, way, latched_on_way way (follows_opened fresh .idle)⟩
  · rcases Run.comes env config .idle world steps with ⟨run, come, -⟩ | fault
    · cases run with
      | active phase s =>
          refine .inr (.inl ⟨phase, s, come, ?_⟩)
          rw [runSession, come]
          rfl
      | ended ended l =>
          have follows : (sinkOf l).Follows file sink.use sink.dump l.transcript :=
            follows_at fresh come
          have settled := settle_settled t o file ended l
          rw [follows.kept, follows.failure_eq, follows.dump_eq] at settled
          refine .inl ⟨ended, l, _, _, come, ?_, settled, ending_status _⟩
          rw [runSession, come]
          rfl
    · refine .inr (.inr ⟨fault, ?_⟩)
      rw [runSession, fault]
      rfl

/-- A dump with room for so many writes. -/
def scarce : DumpFile Nat where
  write _ room := if room = 0 then (.error .noSpace, 0) else (.ok (), room - 1)
  flush room := (.ok (), room)
  fill _ room := (⟨[], none⟩, room)

/-- A peripheral that loses every third record and goes quiet after three transfers. -/
def scarceWorld (room : Nat) : World Peripheral.Fifo Nat Nat where
  transport := recorded.transport
  outside := 0
  consumer := {
    sink := { use := .output, dump := room, checker := some (.binary { format := ⟨4, 1⟩ }) } }

def scarceCapture (room : Nat) :
    Except Fault (Option (Except Failure Outcome × Link (World Peripheral.Fifo Nat Nat))) :=
  runSession Peripheral.Fifo.transport clock scarce
    { packetsPerTransfer := 1, transferCount := 2 } 40 (scarceWorld room)

/-- With room for one write the capture fails, unless its end was asked for; with enough room it
does well, although records are missing. -/
theorem scarce_captures_end :
    (∃ l failure m, scarceCapture 1 = .ok (some (.error failure, m)) ∧
      ResetLast Peripheral.Fifo.transport l m ∧
      ∀ stopRequested, (ending (.error failure) stopRequested).status = 0 ↔ stopRequested = true) ∧
    ∃ outcome m, scarceCapture 5 = .ok (some (.ok outcome, m)) ∧ outcome.session = none ∧
      outcome.integrity.map (·.errors) = some 3 ∧
      ∀ stopRequested, (ending (.ok outcome) stopRequested).status = 0 := by
  have failing : (scarceCapture 1).toOption.map (·.map (·.1.toOption.isSome)) =
    some (some false) := by decide +kernel
  have quiet : (scarceCapture 5).toOption.map (·.map (·.1.toOption.map fun outcome =>
      (outcome.session.isNone, outcome.integrity.map (·.errors)))) =
    some (some (some (true, some 3))) := by decide +kernel
  have ends (room : Nat) := (captures_end Peripheral.Fifo.transport clock scarce
    { packetsPerTransfer := 1, transferCount := 2 } 40 (scarceWorld room) rfl).2
  constructor
  · rcases ends 1 with ⟨ended, l, result, m, -, ran, settled, status⟩ | ⟨-, -, -, ran⟩ | ⟨-, ran⟩
    · rw [show scarceCapture 1 = _ from ran] at failing
      cases result with
      | ok outcome => cases failing
      | error failure =>
          refine ⟨l, failure, m, ran, settled.reset, fun stopRequested => ?_⟩
          rw [status]
          exact or_iff_right nofun
    all_goals
      rw [show scarceCapture 1 = _ from ran] at failing
      cases failing
  · rcases ends 5 with ⟨ended, l, result, m, -, ran, settled, status⟩ | ⟨-, -, -, ran⟩ | ⟨-, ran⟩
    · rw [show scarceCapture 5 = _ from ran] at quiet
      cases result with
      | error failure => cases quiet
      | ok outcome =>
          have told := Option.some.inj (Option.some.inj (Option.some.inj quiet))
          obtain ⟨unheard, errors⟩ := Prod.mk.inj told
          exact ⟨outcome, m, ran, Option.isNone_iff_eq_none.mp unheard, errors,
            fun stopRequested => (status stopRequested).mpr (.inl ⟨outcome, rfl⟩)⟩
    all_goals
      rw [show scarceCapture 5 = _ from ran] at quiet
      cases quiet

end Capture

end BulkStream
