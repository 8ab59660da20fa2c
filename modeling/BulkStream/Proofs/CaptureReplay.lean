import BulkStream.Capture.Simulated
import BulkStream.Proofs.DumpKeeping
import BulkStream.Proofs.Replays
import BulkStream.Proofs.Turns
import BulkStream.Proofs.UnreadFindings

/-!
A capture and the check of its dump. While no failure of the dump is kept, the dump and the checker
of a sink have both received the payload passed on so far; what the checker then reports is what a
check of the dump reports, whatever the cuts of the one are and of the other.
-/
namespace BulkStream.Capture

open Session Integrity

namespace Sink

variable {δ : Type} {file : DumpFile δ}

/-- What a sink has become that received some bytes, checked them and wrote them to its dump. -/
structure Recorded (keeping : Keeping file) (fresh : Checker) (received : Bytes) (s : Sink δ) :
    Prop where
  use : s.use = .output
  spared : keeping.Faultless → s.failure = none
  dump : s.failure = none → keeping.Wrote s.dump received
  checked : s.failure = none →
    ∃ checker older, s.checker = some checker ∧ checker.recalling older = fresh.feed received

variable {keeping : Keeping file} {format : RecordFormat} {fresh : Checker} {received : Bytes}
  {s : Sink δ}

theorem Recorded.payload (h : s.Recorded keeping fresh received)
    (made : Checker.ofFormat format = .ok fresh) (data : Bytes) :
    (s.payload file data).2.Recorded keeping fresh (received ++ data) := by
  cases failed : s.failure with
  | some error =>
      have stays : (s.payload file data).2 = s := by
        simp only [Sink.payload, failed, Option.isSome_some, if_true]
      rw [stays]
      have broken : s.failure ≠ none := by
        rw [failed]
        exact nofun
      exact ⟨h.use, h.spared, fun spared => absurd spared broken,
        fun spared => absurd spared broken⟩
  | none =>
      obtain ⟨checker, older, has, fed⟩ := h.checked failed
      have wrote := h.dump failed
      have unbroken : ¬ s.failure.isSome = true := by
        rw [failed]
        exact nofun
      simp only [Sink.payload, unbroken, has, Option.map_some, takeLines, h.use]
      -- The findings taken now were found after those taken before.
      have checked : ((checker.feed data).takeFindings.2).recalling
          ((checker.feed data).takeFindings.1.reverse ++ older) =
            fresh.feed (received ++ data) := by
        rw [← Checker.recalling_recalling, Checker.takeFindings_recalling,
          ← Checker.feed_recalling, fed, Checker.feed_feed made]
      match written : file.write data s.dump with
      | (.ok (), dump) =>
          exact ⟨rfl, fun _ => failed, fun _ => keeping.write data wrote written,
            fun _ => ⟨_, _, rfl, checked⟩⟩
      | (.error error, dump) =>
          refine ⟨rfl, fun faultless => ?_, nofun, nofun⟩
          have done := faultless.write data wrote
          rw [written] at done
          cases done

/-- A sink that writes its dump gives nothing to be sent. -/
theorem Recorded.fill (h : s.Recorded keeping fresh received) (buffer : Bytes) :
    (s.fill file buffer).2 = s := by
  simp only [Sink.fill, h.use]
  split <;> rfl

/-- What is left when the dump is flushed and the check is settled. -/
theorem Recorded.finish (h : s.Recorded keeping fresh received) (spared : s.failure = none)
    (flushed : (file.flush s.dump).1 = .ok ()) :
    (s.finish file).1.1 = .ok (some (fresh.reportOn received)) ∧
      keeping.content (s.finish file).2.dump = received := by
  obtain ⟨checker, older, has, fed⟩ := h.checked spared
  have reported : checker.finish.takeFindings.2.report = fresh.reportOn received := by
    rw [Checker.report_takeFindings, Checker.reportOn, ← fed, Checker.finish_recalling,
      Checker.report_recalling]
  match done : file.flush s.dump with
  | (.error error, dump) =>
      rw [done] at flushed
      cases flushed
  | (.ok (), dump) =>
      simp only [Sink.finish, h.use, done, spared, has, Option.map_some, takeLines, reported]
      exact ⟨trivial, keeping.flush (h.dump spared) done⟩

end Sink

variable {σ δ : Type} {env : Surroundings σ} {file : DumpFile δ}

/-- Surroundings in which a sink receives the payload. Only calls to the consumer reach it; how they
are answered is left open. -/
structure Recording (env : Surroundings σ) (file : DumpFile δ) where
  sink : σ → Sink δ
  payload (span : Bytes) (world : σ) :
    sink (env.payload span world).2 = ((sink world).payload file span).2
  fill (offered : Bytes) (world : σ) :
    sink (env.fill offered world).2 = ((sink world).fill file offered).2
  progress (snapshot : Snapshot) (world : σ) : sink (env.progress snapshot world).2 = sink world
  log (event : Event) (world : σ) : sink (env.log event world) = sink world
  now (world : σ) : sink (env.now world).2 = sink world
  setMode (mode : Mode) (world : σ) : sink (env.setMode mode world).2 = sink world
  purge (world : σ) : sink (env.purge world).2 = sink world
  submit (request : Request) (world : σ) : sink (env.submit request world).2 = sink world
  wait (milliseconds : Nat) (world : σ) : sink (env.wait milliseconds world).2 = sink world
  cancelAll (world : σ) : sink (env.cancelAll world) = sink world

theorem Recorder.sink_log (file : DumpFile δ) (event : Event) (r : Recorder δ) :
    ((consumer file).log event r).sink = r.sink := by
  simp only [consumer]
  split
  · rw [hear]
    split <;> rfl
  · rfl

namespace Recording

/-- In a capture the sink is that of its recorder. -/
def ofCapture {τ η : Type} (t : Transport τ) (o : Outside η) (file : DumpFile δ) :
    Recording (surroundings t o file) file where
  sink world := world.consumer.sink
  payload _ _ := rfl
  fill _ _ := rfl
  progress _ _ := rfl
  log event world := world.consumer.sink_log file event
  now _ := rfl
  setMode _ _ := rfl
  purge _ := rfl
  submit _ _ := rfl
  wait _ _ := rfl
  cancelAll _ := rfl

variable (recording : Recording env file)

/-- The sink has received the payload passed on so far. -/
def Keeps (keeping : Keeping file) (fresh : Checker) (l : Link σ) : Prop :=
  (recording.sink l.world).Recorded keeping fresh l.delivered

variable {recording} {keeping : Keeping file} {format : RecordFormat} {fresh : Checker}
  {l m : Link σ}

theorem Keeps.call (made : Checker.ofFormat format = .ok fresh) {added : List Action}
    (passage : l.Passage env added m) (h : recording.Keeps keeping fresh l) :
    recording.Keeps keeping fresh m := by
  have received := passage.delivered_eq
  have unmoved (nothing : added.flatMap Action.delivered = [])
      (same : recording.sink m.world = recording.sink l.world) :
      recording.Keeps keeping fresh m := by
    rw [nothing, List.append_nil] at received
    rwa [Keeps, same, received]
  cases passage with
  | setMode mode => exact unmoved rfl (recording.setMode mode l.world)
  | purge => exact unmoved rfl (recording.purge l.world)
  | submit request => exact unmoved rfl (recording.submit request l.world)
  | wait milliseconds => exact unmoved rfl (recording.wait milliseconds l.world)
  | cancelAll => exact unmoved rfl (recording.cancelAll l.world)
  | log event => exact unmoved rfl (recording.log event l.world)
  | transition state => exact unmoved rfl (recording.log _ l.world)
  | now => exact unmoved rfl (recording.now l.world)
  | progress snapshot down =>
      rw [Link.progress_down down] at unmoved ⊢
      exact unmoved rfl (recording.progress snapshot l.world)
  | fill slot offered down =>
      rw [Link.fill_down down] at unmoved ⊢
      exact unmoved rfl ((recording.fill offered l.world).trans (Sink.Recorded.fill h offered))
  | payload slot span down =>
      have taken := Sink.Recorded.payload h made span
      rw [← recording.payload span l.world] at taken
      rw [Keeps, received, Link.payload_down down, List.flatMap_singleton]
      exact taken

/-- A run keeps its sink up to date, if it starts with a new checker and an empty dump. -/
theorem keeps_at (made : Checker.ofFormat format = .ok fresh) {world : σ} {dump : δ}
    (opened : recording.sink world = { use := .output, dump, checker := some fresh })
    (empty : keeping.Wrote dump []) {config : Session.Config} {state : State} {n : Nat}
    {run : Run σ} (come : Run.advance env config n (Run.start env config state world) = .ok run) :
    recording.Keeps keeping fresh run.link := by
  obtain ⟨actions, course⟩ := Run.course_to come
  refine course.keeps (fun l m added passage => Keeps.call made passage) ?_
  have nothing : fresh.recalling [] = fresh := by
    cases fresh <;> simp [Checker.recalling, BinaryChecker.recalling, TextChecker.recalling,
      Journal.recalling]
  rw [Keeps, Link.opened, opened]
  exact ⟨rfl, fun _ => rfl, fun _ => empty,
    fun _ => ⟨fresh, [], rfl, nothing.trans (Checker.feed_nil made).symm⟩⟩

end Recording

/-- What a sink leaves when it is settled at the end of a link: a dump of exactly the payload passed
on, and a report that any check of the dump repeats. -/
structure Replays (recording : Recording env file) (keeping : Keeping file) (format : RecordFormat)
    (l : Link σ) : Prop where
  /-- No failure is kept but one of the dump. -/
  spared : keeping.Faultless →
    (recording.sink l.world).failure = none ∧ (file.flush (recording.sink l.world).dump).1 = .ok ()
  settled : (recording.sink l.world).failure = none →
    (file.flush (recording.sink l.world).dump).1 = .ok () →
    ∃ report,
      ((recording.sink l.world).finish file).1.1 = .ok (some report) ∧
      keeping.content ((recording.sink l.world).finish file).2.dump = l.delivered ∧
      ∀ answers, Reading (keeping.content ((recording.sink l.world).finish file).2.dump) answers →
        checkDump format answers = .ok (.ok report)

theorem Recording.Keeps.replays {recording : Recording env file} {keeping : Keeping file}
    {format : RecordFormat} {fresh : Checker} {l : Link σ}
    (h : recording.Keeps keeping fresh l) (made : Checker.ofFormat format = .ok fresh) :
    Replays recording keeping format l := by
  refine ⟨fun faultless => ?_, fun spared flushed => ?_⟩
  · have spared := h.spared faultless
    exact ⟨spared, faultless.flush (h.dump spared)⟩
  · obtain ⟨reported, kept⟩ := Sink.Recorded.finish h spared flushed
    refine ⟨_, reported, kept, fun answers reading => ?_⟩
    rw [kept] at reading
    rw [checkDump_eq_verdict made, reading.verdict_eq]

/-- Checking payload as it comes and checking the dump afterwards agree: at every point of every
session, with every reader. -/
theorem dump_check_eq_live_check (recording : Recording env file) (keeping : Keeping file)
    {format : RecordFormat} {fresh : Checker} (made : Checker.ofFormat format = .ok fresh)
    {world : σ} {dump : δ}
    (opened : recording.sink world = { use := .output, dump, checker := some fresh })
    (empty : keeping.Wrote dump []) (config : Session.Config) (state : State) (n : Nat) :
    ((∃ run, Run.advance env config n (Run.start env config state world) = .ok run ∧
        Replays recording keeping format run.link) ∨
      Run.advance env config n (Run.start env config state world) = .error .countOverflow) ∧
    ∀ answers, checkDump format answers = .ok (verdict fresh.reportOn answers) := by
  refine ⟨?_, checkDump_eq_verdict made⟩
  rcases Run.comes env config state world n with ⟨run, come, -⟩ | fault
  · exact .inl ⟨run, come, (Recording.keeps_at made opened empty come).replays made⟩
  · exact .inr fault

section

/-- Records of four bytes from a peripheral that loses every third one and goes quiet after three
transfers. -/
def recorded : World Peripheral.Fifo Nat OpenDump where
  transport :=
    let config : Peripheral.Config :=
      { packetSize := 12, pattern := .binary ⟨4, 1⟩, dropEvery := some 3, stallAfter := some 3 }
    { config, source := .start config.pattern config.dropEvery }
  outside := 0
  consumer := {
    sink := {
      use := .output
      dump := ⟨{ nodes := [] }, .output { target := .file ["dump"] }⟩
      checker := some (.binary { format := ⟨4, 1⟩ }) } }

def recordedRun : Except Fault (Run (World Peripheral.Fifo Nat OpenDump)) :=
  let env := surroundings Peripheral.Fifo.transport clock OpenDump.operations
  let config : Session.Config := { packetsPerTransfer := 1, transferCount := 2 }
  Run.advance env config 20 (Run.start env config .idle recorded)

/-- The dump is read in pieces of one byte and of seven, with an interruption between them. -/
theorem recorded_replays :
    ∃ run report, recordedRun = .ok run ∧ run.link.delivered.length = 30 ∧ report.errors = 3 ∧
      (run.link.world.consumer.sink.finish OpenDump.operations).1.1 = .ok (some report) ∧
      checkDump (.binary ⟨4, 1⟩)
        (scriptedReads [.atMost 1, .fail .interrupted, .atMost 7] run.link.delivered) =
        .ok (.ok report) := by
  have outline : recordedRun.toOption.map (fun run => (run.link.delivered.length,
      (run.link.world.consumer.sink.finish OpenDump.operations).1.1.toOption.map
        (·.map (·.errors)))) = some (30, some (some 3)) := by decide +kernel
  have made : Checker.ofFormat (.binary ⟨4, 1⟩) = .ok (.binary { format := ⟨4, 1⟩ }) := by decide
  let recording := Recording.ofCapture Peripheral.Fifo.transport clock OpenDump.operations
  have opened : recording.sink recorded =
      { use := .output, dump := _, checker := some (.binary { format := ⟨4, 1⟩ }) } := rfl
  have empty : (OpenDump.keeping ["dump"]).Wrote recorded.consumer.sink.dump [] :=
    ⟨_, rfl, rfl, rfl⟩
  rcases (dump_check_eq_live_check recording (OpenDump.keeping ["dump"]) made opened empty
      { packetsPerTransfer := 1, transferCount := 2 } .idle 20).1 with ⟨run, come, replays⟩ | fault
  · obtain ⟨spared, flushed⟩ := replays.spared (OpenDump.keeping_faultless ["dump"])
    obtain ⟨report, reported, kept, repeated⟩ := replays.settled spared flushed
    have finished : (run.link.world.consumer.sink.finish OpenDump.operations).1.1 =
      .ok (some report) := reported
    rw [show recordedRun = .ok run from come] at outline
    obtain ⟨length, errors⟩ := Prod.mk.inj (Option.some.inj outline)
    rw [finished] at errors
    rw [kept] at repeated
    refine ⟨run, report, come, length, Option.some.inj (Option.some.inj errors), reported, ?_⟩
    exact repeated _ (Reading.scriptedReads _ (by decide))
  · rw [show recordedRun = .error _ from fault] at outline
    cases outline

end

section

variable {τ η : Type} {t : Transport τ} {o : Outside η} {keeping : Keeping file}
  {format : RecordFormat} {fresh : Checker}

theorem Recording.Keeps.restore {l : Link (World τ η δ)}
    (h : (Recording.ofCapture t o file).Keeps keeping fresh l)
    (made : Checker.ofFormat format = .ok fresh) :
    (Recording.ofCapture t o file).Keeps keeping fresh
      (Capture.restore (surroundings t o file) l) := by
  have reset := h.call made (.setMode .reset)
  rw [Capture.restore]
  match answered : l.setMode (surroundings t o file) .reset with
  | (.ok (), m) | (.error error, m) =>
      rw [answered] at reset
      exact reset

theorem integrity_of_conclude {result : Except StreamError Summary} {integrity : Option Report}
    {outcome : Outcome} (h : (conclude result integrity).1 = .ok outcome) :
    outcome.integrity = integrity := by
  cases result with
  | ok summary =>
      cases h
      rfl
  | error error =>
      simp only [conclude] at h
      split at h
      · cases h
        rfl
      · cases h

theorem settle_replays (faultless : keeping.Faultless) (made : Checker.ofFormat format = .ok fresh)
    {l m : Link (World τ η δ)} (h : (Recording.ofCapture t o file).Keeps keeping fresh l)
    {ended : Except StreamError Summary} {result : Except Failure Outcome}
    (settled : settle t o file ended l = (result, m)) :
    keeping.content m.world.consumer.sink.dump = m.delivered ∧
      ∀ outcome, result = .ok outcome →
        outcome.integrity = some (fresh.reportOn m.delivered) := by
  have noted : (Recording.ofCapture t o file).Keeps keeping fresh
      (note [logLine .info "Capture ended."] l) := h
  have keeps := noted.restore made
  rw [settle] at settled
  generalize restore (surroundings t o file) (note [logLine .info "Capture ended."] l) = r at *
  have spared := keeps.spared faultless
  have flushed := faultless.flush (keeps.dump spared)
  obtain ⟨reported, kept⟩ :
      (r.world.consumer.sink.finish file).1.1 = .ok (some (fresh.reportOn r.delivered)) ∧
        keeping.content (r.world.consumer.sink.finish file).2.dump = r.delivered :=
    Sink.Recorded.finish keeps spared flushed
  simp only [closeSink] at settled
  generalize r.world.consumer.sink.finish file = finished at *
  obtain ⟨⟨report, lines⟩, sink⟩ := finished
  cases reported
  cases settled
  exact ⟨kept, fun outcome ok => integrity_of_conclude ok⟩

/-- A capture to a dump that never fails leaves the payload in it, and any check of the dump repeats
the report that the capture gives. -/
theorem runSession_replays (faultless : keeping.Faultless)
    (made : Checker.ofFormat format = .ok fresh) {world : World τ η δ} {dump : δ}
    (opened : world.consumer.sink = { use := .output, dump, checker := some fresh })
    (empty : keeping.Wrote dump []) {config : Session.Config} {steps : Nat}
    {result : Except Failure Outcome} {link : Link (World τ η δ)}
    (ended : runSession t o file config steps world = .ok (some (result, link))) :
    keeping.content link.world.consumer.sink.dump = link.delivered ∧
      ∀ outcome, result = .ok outcome → ∃ report, outcome.integrity = some report ∧
        ∀ answers, Reading link.delivered answers →
          checkDump format answers = .ok (.ok report) := by
  rw [runSession] at ended
  cases come : Run.advance (surroundings t o file) config steps
      (Run.start (surroundings t o file) config .idle world) with
  | error fault =>
      rw [come] at ended
      cases ended
  | ok run =>
      have keeps : (Recording.ofCapture t o file).Keeps keeping fresh run.link :=
        Recording.keeps_at made opened empty come
      rw [come] at ended
      cases run with
      | active phase stream => cases ended
      | ended outcome last =>
          have settled := Option.some.inj (Except.ok.inj ended)
          obtain ⟨kept, reported⟩ := settle_replays faultless made keeps settled
          refine ⟨kept, fun outcome ok => ⟨_, reported outcome ok, fun answers reading => ?_⟩⟩
          rw [checkDump_eq_verdict made, reading.verdict_eq]

end

theorem prepare_sink {o : Settings.CaptureOptions} {interruption : Interruption} {sink : Sink δ}
    {world : World Peripheral.Fifo Nat δ} (h : prepare o interruption sink = .ok (.ready world)) :
    world.consumer.sink = sink := by
  rw [prepare] at h
  split at h
  · cases made : Peripheral.Fifo.ofConfig o.peripheralConfig with
    | error fault =>
        rw [made] at h
        cases h
    | ok transport =>
        rw [made] at h
        cases h
        rfl
  · cases h

theorem openSink_output {o : Settings.CaptureOptions} {disk : Storage.Disk} {sink : Sink OpenDump}
    (opened : openSink o disk = .ok sink) {writer : Storage.Writer} {path : Storage.Path}
    (handle : sink.dump.handle = .output writer) (target : writer.target = .file path) :
    sink = { use := .output, dump := sink.dump, checker := o.check.map (·.checker) } ∧
      sink.dump.Wrote path [] := by
  rw [openSink] at opened
  split at opened
  · rename_i dump made
    cases opened
    have use : dump.use = .output := by simp only [OpenDump.use, show dump.handle = _ from handle]
    exact ⟨by rw [use], openDump_wrote made handle target⟩
  · cases opened

/-- A whole capture to a file: the check of what the disk then holds repeats its report. -/
theorem capture_replays {o : Settings.CaptureOptions} {encoding : Settings.Encoding}
    (check : o.check = some encoding) {disk : Storage.Disk} {sink : Sink OpenDump}
    (opened : openSink o disk = .ok sink) {writer : Storage.Writer} {path : Storage.Path}
    (handle : sink.dump.handle = .output writer) (target : writer.target = .file path)
    {interruption : Interruption} {steps : Nat} {captured : Captured}
    (ended : capture o disk interruption steps = .ok (some captured)) {outcome : Outcome}
    (success : captured.result = .ok outcome) :
    ∃ report, outcome.integrity = some report ∧
      ∀ answers, Reading (captured.disk.contentAt path) answers →
        checkDump encoding.format answers = .ok (.ok report) := by
  obtain ⟨fresh, empty⟩ := openSink_output opened handle target
  rw [check] at fresh
  rw [capture, opened] at ended
  match prepared : prepare o interruption sink with
  | .error fault =>
      simp only [prepared] at ended
      cases ended
  | .ok (.failed failure dump) =>
      simp only [prepared] at ended
      cases ended
      cases success
  | .ok (.ready world) =>
      have same := (prepare_sink prepared).trans fresh
      simp only [prepared] at ended
      change (runSession Peripheral.Fifo.transport clock OpenDump.operations o.sessionConfig steps
        world >>= _) = _ at ended
      match ran : runSession Peripheral.Fifo.transport clock OpenDump.operations o.sessionConfig
          steps world with
      | .error _ | .ok none =>
          rw [ran] at ended
          cases ended
      | .ok (some (result, link)) =>
          rw [ran] at ended
          cases ended
          obtain ⟨kept, reported⟩ := runSession_replays (OpenDump.keeping_faultless path)
            encoding.ofFormat_format same empty ran
          have whole : link.world.consumer.sink.dump.disk.contentAt path = link.delivered := kept
          obtain ⟨report, checked, repeated⟩ := reported outcome success
          exact ⟨report, checked, fun answers reading => repeated answers (whole ▸ reading)⟩

end BulkStream.Capture
