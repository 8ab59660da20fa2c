import BulkStream.Proofs.FifoService
import BulkStream.Proofs.Heard
import BulkStream.Proofs.Hosting

/-!
A session that reads from the simulated peripheral. What its consumer has heard, with what was handed
back and is not handled yet, are the bytes that the record source has emitted, in order. Where bytes
are lost, by a stop or after an error, nothing is passed on any more that could tell.
-/
namespace BulkStream.Session

open Peripheral

variable {σ : Type} {env : Surroundings σ} {config : Config} {state : State} {world : σ}

namespace Stream

variable {host : Hosting env Fifo.transport} {peripheral : Peripheral.Config}
  {unhandled : List Completion} {bytes : Bytes} {s t : Stream σ} {c : Completion}

/-- A session that reads whole packets from a peripheral of this configuration. -/
structure Reads (host : Hosting env Fifo.transport) (peripheral : Peripheral.Config) (pool : Pool)
    (packetSize : Nat) (l : Link σ) : Prop where
  direction : pool.direction = .read
  packetSize : packetSize = peripheral.packetSize
  bufferLength : peripheral.packetSize ∣ pool.bufferLength
  config : (host.on l).config = peripheral
  queued : ∀ r ∈ (host.on l).queue.toList, Fifo.IsRead peripheral.packetSize r

section

variable {pool : Pool} {packetSize : Nat} {l m : Link σ}

theorem Reads.aside (h : Reads host peripheral pool packetSize l) (aside : l.Aside env m) :
    Reads host peripheral pool packetSize m := by
  have same := host.on_aside aside
  exact ⟨h.direction, h.packetSize, h.bufferLength, same.symm ▸ h.config, same.symm ▸ h.queued⟩

theorem Reads.put (h : Reads host peripheral pool packetSize l) (index : Nat) (slot : Slot) :
    Reads host peripheral (pool.put index slot) packetSize l :=
  ⟨h.direction, h.packetSize, h.bufferLength, h.config, h.queued⟩

theorem Reads.setMode (h : Reads host peripheral pool packetSize l) (mode : Mode) :
    Reads host peripheral pool packetSize (l.setMode env mode).2 := by
  have after := host.on_setMode_fifo mode l
  exact ⟨h.direction, h.packetSize, h.bufferLength, after.symm ▸ h.config,
    after.symm ▸ h.queued⟩

theorem Reads.submit (h : Reads host peripheral pool packetSize l) (slot : Nat) (buffer : Bytes) :
    Reads host peripheral pool packetSize (l.submit env (pool.request slot buffer)).2 := by
  have after := host.on_submit_fifo (pool.request slot buffer) l
  rcases Fifo.submit_cases (pool.request slot buffer) (host.on l) with ⟨same, -⟩ | pushed
  · rw [same] at after
    exact ⟨h.direction, h.packetSize, h.bufferLength, after.symm ▸ h.config,
      after.symm ▸ h.queued⟩
  · rw [pushed] at after
    refine ⟨h.direction, h.packetSize, h.bufferLength, ?_, ?_⟩
    · rw [after]
      exact h.config
    · intro r member
      rw [after, Queue.toList_push] at member
      rcases List.mem_append.mp member with earlier | last
      · exact h.queued r earlier
      · rw [List.mem_singleton.mp last]
        exact ⟨h.direction, h.bufferLength⟩

end

theorem source_submit (host : Hosting env Fifo.transport) (request : Request) (l : Link σ) :
    (host.on (l.submit env request).2).source = (host.on l).source := by
  rw [host.on_submit_fifo]
  rcases Fifo.submit_cases request (host.on l) with ⟨same, -⟩ | pushed
  · rw [same]
  · rw [pushed]

/-- Nothing more can be heard. -/
def Silenced (env : Surroundings σ) (s : Stream σ) : Prop :=
  s.fatal.isSome = true ∨ s.stopAll = true ∨ s.link.stopRequested env = true ∨
    Stopped s.link.offers

theorem Silenced.carry (h : s.Silenced env) (fatal : s.fatal.isSome = true → t.fatal.isSome = true)
    (stopAll : s.stopAll = true → t.stopAll = true)
    (raised : s.link.stopRequested env = true → t.link.stopRequested env = true)
    (offers : t.link.offers = s.link.offers) : t.Silenced env :=
  h.imp fatal (Or.imp stopAll (Or.imp raised fun stopped => offers ▸ stopped))

theorem silenced_fail (error : StreamError) (s : Stream σ) : (s.fail error).Silenced env := by
  refine .inl ?_
  rw [fail, Option.isSome_or]
  exact Bool.or_true _

/-- A session whose peripheral has emitted these bytes. -/
structure Delivers (host : Hosting env Fifo.transport) (peripheral : Peripheral.Config)
    (bytes : Bytes) (unhandled : List Completion) (s : Stream σ) : Prop where
  emitted : (host.on s.link).source.Emitted peripheral.pattern peripheral.dropEvery bytes
  within : heard s.link.offers <+: bytes
  whole : ¬ s.Silenced env →
    heard s.link.offers ++ contents peripheral.packetSize unhandled = bytes

theorem Delivers.carry (h : s.Delivers host peripheral bytes unhandled)
    (source : (host.on t.link).source = (host.on s.link).source)
    (offers : t.link.offers = s.link.offers) (silenced : s.Silenced env → t.Silenced env) :
    t.Delivers host peripheral bytes unhandled := by
  refine ⟨source.symm ▸ h.emitted, offers.symm ▸ h.within, ?_⟩
  intro sounding
  rw [offers]
  exact h.whole fun silent => sounding (silenced silent)

def Faithful (peripheral : Peripheral.Config) (l : Link σ) : Prop :=
  ∃ count, heard l.offers <+: emission peripheral.pattern peripheral.dropEvery count

theorem Faithful.carry {l m : Link σ} (h : Faithful peripheral l) (offers : m.offers = l.offers) :
    Faithful peripheral m := by
  rw [Faithful, offers]
  exact h

theorem Delivers.faithful (h : s.Delivers host peripheral bytes unhandled) :
    Faithful peripheral s.link := by
  obtain ⟨count, within⟩ := h.emitted.prefix_emission
  exact ⟨count, h.within.trans within⟩

/-- Offering what a transfer carries leaves nothing out, unless nothing more can be heard. -/
theorem Delivers.offer (h : s.Delivers host peripheral bytes (c :: unhandled))
    (reads : Reads host peripheral s.pool s.packetSize s.link) (oneWay : OneWay env)
    (running : (s.fatal.isSome || s.stopAll) = false) :
    { s with link := (s.link.offer env c.slot (s.received c).spans).2 }.Delivers host peripheral
      bytes unhandled := by
  have content : (s.received c).spans.flatten = c.content peripheral.packetSize := by
    rw [received, reads.packetSize, Completion.content]
  have aside : s.link.Aside env (s.link.offer env c.slot (s.received c).spans).2 :=
    Link.Aside.refl.offer c.slot _
  obtain ⟨said, offers, within, ending, mute⟩ :=
    offer_said env c.slot (s.received c).spans s.link
  rw [content] at within ending
  have emitted := h.emitted
  rw [← host.on_aside aside] at emitted
  by_cases stopped : Stopped s.link.offers
  · have still : Stopped (s.link.offer env c.slot (s.received c).spans).2.offers :=
      offers ▸ stopped_append_iff.mpr (.inl stopped)
    refine ⟨emitted, ?_, fun sounding => absurd (.inr (.inr (.inr still))) sounding⟩
    rw [offers, heard_append_stopped stopped]
    exact h.within
  · by_cases raised : s.link.stopRequested env = true
    · have still := oneWay.aside aside raised
      refine ⟨emitted, ?_, fun sounding => absurd (.inr (.inr (.inl still))) sounding⟩
      rw [offers, mute raised, List.append_nil]
      exact h.within
    · have all : heard s.link.offers ++ contents peripheral.packetSize (c :: unhandled) = bytes := by
        apply h.whole
        rintro (failed | stopping | up | stop)
        · rw [failed, Bool.true_or] at running
          cases running
        · rw [stopping, Bool.or_true] at running
          cases running
        · exact raised up
        · exact stopped stop
      rw [contents_cons, ← List.append_assoc] at all
      refine ⟨emitted, ?_, ?_⟩
      · rw [offers, heard_append stopped, ← all]
        exact ((List.prefix_append_right_inj _).mpr within).trans (List.prefix_append _ _)
      · intro sounding
        rcases ending with ⟨-, whole⟩ | ⟨-, lost | up⟩
        · rw [offers, heard_append stopped, whole]
          exact all
        · have still : Stopped (s.link.offer env c.slot (s.received c).spans).2.offers :=
            offers ▸ stopped_append_iff.mpr (.inr lost)
          exact absurd (.inr (.inr (.inr still))) sounding
        · exact absurd (.inr (.inr (.inl up))) sounding

theorem consumed_read (read : s.pool.direction = .read) :
    s.consumed env c = ((s.link.offer env c.slot (s.received c).spans).1, c.buffer,
      s.credited (s.worth env c) (s.link.offer env c.slot (s.received c).spans).2) := by
  rw [Stream.consumed, read]

theorem Reads.beside (h : Reads host peripheral s.pool s.packetSize s.link)
    (beside : Beside env (s.succeeded c.slot) t) :
    Reads host peripheral t.pool t.packetSize t.link := by
  cases beside with
  | mk link tracker aside sound => exact (h.put c.slot .lent).aside aside

theorem Reads.handled (h : Reads host peripheral s.pool s.packetSize s.link)
    (handled : Handled env c s t) : Reads host peripheral t.pool t.packetSize t.link := by
  cases handled with
  | stray stray => exact h
  | failed own status =>
      exact (h.put c.slot .released).aside (Link.Aside.refl.log (.transferFailed c.slot c.status) rfl)
  | dropped own status quitting =>
      exact ((h.put c.slot .lent).put c.slot .released).aside (Link.Aside.refl.log
        (.slotReleased c.slot ((s.succeeded c.slot).pool.put c.slot .released).live) rfl)
  | stopped own status running buffer t consumed beside =>
      exact ((h.beside beside).put c.slot .released).aside
        (Link.Aside.refl.log (.slotReleased c.slot (t.pool.put c.slot .released).live) rfl)
  | resubmitted own status running buffer t consumed beside accepted =>
      exact ((h.beside beside).submit c.slot buffer).put c.slot .inFlight
  | refused own status running buffer t consumed beside source answer =>
      exact (((h.beside beside).submit c.slot buffer).put c.slot .released).aside
        (Link.Aside.refl.log (.error (StreamError.submission c.slot source).message) rfl)

theorem Delivers.log (h : s.Delivers host peripheral bytes unhandled) (oneWay : OneWay env)
    (event : Event) : (s.log env event).Delivers host peripheral bytes unhandled := by
  refine h.carry (congrArg Fifo.source (host.log event _)) (Link.offers_log env s.link event) ?_
  intro silent
  exact silent.carry id id (oneWay.log event _) (Link.offers_log env s.link event)

theorem Delivers.quiet (h : s.Delivers host peripheral bytes unhandled) (oneWay : OneWay env)
    {m : Link σ} (quiet : s.link.Quiet env m) :
    { s with link := m }.Delivers host peripheral bytes unhandled := by
  refine h.carry (congrArg Fifo.source (host.on_aside quiet.aside)) quiet.offers_eq ?_
  intro silent
  exact silent.carry id id (oneWay.aside quiet.aside) quiet.offers_eq

theorem Delivers.setMode (h : s.Delivers host peripheral bytes unhandled) (oneWay : OneWay env)
    (mode : Mode) :
    { s with link := (s.link.setMode env mode).2 }.Delivers host peripheral bytes unhandled := by
  have source : (host.on (s.link.setMode env mode).2).source = (host.on s.link).source := by
    rw [host.on_setMode_fifo]
    rfl
  refine h.carry source (Link.offers_setMode env s.link mode) ?_
  intro silent
  exact silent.carry id id (oneWay.setMode mode _) (Link.offers_setMode env s.link mode)

theorem Delivers.put (h : s.Delivers host peripheral bytes unhandled) (index : Nat) (slot : Slot) :
    { s with pool := s.pool.put index slot }.Delivers host peripheral bytes unhandled :=
  ⟨h.emitted, h.within, h.whole⟩

theorem Delivers.fail (h : s.Delivers host peripheral bytes unhandled) (error : StreamError)
    (left : List Completion) : (s.fail error).Delivers host peripheral bytes left :=
  ⟨h.emitted, h.within, fun sounding => absurd (silenced_fail error s) sounding⟩

theorem Delivers.submit (h : s.Delivers host peripheral bytes unhandled) (oneWay : OneWay env)
    (request : Request) :
    { s with link := (s.link.submit env request).2 }.Delivers host peripheral bytes unhandled := by
  refine h.carry (source_submit host request s.link) (Link.offers_submit env s.link request) ?_
  intro silent
  exact silent.carry id id (oneWay.submit request _) (Link.offers_submit env s.link request)

theorem Delivers.handled (h : s.Delivers host peripheral bytes (c :: unhandled))
    (reads : Reads host peripheral s.pool s.packetSize s.link) (oneWay : OneWay env)
    (handled : Handled env c s t) : t.Delivers host peripheral bytes unhandled := by
  have offered (running : (s.fatal.isSome || s.stopAll) = false) {flow : Flow} {buffer : Bytes}
      {u : Stream σ} (consumed : (s.succeeded c.slot).consumed env c = (flow, buffer, u)) :
      u.Delivers host peripheral bytes unhandled := by
    rw [consumed_read (s := s.succeeded c.slot) reads.direction, Prod.mk.injEq,
      Prod.mk.injEq] at consumed
    obtain ⟨-, -, rfl⟩ := consumed
    obtain ⟨emitted, within, whole⟩ := h.offer reads oneWay running
    exact ⟨emitted, within, whole⟩
  cases handled with
  | stray stray =>
      have counted : { s with activity := s.activity + 1 }.Delivers host peripheral bytes
          (c :: unhandled) := ⟨h.emitted, h.within, h.whole⟩
      exact counted.fail _ unhandled
  | failed own status =>
      have counted : { s with activity := s.activity + 1 }.Delivers host peripheral bytes
          (c :: unhandled) := ⟨h.emitted, h.within, h.whole⟩
      exact ((counted.put c.slot .released).log oneWay _).fail _ unhandled
  | dropped own status quitting =>
      have silent : s.Silenced env := (Bool.or_eq_true_iff.mp quitting).imp_right .inl
      have released : { s.succeeded c.slot with
          pool := (s.succeeded c.slot).pool.put c.slot .released }.Delivers host peripheral bytes
            unhandled :=
        ⟨h.emitted, h.within, fun sounding => absurd silent sounding⟩
      exact released.log oneWay _
  | stopped own status running buffer t consumed beside =>
      exact ((offered running consumed).put c.slot .released).log oneWay _
  | resubmitted own status running buffer t consumed beside accepted =>
      exact ((offered running consumed).submit oneWay _).put c.slot .inFlight
  | refused own status running buffer t consumed beside source answer =>
      have released := ((offered running consumed).submit oneWay
        (t.pool.request c.slot buffer)).put c.slot .released
      exact (released.log oneWay _).fail _ unhandled

theorem Reads.wait {pool : Pool} {packetSize : Nat} {l m : Link σ}
    (h : Reads host peripheral pool packetSize l) (after : host.on m = (host.on l).wait.2) :
    Reads host peripheral pool packetSize m := by
  refine ⟨h.direction, h.packetSize, h.bufferLength, ?_, ?_⟩
  · rw [after, Fifo.wait_config]
    exact h.config
  · intro r member
    rw [after] at member
    exact h.queued r (Fifo.wait_queue _ r member)

theorem Delivers.roused {milliseconds : Nat} {failure : Option StreamError} {m : Link σ}
    (h : s.Delivers host peripheral bytes [])
    (reads : Reads host peripheral s.pool s.packetSize s.link) (oneWay : OneWay env)
    (wide : Packet.statusLength < peripheral.packetSize)
    (whole : 0 < recordSize peripheral.pattern)
    (awaited : Awaited env milliseconds s.link ((failure, unhandled), m)) :
    (s.roused env failure m).Delivers host peripheral
      (bytes ++ contents peripheral.packetSize unhandled) unhandled := by
  obtain ⟨-, served, after⟩ := host.awaited_fifo awaited
  have emitted : (host.on m).source.Emitted peripheral.pattern peripheral.dropEvery
      (bytes ++ contents peripheral.packetSize unhandled) := by
    obtain rfl := reads.config
    rw [after, served]
    exact Fifo.wait_emitted wide whole reads.queued h.emitted
  refine ⟨emitted, ?_, ?_⟩
  · change heard m.offers <+: _
    rw [awaited.offers_eq]
    exact h.within.trans (List.prefix_append _ _)
  · intro sounding
    have heard_all := h.whole fun silent => sounding (silent.carry ?_ ?_ ?_ awaited.offers_eq)
    · change heard m.offers ++ _ = _
      rw [contents, List.map_nil, List.flatten_nil, List.append_nil] at heard_all
      rw [awaited.offers_eq, heard_all]
    · intro failed
      change (s.fatal.or failure).isSome = true
      rw [Option.isSome_or, failed, Bool.true_or]
    · intro stopping
      change (s.stopAll || _) = true
      rw [stopping, Bool.true_or]
    · exact oneWay.awaited awaited

theorem Delivers.sampled (h : s.Delivers host peripheral bytes unhandled) (oneWay : OneWay env)
    (sampled : Sampled env s t) : t.Delivers host peripheral bytes unhandled := by
  have source : (host.on t.link).source = (host.on s.link).source := by
    rw [host.on_aside sampled.aside]
  refine h.carry source sampled.quiet.offers_eq ?_
  intro silent
  refine silent.carry ?_ sampled.stopAll (oneWay.aside sampled.aside) sampled.quiet.offers_eq
  rw [sampled.fatal]
  exact id

end Stream

namespace Run

variable {host : Hosting env Fifo.transport} {peripheral : Peripheral.Config}

/-- Until a session begins to drain, all that its peripheral has emitted is heard or in its hands. -/
def Relays (host : Hosting env Fifo.transport) (peripheral : Peripheral.Config) : Run σ → Prop
  | .active (.priming _) s | .active .cycling s =>
      Stream.Reads host peripheral s.pool s.packetSize s.link ∧
        ∃ bytes, s.Delivers host peripheral bytes []
  | .active (.handling completions) s =>
      Stream.Reads host peripheral s.pool s.packetSize s.link ∧
        ∃ bytes, s.Delivers host peripheral bytes completions
  | run => Stream.Faithful peripheral run.link

theorem Relays.faithful {run : Run σ} (h : run.Relays host peripheral) :
    Stream.Faithful peripheral run.link := by
  cases run with
  | ended result l => exact h
  | active phase s =>
      cases phase with
      | priming _ | cycling | handling _ =>
          obtain ⟨-, bytes, delivers⟩ := h
          exact delivers.faithful
      | closing | draining _ _ | collecting _ _ _ _ _ | settling _ => exact h

theorem Relays.stepped {run next : Run σ} (h : run.Relays host peripheral) (oneWay : OneWay env)
    (wide : Packet.statusLength < peripheral.packetSize)
    (whole : 0 < recordSize peripheral.pattern) (stepped : Stepped env config run next) :
    next.Relays host peripheral := by
  cases stepped with
  | ended result l => exact h
  | queued index s buffer l inside prepared accepted =>
      obtain ⟨reads, bytes, delivers⟩ := h
      cases prepared with
      | blank _ read held =>
          exact ⟨(reads.submit index buffer).put index .inFlight, bytes,
            (delivers.submit oneWay _).put index .inFlight⟩
      | filled offered _ _ write held answer =>
          rw [reads.direction] at write
          cases write
  | refused index s buffer l inside prepared source answer =>
      obtain ⟨reads, bytes, delivers⟩ := h
      cases prepared with
      | blank _ read held => exact (delivers.submit oneWay _).faithful
      | filled offered _ _ write held answer =>
          rw [reads.direction] at write
          cases write
  | spared index s offered buffer l inside write held answer =>
      obtain ⟨reads, -⟩ := h
      rw [reads.direction] at write
      cases write
  | denied index s all source answer =>
      obtain ⟨reads, bytes, delivers⟩ := h
      exact ((delivers.quiet oneWay (quiet_announced config s)).setMode oneWay .syncFifo).faithful
  | entered index s all answer =>
      obtain ⟨reads, bytes, delivers⟩ := h
      have silent := (delivers.quiet oneWay (quiet_announced config s)).setMode oneWay .syncFifo
      obtain ⟨emitted, within, all⟩ := silent.quiet oneWay (quiet_opened _)
      exact ⟨((reads.aside (quiet_announced config s).aside).setMode .syncFifo).aside
        (quiet_opened _).aside, bytes, emitted, within, all⟩
  | gathered s failure completions l awaited =>
      obtain ⟨reads, bytes, delivers⟩ := h
      obtain ⟨-, -, after⟩ := host.awaited_fifo awaited
      exact ⟨reads.wait after, _, delivers.roused reads oneWay wide whole awaited⟩
  | handled c completions s t handled =>
      obtain ⟨reads, bytes, delivers⟩ := h
      exact ⟨reads.handled handled, bytes, delivers.handled reads oneWay handled⟩
  | concluded s again t concluded =>
      obtain ⟨reads, bytes, delivers⟩ := h
      cases concluded with
      | finished quitting => exact delivers.faithful
      | stalled running idle => exact (delivers.log oneWay _).faithful
      | again running busy t sampled beside =>
          refine ⟨?_, bytes, delivers.sampled oneWay beside⟩
          rw [beside.pool, beside.packetSize]
          exact reads.aside beside.aside
  | emptied s none =>
      exact Stream.Faithful.carry h (quiet_idled s).offers_eq
  | cancelled s some =>
      exact (Stream.Faithful.carry h (quiet_idled s).offers_eq).carry
        (Link.offers_cancelAll env _)
  | cleared collected interrupted s none => exact h
  | waited collected interrupted s some answer completions answered =>
      exact Stream.Faithful.carry h (Link.offers_wait env s.link _)
  | collected answer interrupted before collected c completions s own => exact h
  | ignored answer interrupted before collected c completions s stray => exact h
  | emptyHanded answer interrupted before collected s =>
      rcases afterWait_cases answer interrupted before collected with ⟨again, next⟩ | next <;>
        rw [next] <;> exact h
  | settled collected s =>
      obtain ⟨l, finished, quiet⟩ := finish_read_out env (abandoned env collected s)
      rw [finished]
      exact Stream.Faithful.carry h (quiet.offers_eq.trans (Link.offers_log env s.link _))

theorem Relays.early {error : StreamError} {l : Link σ} (nothing : l.offers = []) :
    (failEarly env error l).Relays host peripheral := by
  refine ⟨0, ?_⟩
  rw [(quiet_failEarly error l).offers_eq, nothing]
  exact List.nil_prefix

theorem Relays.started {run : Run σ} (fresh : Fifo.ofConfig peripheral = .ok (host.device world))
    (read : config.direction = .read) (h : Started env config state world run) :
    run.Relays host peripheral := by
  have reset : (resetting env state world).2.offers = [] := offers_resetting env state world
  have purged : (purging env state world).2.offers = [] := offers_purging env state world
  cases h with
  | unset source _ => exact .early reset
  | unpurged source _ _ => exact .early purged
  | narrow size _ _ reported narrow => exact .early purged
  | unallocated size _ _ reported wide error refused =>
      exact .early ((Link.Quiet.refl.transition .priming).offers_eq.trans purged)
  | opened size _ _ reported wide pool allocated =>
      have priming : (purging env state world).2.Quiet env
          ((purging env state world).2.transition env .priming) := .transition .priming .refl
      have device := host.on_purging_fifo state fresh
      have packetSize : size = peripheral.packetSize :=
        reported.symm.trans (host.packetSize_fifo fresh)
      have length := Pool.allocate_bufferLength allocated
      obtain ⟨bufferLength, rfl⟩ := Pool.allocate_fresh allocated
      refine ⟨Stream.Reads.aside ⟨read, packetSize, ?_, ?_, ?_⟩ priming.aside, [], ?_, ?_, ?_⟩
      · rw [length, packetSize]
        exact Nat.dvd_mul_right _ _
      · rw [device]
      · rw [device]
        intro r impossible
        cases impossible
      · change (host.on ((purging env state world).2.transition env .priming)).source.Emitted _ _ []
        rw [host.on_aside priming.aside, device]
        exact RecordSource.emitted_start _ _
      · change heard ((purging env state world).2.transition env .priming).offers <+: []
        rw [priming.offers_eq, purged]
        exact List.prefix_rfl
      · intro _
        change heard ((purging env state world).2.transition env .priming).offers ++ [] = []
        rw [priming.offers_eq, purged]
        rfl

end Run

/-- Among any surroundings that leave a fresh simulated peripheral to the session, whatever the
consumer answers and whenever a stop is requested, what a reading session has passed on by any point,
up to the first span answered with a stop, begins the concatenation of the records that the
peripheral emits. Only a byte count past 64 bits can keep a session from coming that far. -/
theorem heard_prefix_emission (host : Hosting env Fifo.transport) (oneWay : OneWay env)
    (config : Config) (state : State) (world : σ) (peripheral : Peripheral.Config)
    (fresh : Fifo.ofConfig peripheral = .ok (host.device world))
    (whole : 0 < recordSize peripheral.pattern) (read : config.direction = .read) (n : Nat) :
    (∃ run, Run.advance env config n (Run.start env config state world) = .ok run ∧
        ∀ earlier, earlier <+: run.link.transcript → ∃ count,
          heard earlier <+: emission peripheral.pattern peripheral.dropEvery count) ∨
      Run.advance env config n (Run.start env config state world) = .error .countOverflow := by
  obtain ⟨wide, -⟩ := Fifo.ofConfig_ok fresh
  have kept : ∀ run next : Run σ, Run.Reached env config state world run → run.Sound →
      run.Relays host peripheral → Run.step env config run = .ok next →
      Run.Stepped env config run next → next.Relays host peripheral := by
    intro run next _ _ relays _ stepped
    exact relays.stepped oneWay wide whole stepped
  refine (Run.run_keeps (fun _ => Run.Relays.started fresh read) kept n).imp_left ?_
  rintro ⟨run, come, -, relays⟩
  refine ⟨run, come, ?_⟩
  intro earlier within
  obtain ⟨count, begins⟩ := relays.faithful
  rw [Link.offers, heard_filter] at begins
  exact ⟨count, (heard_mono within).trans begins⟩

section

open Rehearsal

/-- A peripheral that loses every third line, before a consumer that stops at its fifth span and a
stop that is requested in the fourth wait. -/
def busy : Assembly Fifo Timeline Audience where
  transport :=
    let config : Peripheral.Config :=
      { packetSize := 64, pattern := .text, dropEvery := some 3, batch := some 2 }
    { config, source := .start config.pattern config.dropEvery }
  outside := { stopAtWait := some 3 }
  consumer := { onPayload := { stop := [4] } }

/-- Two lines are heard, and the one after the lost one in part. -/
theorem busy_heard_prefix_emission : ∃ run,
    Run.advance rehearsed threeSlots 30 (Run.start rehearsed threeSlots .idle busy) = .ok run ∧
      (∀ earlier, earlier <+: run.link.transcript → ∃ count,
        heard earlier <+: emission .text (some 3) count) ∧
      (heard run.link.transcript).length = 310 ∧ run.link.state = .terminated := by
  have counts : (Run.advance rehearsed threeSlots 30
      (Run.start rehearsed threeSlots .idle busy)).toOption.map
        (fun run => ((heard run.link.transcript).length, run.link.state)) =
      some (310, .terminated) := by decide +kernel
  obtain ⟨run, come, begins, seen⟩ := Run.seen_with (heard_prefix_emission rehearsedHosting
    rehearsed_oneWay threeSlots .idle busy busy.transport.config rfl (by decide) rfl 30) counts
  obtain ⟨length, terminated⟩ := Prod.mk.inj seen
  exact ⟨run, come, begins, length, terminated⟩

end

end BulkStream.Session
