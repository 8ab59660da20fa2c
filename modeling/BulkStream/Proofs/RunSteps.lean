import BulkStream.Proofs.CycleSteps

/-!
What one step of a run may do, with one case for each way that a phase may go on. A run is sound
when its stream is and, while it primes, no slot from the next one on was ever submitted. A step
keeps it sound.
-/
namespace BulkStream.Session

variable {σ : Type} {env : Surroundings σ} {config : Config}

/-- No slot from this index on was ever submitted. -/
def HeldFrom (p : Pool) (index : Nat) : Prop :=
  ∀ i, index ≤ i → i < p.capacity → ∃ buffer, p.slots[i]? = some (.held buffer)

theorem HeldFrom.put {p : Pool} {index : Nat} (h : HeldFrom p index) (slot : Slot) :
    HeldFrom (p.put index slot) (index + 1) := by
  intro i above inside
  rw [Pool.put_capacity] at inside
  rw [Pool.put_slots, Array.getElem?_setIfInBounds_ne (Nat.ne_of_lt above)]
  exact h i (Nat.le_of_succ_le above) inside

namespace Run

def Sound : Run σ → Prop
  | .active (.priming index) s => s.Sound ∧ HeldFrom s.pool index
  | .active _ s => s.Sound
  | .ended _ _ => True

theorem Sound.stream {phase : Phase} {s : Stream σ} (h : (active phase s).Sound) : s.Sound := by
  cases phase with
  | priming index => exact h.1
  | cycling | closing => exact h
  | handling _ | settling _ => exact h
  | draining _ _ => exact h
  | collecting _ _ _ _ _ => exact h

/-- The buffer of a slot as it is first submitted, and the link by then. -/
inductive Prepared (env : Surroundings σ) (index : Nat) (s : Stream σ) : Bytes → Link σ → Prop
  | blank (buffer : Bytes) (read : s.pool.direction = .read)
      (held : s.pool.slots[index]? = some (.held buffer)) : Prepared env index s buffer s.link
  | filled (offered buffer : Bytes) (link : Link σ) (write : s.pool.direction = .write)
      (held : s.pool.slots[index]? = some (.held offered))
      (answer : s.link.fill env index offered = ((.proceed, buffer), link)) :
      Prepared env index s buffer link

theorem Prepared.aside {index : Nat} {s : Stream σ} {buffer : Bytes} {l : Link σ}
    (h : Prepared env index s buffer l) : s.link.Aside env l := by
  cases h with
  | blank _ _ _ => exact .refl
  | filled _ _ _ _ _ answer => exact .of_fill answer

def announced (env : Surroundings σ) (config : Config) (s : Stream σ) : Link σ :=
  s.link.log env (.primed config.direction s.pool.inFlight s.pool.bufferLength)

def opened (env : Surroundings σ) (l : Link σ) : Nat × Link σ :=
  (l.transition env .streaming).now env

def idled (env : Surroundings σ) (s : Stream σ) : Stream σ :=
  { s with link := s.link.transition env .draining, pool := s.pool.mapSlots Pool.ifInFlight }

def abandoned (env : Surroundings σ) (collected : Nat) (s : Stream σ) : Stream σ :=
  { s with pool := s.pool.mapSlots Pool.ifIdle }.log env
    (.drained collected s.pool.slotsInFlight.card)

theorem quiet_announced (config : Config) (s : Stream σ) :
    s.link.Quiet env (announced env config s) :=
  Link.Quiet.refl.log _ rfl

theorem quiet_opened (l : Link σ) : l.Quiet env (opened env l).2 :=
  (Link.Quiet.refl.transition .streaming).now

theorem quiet_idled (s : Stream σ) : s.link.Quiet env (idled env s).link :=
  Link.Quiet.refl.transition .draining

inductive Stepped (env : Surroundings σ) (config : Config) : Run σ → Run σ → Prop
  | ended (result : Except StreamError Summary) (l : Link σ) :
      Stepped env config (.ended result l) (.ended result l)
  | queued (index : Nat) (s : Stream σ) (buffer : Bytes) (l : Link σ)
      (inside : index < s.pool.capacity) (prepared : Prepared env index s buffer l)
      (accepted : (l.submit env (s.pool.request index buffer)).1 = .ok ()) :
      Stepped env config (.active (.priming index) s)
        (.active (.priming (index + 1)) ({ s with link := l }.launched env index buffer))
  | refused (index : Nat) (s : Stream σ) (buffer : Bytes) (l : Link σ)
      (inside : index < s.pool.capacity) (prepared : Prepared env index s buffer l)
      (source : TransportError)
      (answer : (l.submit env (s.pool.request index buffer)).1 = .error source) :
      Stepped env config (.active (.priming index) s)
        (.active .closing ({ s with
          pool := s.pool.put index .released
          link := (l.submit env (s.pool.request index buffer)).2 }.fail (.submission index source)))
  | spared (index : Nat) (s : Stream σ) (offered buffer : Bytes) (l : Link σ)
      (inside : index < s.pool.capacity) (write : s.pool.direction = .write)
      (held : s.pool.slots[index]? = some (.held offered))
      (answer : s.link.fill env index offered = ((.stop, buffer), l)) :
      Stepped env config (.active (.priming index) s)
        (.active (.priming (index + 1)) { s with pool := s.pool.put index .released, link := l })
  | denied (index : Nat) (s : Stream σ) (all : ¬ index < s.pool.capacity) (source : TransportError)
      (answer : ((announced env config s).setMode env .syncFifo).1 = .error source) :
      Stepped env config (.active (.priming index) s)
        (.active .closing ({ s with
          link := ((announced env config s).setMode env .syncFifo).2 }.fail
            (.configuration "enter synchronous FIFO mode" source)))
  | entered (index : Nat) (s : Stream σ) (all : ¬ index < s.pool.capacity)
      (answer : ((announced env config s).setMode env .syncFifo).1 = .ok ()) :
      Stepped env config (.active (.priming index) s)
        (.active .cycling { s with
          link := (opened env ((announced env config s).setMode env .syncFifo).2).2
          tracker := .start (opened env ((announced env config s).setMode env .syncFifo).2).1
            config.progressInterval })
  | gathered (s : Stream σ) (failure : Option StreamError) (completions : List Completion)
      (l : Link σ)
      (awaited : Stream.Awaited env config.waitMilliseconds s.link ((failure, completions), l)) :
      Stepped env config (.active .cycling s)
        (.active (.handling completions) (s.roused env failure l))
  | handled (c : Completion) (completions : List Completion) (s t : Stream σ)
      (handled : Stream.Handled env c s t) :
      Stepped env config (.active (.handling (c :: completions)) s)
        (.active (.handling completions) t)
  | concluded (s : Stream σ) (again : Bool) (t : Stream σ)
      (concluded : Stream.Concluded env config.waitMilliseconds s (again, t)) :
      Stepped env config (.active (.handling []) s)
        (.active (if again then .cycling else .closing) t)
  | emptied (s : Stream σ) (none : s.pool.slotsInFlight = ∅) :
      Stepped env config (.active .closing s) (.active (.settling 0) (idled env s))
  | cancelled (s : Stream σ) (some : s.pool.slotsInFlight ≠ ∅) :
      Stepped env config (.active .closing s)
        (.active (.draining 0 false) { idled env s with link := (idled env s).link.cancelAll env })
  | cleared (collected : Nat) (interrupted : Bool) (s : Stream σ)
      (none : s.pool.slotsInFlight = ∅) :
      Stepped env config (.active (.draining collected interrupted) s)
        (.active (.settling collected) s)
  | waited (collected : Nat) (interrupted : Bool) (s : Stream σ) (some : s.pool.slotsInFlight ≠ ∅)
      (answer : WaitResult) (completions : List Completion)
      (answered : (s.link.wait env config.waitMilliseconds).1 = (answer, completions)) :
      Stepped env config (.active (.draining collected interrupted) s)
        (.active (.collecting answer interrupted collected collected completions)
          { s with link := (s.link.wait env config.waitMilliseconds).2 })
  | collected (answer : WaitResult) (interrupted : Bool) (before collected : Nat) (c : Completion)
      (completions : List Completion) (s : Stream σ)
      (own : s.pool.slots[c.slot]? = some .inFlight) :
      Stepped env config
        (.active (.collecting answer interrupted before collected (c :: completions)) s)
        (.active (.collecting answer interrupted before (collected + 1) completions)
          { s with pool := s.pool.put c.slot .released })
  | ignored (answer : WaitResult) (interrupted : Bool) (before collected : Nat) (c : Completion)
      (completions : List Completion) (s : Stream σ)
      (stray : s.pool.slots[c.slot]? ≠ some .inFlight) :
      Stepped env config
        (.active (.collecting answer interrupted before collected (c :: completions)) s)
        (.active (.collecting answer interrupted before collected completions) s)
  | emptyHanded (answer : WaitResult) (interrupted : Bool) (before collected : Nat) (s : Stream σ) :
      Stepped env config (.active (.collecting answer interrupted before collected []) s)
        (.active (afterWait answer interrupted before collected) s)
  | settled (collected : Nat) (s : Stream σ) :
      Stepped env config (.active (.settling collected) s) (finish env (abandoned env collected s))

theorem inFlight_eq_zero {p : Pool} (h : p.Sound) : p.inFlight = 0 ↔ p.slotsInFlight = ∅ := by
  rw [h.inFlight_eq, Finset.card_eq_zero]

theorem primeOnce_prepared {index : Nat} {s : Stream σ} {buffer : Bytes} {l : Link σ}
    (inside : index < s.pool.capacity) (prepared : Prepared env index s buffer l)
    (primed : s.pool.primeSlot (Link.submit env) (Link.fill env) index s.link =
      (s.pool.put index .lent).resubmit (Link.submit env) index buffer l) :
    Meets False (Stepped env config (.active (.priming index) s))
      (primeOnce env config index s) := by
  have lent : (s.pool.put index .lent).slots[index]? = some .lent :=
    Pool.put_found (Array.getElem?_eq_getElem inside) .lent
  have sound' : (s.pool.put index .lent).Sound := Pool.put_sound _ _ _
  rw [primeOnce, if_pos inside, primed]
  cases answer : (l.submit env (s.pool.request index buffer)).1 with
  | ok =>
      rw [sound'.resubmit_accepted (Link.submit env) buffer l lent answer, Pool.put_put]
      exact Stepped.queued index s buffer l inside prepared answer
  | error source =>
      rw [sound'.resubmit_refused (Link.submit env) buffer l lent answer, Pool.put_put]
      exact Stepped.refused index s buffer l inside prepared source answer

theorem enterStreaming_stepped (index : Nat) (s : Stream σ) (all : ¬ index < s.pool.capacity) :
    Stepped env config (.active (.priming index) s) (enterStreaming env config s) := by
  have denied := @Stepped.denied σ env config index s all
  have entered := @Stepped.entered σ env config index s all
  rw [enterStreaming]
  split
  · rename_i source link answered
    have same : (announced env config s).setMode env .syncFifo = (.error source, link) := answered
    rw [same] at denied
    exact denied source rfl
  · rename_i link answered
    have same : (announced env config s).setMode env .syncFifo = (.ok (), link) := answered
    rw [same] at entered
    exact entered rfl

theorem primeOnce_meets {index : Nat} {s : Stream σ} (h : s.Sound) (held : HeldFrom s.pool index) :
    Meets False (Stepped env config (.active (.priming index) s))
      (primeOnce env config index s) := by
  by_cases inside : index < s.pool.capacity
  · obtain ⟨buffer, found⟩ := held index (Nat.le_refl index) inside
    cases direction : s.pool.direction with
    | read =>
        exact primeOnce_prepared inside (.blank buffer direction found)
          (h.pool.primeSlot_read (Link.submit env) (Link.fill env) direction found)
    | write =>
        cases answer : s.link.fill env index buffer with
        | mk filling l =>
            obtain ⟨flow, filled⟩ := filling
            cases flow with
            | proceed =>
                exact primeOnce_prepared inside (.filled buffer filled l direction found answer)
                  (h.pool.primeSlot_filled (Link.submit env) (Link.fill env) direction found answer)
            | stop =>
                rw [primeOnce, if_pos inside,
                  h.pool.primeSlot_stopped (Link.submit env) (Link.fill env) direction found answer]
                exact Stepped.spared index s buffer filled l inside direction found answer
  · rw [primeOnce, if_neg inside]
    exact enterStreaming_stepped index s inside

theorem drain_meets {s : Stream σ} (h : s.pool.Sound) :
    Meets False (Stepped env config (.active .closing s)) (drain env s) := by
  have sound : (s.pool.mapSlots Pool.ifInFlight).Sound := Pool.mapSlots_sound _ _
  rw [drain]
  refine Meets.bind_ok h.releaseIdle_eq ?_
  by_cases none : s.pool.slotsInFlight = ∅
  · have count : (s.pool.mapSlots Pool.ifInFlight).inFlight = 0 := by
      rw [inFlight_eq_zero sound, Pool.slotsInFlight_releaseIdle, none]
    rw [if_pos count]
    exact Stepped.emptied s none
  · have count : (s.pool.mapSlots Pool.ifInFlight).inFlight ≠ 0 := by
      rw [Ne, inFlight_eq_zero sound, Pool.slotsInFlight_releaseIdle]
      exact none
    rw [if_neg count]
    exact Stepped.cancelled s none

theorem drainOnce_stepped {s : Stream σ} (h : s.pool.Sound) (collected : Nat) (interrupted : Bool) :
    Stepped env config (.active (.draining collected interrupted) s)
      (drainOnce env config.waitMilliseconds collected interrupted s) := by
  rw [drainOnce]
  by_cases none : s.pool.slotsInFlight = ∅
  · rw [if_pos ((inFlight_eq_zero h).mpr none)]
    exact Stepped.cleared collected interrupted s none
  · rw [if_neg fun count => none ((inFlight_eq_zero h).mp count)]
    exact Stepped.waited collected interrupted s none _ _ rfl

theorem settle_meets {s : Stream σ} (h : s.pool.Sound) (collected : Nat) :
    Meets False (Stepped env config (.active (.settling collected) s))
      (settle env collected s) := by
  rw [settle]
  refine Meets.bind_ok h.abandonInFlight_eq ?_
  rw [h.inFlight_eq]
  exact Stepped.settled collected s

/-- The completion to be handled next credits more bytes than can still be counted. -/
def Overfull (env : Surroundings σ) : Run σ → Prop
  | .active (.handling (c :: _)) s => countLimit ≤ s.tracker.snapshot.bytes + s.credits env c
  | _ => False

theorem step_meets {run : Run σ} (h : run.Sound) :
    Meets (run.Overfull env) (Stepped env config run) (step env config run) := by
  cases run with
  | ended result l => exact Stepped.ended result l
  | active phase s =>
      cases phase with
      | priming index => exact primeOnce_meets h.1 h.2
      | cycling =>
          have awaited := @Stream.await_awaited σ env config.waitMilliseconds s.link
          rw [step, Stream.gather_eq]
          exact Stepped.gathered s _ _ _ awaited
      | handling completions =>
          cases completions with
          | nil =>
              refine (Stream.conclude_meets config.waitMilliseconds s h.tracker).bind ?_
              rintro ⟨again, t⟩ _ concluded
              exact Stepped.concluded s again t concluded
          | cons c completions =>
              refine (Stream.handle_meets c s h).bind ?_
              intro t _ handled
              exact Stepped.handled c completions s t handled
      | closing => exact drain_meets h.stream.pool
      | draining collected interrupted => exact drainOnce_stepped h.stream.pool collected interrupted
      | collecting answer interrupted before collected completions =>
          cases completions with
          | nil => exact Stepped.emptyHanded answer interrupted before collected s
          | cons c completions =>
              rw [step]
              by_cases own : s.pool.slots[c.slot]? = some .inFlight
              · refine Meets.bind_ok (Stream.collect_own h.pool own) ?_
                exact Stepped.collected answer interrupted before collected c completions s own
              · refine Meets.bind_ok (Stream.collect_stray own) ?_
                exact Stepped.ignored answer interrupted before collected c completions s own
      | settling collected => exact settle_meets h.stream.pool collected

/-- A wait of a drain is followed by another, or by the end. -/
theorem afterWait_cases (answer : WaitResult) (interrupted : Bool) (before collected : Nat) :
    (∃ again, afterWait answer interrupted before collected = .draining collected again) ∨
      afterWait answer interrupted before collected = .settling collected := by
  cases answer with
  | ok =>
      rw [afterWait]
      split
      · exact .inr rfl
      · exact .inl ⟨_, rfl⟩
  | interrupted =>
      cases interrupted with
      | false => exact .inl ⟨_, rfl⟩
      | true => exact .inr rfl
  | failed error => exact .inr rfl

theorem outcome_error {fatal : Option StreamError} {stopRequested : Bool} {error : StreamError}
    (h : outcome fatal stopRequested = .error error) : fatal = some error := by
  cases fatal with
  | none => contradiction
  | some first =>
      rw [outcome] at h
      split at h
      · contradiction
      · cases h
        rfl

theorem outcome_stopped {fatal : Option StreamError} {stopRequested : Bool}
    (h : outcome fatal stopRequested = .ok .stopped) : fatal = none := by
  cases fatal with
  | none => rfl
  | some error =>
      rw [outcome] at h
      split at h <;> cases h

theorem termination_iff {read : Termination → Summary}
    (named : ∀ termination, (read termination).termination = termination)
    {ending : Except StreamError Termination} {termination : Termination} :
    (∃ summary, ending.map read = .ok summary ∧ summary.termination = termination) ↔
      ending = .ok termination := by
  constructor
  · rintro ⟨summary, same, rfl⟩
    cases ending with
    | error error => cases same
    | ok termination =>
        cases same
        rw [named]
  · rintro rfl
    exact ⟨read termination, rfl, named termination⟩

/-- Whether a stop is requested once a drained session has noted its end. -/
def stopAtEnd (env : Surroundings σ) (s : Stream σ) : Bool :=
  (s.link.transition env .terminated).stopRequested env

/-- What a session reads out at its end. -/
def readOut (env : Surroundings σ) (s : Stream σ) (termination : Termination) : Summary where
  termination
  bytes := s.tracker.snapshot.bytes
  transfers := s.transfers
  slotsReleased := s.pool.released
  elapsed := ((s.link.transition env .terminated).now env).1 - s.started
  progress := s.tracker.snapshot

theorem finish_read_out (env : Surroundings σ) (s : Stream σ) :
    ∃ l, finish env s = .ended ((outcome s.fatal (stopAtEnd env s)).map (readOut env s)) l ∧
      s.link.Quiet env l := by
  have ended : s.link.Quiet env ((s.link.transition env .terminated).now env).2 :=
    (Link.Quiet.refl.transition .terminated).now
  rw [finish, stopAtEnd]
  cases outcome s.fatal ((s.link.transition env .terminated).stopRequested env) with
  | ok termination => exact ⟨_, rfl, ended.log _ rfl⟩
  | error error => exact ⟨_, rfl, (ended.log _ rfl).log _ rfl⟩

theorem finish_ended (env : Surroundings σ) (s : Stream σ) :
    ∃ result l, finish env s = .ended result l ∧ s.link.Aside env l ∧
      ∀ error, result = .error error → s.fatal = some error := by
  obtain ⟨l, finished, quiet⟩ := finish_read_out env s
  refine ⟨_, l, finished, quiet.aside, ?_⟩
  intro error failed
  cases settled : outcome s.fatal (stopAtEnd env s) with
  | ok termination =>
      rw [settled] at failed
      cases failed
  | error first =>
      rw [settled] at failed
      cases failed
      exact outcome_error settled

/-- What holds of every run that has ended holds of one that finishes. -/
theorem finish_of_ended {P : Run σ → Prop} (ended : ∀ result l, P (.ended result l))
    (s : Stream σ) : P (finish env s) := by
  obtain ⟨result, l, finished, -⟩ := finish_ended env s
  rw [finished]
  exact ended result l

theorem Stepped.sound {run next : Run σ} (h : Stepped env config run next) (sound : run.Sound) :
    next.Sound := by
  cases h with
  | ended _ _ => trivial
  | queued index s buffer l inside prepared accepted =>
      obtain ⟨stream, held⟩ := sound
      exact ⟨⟨Pool.put_sound _ _ _, stream.tracker, stream.packetSize⟩, held.put _⟩
  | refused index s buffer l inside prepared source answer =>
      exact ⟨Pool.put_sound _ _ _, sound.stream.tracker, sound.stream.packetSize⟩
  | spared index s offered buffer l inside write held answer =>
      obtain ⟨stream, held⟩ := sound
      exact ⟨⟨Pool.put_sound _ _ _, stream.tracker, stream.packetSize⟩, held.put _⟩
  | denied index s all source answer =>
      exact ⟨sound.stream.pool, sound.stream.tracker, sound.stream.packetSize⟩
  | entered index s all answer =>
      exact ⟨sound.stream.pool, Tracker.start_sound _ _, sound.stream.packetSize⟩
  | gathered s failure completions l awaited =>
      exact ⟨sound.stream.pool, sound.stream.tracker, sound.stream.packetSize⟩
  | handled c completions s t handled => exact handled.sound sound
  | concluded s again t concluded =>
      have stream := concluded.sound sound
      cases again <;> exact stream
  | emptied s none => exact ⟨Pool.mapSlots_sound _ _, sound.stream.tracker, sound.stream.packetSize⟩
  | cancelled s some =>
      exact ⟨Pool.mapSlots_sound _ _, sound.stream.tracker, sound.stream.packetSize⟩
  | cleared collected interrupted s none => exact sound
  | waited collected interrupted s some answer completions answered =>
      exact ⟨sound.stream.pool, sound.stream.tracker, sound.stream.packetSize⟩
  | collected answer interrupted before collected c completions s own =>
      exact ⟨Pool.put_sound _ _ _, sound.stream.tracker, sound.stream.packetSize⟩
  | ignored answer interrupted before collected c completions s stray => exact sound
  | emptyHanded answer interrupted before collected s =>
      rcases afterWait_cases answer interrupted before collected with ⟨again, next⟩ | next <;>
        rw [next] <;> exact sound
  | settled => exact finish_of_ended (fun _ _ => trivial) _

end Run

end BulkStream.Session
