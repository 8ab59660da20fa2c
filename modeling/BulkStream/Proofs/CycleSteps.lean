import BulkStream.Proofs.StreamSteps

/-!
What a streaming cycle does before and after its completions, and what a drain does with each of
its own. A cycle waits once, and once more exactly if that wait was interrupted; the rest of it, the
sample included, stays beside the transport and the pool.
-/
namespace BulkStream

def WaitResult.error? : WaitResult → Option TransportError
  | .ok => none
  | .interrupted => some .interrupted
  | .failed error => some error

namespace Session.Stream

variable {σ : Type} {env : Surroundings σ}

/-- The waits of one cycle, with the error they end in and what they hand over. -/
inductive Awaited (env : Surroundings σ) (milliseconds : Nat) (l : Link σ) :
    (Option StreamError × List Completion) × Link σ → Prop
  | once (result : WaitResult) (completions : List Completion)
      (answer : (l.wait env milliseconds).1 = (result, completions))
      (whole : result ≠ .interrupted) :
      Awaited env milliseconds l
        ((result.error?.map .transport, completions), (l.wait env milliseconds).2)
  | again (completions : List Completion) (result : WaitResult) (more : List Completion)
      (cut : (l.wait env milliseconds).1 = (.interrupted, completions))
      (answer : (((l.wait env milliseconds).2.log env .waitInterrupted).wait env milliseconds).1 =
        (result, more)) :
      Awaited env milliseconds l
        ((result.error?.map .transport, completions ++ more),
          (((l.wait env milliseconds).2.log env .waitInterrupted).wait env milliseconds).2)

theorem await_awaited (milliseconds : Nat) (l : Link σ) :
    Awaited env milliseconds l (await env milliseconds l) := by
  have once := @Awaited.once σ env milliseconds l
  have again := @Awaited.again σ env milliseconds l
  rw [await]
  split
  · rename_i completions m answered
    rw [answered] at once
    exact once .ok completions rfl (by decide)
  · rename_i error completions m answered
    rw [answered] at once
    exact once (.failed error) completions rfl (by simp)
  · rename_i completions m answered
    rw [answered] at again
    split
    · rename_i more n answered'
      rw [answered'] at again
      exact again completions .ok more rfl rfl
    · rename_i more n answered'
      rw [answered'] at again
      exact again completions .interrupted more rfl rfl
    · rename_i error more n answered'
      rw [answered'] at again
      exact again completions (.failed error) more rfl rfl

theorem Awaited.offers_eq {milliseconds : Nat} {l m : Link σ} {failure : Option StreamError}
    {completions : List Completion} (h : Awaited env milliseconds l ((failure, completions), m)) :
    m.offers = l.offers := by
  cases h with
  | once result completions answer whole => exact l.offers_wait env milliseconds
  | again completions result more cut answer =>
      rw [Link.offers_wait, Link.offers_log, Link.offers_wait]

def roused (env : Surroundings σ) (s : Stream σ) (failure : Option StreamError) (link : Link σ) :
    Stream σ :=
  { s with
    stopAll := s.stopAll || s.link.stopRequested env
    link
    fatal := s.fatal.or failure }

theorem gather_eq (milliseconds : Nat) (s : Stream σ) :
    s.gather env milliseconds =
      ((await env milliseconds s.link).1.2,
        s.roused env (await env milliseconds s.link).1.1 (await env milliseconds s.link).2) := by
  simp only [gather]
  split
  · rename_i completions link answered
    simp only [answered, roused, Option.or_none]
  · rename_i error completions link answered
    simp only [answered]
    rfl

structure Sampled (env : Surroundings σ) (s t : Stream σ) : Prop where
  quiet : s.link.Quiet env t.link
  pool : t.pool = s.pool
  packetSize : t.packetSize = s.packetSize
  fatal : t.fatal = s.fatal
  tracker : t.tracker.Sound
  bytes : t.tracker.snapshot.bytes = s.tracker.snapshot.bytes
  transfers : t.transfers = s.transfers
  stopAll : s.stopAll = true → t.stopAll = true

theorem Sampled.aside {s t : Stream σ} (h : Sampled env s t) : s.link.Aside env t.link :=
  h.quiet.aside

theorem sample_meets (s : Stream σ) (h : s.tracker.Sound) :
    Meets False (Sampled env s) (s.sample env) := by
  rw [sample]
  refine (Tracker.poll_meets h (s.link.now env).1).bind ?_
  intro sampled _ sound
  have clock : s.link.Quiet env (s.link.now env).2 := Link.Quiet.refl.now
  cases sampled with
  | none => exact ⟨clock, rfl, rfl, rfl, h, rfl, rfl, id⟩
  | some tracker =>
      have offered := (clock.log (.progress tracker.snapshot.bytes
        tracker.snapshot.currentRate) rfl).progress tracker.snapshot
      obtain ⟨polled, bytes⟩ := sound tracker rfl
      refine ⟨offered, rfl, rfl, rfl, polled.rollForward, bytes, rfl, ?_⟩
      intro stopping
      change (s.stopAll || _) = true
      rw [stopping, Bool.true_or]

/-- How a cycle concludes, and whether another follows. -/
inductive Concluded (env : Surroundings σ) (milliseconds : Nat) (s : Stream σ) :
    Bool × Stream σ → Prop
  | finished (quitting : (s.fatal.isSome || s.pool.live == 0) = true) :
      Concluded env milliseconds s (false, s)
  | stalled (running : (s.fatal.isSome || s.pool.live == 0) = false) (idle : s.activity = 0) :
      Concluded env milliseconds s
        (false, (s.log env (.stalled milliseconds)).fail (.livenessTimeout milliseconds))
  | again (running : (s.fatal.isSome || s.pool.live == 0) = false) (busy : s.activity ≠ 0)
      (t : Stream σ) (sampled : { s with activity := 0 }.sample env = .ok t)
      (beside : Sampled env s t) :
      Concluded env milliseconds s (true, t)

theorem conclude_meets (milliseconds : Nat) (s : Stream σ) (h : s.tracker.Sound) :
    Meets False (Concluded env milliseconds s) (s.conclude env milliseconds) := by
  rw [conclude]
  by_cases quitting : (s.fatal.isSome || s.pool.live == 0) = true
  · rw [if_pos quitting]
    exact Concluded.finished quitting
  · have running := Bool.eq_false_iff.mpr quitting
    rw [if_neg quitting]
    by_cases idle : s.activity = 0
    · rw [if_pos idle]
      exact Concluded.stalled running idle
    · rw [if_neg idle]
      refine (sample_meets { s with activity := 0 } h).bind ?_
      rintro t sampled ⟨quiet, pool, packetSize, fatal, tracker, bytes, transfers, stopAll⟩
      exact Concluded.again running idle t sampled
        ⟨quiet, pool, packetSize, fatal, tracker, bytes, transfers, stopAll⟩

theorem Concluded.sound {milliseconds : Nat} {s t : Stream σ} {again : Bool}
    (h : Concluded env milliseconds s (again, t)) (sound : s.Sound) : t.Sound := by
  cases h with
  | finished quitting => exact sound
  | stalled running idle => exact ⟨sound.pool, sound.tracker, sound.packetSize⟩
  | again running busy t sampled beside =>
      refine ⟨?_, beside.tracker, ?_⟩
      · rw [beside.pool]
        exact sound.pool
      · rw [beside.packetSize]
        exact sound.packetSize

theorem collect_own {c : Completion} {s : Stream σ} (sound : s.pool.Sound)
    (own : s.pool.slots[c.slot]? = some .inFlight) :
    s.collect c = .ok (true, { s with pool := s.pool.put c.slot .released }) := by
  have released : (s.pool.put c.slot .lent).release c.slot = .ok (s.pool.put c.slot .released) := by
    rw [(Pool.put_sound s.pool c.slot .lent).release_eq (Pool.put_found own .lent) rfl, Pool.put_put]
  rw [collect, sound.complete_eq own]
  change (do return (true, { s with pool := ← (s.pool.put c.slot .lent).release c.slot }) :
    Except Fault (Bool × Stream σ)) = _
  rw [released]
  rfl

theorem collect_stray {c : Completion} {s : Stream σ}
    (stray : s.pool.slots[c.slot]? ≠ some .inFlight) : s.collect c = .ok (false, s) := by
  rw [collect, Pool.complete_stray stray]
  rfl

end Session.Stream

end BulkStream
