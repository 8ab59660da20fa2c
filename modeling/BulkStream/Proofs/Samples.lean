import BulkStream.Proofs.Seconds
import BulkStream.Proofs.StreamSteps

/-!
Samples of a session's throughput. The samples cut what is credited into windows: each begins where
the one before it ended, the first at the start, and none is shorter than the interval, whatever
times the clock shows. So the bytes of the windows add up, and from the second sample on no rate is
taken over an empty time.
-/
namespace BulkStream

namespace Tracker

/-- What a session does with its tracker. -/
inductive Act
  | credit (bytes : Nat)
  | poll (time : Nat)
deriving DecidableEq, Repr

def Act.bytes : Act → Nat
  | .credit bytes => bytes
  | .poll _ => 0

def credited (acts : List Act) : Nat := (acts.map Act.bytes).sum

/-- Carry out an act. A sample that is taken is made the previous one at once. -/
def perform (t : Tracker) : Act → Except Fault (Option Snapshot × Tracker)
  | .credit bytes => do return (none, ← t.credit bytes)
  | .poll time => do
      match ← t.poll time with
      | none => return (none, t)
      | some sampled => return (some sampled.snapshot, sampled.rollForward)

/-- Carry out acts in order. The samples taken come with the tracker as it is left. -/
def history (t : Tracker) : List Act → Except Fault (List Snapshot × Tracker)
  | [] => return ([], t)
  | act :: acts => do
      let (sample, t) ← t.perform act
      let (samples, t) ← t.history acts
      return (sample.toList ++ samples, t)

/-- When a window begins: at the sample before it, or at the start. -/
def opening (start : Nat) (before : Option Snapshot) : Nat := before.elim start (·.current)

def openingBytes (before : Option Snapshot) : Nat := before.elim 0 (·.bytes)

/-- The sample that ends a window in which so many bytes were credited. -/
structure Closes (start interval : Nat) (before : Option Snapshot) (bytes : Nat) (s : Snapshot) :
    Prop where
  spaced : opening start before + interval ≤ s.current
  previous : s.previous = opening start before
  previousBytes : s.previousBytes = openingBytes before
  bytes : s.bytes = s.previousBytes + bytes
  first : s.first = start
  elapsed : s.elapsed = secondsOf (s.current - start)
  unrated : before = none → s.currentRate = none ∧ s.totalRate = none
  rated : before ≠ none →
    s.currentRate =
        some (countAsFloat (s.bytes - s.previousBytes) / secondsOf (s.current - s.previous)) ∧
      s.totalRate = some (countAsFloat s.bytes / secondsOf (s.current - start))

/-- No poll among the acts comes an interval after a time. -/
def Early (interval time : Nat) (acts : List Act) : Prop :=
  ∀ now, .poll now ∈ acts → now < time + interval

theorem early_nil {interval time : Nat} : Early interval time [] :=
  fun _ polled => absurd polled List.not_mem_nil

/-- The acts are cut into windows by the samples, each taken at the first poll that comes an interval
after the sample before it; what follows the last sample is a window not yet closed. -/
inductive Tiled (start interval : Nat) : Option Snapshot → List Act → List Snapshot → Prop
  | unclosed (before : Option Snapshot) (acts : List Act)
      (early : Early interval (opening start before) acts) : Tiled start interval before acts []
  | closed (before : Option Snapshot) (window : List Act) (s : Snapshot) (acts : List Act)
      (samples : List Snapshot) (early : Early interval (opening start before) window)
      (closes : Closes start interval before (credited window) s)
      (later : Tiled start interval (some s) acts samples) :
      Tiled start interval before (window ++ .poll s.current :: acts) (s :: samples)

/-- A tracker in a window that began behind a sample, with so many bytes credited since. -/
structure Within (start interval : Nat) (before : Option Snapshot) (bytes : Nat) (t : Tracker) :
    Prop where
  interval : t.interval = interval
  hasPrevious : t.hasPrevious = before.isSome
  first : t.snapshot.first = start
  current : t.snapshot.current = opening start before
  previous : t.snapshot.previous = opening start before
  previousBytes : t.snapshot.previousBytes = openingBytes before
  bytes : t.snapshot.bytes = openingBytes before + bytes
  since : start ≤ opening start before
  unrated : before = none → t.snapshot.currentRate = none ∧ t.snapshot.totalRate = none

variable {start interval bytes : Nat} {before : Option Snapshot} {t : Tracker}

theorem within_start (start interval : Nat) :
    (Tracker.start start interval).Within start interval none 0 :=
  ⟨rfl, rfl, rfl, rfl, rfl, rfl, rfl, Nat.le_refl start, fun _ => ⟨rfl, rfl⟩⟩

theorem Within.credit (h : t.Within start interval before bytes) (more : Nat)
    (counted : t.snapshot.bytes + more < countLimit) :
    t.perform (.credit more) = .ok (none, t.plus more) ∧
      (t.plus more).Within start interval before (bytes + more) := by
  constructor
  · simp only [perform, Tracker.credit, addCount, counted, if_true]
    rfl
  · refine { h with bytes := ?_ }
    simp only [plus, h.bytes, Nat.add_assoc]

theorem poll_early {now : Nat} (early : now - t.snapshot.current < t.interval) :
    t.perform (.poll now) = .ok (none, t) := by
  simp only [perform, poll, early, if_true]
  rfl

/-- Both rates of a sample are taken over a time that is not empty. -/
theorem withRates_eq {s : Snapshot} (ordered : s.previousBytes ≤ s.bytes)
    (window : 0 < secondsOf (s.current - s.previous)) (elapsed : 0 < s.elapsed) :
    withRates s = .ok { s with
      currentRate :=
        some (countAsFloat (s.bytes - s.previousBytes) / secondsOf (s.current - s.previous))
      totalRate := some (countAsFloat s.bytes / s.elapsed) } := by
  simp only [withRates, windowBytes, if_pos ordered, gt_iff_lt, window, elapsed, if_true]
  rfl

/-- A poll that comes an interval after the last sample takes the one that ends the window. -/
theorem Within.poll (h : t.Within start interval before bytes) (positive : 0 < interval)
    {now : Nat} (due : opening start before + interval ≤ now)
    (bounded : now - start < durationLimit) :
    ∃ s, t.poll now = .ok (some { t with snapshot := s }) ∧ s.current = now ∧
      Closes start interval before bytes s := by
  have since := h.since
  have waited : ¬ now - t.snapshot.current < t.interval := by
    rw [h.current, h.interval]
    omega
  have window : 0 < secondsOf (now - t.snapshot.previous) := by
    rw [h.previous]
    apply secondsOf_pos <;> omega
  have elapsed : 0 < secondsOf (now - t.snapshot.first) := by
    rw [h.first]
    apply secondsOf_pos <;> omega
  have grown : t.snapshot.bytes = t.snapshot.previousBytes + bytes := by
    rw [h.bytes, h.previousBytes]
  have ordered : t.snapshot.previousBytes ≤ t.snapshot.bytes := by omega
  have rated := withRates_eq (s := { t.snapshot with
    current := now, elapsed := secondsOf (now - t.snapshot.first) }) ordered window elapsed
  cases before with
  | none =>
      have unrated : t.hasPrevious = false := h.hasPrevious
      refine ⟨_, by simp only [Tracker.poll, waited, unrated]; rfl, rfl, ?_⟩
      exact ⟨due, h.previous, h.previousBytes, grown, h.first, by rw [h.first],
        fun _ => h.unrated rfl, fun some => absurd rfl some⟩
  | some last =>
      have again : t.hasPrevious = true := h.hasPrevious
      refine ⟨_, by simp only [Tracker.poll, waited, again, rated]; rfl, rfl, ?_⟩
      exact ⟨due, h.previous, h.previousBytes, grown, h.first, by rw [h.first],
        fun none => absurd none (Option.some_ne_none last), fun _ => ⟨rfl, by rw [h.first]⟩⟩

theorem perform_sampled {now : Nat} {sampled : Tracker} (h : t.poll now = .ok (some sampled)) :
    t.perform (.poll now) = .ok (some sampled.snapshot, sampled.rollForward) := by
  simp only [perform, h]
  rfl

/-- Behind a sample a new window begins. -/
theorem within_rolled (kept : t.interval = interval) (first : t.snapshot.first = start)
    (since : start ≤ t.snapshot.current) :
    t.rollForward.Within start interval (some t.snapshot) 0 :=
  ⟨kept, rfl, first, rfl, rfl, rfl, rfl, since, nofun⟩

theorem credited_append (a b : List Act) : credited (a ++ b) = credited a + credited b := by
  simp only [credited, List.map_append, List.sum_append]

theorem history_cons {act : Act} {acts : List Act} {sample : Option Snapshot}
    {samples : List Snapshot} {next last : Tracker} (first : t.perform act = .ok (sample, next))
    (rest : next.history acts = .ok (samples, last)) :
    t.history (act :: acts) = .ok (sample.toList ++ samples, last) := by
  simp only [history, first]
  change (do let (samples, t) ← next.history acts; return (sample.toList ++ samples, t)) = _
  rw [rest]
  rfl

/-- From within a window on, the samples tile what is still to come. -/
theorem Within.tiled (positive : 0 < interval) (acts : List Act) :
    ∀ {before : Option Snapshot} (done : List Act) {t : Tracker},
      t.Within start interval before (credited done) →
      Early interval (opening start before) done →
      (∀ now, .poll now ∈ acts → now - start < durationLimit) →
      t.snapshot.bytes + credited acts < countLimit →
      ∃ samples last, t.history acts = .ok (samples, last) ∧
        Tiled start interval before (done ++ acts) samples ∧
        last.snapshot.bytes = t.snapshot.bytes + credited acts := by
  induction acts with
  | nil =>
      intro before done t within early bounded counted
      refine ⟨[], t, rfl, ?_, rfl⟩
      rw [List.append_nil]
      exact .unclosed before done early
  | cons act acts ih =>
      intro before done t within early bounded counted
      have later : ∀ now, .poll now ∈ acts → now - start < durationLimit :=
        fun now member => bounded now (List.mem_cons_of_mem act member)
      have onward : done ++ act :: acts = done ++ [act] ++ acts := by
        rw [List.append_assoc, List.singleton_append]
      cases act with
      | credit more =>
          have total : credited (.credit more :: acts) = more + credited acts := rfl
          obtain ⟨performed, now_within⟩ := within.credit more (by omega)
          have done_within : (t.plus more).Within start interval before
              (credited (done ++ [.credit more])) := by
            rw [credited_append]
            exact now_within
          have still_early : Early interval (opening start before) (done ++ [.credit more]) := by
            intro time member
            simp only [List.mem_append, List.mem_singleton, reduceCtorEq, or_false] at member
            exact early time member
          obtain ⟨samples, last, came, tiled, bytes⟩ :=
            ih _ done_within still_early later (by simp only [plus]; omega)
          refine ⟨samples, last, history_cons performed came, onward ▸ tiled, ?_⟩
          rw [bytes, total, plus, Nat.add_assoc]
      | poll now =>
          have total : credited (.poll now :: acts) = credited acts := Nat.zero_add _
          by_cases due : opening start before + interval ≤ now
          · obtain ⟨s, polled, rfl, closes⟩ :=
              within.poll positive due (bounded now List.mem_cons_self)
            have bytes_same : s.bytes = t.snapshot.bytes := by
              rw [closes.bytes, closes.previousBytes, within.bytes]
            have opened := within_rolled (t := { t with snapshot := s }) within.interval
              closes.first (Nat.le_trans within.since (Nat.le_of_add_right_le due))
            obtain ⟨samples, last, came, tiled, bytes⟩ := ih [] opened early_nil later
              (show s.bytes + credited acts < countLimit by omega)
            refine ⟨s :: samples, last, history_cons (perform_sampled polled) came,
              .closed before done s acts samples early closes tiled, ?_⟩
            rw [bytes, total, ← bytes_same]
            rfl
          · have waiting : now - t.snapshot.current < t.interval := by
              rw [within.current, within.interval]
              omega
            have still_within : t.Within start interval before (credited (done ++ [.poll now])) := by
              rw [credited_append]
              exact within
            have still_early : Early interval (opening start before) (done ++ [.poll now]) := by
              intro time member
              simp only [List.mem_append, List.mem_singleton, Act.poll.injEq] at member
              cases member with
              | inl earlier => exact early time earlier
              | inr here =>
                  subst here
                  exact Nat.lt_of_not_le due
            obtain ⟨samples, last, came, tiled, bytes⟩ :=
              ih _ still_within still_early later (total ▸ counted)
            exact ⟨samples, last, history_cons (poll_early waiting) came, onward ▸ tiled,
              total ▸ bytes⟩

/-- The windows of the samples hold every byte credited up to the last of them, each once. -/
theorem Tiled.covers {acts : List Act} {samples : List Snapshot}
    (h : Tiled start interval before acts samples) :
    ∃ counted rest, acts = counted ++ rest ∧
      counted.getLast? = samples.getLast?.map (fun s => .poll s.current) ∧
      Early interval (opening start (samples.getLast?.or before)) rest ∧
      (samples.map fun s => s.bytes - s.previousBytes).sum = credited counted ∧
      openingBytes (samples.getLast?.or before) = openingBytes before + credited counted := by
  induction h with
  | unclosed before acts early => exact ⟨[], acts, rfl, rfl, early, rfl, rfl⟩
  | closed before window s acts samples early closes later ih =>
      obtain ⟨counted, rest, split, ends, late, sum, bytes⟩ := ih
      have behind : (s :: samples).getLast?.or before = samples.getLast?.or (some s) := by
        rw [List.getLast?_cons]
        cases samples.getLast? <;> rfl
      have all : credited (window ++ .poll s.current :: counted) =
          credited window + credited counted := by
        rw [credited_append]
        exact congrArg (credited window + ·) (Nat.zero_add _)
      refine ⟨window ++ .poll s.current :: counted, rest, ?_, ?_, ?_, ?_, ?_⟩
      · rw [split, List.append_assoc, List.cons_append]
      · rw [List.getLast?_append, List.getLast?_cons, List.getLast?_cons, ends]
        cases samples.getLast? <;> rfl
      · rw [behind]
        exact late
      · rw [List.map_cons, List.sum_cons, sum, all, closes.bytes, Nat.add_sub_cancel_left]
      · rw [behind, bytes, all, ← Nat.add_assoc]
        exact congrArg (· + credited counted) (closes.bytes.trans (by rw [closes.previousBytes]))

theorem Tiled.ordered {acts : List Act} {samples : List Snapshot}
    (h : Tiled start interval before acts samples) : ∀ s ∈ samples, s.previousBytes ≤ s.bytes := by
  induction h with
  | unclosed before acts early => exact nofun
  | closed before window s acts samples early closes later ih =>
      intro sample member
      cases List.mem_cons.mp member with
      | inl here =>
          rw [here, closes.bytes]
          exact Nat.le_add_right _ _
      | inr behind => exact ih sample behind

/-- The samples of a session tile it: whatever is credited and polled, at whatever times, as far as
durations and bytes can be counted. -/
theorem samples_tile_session {start interval : Nat} (positive : 0 < interval) {acts : List Act}
    (bounded : ∀ now, .poll now ∈ acts → now - start < durationLimit)
    (counted : credited acts < countLimit) :
    (∃ samples last, (Tracker.start start interval).history acts = .ok (samples, last) ∧
      Tiled start interval none acts samples ∧
      (∀ s ∈ samples, s.previousBytes ≤ s.bytes) ∧
      last.snapshot.bytes = credited acts ∧
      ∃ before rest, acts = before ++ rest ∧
        before.getLast? = samples.getLast?.map (fun s => .poll s.current) ∧
        (samples.map fun s => s.bytes - s.previousBytes).sum = credited before ∧
        openingBytes samples.getLast? = credited before) ∧
    ∀ (t u : Tracker) (now : Nat), t.perform (.poll now) = .ok (none, u) → u = t := by
  refine ⟨?_, ?_⟩
  · obtain ⟨samples, last, came, tiled, bytes⟩ :=
      (within_start start interval).tiled positive acts [] early_nil bounded
        (show 0 + credited acts < countLimit by omega)
    obtain ⟨before, rest, split, ends, -, sum, total⟩ := tiled.covers
    rw [Option.or_none] at total
    refine ⟨samples, last, came, tiled, tiled.ordered, bytes.trans (Nat.zero_add _), before, rest,
      split, ends, sum, total.trans (Nat.zero_add _)⟩
  · intro t u now performed
    match polled : t.poll now with
    | .error fault =>
        simp only [perform, polled] at performed
        cases performed
    | .ok none =>
        simp only [perform, polled] at performed
        cases performed
        rfl
    | .ok (some sampled) =>
        rw [perform_sampled polled] at performed
        cases performed

/-- The clock goes back behind a sample, stands still, and jumps ahead. -/
def fitful : List Act :=
  [.credit 10, .poll 1004, .credit 3, .poll 1012, .poll 1003, .credit 7, .poll 1012, .poll 1030,
    .poll 1030, .credit 1]

theorem fitful_samples :
    0 < 10 ∧ (∀ now, .poll now ∈ fitful → now - 1000 < durationLimit) ∧
      credited fitful < countLimit ∧
      ∃ samples last, (Tracker.start 1000 10).history fitful = .ok (samples, last) ∧
        samples.map (·.current) = [1012, 1030] ∧
        (samples.map fun s => s.bytes - s.previousBytes) = [13, 7] ∧ last.snapshot.bytes = 21 := by
  have bounded : ∀ now, .poll now ∈ fitful → now - 1000 < durationLimit := by
    intro now member
    simp only [fitful, List.mem_cons, reduceCtorEq, Act.poll.injEq, List.not_mem_nil, or_false,
      false_or] at member
    have limit : 30 < durationLimit := by decide
    omega
  have positive : 0 < 10 := by decide
  have sum : credited fitful = 21 := rfl
  have counted : credited fitful < countLimit := by
    rw [sum]
    decide
  obtain ⟨⟨samples, last, came, tiled, ordered, bytes, -⟩, -⟩ :=
    samples_tile_session positive bounded counted
  have outline : ((Tracker.start 1000 10).history fitful).toOption.map (fun (samples, _) =>
      (samples.map (·.current), samples.map fun s => s.bytes - s.previousBytes)) =
        some ([1012, 1030], [13, 7]) := by decide +kernel
  rw [came] at outline
  obtain ⟨times, windows⟩ := Prod.mk.inj (Option.some.inj outline)
  exact ⟨positive, bounded, counted, samples, last, came, times, windows, bytes⟩

end Tracker

theorem Session.Link.progress_history {σ : Type} (env : Surroundings σ) (snapshot : Snapshot)
    (l : Link σ) : l.history ⊆ (l.progress env snapshot).2.history := by
  rw [progress]
  split
  · exact List.Subset.refl _
  · exact List.subset_cons_self _ _

/-- A session polls its tracker as a history does, and shows each sample that is taken. -/
theorem Session.Stream.sample_performs {σ : Type} {env : Surroundings σ} {s t : Stream σ}
    (h : s.sample env = .ok t) :
    ∃ taken, s.tracker.perform (.poll (s.link.now env).1) = .ok (taken, t.tracker) ∧
      ∀ snapshot ∈ taken,
        Action.log (.progress snapshot.bytes snapshot.currentRate) ∈ t.link.history := by
  match polled : s.tracker.poll (s.link.now env).1 with
  | .error fault =>
      simp only [sample, polled] at h
      cases h
  | .ok none =>
      simp only [sample, polled] at h
      cases h
      refine ⟨none, ?_, nofun⟩
      simp only [Tracker.perform, polled]
      rfl
  | .ok (some sampled) =>
      simp only [sample, polled] at h
      cases h
      refine ⟨some sampled.snapshot, Tracker.perform_sampled polled, ?_⟩
      intro snapshot member
      cases member
      exact Link.progress_history env _ _ List.mem_cons_self

end BulkStream
