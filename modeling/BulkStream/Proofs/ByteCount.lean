import Mathlib.Algebra.GroupWithZero.Nat
import BulkStream.Proofs.Blocks
import BulkStream.Proofs.Runs

/-!
The one fault that a session can meet. Whatever its transport hands over, and whenever, no count of
the pool is taken below zero, no slot is handed over that was not lent, and no span lies outside
its buffer; only the bytes credited may become too many to count. The bytes of a session are the sum
of all that it credited, and it faults no sooner than that sum passes 64 bits.
-/
namespace BulkStream

theorem Received.infix_of_mem_spans {r : Received} {span : Bytes} (h : span ∈ r.spans) :
    span <:+: r.data := by
  obtain ⟨packet, member, rfl⟩ := List.mem_map.mp h
  exact (List.take_prefix _ packet).isInfix.trans (infix_of_mem_blocks packet member)

namespace Session

variable {σ : Type} {env : Surroundings σ} {config : Config} {state : State} {world : σ}

namespace Stream

theorem consumed_bytes (env : Surroundings σ) (c : Completion) (s : Stream σ) :
    (s.consumed env c).2.2.tracker.snapshot.bytes = s.tracker.snapshot.bytes + s.worth env c := by
  rw [consumed]
  split <;> rfl

theorem credits_running {c : Completion} {s : Stream σ}
    (own : s.pool.slots[c.slot]? = some .inFlight) (status : c.status = .completed)
    (running : (s.fatal.isSome || s.stopAll) = false) :
    s.credits env c = (s.succeeded c.slot).worth env c := if_pos ⟨own, status, running⟩

theorem Handled.bytes_eq {c : Completion} {s t : Stream σ} (h : Handled env c s t) :
    t.tracker.snapshot.bytes = s.tracker.snapshot.bytes + s.credits env c := by
  cases h with
  | stray stray => rw [credits, if_neg fun own => stray own.1]; rfl
  | failed own status => rw [credits, if_neg fun all => status all.2.1]; rfl
  | dropped own status quitting =>
      rw [credits, if_neg fun all => by rw [quitting] at all; exact Bool.noConfusion all.2.2]
      rfl
  | stopped own status running buffer t consumed beside
  | resubmitted own status running buffer t consumed beside accepted
  | refused own status running buffer t consumed beside source answer =>
      rw [credits_running own status running]
      have counted := consumed_bytes env c (s.succeeded c.slot)
      rw [consumed] at counted
      exact counted

/-- Whatever a transport hands over, the counts of a stream and its spans are what they should be. -/
structure Safe (s : Stream σ) : Prop where
  pool : s.pool.Sound
  released : s.pool.live ≤ s.pool.capacity
  tracker : s.tracker.Sound
  spans (c : Completion) : ∃ received, Received.ofBuffer c.buffer c.length s.packetSize =
    .ok received ∧ ∀ span ∈ received.spans, span <:+: c.buffer

theorem Sound.safe {s : Stream σ} (h : s.Sound) : s.Safe := by
  refine ⟨h.pool, h.pool.live_le_capacity, h.tracker, fun c => ?_⟩
  refine ⟨s.received c, if_pos h.packetSize, fun span member => ?_⟩
  exact (Received.infix_of_mem_spans member).trans (List.take_prefix _ c.buffer).isInfix

end Stream

namespace Run

def Safe : Run σ → Prop
  | .active _ s => s.Safe
  | .ended _ _ => True

/-- Bytes that the next step of a run credits. -/
def credits (env : Surroundings σ) : Run σ → Nat
  | .active (.handling (c :: _)) s => s.credits env c
  | _ => 0

/-- All bytes credited in the first `n` steps of a run, those of a step that faults included. -/
def credited (env : Surroundings σ) (config : Config) (n : Nat) (run : Run σ) : Nat :=
  ((path env config n run).map (credits env)).sum

/-- The byte count of a run. A session that fails reads out none. -/
def CountIs (total : Nat) : Run σ → Prop
  | .active (.priming _) s => s.tracker.snapshot.bytes = total ∧ total = 0
  | .active _ s => s.tracker.snapshot.bytes = total
  | .ended (.ok summary) _ => summary.bytes = total
  | .ended (.error _) _ => True

theorem credited_succ {n : Nat} {run next : Run σ} (come : advance env config n run = .ok next) :
    credited env config (n + 1) run = credited env config n run + next.credits env := by
  rw [credited, path_succ come, List.map_append, List.sum_append, credited, List.map_singleton,
    List.sum_singleton]

theorem credited_mono (run : Run σ) : Monotone fun n => credited env config n run := by
  refine monotone_nat_of_le_succ fun n => ?_
  simp only [credited, path, List.range_succ, List.filterMap_append, List.map_append,
    List.sum_append]
  exact Nat.le_add_right _ _

theorem CountIs.finished {s : Stream σ} {total : Nat} (h : s.tracker.snapshot.bytes = total) :
    (finish env s).CountIs total := by
  obtain ⟨l, finished, -⟩ := finish_read_out env s
  rw [finished]
  cases outcome s.fatal (stopAtEnd env s) with
  | ok termination => exact h
  | error error => trivial

theorem CountIs.stepped {run next : Run σ} {total : Nat} (h : run.CountIs total)
    (stepped : Stepped env config run next) : next.CountIs (total + run.credits env) := by
  cases stepped with
  | ended result l => exact h
  | queued index s buffer l inside prepared accepted => exact h
  | refused index s buffer l inside prepared source answer => exact h.1
  | spared index s offered buffer l inside write held answer => exact h
  | denied index s all source answer => exact h.1
  -- The count starts anew, but nothing was credited before.
  | entered index s all answer => exact h.2.symm
  | gathered s failure completions l awaited => exact h
  | handled c completions s t handled =>
      change t.tracker.snapshot.bytes = total + s.credits env c
      rw [handled.bytes_eq]
      exact congrArg (· + _) h
  | concluded s again t concluded =>
      have same : t.tracker.snapshot.bytes = s.tracker.snapshot.bytes := by
        cases concluded with
        | finished quitting => rfl
        | stalled running idle => rfl
        | again running busy t sampled beside => exact beside.bytes
      cases again <;> exact same.trans h
  | emptied s none => exact h
  | cancelled s some => exact h
  | cleared collected interrupted s none => exact h
  | waited collected interrupted s some answer completions answered => exact h
  | collected answer interrupted before collected c completions s own => exact h
  | ignored answer interrupted before collected c completions s stray => exact h
  | emptyHanded answer interrupted before collected s =>
      rcases afterWait_cases answer interrupted before collected with ⟨again, next⟩ | next <;>
        rw [next] <;> exact h
  | settled collected s => exact .finished h

theorem CountIs.started {run : Run σ} (h : Started env config state world run) :
    run.CountIs 0 := by
  cases h with
  | unset source reset | unpurged source reset purged => trivial
  | narrow size reset purged reported narrow => trivial
  | unallocated size reset purged reported wide error refused => trivial
  | opened size reset purged reported wide pool allocated => exact ⟨rfl, rfl⟩

theorem Overfull.exceeds {run : Run σ} {total : Nat} (h : run.Overfull env)
    (counted : run.CountIs total) : countLimit ≤ total + run.credits env := by
  cases run with
  | ended result l => exact h.elim
  | active phase s =>
      cases phase with
      | priming index | draining collected interrupted | settling collected => exact h.elim
      | cycling | closing => exact h.elim
      | collecting answer interrupted before collected completions => exact h.elim
      | handling completions =>
          cases completions with
          | nil => exact h.elim
          | cons c completions =>
              have same : s.tracker.snapshot.bytes = total := counted
              rw [← same]
              exact h

/-- Whatever its surroundings do, a session is safe after any number of steps and has counted what
it credited, unless it has credited more bytes than 64 bits can count. No other fault can end it. -/
theorem safe_within_byte_count (env : Surroundings σ) (config : Config) (state : State) (world : σ)
    (n : Nat) :
    (∃ run, advance env config n (start env config state world) = .ok run ∧ run.Safe ∧
        run.CountIs (credited env config n (start env config state world))) ∨
      advance env config n (start env config state world) = .error .countOverflow ∧
        countLimit ≤ credited env config n (start env config state world) := by
  have kept : ∀ n run next, advance env config n (start env config state world) = .ok run →
      run.Sound → run.CountIs (credited env config n (start env config state world)) →
      step env config run = .ok next → Stepped env config run next →
      next.CountIs (credited env config (n + 1) (start env config state world)) := by
    intro n run next come _ counted _ stepped
    rw [credited_succ come]
    exact counted.stepped stepped
  have held := run_keeps_at
    (P := fun n run => run.CountIs (credited env config n (start env config state world)))
    (fun _ => CountIs.started) kept n
  rcases held with ⟨run, come, sound, counted⟩ | ⟨fault, m, before, run, come, counted, overfull⟩
  · refine .inl ⟨run, come, ?_, counted⟩
    cases run with
    | active phase s => exact sound.stream.safe
    | ended result l => trivial
  · refine .inr ⟨fault, le_trans ?_ (credited_mono _ (Nat.succ_le_of_lt before))⟩
    change countLimit ≤ credited env config (m + 1) (start env config state world)
    rw [credited_succ come]
    exact overfull.exceeds counted

end Run

end Session

end BulkStream
