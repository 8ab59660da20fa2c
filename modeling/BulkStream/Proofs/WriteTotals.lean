import BulkStream.Proofs.Totals

/-!
The totals of a writing session against the transfers that it took in. A transfer is counted as soon
as it is taken in, and its bytes only once it is passed on; what completes after an error, or after
every slot is to be released, is counted without its bytes.
-/
namespace BulkStream.Session

variable {σ : Type} {env : Surroundings σ} {config : Config} {state : State} {world : σ}

/-- A successful transfer as it is taken in. -/
structure Taking where
  /-- Length that the transport reported. -/
  bytes : Nat
  /-- An error is recorded by then, or every slot is to be released. -/
  late : Bool
deriving DecidableEq

def timelyBytes (takings : List Taking) : Nat :=
  ((takings.filter fun taking => !taking.late).map Taking.bytes).sum

theorem timelyBytes_append (before after : List Taking) :
    timelyBytes (before ++ after) = timelyBytes before + timelyBytes after := by
  rw [timelyBytes, List.filter_append, List.map_append, List.sum_append, timelyBytes, timelyBytes]

namespace Stream

variable {c : Completion} {s : Stream σ}

def taking? (c : Completion) (s : Stream σ) : Option Taking :=
  if s.accepts c then some ⟨c.length, s.fatal.isSome || s.stopAll⟩ else none

theorem taking?_toList_length (c : Completion) (s : Stream σ) :
    (s.taking? c).toList.length = (s.accepts c).toNat := by
  rw [taking?]
  cases s.accepts c <;> rfl

/-- A writing session credits the whole of a transfer that is not late, and nothing else. -/
theorem timelyBytes_taking? (write : s.pool.direction = .write) :
    timelyBytes (s.taking? c).toList = s.credits env c := by
  by_cases own : s.pool.slots[c.slot]? = some .inFlight ∧ c.status = .completed
  · have accepting : s.accepts c = true := decide_eq_true own
    rw [taking?, if_pos accepting]
    cases quitting : s.fatal.isSome || s.stopAll with
    | true =>
        have late : ¬ (s.pool.slots[c.slot]? = some .inFlight ∧ c.status = .completed ∧
            (s.fatal.isSome || s.stopAll) = false) := by simp [quitting]
        rw [credits, if_neg late]
        rfl
    | false =>
        have direction : (s.succeeded c.slot).pool.direction = .write := write
        rw [credits_running own.1 own.2 quitting, worth, direction]
        rfl
  · have turning : ¬ s.accepts c = true := Bool.eq_false_iff.mp (decide_eq_false own)
    rw [taking?, if_neg turning, credits, if_neg fun all => own ⟨all.1, all.2.1⟩]
    rfl

end Stream

namespace Run

variable {run next : Run σ}

/-- The successful transfer that the next step of a run takes in. -/
def taking? : Run σ → Option Taking
  | .active (.handling (c :: _)) s => s.taking? c
  | _ => none

/-- The successful transfers that the first `n` steps of a run take in. -/
def takings (env : Surroundings σ) (config : Config) (n : Nat) (run : Run σ) : List Taking :=
  (path env config n run).flatMap fun point => point.taking?.toList

theorem takings_succ {n : Nat} (come : advance env config n run = .ok next) :
    takings env config (n + 1) run = takings env config n run ++ next.taking?.toList := by
  rw [takings, path_succ come, List.flatMap_append, takings, List.flatMap_singleton]

theorem taking?_toList_length (run : Run σ) : run.taking?.toList.length = run.accepts.toNat := by
  cases run with
  | ended result l => rfl
  | active phase s =>
      cases phase with
      | handling completions =>
          cases completions with
          | nil => rfl
          | cons c completions => exact s.taking?_toList_length c
      | priming | cycling | closing | draining | collecting | settling => rfl

theorem timelyBytes_taking? (write : run.Directed .write) :
    timelyBytes run.taking?.toList = run.credits env := by
  cases run with
  | ended result l => rfl
  | active phase s =>
      cases phase with
      | handling completions =>
          cases completions with
          | nil => rfl
          | cons c completions => exact Stream.timelyBytes_taking? write
      | priming | cycling | closing | draining | collecting | settling => rfl

theorem takings_at {n : Nat} (write : config.direction = .write)
    (come : advance env config n (start env config state world) = .ok run) :
    (takings env config n (start env config state world)).length =
        acceptances env config n (start env config state world) ∧
      timelyBytes (takings env config n (start env config state world)) =
        credited env config n (start env config state world) := by
  refine holds_at (fun _ _ => ⟨rfl, rfl⟩) ?_ come
  rintro n last next before stepped ⟨count, bytes⟩
  have directed : last.Directed .write := write ▸ directed_at before
  rw [takings_succ before, acceptances_succ before, credited_succ before]
  refine ⟨?_, ?_⟩
  · rw [List.length_append, count, taking?_toList_length]
  · rw [timelyBytes_append, bytes, timelyBytes_taking? directed]

/-- Whatever its surroundings do, a writing session counts every successful transfer that it takes in
while streaming, and credits the bytes of those that are not late. -/
theorem write_total_eq_timely (env : Surroundings σ) (config : Config)
    (write : config.direction = .write) (state : State) (world : σ) (n : Nat) :
    (∃ run, advance env config n (start env config state world) = .ok run ∧
        run.Reports (timelyBytes (takings env config n (start env config state world)))
          (takings env config n (start env config state world)).length) ∨
      advance env config n (start env config state world) = .error .countOverflow := by
  rcases comes env config state world n with ⟨run, come, -⟩ | fault
  · obtain ⟨count, bytes⟩ := takings_at write come
    refine .inl ⟨run, come, ?_⟩
    rw [count, bytes]
    exact (reports_at come).1
  · exact .inr fault

section

open Rehearsal

/-- A consumer that answers the first sample with a stop, between two transfers. -/
def sated : Assembly Script Timeline Audience where
  transport := { steps := [{ cues := [{}] }, { cues := [{}] }] }
  outside := {}
  consumer := { onProgress := { stop := [0] } }

def oneBuffer : Config :=
  { direction := .write, packetsPerTransfer := 1, transferCount := 1, progressInterval := 0 }

theorem sated_takings : takings scripted oneBuffer 20 (start scripted oneBuffer .idle sated) =
    [⟨8, false⟩, ⟨8, true⟩] := by decide +kernel

theorem sated_write_total : ∃ run,
    advance scripted oneBuffer 20 (start scripted oneBuffer .idle sated) = .ok run ∧
      run.Reports 8 2 := by
  have ends : (advance scripted oneBuffer 20 (start scripted oneBuffer .idle sated)).isOk = true := by
    decide +kernel
  rcases write_total_eq_timely scripted oneBuffer rfl .idle sated 20 with ⟨run, come, reports⟩ | fault
  · rw [sated_takings] at reports
    exact ⟨run, come, reports⟩
  · rw [fault] at ends
    cases ends

/-- Both transfers are counted, and the bytes of the second are not. -/
theorem sated_total_lacks_late_transfer : ∃ summary l,
    advance scripted oneBuffer 20 (start scripted oneBuffer .idle sated) =
        .ok (.ended (.ok summary) l) ∧
      (summary.bytes, summary.transfers) = (8, 2) ∧
      takings scripted oneBuffer 20 (start scripted oneBuffer .idle sated) =
        [⟨8, false⟩, ⟨8, true⟩] := by
  obtain ⟨summary, l, come, read⟩ := ended_of_summary?
    (fun ending => (ending.1.bytes, ending.1.transfers))
    (show ((advance scripted oneBuffer 20 (start scripted oneBuffer .idle sated)).toOption.bind
      summary?).map (fun ending => (ending.1.bytes, ending.1.transfers)) = some (8, 2) by
        decide +kernel)
  exact ⟨summary, l, come, read, sated_takings⟩

end

end Run

end BulkStream.Session
