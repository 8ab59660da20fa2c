import Mathlib.Logic.Basic
import BulkStream.Proofs.PacketFraming

/-!
One wait of the simulated peripheral: it hands back all that was cancelled, or it serves the queue from
the front, one transfer after the other, or it does nothing. Each completion stands beside the request
that it answers.
-/
namespace BulkStream.Peripheral.Fifo

theorem ofConfig_ok {config : Config} {f : Fifo} (h : ofConfig config = .ok f) :
    Packet.statusLength < config.packetSize ∧
      f = { config, source := .start config.pattern config.dropEvery } := by
  rw [ofConfig] at h
  split at h
  · cases h
  · rename_i wide
    split at h
    · cases h
    · cases h
      exact ⟨Nat.lt_of_not_le wide, rfl⟩

theorem submit_long {r : Request} (long : r.buffer.length < r.length) (f : Fifo) :
    submit r f = (.error (refusal r), f) := if_pos long

theorem submit_fits {r : Request} (fits : r.length ≤ r.buffer.length) (f : Fifo) :
    submit r f = (.ok (), { f with queue := f.queue.push r }) := if_neg (Nat.not_lt.mpr fits)

/-- A completion changes what is counted, read or received, and nothing else. -/
theorem complete_state (r : Request) (f : Fifo) :
    ∃ source received,
      (complete r f).2 = { f with completed := f.completed + 1, source, received } := by
  rw [complete]
  split
  · exact ⟨f.source, f.received, rfl⟩
  · cases r.direction with
    | read => exact ⟨_, f.received, rfl⟩
    | write =>
        cases f.config.keepWrites with
        | true => exact ⟨f.source, _, rfl⟩
        | false => exact ⟨f.source, f.received, rfl⟩

theorem complete_slot (r : Request) (f : Fifo) : (complete r f).1.slot = r.slot := by
  rw [complete]
  split
  · rfl
  · cases r.direction <;> rfl

theorem complete_buffer {r : Request} {f : Fifo}
    (wide : Packet.statusLength < f.config.packetSize) (fits : r.length ≤ r.buffer.length) :
    (complete r f).1.buffer.length = r.buffer.length := by
  rw [complete]
  split
  · rfl
  · cases r.direction with
    | write => rfl
    | read =>
        obtain ⟨length, -, -⟩ := frame_read wide r.length f.source
        dsimp only
        rw [List.length_append, length, List.length_drop, Nat.add_sub_cancel' fits]

/-- How a transfer comes out before which so many were completed. -/
inductive Outcome (config : Config) (done : Nat) (r : Request) (c : Completion) : Prop
  | failed (late : ∃ n, config.faultAfter = some n ∧ n ≤ done) (status : c.status = .stall)
      (length : c.length = 0)
  | moved (early : ∀ n, config.faultAfter = some n → done < n) (status : c.status = .completed)
      (length : c.length = r.length)

theorem complete_outcome (r : Request) (f : Fifo) :
    Outcome f.config f.completed r (complete r f).1 := by
  rw [complete]
  split
  · rename_i faulty
    obtain ⟨n, after, less⟩ := (Option.any_eq_true _ _).mp faulty
    exact .failed ⟨n, after, Nat.le_of_lt_succ (of_decide_eq_true less)⟩ rfl rfl
  · rename_i faultless
    have early : ∀ n, f.config.faultAfter = some n → f.completed < n := by
      intro n after
      rw [Option.any_eq_true] at faultless
      apply Nat.lt_of_not_le
      intro late
      exact faultless ⟨n, after, decide_eq_true (Nat.lt_succ_of_le late)⟩
    cases r.direction with
    | read => exact .moved early rfl rfl
    | write => exact .moved early rfl rfl

theorem Outcome.not_cancelled {config : Config} {done : Nat} {r : Request} {c : Completion}
    (h : Outcome config done r c) : c.status ≠ .cancelled := by
  cases h with
  | failed _ status => rw [status]; nofun
  | moved _ status => rw [status]; nofun

/-- A service of the queue: requests leave it at the front and are completed in turn. -/
inductive Serves : Fifo → List (Request × Completion) → Fifo → Prop
  | done (f : Fifo) : Serves f [] f
  | next {f g : Fifo} {r : Request} {queue : Queue Request} {answers : List (Request × Completion)}
      (front : f.queue.toList = r :: queue.toList) (running : f.isStalled = false)
      (rest : Serves (complete r { f with queue }).2 answers g) :
      Serves f ((r, (complete r { f with queue }).1) :: answers) g

theorem serve_serves (budget : Nat) (f : Fifo) :
    ∃ answers, Serves f answers (serve budget f).2 ∧
      answers.map Prod.snd = (serve budget f).1 ∧ answers.length ≤ budget := by
  induction budget generalizing f with
  | zero => exact ⟨[], .done f, rfl, Nat.le_refl 0⟩
  | succ budget ih =>
      rw [serve]
      split
      · exact ⟨[], .done f, rfl, Nat.zero_le _⟩
      · rename_i running
        split
        · exact ⟨[], .done f, rfl, Nat.zero_le _⟩
        · rename_i r queue popped
          obtain ⟨answers, rest, same, within⟩ := ih (complete r { f with queue }).2
          refine ⟨(r, (complete r { f with queue }).1) :: answers, ?_, ?_, ?_⟩
          · exact .next (Queue.toList_of_pop? popped) (Bool.eq_false_iff.mpr running) rest
          · exact congrArg (_ :: ·) same
          · exact Nat.succ_le_succ within

section

variable {f g : Fifo} {answers : List (Request × Completion)}

theorem Serves.queue_eq (h : f.Serves answers g) :
    f.queue.toList = answers.map Prod.fst ++ g.queue.toList := by
  induction h with
  | done => rfl
  | @next f g r queue answers front running rest ih =>
      obtain ⟨source, received, after⟩ := complete_state r { f with queue }
      rw [front, List.map_cons, List.cons_append, ← ih, after]

/-- What a service leaves as it is. -/
theorem Serves.state (h : f.Serves answers g) :
    ∃ queue completed source received, g = { f with queue, completed, source, received } := by
  induction h with
  | done f => exact ⟨f.queue, f.completed, f.source, f.received, rfl⟩
  | @next f g r queue answers front running rest ih =>
      obtain ⟨source, received, after⟩ := complete_state r { f with queue }
      obtain ⟨queue', completed', source', received', state⟩ := ih
      rw [after] at state
      exact ⟨queue', completed', source', received', state⟩

theorem Serves.slots (h : f.Serves answers g) :
    answers.map (Completion.slot ∘ Prod.snd) = answers.map (Request.slot ∘ Prod.fst) := by
  induction h with
  | done => rfl
  | next front running rest ih => exact congrArg₂ List.cons (complete_slot _ _) ih

/-- What one wait does: the pairs of requests and completions, and the peripheral after it. -/
inductive Waited (f : Fifo) : List (Request × Completion) → Fifo → Prop
  | retrieved (some : f.cancelled ≠ []) :
      Waited f (f.cancelled.map fun r => (r, cancelledCompletion r)) { f with cancelled := [] }
  | served {g : Fifo} {answers : List (Request × Completion)} (none : f.cancelled = [])
      (streaming : f.mode = .syncFifo) (serves : f.Serves answers g)
      (within : ∀ n, f.config.batch = some n → answers.length ≤ n) : Waited f answers g
  | idle (none : f.cancelled = []) (resting : f.mode ≠ .syncFifo) : Waited f [] f

theorem wait_waited (f : Fifo) :
    ∃ answers, f.Waited answers f.wait.2 ∧ answers.map Prod.snd = f.wait.1 := by
  rw [wait]
  split
  · rename_i some
    exact ⟨_, .retrieved some, List.map_map⟩
  · rename_i none
    have none : f.cancelled = [] := not_not.mp none
    split
    · rename_i streaming
      obtain ⟨answers, serves, same, within⟩ := serve_serves (f.config.batch.getD f.queue.length) f
      refine ⟨answers, .served none streaming serves ?_, same⟩
      intro n batch
      rw [batch] at within
      exact within
    · rename_i resting
      exact ⟨[], .idle none resting, rfl⟩

theorem Waited.slots (h : f.Waited answers g) :
    answers.map (Completion.slot ∘ Prod.snd) = answers.map (Request.slot ∘ Prod.fst) := by
  cases h with
  | retrieved some => rw [List.map_map, List.map_map]; rfl
  | served none streaming serves within => exact serves.slots
  | idle none resting => rfl

/-- What a wait leaves as it is. -/
theorem Waited.state (h : f.Waited answers g) :
    ∃ queue cancelled completed source received,
      g = { f with queue, cancelled, completed, source, received } := by
  cases h with
  | retrieved some => exact ⟨f.queue, [], f.completed, f.source, f.received, rfl⟩
  | served none streaming serves within =>
      obtain ⟨queue, completed, source, received, state⟩ := serves.state
      exact ⟨queue, f.cancelled, completed, source, received, state⟩
  | idle none resting => exact ⟨f.queue, f.cancelled, f.completed, f.source, f.received, rfl⟩

end

end BulkStream.Peripheral.Fifo
