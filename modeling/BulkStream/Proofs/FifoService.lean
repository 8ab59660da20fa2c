import BulkStream.Proofs.FifoSteps

/-!
What the simulated peripheral does in one wait. Reads that complete carry the next bytes of the record
source, in the order in which they were queued. Writes are kept in that order too, up to the first
that fails; from there on all of them fail.
-/
namespace BulkStream

/-- Payload of a completion, where packets have this size. -/
def Completion.content (size : Nat) (c : Completion) : Bytes :=
  (Received.mk (c.buffer.take c.length) size).spans.flatten

def contents (size : Nat) (completions : List Completion) : Bytes :=
  (completions.map (Completion.content size)).flatten

theorem Completion.content_empty (size : Nat) {c : Completion} (h : c.length = 0) :
    c.content size = [] := by
  rw [content, h, List.take_zero, Received.spans_nil, List.flatten_nil]

theorem contents_cons (size : Nat) (c : Completion) (completions : List Completion) :
    contents size (c :: completions) = c.content size ++ contents size completions := by
  rw [contents, List.map_cons, List.flatten_cons, contents]

namespace Peripheral.Fifo

theorem submit_cases (r : Request) (f : Fifo) :
    (submit r f).2 = f ∧ r.buffer.length < r.length ∨
      submit r f = (.ok (), { f with queue := f.queue.push r }) := by
  rcases Nat.lt_or_ge r.buffer.length r.length with long | fits
  · exact .inl ⟨congrArg Prod.snd (submit_long long f), long⟩
  · exact .inr (submit_fits fits f)

/-- Whether the next transfer to complete fails. -/
def isFaulty (f : Fifo) : Bool := f.config.faultAfter.any (· < f.completed + 1)

section

variable {r : Request} {f : Fifo}

theorem complete_faulty (faulty : f.isFaulty = true) :
    complete r f = ({ slot := r.slot, buffer := r.buffer, length := 0, status := .stall },
      { f with completed := f.completed + 1 }) := by
  rw [complete]
  exact if_pos faulty

theorem complete_read (faultless : f.isFaulty = false) (read : r.direction = .read) :
    complete r f =
      ({ slot := r.slot
         buffer := (frame f.config.packetSize r.length f.source).1 ++ r.buffer.drop r.length
         length := r.length, status := .completed },
       { f with
          completed := f.completed + 1
          source := (frame f.config.packetSize r.length f.source).2 }) := by
  rw [complete]
  refine (if_neg (Bool.eq_false_iff.mp faultless)).trans ?_
  rw [read]

theorem complete_write (faultless : f.isFaulty = false) (write : r.direction = .write)
    (keep : f.config.keepWrites = true) :
    complete r f =
      ({ slot := r.slot, buffer := r.buffer, length := r.length, status := .completed },
       { f with
          completed := f.completed + 1
          received := f.received.push (r.buffer.take r.length) }) := by
  rw [complete]
  refine (if_neg (Bool.eq_false_iff.mp faultless)).trans ?_
  simp only [write, keep, if_true]

theorem complete_write_source (write : r.direction = .write) : (complete r f).2.source = f.source := by
  rw [complete]
  split
  · rfl
  · rw [write]
    cases f.config.keepWrites <;> rfl

end

theorem wait_config (f : Fifo) : f.wait.2.config = f.config := by
  obtain ⟨answers, waited, -⟩ := f.wait_waited
  obtain ⟨_, _, _, _, _, state⟩ := waited.state
  rw [state]

theorem wait_queue (f : Fifo) : ∀ r ∈ f.wait.2.queue.toList, r ∈ f.queue.toList := by
  obtain ⟨answers, waited, -⟩ := f.wait_waited
  generalize f.wait.2 = g at waited ⊢
  cases waited with
  | retrieved some => exact fun _ => id
  | served none streaming serves within =>
      intro r member
      rw [serves.queue_eq]
      exact List.mem_append_right _ member
  | idle none resting => exact fun _ => id

theorem wait_idle {f : Fifo} (idle : f.queue.toList = []) :
    f.wait.2.queue.toList = [] ∧ f.wait.2.received = f.received := by
  obtain ⟨answers, waited, -⟩ := f.wait_waited
  generalize f.wait.2 = g at waited ⊢
  cases waited with
  | retrieved some => exact ⟨idle, rfl⟩
  | served none streaming serves within =>
      cases serves with
      | done => exact ⟨idle, rfl⟩
      | next front => cases idle.symm.trans front
  | idle none resting => exact ⟨idle, rfl⟩

section

variable {pattern : Integrity.RecordFormat} {dropEvery : Option Nat} {bytes : Bytes}

def IsRead (size : Nat) (r : Request) : Prop := r.direction = .read ∧ size ∣ r.length

theorem complete_emitted {r : Request} {f : Fifo} (wide : Packet.statusLength < f.config.packetSize)
    (whole : 0 < recordSize pattern) (read : IsRead f.config.packetSize r)
    (h : f.source.Emitted pattern dropEvery bytes) :
    (complete r f).2.source.Emitted pattern dropEvery
      (bytes ++ (complete r f).1.content f.config.packetSize) := by
  cases faulty : f.isFaulty with
  | true =>
      rw [complete_faulty faulty, Completion.content_empty _ rfl, List.append_nil]
      exact h
  | false =>
      obtain ⟨length, emitted⟩ := frame_full wide whole read.2 h
      rw [complete_read faulty read.1, Completion.content]
      dsimp only
      rw [List.take_left' length]
      exact emitted

theorem Serves.emitted {f g : Fifo} {answers : List (Request × Completion)}
    (h : f.Serves answers g) (wide : Packet.statusLength < f.config.packetSize)
    (whole : 0 < recordSize pattern)
    (reads : ∀ r ∈ f.queue.toList, IsRead f.config.packetSize r)
    (emitted : f.source.Emitted pattern dropEvery bytes) :
    g.source.Emitted pattern dropEvery
      (bytes ++ contents f.config.packetSize (answers.map Prod.snd)) := by
  induction h generalizing bytes with
  | done => exact (List.append_nil bytes).symm ▸ emitted
  | @next f g r queue answers front running rest ih =>
      obtain ⟨source, received, after⟩ := complete_state r { f with queue }
      rw [front, List.forall_mem_cons] at reads
      have onward := complete_emitted (f := { f with queue }) wide whole reads.1 emitted
      rw [after] at ih onward
      rw [List.map_cons, contents_cons, ← List.append_assoc]
      exact ih wide reads.2 onward

/-- Whatever a wait hands over carries the next bytes of the source, in order. -/
theorem wait_emitted {f : Fifo} (wide : Packet.statusLength < f.config.packetSize)
    (whole : 0 < recordSize pattern)
    (reads : ∀ r ∈ f.queue.toList, IsRead f.config.packetSize r)
    (h : f.source.Emitted pattern dropEvery bytes) :
    f.wait.2.source.Emitted pattern dropEvery
      (bytes ++ contents f.config.packetSize f.wait.1) := by
  obtain ⟨answers, waited, same⟩ := f.wait_waited
  rw [← same]
  generalize f.wait.2 = g at waited ⊢
  cases waited with
  | retrieved some =>
      have nothing : contents f.config.packetSize (f.cancelled.map cancelledCompletion) = [] := by
        rw [contents, List.flatten_eq_nil_iff]
        intro content member
        obtain ⟨c, given, rfl⟩ := List.mem_map.mp member
        obtain ⟨r, -, rfl⟩ := List.mem_map.mp given
        exact Completion.content_empty _ rfl
      rw [List.map_map]
      change f.source.Emitted _ _ (bytes ++ contents _ (f.cancelled.map cancelledCompletion))
      rw [nothing, List.append_nil]
      exact h
  | served none streaming serves within => exact serves.emitted wide whole reads h
  | idle none resting => exact (List.append_nil bytes).symm ▸ h

end

def IsWrite (r : Request) : Prop := r.direction = .write ∧ r.length = r.buffer.length

/-- Of the writes that were queued, some in front were kept, those behind them failed, and the rest
are still queued. -/
structure Took (f : Fifo) (completions : List Completion) (g : Fifo) (kept lost : List Bytes) :
    Prop where
  queue : f.queue.toList.map Request.buffer = kept ++ lost ++ g.queue.toList.map Request.buffer
  written : g.written = f.written ++ kept.flatten
  faulty : f.isFaulty = true → g.isFaulty = true ∧ kept = []
  failed : lost ≠ [] → g.isFaulty = true ∧ ∃ c ∈ completions, c.status ≠ .completed

theorem Took.nothing {f g : Fifo} {completions : List Completion} (queue : g.queue = f.queue)
    (received : g.received = f.received) (faulty : g.isFaulty = f.isFaulty) :
    f.Took completions g [] [] := by
  refine ⟨?_, ?_, fun h => ⟨faulty.trans h, rfl⟩, fun h => absurd rfl h⟩
  · rw [queue]
    rfl
  · rw [Fifo.written, Fifo.written, received]
    exact (List.append_nil _).symm

theorem isFaulty_completed {f : Fifo} (h : f.isFaulty = true) :
    { f with completed := f.completed + 1 }.isFaulty = true := by
  rw [isFaulty, Option.any_eq_true] at h ⊢
  obtain ⟨n, after, less⟩ := h
  refine ⟨n, after, ?_⟩
  rw [decide_eq_true_eq] at less ⊢
  exact Nat.lt_succ_of_lt less

theorem Serves.took {f g : Fifo} {answers : List (Request × Completion)}
    (h : f.Serves answers g) (keep : f.config.keepWrites = true)
    (writes : ∀ r ∈ f.queue.toList, IsWrite r) :
    ∃ kept lost, f.Took (answers.map Prod.snd) g kept lost := by
  induction h with
  | done => exact ⟨[], [], .nothing rfl rfl rfl⟩
  | @next f g r queue answers front running rest ih =>
      rw [front, List.forall_mem_cons] at writes
      obtain ⟨⟨write, length⟩, others⟩ := writes
      cases faulty : f.isFaulty with
      -- Once a transfer has failed all later ones fail, so that nothing is kept behind this one.
      | true =>
          have fails : { f with queue }.isFaulty = true := faulty
          have after := isFaulty_completed fails
          rw [complete_faulty fails] at ih ⊢
          obtain ⟨kept, lost, took⟩ := ih keep others
          obtain ⟨stays, none⟩ := took.faulty after
          subst none
          refine ⟨[], r.buffer :: lost, ?_, took.written, fun _ => ⟨stays, rfl⟩, ?_⟩
          · rw [front]
            exact congrArg (r.buffer :: ·) took.queue
          · exact fun _ => ⟨stays, _, List.mem_cons_self, by simp⟩
      | false =>
          have succeeds : { f with queue }.isFaulty = false := faulty
          rw [complete_write succeeds write keep, length, List.take_length] at ih
          rw [complete_write succeeds write keep]
          obtain ⟨kept, lost, took⟩ := ih keep others
          refine ⟨r.buffer :: kept, lost, ?_, ?_, ?_, ?_⟩
          · rw [front]
            exact congrArg (r.buffer :: ·) took.queue
          · rw [took.written, written, Pieces.toBytes_push, List.append_assoc]
            rfl
          · intro impossible
            rw [faulty] at impossible
            cases impossible
          · intro some
            obtain ⟨stays, c, member, status⟩ := took.failed some
            exact ⟨stays, c, List.mem_cons_of_mem _ member, status⟩

theorem wait_took {f : Fifo} (keep : f.config.keepWrites = true)
    (writes : ∀ r ∈ f.queue.toList, IsWrite r) :
    ∃ kept lost, f.Took f.wait.1 f.wait.2 kept lost := by
  obtain ⟨answers, waited, same⟩ := f.wait_waited
  rw [← same]
  generalize f.wait.2 = g at waited ⊢
  cases waited with
  | retrieved some => exact ⟨[], [], .nothing rfl rfl rfl⟩
  | served none streaming serves within => exact serves.took keep writes
  | idle none resting => exact ⟨[], [], .nothing rfl rfl rfl⟩

end Peripheral.Fifo

end BulkStream
