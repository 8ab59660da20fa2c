import BulkStream.Proofs.Holding

/-!
Calls of the simulated peripheral as a transport, and histories of them. A call accepts a request, or
hands back completions, or does neither; a history gives what its calls give, one after the other.
-/
namespace BulkStream.Peripheral.Fifo

inductive Operation
  | submit (request : Request)
  | cancelAll
  | wait (milliseconds : Nat)
  | setMode (mode : Mode)
  | purge
deriving DecidableEq, Repr

namespace Operation

def after : Operation → Fifo → Fifo
  | .submit request, f => (transport.submit request f).2
  | .cancelAll, f => transport.cancelAll f
  | .wait milliseconds, f => (transport.wait milliseconds f).2
  | .setMode mode, f => (transport.setMode mode f).2
  | .purge, f => (transport.purge f).2

def accepted : Operation → Fifo → List Request
  | .submit request, f =>
      match (transport.submit request f).1 with
      | .ok () => [request]
      | .error _ => []
  | _, _ => []

def completions : Operation → Fifo → List Completion
  | .wait milliseconds, f => (transport.wait milliseconds f).1.2
  | _, _ => []

/-- Transfers that complete, each request with its completion: as many as come back of what is queued,
from the front. What was cancelled has left the queue before. -/
def served : Operation → Fifo → List (Request × Completion)
  | .wait milliseconds, f =>
      if f.cancelled = [] then f.queue.toList.zip (completions (.wait milliseconds) f) else []
  | _, _ => []

end Operation

/-- What a call does: the requests it accepts, the pairs it hands back, the peripheral after it. -/
inductive Called (f : Fifo) : Operation → List Request → List (Request × Completion) → Fifo → Prop
  | refused (r : Request) (long : r.buffer.length < r.length) : Called f (.submit r) [] [] f
  | accepted (r : Request) (fits : r.length ≤ r.buffer.length) :
      Called f (.submit r) [r] [] { f with queue := f.queue.push r }
  | cancelled : Called f .cancelAll [] [] f.cancelAll
  | waited (milliseconds : Nat) {answers : List (Request × Completion)} {g : Fifo}
      (waited : f.Waited answers g) : Called f (.wait milliseconds) [] answers g
  | moded (mode : Mode) : Called f (.setMode mode) [] [] (f.setMode mode)
  | purged : Called f .purge [] [] { f with flushes := f.flushes + 1 }

theorem Operation.called (call : Operation) (f : Fifo) :
    ∃ answers, f.Called call (call.accepted f) answers (call.after f) ∧
      answers.map Prod.snd = call.completions f := by
  cases call with
  | submit r =>
      refine ⟨[], ?_, rfl⟩
      rw [Operation.accepted, Operation.after]
      change f.Called _ (match (Fifo.submit r f).1 with | .ok () => _ | .error _ => _) _
        (Fifo.submit r f).2
      rcases Nat.lt_or_ge r.buffer.length r.length with long | fits
      · rw [submit_long long]
        exact .refused r long
      · rw [submit_fits fits]
        exact .accepted r fits
  | cancelAll => exact ⟨[], .cancelled, rfl⟩
  | wait milliseconds =>
      obtain ⟨answers, waited, same⟩ := f.wait_waited
      exact ⟨answers, .waited milliseconds waited, same⟩
  | setMode mode => exact ⟨[], .moded mode, rfl⟩
  | purge => exact ⟨[], .purged, rfl⟩

theorem zip_answers (answers : List (Request × Completion)) (rest : List Request) :
    (answers.map Prod.fst ++ rest).zip (answers.map Prod.snd) = answers := by
  induction answers with
  | nil => exact List.zip_nil_right
  | cons answer answers ih => exact congrArg (answer :: ·) ih

/-- The peripheral after a history of calls. -/
def after : List Operation → Fifo → Fifo
  | [], f => f
  | call :: calls, f => after calls (call.after f)

/-- What the calls of a history give, one after the other. -/
def along {α : Type} (give : Operation → Fifo → List α) : List Operation → Fifo → List α
  | [], _ => []
  | call :: calls, f => give call f ++ along give calls (call.after f)

theorem after_concat (calls : List Operation) (call : Operation) (f : Fifo) :
    after (calls ++ [call]) f = call.after (after calls f) := by
  induction calls generalizing f with
  | nil => rfl
  | cons first calls ih => exact ih (first.after f)

theorem along_concat {α : Type} (give : Operation → Fifo → List α) (calls : List Operation)
    (call : Operation) (f : Fifo) :
    along give (calls ++ [call]) f = along give calls f ++ give call (after calls f) := by
  induction calls generalizing f with
  | nil => exact List.append_nil _
  | cons first calls ih =>
      rw [List.cons_append, along, ih, ← List.append_assoc]
      rfl

end BulkStream.Peripheral.Fifo
