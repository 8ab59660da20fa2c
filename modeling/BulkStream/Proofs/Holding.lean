import Mathlib.Data.Multiset.AddSub
import Mathlib.Data.Multiset.MapFold
import BulkStream.Proofs.FifoSteps

/-!
Transports that hold the requests they accept and hand back each of them at most once, in any order
and with any outcome. Nothing is said of when a request is handed back, or whether it ever is. The
simulated peripheral is one: it holds what is queued and what is cancelled.
-/
namespace BulkStream

/-- What a transport holds, and how its calls change that. -/
structure Transport.Holding {τ : Type} (t : Transport τ) where
  held : τ → Multiset Request
  submit_ok (request : Request) (state : τ) (accepted : (t.submit request state).1 = .ok ()) :
    held (t.submit request state).2 = request ::ₘ held state
  submit_error (request : Request) (state : τ) (source : TransportError)
    (refused : (t.submit request state).1 = .error source) :
    held (t.submit request state).2 = held state
  /-- A wait hands back some of what is held. -/
  wait (milliseconds : Nat) (state : τ) :
    ∃ back : Multiset Request, held state = held (t.wait milliseconds state).2 + back ∧
      ((t.wait milliseconds state).1.2.map Completion.slot : Multiset Nat) = back.map Request.slot
  setMode (mode : Mode) (state : τ) : held (t.setMode mode state).2 = held state
  purge (state : τ) : held (t.purge state).2 = held state
  cancelAll (state : τ) : held (t.cancelAll state) = held state

namespace Peripheral.Fifo

def held (f : Fifo) : List Request := f.cancelled ++ f.queue.toList

theorem pending_eq (f : Fifo) : f.pending = f.held.length := by
  rw [pending, held, List.length_append, Queue.length_toList, Nat.add_comm]

theorem Waited.held {f g : Fifo} {answers : List (Request × Completion)}
    (h : f.Waited answers g) :
    (f.held : Multiset Request) = g.held + (answers.map Prod.fst : List Request) := by
  cases h with
  | retrieved some =>
      rw [List.map_map]
      change (f.held : Multiset Request) = f.queue.toList + (f.cancelled.map id : List Request)
      rw [List.map_id, Fifo.held]
      exact Multiset.coe_eq_coe.mpr List.perm_append_comm
  | served none streaming serves within =>
      obtain ⟨queue, completed, source, received, rfl⟩ := serves.state
      rw [Fifo.held, serves.queue_eq, Fifo.held]
      refine Multiset.coe_eq_coe.mpr ?_
      rw [List.append_assoc]
      exact List.perm_append_comm.append_left f.cancelled
  | idle none resting => exact (Multiset.add_zero _).symm

theorem wait_back (f : Fifo) :
    ∃ back : List Request, (held f : Multiset Request) = held f.wait.2 + back ∧
      f.wait.1.map Completion.slot = back.map Request.slot := by
  obtain ⟨answers, waited, same⟩ := f.wait_waited
  refine ⟨answers.map Prod.fst, waited.held, ?_⟩
  rw [← same, List.map_map, List.map_map]
  exact waited.slots

theorem held_submit_ok {r : Request} {f : Fifo} (accepted : (submit r f).1 = .ok ()) :
    ((submit r f).2.held : Multiset Request) = r ::ₘ (f.held : Multiset Request) := by
  rcases Nat.lt_or_ge r.buffer.length r.length with long | fits
  · rw [submit_long long] at accepted
    contradiction
  · rw [submit_fits fits, held, held, Queue.toList_push, ← List.append_assoc]
    exact Multiset.coe_eq_coe.mpr (List.perm_append_singleton r _)

theorem held_submit_error {r : Request} {f : Fifo} {source : TransportError}
    (refused : (submit r f).1 = .error source) : (submit r f).2.held = f.held := by
  rcases Nat.lt_or_ge r.buffer.length r.length with long | fits
  · rw [submit_long long]
  · rw [submit_fits fits] at refused
    contradiction

theorem held_cancelAll (f : Fifo) : f.cancelAll.held = f.held := by
  rw [held, held, cancelAll, Queue.toList_empty, List.append_nil]

def holding : transport.Holding where
  held f := f.held
  submit_ok _ _ accepted := held_submit_ok accepted
  submit_error _ _ _ refused := congrArg _ (held_submit_error refused)
  wait _ f := by
    obtain ⟨back, split, slots⟩ := f.wait_back
    exact ⟨back, split, congrArg _ slots⟩
  setMode _ _ := rfl
  purge _ := rfl
  cancelAll f := congrArg _ f.held_cancelAll

end Peripheral.Fifo

end BulkStream
