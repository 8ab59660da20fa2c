import BulkStream.Transfer

/-!
What a session needs from a transport. A transport is given by its state and these operations on it;
nothing is assumed about either, so a statement about sessions holds for every transport.
-/
namespace BulkStream

structure Transport (τ : Type) where
  /-- Size of a packet, its status bytes included. -/
  packetSize : τ → Nat
  setMode : Mode → τ → Except TransportError Unit × τ
  /-- Drop data that is pending in either direction. -/
  purge : τ → Except TransportError Unit × τ
  /-- Queue a transfer. On an error its buffer is lost. -/
  submit : Request → τ → Except TransportError Unit × τ
  /-- Wait at most so many milliseconds and hand over the transfers that finished. -/
  wait : Nat → τ → (WaitResult × List Completion) × τ
  /-- Ask for the end of every transfer in flight; each still comes back through `wait`. -/
  cancelAll : τ → τ

end BulkStream
